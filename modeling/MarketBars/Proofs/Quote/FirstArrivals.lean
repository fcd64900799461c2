import MarketBars.Proofs.Calendar.Millis
import MarketBars.Proofs.Quote.Paging
import MarketBars.Proofs.Quote.Received

/-!
# The first row of a timestamp counts

The rows of a request may overlap from page to page, come in any order and carry different fields. The
table of a call depends on the list of all rows in order of arrival, and not on how it is cut into
pages: of the rows with one timestamp the first to arrive gives the cells, even where it has no value
and a later one has.
-/

namespace MarketBars

namespace KlineRow

/-- A table holds the first rows of a list, by the fields of a request, as far as the milliseconds of
the rows lie inside some bounds. -/
structure FirstArrivals (fields : List String) (inside : Int → Prop) (rows : List KlineRow)
    (millis : List Int) (t : Table) : Prop where
  ascending : millis.Pairwise (· < ·)
  mem_millis : ∀ ms, ms ∈ millis ↔ (∃ row ∈ rows, row.time.millis = ms) ∧ inside ms
  stamps_eq : t.rows.map Row.stamp = millis.map Cell.moment
  /-- There is a column for each requested field that some row carries, in order of request. -/
  names_eq : t.names = distinctBy id (fields.filter fun field => rows.any (carries · field))
  /-- A cell has the value of the first row with its timestamp. -/
  values_eq : ∀ field ∈ t.names, t.values? field = some (millis.map fun ms =>
    (rows.find? fun row => row.time.millis = ms).bind fun row =>
      (row.value field).filter fun x => !x.isNaN)

section Arranged

variable {start stop : Instant} {rows : List KlineRow}

theorem arranged_ascending : (arranged start stop rows).Pairwise
    fun a b => a.time.millis < b.time.millis := by
  have hsorted := pairwise_mergeSort_distinctBy (fun row : KlineRow => row.stamp.rank?)
    Cell.rankLE Cell.rankLE_trans Cell.rankLE_total rows
  refine (hsorted.filter _).imp ?_
  rintro a b ⟨hle, hne⟩
  have hmillis : a.time.millis ≤ b.time.millis := of_decide_eq_true hle
  have hmillis' : a.time.millis ≠ b.time.millis := fun h => hne (congrArg some h)
  omega

theorem isWithin_iff {row : KlineRow} :
    (row.toRow []).isWithin start stop = true ↔
      start.millis ≤ row.time.millis ∧ row.time.millis ≤ stop.millis := by
  simp [toRow, stamp, Row.isWithin, Cell.millis?]

theorem mem_millis_arranged {ms : Int} : ms ∈ (arranged start stop rows).map (fun row => row.time.millis) ↔
    (∃ row ∈ rows, row.time.millis = ms) ∧ start.millis ≤ ms ∧ ms ≤ stop.millis := by
  have hkeys : some ms ∈ (distinctBy (fun row => row.stamp.rank?) rows).map
      (fun row => row.stamp.rank?) ↔ ∃ row ∈ rows, row.time.millis = ms := by
    rw [mem_map_distinctBy, List.mem_map]
    simp only [stamp, Cell.rank?, Option.some.injEq]
  rw [← hkeys, List.mem_map, List.mem_map]
  constructor
  · rintro ⟨row, hrow, rfl⟩
    exact ⟨⟨row, mem_of_mem_arranged hrow, rfl⟩, isWithin_iff.mp (List.mem_filter.mp hrow).2⟩
  · rintro ⟨⟨row, hrow, hms⟩, hwithin⟩
    cases Option.some.inj hms
    exact ⟨row, List.mem_filter.mpr ⟨List.mem_mergeSort.mpr hrow, isWithin_iff.mpr hwithin⟩, rfl⟩

/-- An arranged row is the first to arrive of its timestamp. -/
theorem find?_of_mem_arranged {row : KlineRow} (h : row ∈ arranged start stop rows) :
    rows.find? (fun other => other.time.millis = row.time.millis) = some row := by
  rw [← find?_of_mem_distinctBy (fun row : KlineRow => row.stamp.rank?) (mem_of_mem_arranged h)]
  rfl

end Arranged

/-- Of the rows of a table only those inside the window are left, but every column. -/
theorem exists_tableWithin {fields : List String} {rows : List KlineRow} (window : Window)
    (hstamp : Table.stampName ∉ columnNames rows fields) :
    ∃ t, tableWithin fields window rows = .ok t ∧ t.names = columnNames rows fields ∧
      t.rows = (arranged window.start window.stop rows).map (toRow (columnNames rows fields)) := by
  obtain ⟨t, ht, hnames, hrows⟩ := exists_table_columns hstamp
  refine ⟨t.dedupFirst.within window.start window.stop, ?_, hnames, ?_⟩
  · rw [tableWithin, ht]
    rfl
  · exact rows_within_dedupFirst hrows window.start window.stop

/-- Received rows make a table, which holds the first of them by milliseconds. -/
theorem exists_firstArrivals {fields : List String} (hstamp : Table.stampName ∉ fields)
    (window : Window) (rows : List KlineRow) :
    ∃ t millis, tableWithin fields window rows = .ok t ∧
      FirstArrivals fields window.Counts rows millis t := by
  obtain ⟨t, ht, hnames, hrows⟩ := @exists_tableWithin fields rows window
    fun hcolumn => hstamp (mem_columnNames.mp hcolumn).1
  rw [← hnames] at hrows
  refine ⟨t, (arranged window.start window.stop rows).map fun row => row.time.millis, ht,
    List.pairwise_map.mpr arranged_ascending, fun ms => mem_millis_arranged, ?_, hnames, ?_⟩
  · rw [hrows, List.map_map, List.map_map]
    rfl
  · intro field hfield
    have hname := Table.ne_stampName hfield
    have hlt := List.idxOf_lt_length_of_mem hfield
    rw [Table.values?, Table.hasName_of_ne hname, if_pos (decide_eq_true hfield), hrows,
      List.map_map, List.map_map]
    refine congrArg some (List.map_congr_left fun row hrow => ?_)
    have hcell : (row.toRow t.names).cellAt (t.names.idxOf field) = Cell.ofValue (row.value field) := by
      simp [toRow, Row.cellAt, hlt, List.getElem_idxOf]
    rw [Function.comp_apply, Function.comp_apply, Table.cellNamed_of_ne hname,
      find?_of_mem_arranged hrow, Option.bind_some, ← Cell.number?_ofValue, ← hcell]

theorem millis_eq_of_stamps {fields : List String} {inside inside' : Int → Prop}
    {rows : List KlineRow} {millis millis' : List Int} {t : Table}
    (h : FirstArrivals fields inside rows millis t)
    (h' : FirstArrivals fields inside' rows millis' t) : millis = millis' :=
  (List.map_inj_right fun _ _ => Cell.moment.inj).mp (h.stamps_eq.symm.trans h'.stamps_eq)

/-- The table of any rows holds the first of those inside a window exactly when the bounds of the window
lose nothing in milliseconds. -/
theorem forall_firstArrivals_iff {fields : List String} (hstamp : Table.stampName ∉ fields)
    (window : Window) :
    (∀ rows, ∃ t millis, tableWithin fields window rows = .ok t ∧
      FirstArrivals fields window.Covers rows millis t) ↔ window.CountsExactly := by
  rw [Window.countsExactly_iff]
  constructor
  · intro h u
    -- A single row that is stamped with the instant shows whether it is inside.
    obtain ⟨t, millis, ht, hcovers⟩ := h [⟨u, []⟩]
    obtain ⟨t', millis', ht', hcounts⟩ := exists_firstArrivals hstamp window [⟨u, []⟩]
    cases ht.symm.trans ht'
    obtain rfl := millis_eq_of_stamps hcovers hcounts
    have hiff := (hcounts.mem_millis u.millis).symm.trans (hcovers.mem_millis u.millis)
    simpa using hiff
  · intro h rows
    obtain ⟨t, millis, ht, hcounts⟩ := exists_firstArrivals hstamp window rows
    refine ⟨t, millis, ht, hcounts.ascending, fun ms => ?_, hcounts.stamps_eq, hcounts.names_eq,
      hcounts.values_eq⟩
    rw [hcounts.mem_millis]
    refine and_congr_right ?_
    rintro ⟨row, -, rfl⟩
    exact h row.time

end KlineRow

namespace QuoteSource

variable {σ ι : Type} (source : QuoteSource σ ι)

/-- A half of a millisecond after the new year. -/
def lateStart : Instant :=
  ⟨.newYear, { TimeOfDay.midnight with nano := 500000, nano_lt := by decide }⟩

/-- A row that is stamped before that, within the same millisecond. -/
def earlyRow : KlineRow :=
  ⟨⟨.newYear, { TimeOfDay.midnight with nano := 200000, nano_lt := by decide }⟩,
    [("close", some (.ofInt 10))]⟩

/-- A call for the rest of the first of January. -/
def lateCall : FetchCall :=
  ⟨.stock "A", ["close"], ⟨lateStart, ⟨.newYear, .lastSecond⟩, false⟩, .daily⟩

/-- A row from before a window is kept when it falls into the millisecond in which the window begins. -/
theorem early_row_kept :
    earlyRow.time < lateStart ∧
      ¬ ∃ t millis, ((PageScript.source none).fetcher () 10 "broker" lateCall
          [("A", [.ok ⟨[earlyRow], none⟩])]).result = .ok t ∧
        KlineRow.FirstArrivals lateCall.fields lateCall.window.Covers [earlyRow] millis t := by
  refine ⟨by decide, ?_⟩
  rintro ⟨t, millis, ht, hcovers⟩
  obtain ⟨t', millis', ht', hcounts⟩ :=
    @KlineRow.exists_firstArrivals lateCall.fields (by decide) lateCall.window [earlyRow]
  have hresult : ((PageScript.source none).fetcher () 10 "broker" lateCall
      [("A", [.ok ⟨[earlyRow], none⟩])]).result =
        KlineRow.tableWithin lateCall.fields lateCall.window [earlyRow] := rfl
  cases (ht.symm.trans hresult).trans ht'
  obtain rfl := KlineRow.millis_eq_of_stamps hcovers hcounts
  have hmem := (hcounts.mem_millis earlyRow.time.millis).mpr
    ⟨⟨_, List.mem_singleton_self _, rfl⟩, by decide, by decide⟩
  have hcovered := Window.covers_iff.mp ((hcovers.mem_millis _).mp hmem).2
  exact absurd hcovered.1 (by decide)

/-- The table of a call is that of all the rows received for it, in order of arrival, whatever the pages
are that they came in. It holds the first row of every timestamp, by milliseconds; this is the first row
inside the window exactly when the bounds of the window lose nothing in milliseconds. -/
theorem fetcher_first_arrivals {call : FetchCall} {period : Period}
    (hperiod : Period.ofFrequency? call.frequency = some period)
    (hstamp : Table.stampName ∉ call.fields) (conn : ι) (limit : Nat) (name : String) (s : σ) :
    (∃ log, (source.recorded.fetcher conn limit name call (s, [])).state.2 = log ∧
      ((∃ e, log.map PageExchange.answer = [.error e] ∧
          (source.fetcher conn limit name call s).result = .error e) ∨
        (source.fetcher conn limit name call s).result =
          KlineRow.tableWithin call.fields call.window (receivedRows log))) ∧
    (∀ rows, ∃ t millis, KlineRow.tableWithin call.fields call.window rows = .ok t ∧
      KlineRow.FirstArrivals call.fields call.window.Counts rows millis t) ∧
    ((∀ rows, ∃ t millis, KlineRow.tableWithin call.fields call.window rows = .ok t ∧
      KlineRow.FirstArrivals call.fields call.window.Covers rows millis t) ↔
        call.window.CountsExactly) := by
  refine ⟨?_, KlineRow.exists_firstArrivals hstamp call.window,
    KlineRow.forall_firstArrivals_iff hstamp call.window⟩
  obtain ⟨log, pages, final, hfollows, hlog, hok, herror⟩ :=
    source.exists_pages conn (firstRequest limit call period) s []
  refine ⟨log, ?_, ?_⟩
  · simp only [fetcher, hperiod, hlog, List.nil_append]
  · have hrows : ∀ {rows}, (source.rows conn (firstRequest limit call period) s).result = .ok rows →
        (source.fetcher conn limit name call s).result =
          KlineRow.tableWithin call.fields call.window rows := by
      intro rows hresult
      simp only [fetcher, hperiod, hresult]
      rfl
    cases final with
    | ok last => exact Or.inr (hrows (hok last rfl).2)
    | error e =>
      by_cases hpages : pages = []
      · refine Or.inl ⟨e, by rw [hfollows.answers, hpages]; rfl, ?_⟩
        simp only [fetcher, hperiod, ((herror e rfl).1 hpages).2]
        rfl
      · exact Or.inr (hrows ((herror e rfl).2 hpages).2)

/-- Two pages that overlap: the first row of the second of January has no closing price, and a later
one has. -/
def overlappingScript : PageScript :=
  [("A", [.ok ⟨[⟨.startOf .afterNewYear, [("close", none)]⟩,
      ⟨.startOf .newYear, [("close", some (.ofInt 10))]⟩], some "second"⟩,
    .ok ⟨[⟨.startOf .afterNewYear, [("close", some (.ofInt 11))]⟩], none⟩])]

/-- The first row of a day has no price, and so has the table. -/
theorem fetcher_first_arrivals_overlapping :
    Period.ofFrequency? closeCall.frequency = some .day ∧ Table.stampName ∉ closeCall.fields ∧
      ∃ t, ((PageScript.source none).fetcher () 2 "broker" closeCall overlappingScript).result = .ok t ∧
        t.rows.map Row.stamp = [Cell.moment (Instant.startOf .newYear).millis,
          .moment (Instant.startOf .afterNewYear).millis] ∧
        t.values? "close" = some [some (.ofInt 10), none] := by
  have hperiod : Period.ofFrequency? closeCall.frequency = some .day := rfl
  have hstamp : Table.stampName ∉ closeCall.fields := by decide
  obtain ⟨⟨log, hlog, hresult⟩, -, hexact⟩ := fetcher_first_arrivals (PageScript.source none) hperiod
    hstamp () 2 "broker" overlappingScript
  have hpages : log.map PageExchange.answer = [.ok ⟨[⟨.startOf .afterNewYear, [("close", none)]⟩,
      ⟨.startOf .newYear, [("close", some (.ofInt 10))]⟩], some "second"⟩,
      .ok ⟨[⟨.startOf .afterNewYear, [("close", some (.ofInt 11))]⟩], none⟩] := by
    rw [← hlog, fetcher, hperiod]
    dsimp only
    rw [rows_of_next rfl rfl, rowsFrom_of_last rfl rfl]
    rfl
  obtain ⟨t, millis, ht, hfirst⟩ := hexact.mpr (by decide) (receivedRows log)
  rcases hresult with ⟨e, he, -⟩ | hresult
  · rw [hpages] at he
    cases he
  have hrows : receivedRows log = [⟨.startOf .afterNewYear, [("close", none)]⟩,
      ⟨.startOf .newYear, [("close", some (.ofInt 10))]⟩,
      ⟨.startOf .afterNewYear, [("close", some (.ofInt 11))]⟩] := by
    rw [receivedRows, hpages]
    rfl
  rw [hrows] at hfirst
  have hmillis : millis = [(Instant.startOf .newYear).millis, (Instant.startOf .afterNewYear).millis] := by
    refine eq_of_ascending (fun _ _ h h' => Int.lt_asymm h h') hfirst.ascending (by decide) fun ms => ?_
    rw [hfirst.mem_millis, Window.covers_iff]
    constructor
    · rintro ⟨⟨row, hrow, rfl⟩, -⟩
      simp only [List.mem_cons, List.not_mem_nil, or_false] at hrow ⊢
      rcases hrow with rfl | rfl | rfl
      · exact Or.inr rfl
      · exact Or.inl rfl
      · exact Or.inr rfl
    · intro hms
      simp only [List.mem_cons, List.not_mem_nil, or_false] at hms
      rcases hms with rfl | rfl
      · exact ⟨⟨_, List.mem_cons_of_mem _ List.mem_cons_self, rfl⟩, by decide⟩
      · exact ⟨⟨_, List.mem_cons_self, rfl⟩, by decide⟩
  refine ⟨hperiod, hstamp, t, hresult.trans ht, ?_, ?_⟩
  · rw [hfirst.stamps_eq, hmillis]
    rfl
  · rw [hfirst.values_eq "close" ?_, hmillis]
    · decide
    · rw [hfirst.names_eq]
      decide

end QuoteSource

end MarketBars
