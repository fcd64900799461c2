import MarketBars.Proofs.Pipeline.Contract
import MarketBars.Proofs.Pipeline.Pointwise

/-!
# Missing fields and the cells under them

A plan notes the requested fields that a table lacks by the columns of the table, and it fills the cells of
its answer by the names under which the table can be read. The timestamps can be read by their reserved
name, but they are no column. A field that is noted as missing is therefore blank in the answer, unless it
goes by that name: then the answer shows the timestamps in the very place of which the note says that
nothing is there.
-/

namespace MarketBars

theorem Binary64.isNaN_of_truncate? {x : Binary64} {i : Int} (h : x.truncate? = some i) :
    x.isNaN = false := by
  cases hnan : x.isNaN with
  | false => rfl
  | true =>
    have hread : x.read = .nan := if_pos (of_decide_eq_true hnan)
    simp [truncate?, hread] at h

/-- What can be read as a time can be read as a number. -/
theorem Cell.isSome_number? {c : Cell} {ms : Int} (h : c.millis? = some ms) : c.number?.isSome := by
  cases c with
  | absent => cases h
  | number x => simp [number?, Binary64.isNaN_of_truncate? h]
  | moment ms' => rfl

/-- The timestamps of a table show as numbers on every one of its dates. -/
theorem Table.isSome_valueAt_stampName {t : Table} {r : Row} (hr : r ∈ t.rows) {date : Instant}
    (hdate : r.instant? = some date) : (Cube.valueAt t date stampName).isSome := by
  have hname : t.hasName stampName = true := by simp [hasName]
  have hrow : (Cube.lastRowAt t date).isSome := by
    rw [Cube.lastRowAt, List.find?_isSome]
    exact ⟨r, List.mem_reverse.mpr hr, decide_eq_true hdate⟩
  obtain ⟨last, hlast⟩ := Option.isSome_iff_exists.mp hrow
  have hstamp : last.instant? = some date := by simpa using List.find?_some hlast
  obtain ⟨ms, hms, -⟩ := Option.bind_eq_some_iff.mp hstamp
  rw [Cube.valueAt, if_pos hname, hlast, Option.bind_some, cellNamed, if_pos rfl]
  exact Cell.isSome_number? hms

/-- The same source, which records nothing of its own. -/
def Fetcher.silent {σ : Type} (fetch : Fetcher σ) : Fetcher σ := fun call s =>
  { fetch call s with diagnostics := [] }

/-- Every cell of a collapsed cube that is labelled with a symbol and a field is without a value. A flagged
axis carries its first label. -/
def Cube.LeavesBlank (c : Cube) (flags : SqueezeFlags) (symbol field : String) : Prop :=
  ∀ d t f : Nat,
    (if flags.ticker then c.tickers.head? else c.tickers[t]?).map Ticker.symbol = some symbol →
      (if flags.field then c.fields.head? else c.fields[f]?) = some field →
        (c.squeeze flags).cell d t f = none

/-- A panel has no value under labels of which its tables say nothing. -/
theorem Cube.leavesBlank_panel {dates : List Instant} {value : Instant → Ticker → String → Value}
    {tickers : List Ticker} {fields : List String} {symbol field : String}
    (h : ∀ date ticker, ticker.symbol = symbol → value date ticker field = none)
    (flags : SqueezeFlags) : (panel dates value tickers fields fields).LeavesBlank flags symbol field := by
  intro d t f hticker hfield
  change (if flags.ticker then tickers.head? else tickers[t]?).map Ticker.symbol = some symbol at hticker
  change (if flags.field then fields.head? else fields[f]?) = some field at hfield
  obtain ⟨ticker, hlabel, hsymbol⟩ := Option.map_eq_some_iff.mp hticker
  rw [(shows_panel dates value tickers fields flags).cell_eq, hlabel, hfield]
  simp [h _ ticker hsymbol]

/-- A value for requested labels on one of the dates is in the panel, as long as all axes are kept. -/
theorem Cube.not_leavesBlank_panel {dates : List Instant} {value : Instant → Ticker → String → Value}
    {tickers : List Ticker} {fields : List String} {field : String} {date : Instant} {ticker : Ticker}
    (hdate : date ∈ dates) (hticker : ticker ∈ tickers) (hfield : field ∈ fields)
    (hvalue : (value date ticker field).isSome) :
    ¬ (panel dates value tickers fields fields).LeavesBlank ⟨false, false, false⟩ ticker.symbol field := by
  have hshown : date ∈ shownDates dates value tickers fields := by
    rw [shownDates, List.mem_filter, List.any_eq_true]
    exact ⟨hdate, ticker, hticker, List.any_eq_true.mpr ⟨field, hfield, hvalue⟩⟩
  obtain ⟨d, hd⟩ := List.getElem?_of_mem hshown
  obtain ⟨t, ht⟩ := List.getElem?_of_mem hticker
  obtain ⟨f, hf⟩ := List.getElem?_of_mem hfield
  intro hblank
  have hcell := hblank d t f (congrArg (Option.map Ticker.symbol) ht) hf
  rw [(shows_panel dates value tickers fields _).cell_eq] at hcell
  simp only [Bool.false_eq_true, if_false, hd, ht, hf, Option.bind_some] at hcell
  simp [hcell] at hvalue

namespace Plan

variable {σ : Type} {fetch : Fetcher σ} {plan : Plan} {tickers : List Ticker} {s : σ}

/-- What is recorded with a silent source is recorded with the source itself, between its own notes. -/
theorem silent_diagnostics_sublist (fetch : Fetcher σ) (plan : Plan) (s : σ) :
    (plan.run fetch.silent s).diagnostics.Sublist (plan.run fetch s).diagnostics := by
  have hfrom : ∀ tickers s, (plan.gatherFrom fetch.silent tickers s).diagnostics.Sublist
      (plan.gatherFrom fetch tickers s).diagnostics := by
    intro tickers
    induction tickers with
    | nil => exact fun s => List.Sublist.refl _
    | cons ticker rest ih =>
      intro s
      have hrest := ih (fetch (plan.call ticker) s).state
      simp only [gatherFrom, Fetcher.silent]
      cases (fetch (plan.call ticker) s).result with
      | error e =>
        dsimp only
        split
        · exact (hrest.cons_cons _).trans (List.sublist_append_right _ _)
        · exact List.nil_sublist _
      | ok table =>
        exact ((List.sublist_append_right _ _).append hrest)
  cases hwindow : plan.window.isEmpty with
  | true => simp [run_of_isEmpty hwindow]
  | false =>
    simp only [run_of_not_isEmpty hwindow]
    exact hfrom _ s

/-- A plan notes fields as missing because a table with rows lacks them. -/
theorem exists_reply_of_missingFields {symbol : String} {names : List String}
    (h : .missingFields symbol names ∈ (plan.gatherFrom fetch.silent tickers s).diagnostics) :
    ∃ ticker table, (ticker, .ok table) ∈ plan.replies fetch tickers s ∧ ticker.symbol = symbol ∧
      table.LacksSome plan.fields ∧ names = table.missing plan.fields := by
  induction tickers generalizing s with
  | nil => cases h
  | cons ticker rest ih =>
    have hlater : .missingFields symbol names ∈
        (plan.gatherFrom fetch.silent rest (fetch (plan.call ticker) s).state).diagnostics →
        ∃ t table, (t, .ok table) ∈ plan.replies fetch (ticker :: rest) s ∧ t.symbol = symbol ∧
          table.LacksSome plan.fields ∧ names = table.missing plan.fields := by
      intro hrest
      obtain ⟨t, table, hmem, hlacks⟩ := ih hrest
      exact ⟨t, table, List.mem_cons_of_mem _ hmem, hlacks⟩
    simp only [gatherFrom, Fetcher.silent] at h hlater
    cases hresult : (fetch (plan.call ticker) s).result with
    | error e =>
      simp only [hresult] at h
      split at h
      · exact hlater (by simpa using h)
      · cases h
    | ok table =>
      simp only [hresult, List.nil_append, List.mem_append] at h
      rcases h with hnote | hrest
      · refine ⟨ticker, table, ?_, ?_⟩
        · simp [replies, hresult]
        · unfold missingNote at hnote
          split at hnote
          · cases hnote
          · rename_i hlacks
            obtain ⟨rfl, rfl⟩ := Diagnostic.missingFields.inj (List.mem_singleton.mp hnote)
            exact ⟨rfl, Table.lacksSome_iff.mpr (Bool.eq_false_iff.mpr hlacks), rfl⟩
      · exact hlater hrest

theorem replyFor_of_mem {replies : List (Ticker × Except DataError Table)}
    (hsymbols : (replies.map fun reply => reply.1.symbol).Nodup)
    {reply : Ticker × Except DataError Table} (hmem : reply ∈ replies) {ticker : Ticker}
    (hticker : ticker.symbol = reply.1.symbol) : replyFor replies ticker = some reply := by
  have hfind := find?_of_mem_of_nodup (fun reply : Ticker × Except DataError Table => reply.1.symbol)
    hsymbols hmem
  rw [← hticker] at hfind
  exact hfind

/-- The cells of a ticker are filled from the reply under its symbol. -/
theorem lookup_of_mem_replies {ticker : Ticker} {table : Table}
    (hmem : (ticker, .ok table) ∈ plan.replies fetch (distinctTickers plan.tickers) s) {field : String}
    (hfield : field ∈ plan.fields) (date : Instant) {u : Ticker} (hu : u.symbol = ticker.symbol) :
    Cube.lookup ((plan.replies fetch (distinctTickers plan.tickers) s).filterMap plan.kept) date u field =
      Cube.valueAt table date field := by
  have hsymbols := nodup_symbols_replies fetch plan s
  rw [lookup_filterMap_kept plan hsymbols hfield, replyFor_of_mem hsymbols hmem hu]
  rfl

theorem exists_date_of_lacksSome {stamps : List (List Instant)} {ticker : Ticker} {table : Table}
    (hmem : (ticker, .ok table) ∈ plan.replies fetch tickers s)
    (hstamps : Cube.stampsOf ((plan.replies fetch tickers s).filterMap plan.kept) = .ok stamps)
    (hlacks : table.LacksSome plan.fields) : ∃ r ∈ table.rows, ∃ date, r.instant? = some date := by
  have hkept : (ticker, table.project plan.fields) ∈
      (plan.replies fetch tickers s).filterMap plan.kept := List.mem_filterMap.mpr ⟨_, hmem, rfl⟩
  obtain ⟨ts, hts⟩ := Cube.exists_stamps_of_mem hstamps hkept
  rw [Table.stamps_project, Table.stamps_eq_ok_iff] at hts
  obtain ⟨r, hr⟩ := List.exists_mem_of_ne_nil _ hlacks.1
  have hinstant : r.instant? ∈ ts.map some := hts ▸ List.mem_map_of_mem hr
  obtain ⟨date, -, hdate⟩ := List.mem_map.mp hinstant
  exact ⟨r, hr, date, hdate.symm⟩

/-- A field that a plan notes as missing for a symbol has no values under it, neither in the cube of all
axes nor after some are collapsed. The one exception is the reserved name of the timestamps, which the cube
always has a value for. -/
theorem missing_field_blank_iff {history : History} (h : (plan.run fetch s).result = .ok history) :
    (plan.run fetch.silent s).diagnostics.Sublist (plan.run fetch s).diagnostics ∧
    ∃ cube, (plan.unsqueezed.run fetch s).result = .ok (.cube cube) ∧
      history = cube.squeeze plan.flags ∧ cube.tickers = plan.tickers ∧ cube.fields = plan.fields ∧
      ∀ symbol names, .missingFields symbol names ∈ (plan.run fetch.silent s).diagnostics →
        ∀ field ∈ names,
          (cube.LeavesBlank ⟨false, false, false⟩ symbol field ↔ field ≠ Table.stampName) ∧
          (field ≠ Table.stampName → cube.LeavesBlank plan.flags symbol field) := by
  obtain ⟨tables, stamps, hgather, hstamps, hhistory, hcube⟩ := exists_cube h
  refine ⟨silent_diagnostics_sublist fetch plan s, _, hcube, hhistory, rfl, rfl, ?_⟩
  intro symbol names hnote field hfield
  cases hwindow : plan.window.isEmpty with
  | true =>
    rw [run_of_isEmpty hwindow] at hnote
    cases hnote
  | false =>
    rw [run_of_not_isEmpty hwindow] at hnote
    obtain ⟨ticker, table, hmem, rfl, hlacks, rfl⟩ := exists_reply_of_missingFields hnote
    obtain ⟨hrequested, hcolumn⟩ := Table.mem_missing.mp hfield
    obtain rfl := settled_eq_ok ((gather_eq_settled hwindow).symm.trans hgather)
    -- A name that is no column has values only if it is the name of the timestamps.
    have hblank : field ≠ Table.stampName → ∀ date u, u.symbol = ticker.symbol →
        Cube.lookup ((plan.replies fetch (distinctTickers plan.tickers) s).filterMap plan.kept) date u
          field = none := by
      intro hname date u hu
      rw [lookup_of_mem_replies hmem hrequested date hu]
      exact Table.valueAt_of_not_mem hcolumn hname date
    refine ⟨⟨?_, fun hname => Cube.leavesBlank_panel (hblank hname) _⟩,
      fun hname => Cube.leavesBlank_panel (hblank hname) _⟩
    rintro hleaves rfl
    obtain ⟨r, hr, date, hdate⟩ := exists_date_of_lacksSome hmem hstamps hlacks
    have hvalue := Table.isSome_valueAt_stampName hr hdate
    rw [← lookup_of_mem_replies hmem hrequested date rfl] at hvalue
    have hticker : ticker ∈ plan.tickers := by
      have hfst : ticker ∈ distinctTickers plan.tickers := by
        rw [← map_fst_replies fetch plan (distinctTickers plan.tickers) s]
        exact List.mem_map_of_mem hmem
      exact (distinctAfter_sublist _ _ _).subset hfst
    have hshown : date ∈ Cube.sortedInstants stamps.flatten := by
      rw [Cube.mem_sortedInstants]
      exact mem_flatten_of_lookup hstamps (Option.isSome_iff_ne_none.mp hvalue)
    exact Cube.not_leavesBlank_panel hshown hticker hrequested hvalue hleaves

/-- A source that knows the opening price of one day. -/
def openingTables : RecordedTables := [("A", .ok oneOpening)]

/-- A plan that asks for the timestamps as if they were a field. -/
def stampsPlan : Plan where
  tickers := [.stock "A"]
  fields := ["open", "close", "timestamp"]
  window := ⟨.startOf .newYear, .startOf .afterNewYear, false⟩
  frequency := .daily
  flags := ⟨false, true, false⟩

theorem missing_oneOpening : oneOpening.missing stampsPlan.fields = ["close", "timestamp"] := by
  have hsorted : ["close", "timestamp"].mergeSort (fun a b => decide (a ≤ b)) =
      ["close", "timestamp"] := List.mergeSort_of_pairwise (by decide)
  have hfilter : stampsPlan.fields.filter (fun f => !oneOpening.names.contains f) =
      ["close", "timestamp"] := by decide
  rw [Table.missing, hfilter, sortedDistinct, hsorted]
  rfl

theorem gather_stampsPlan (calls : List FetchCall) :
    stampsPlan.gather openingTables.fetcher calls =
      ⟨.ok [(.stock "A", oneOpening.project stampsPlan.fields)],
        [.missingFields "A" ["close", "timestamp"]], calls ++ [stampsPlan.call (.stock "A")]⟩ := by
  have hrows : (oneOpening.dedupFirst.within (.startOf .newYear) (.startOf .afterNewYear)).rows =
      oneOpening.rows := by
    have hsorted : oneOpening.dedupFirst.rows = oneOpening.rows := List.mergeSort_singleton _
    exact (congrArg (List.filter _) hsorted).trans rfl
  have htable : oneOpening.dedupFirst.within (.startOf .newYear) (.startOf .afterNewYear) =
      oneOpening := Table.eq_of_names_of_rows rfl hrows
  have hfetch : openingTables.fetcher (stampsPlan.call (.stock "A")) calls =
      ⟨.ok oneOpening, [], calls ++ [stampsPlan.call (.stock "A")]⟩ :=
    congrArg (fun table => (⟨.ok table, [], _⟩ : Run _ (Except DataError Table))) htable
  have hnote : stampsPlan.missingNote (.stock "A") oneOpening =
      [.missingFields "A" ["close", "timestamp"]] := by
    rw [missingNote, missing_oneOpening]
    rfl
  have hdistinct : distinctTickers stampsPlan.tickers = [.stock "A"] := rfl
  have hwindow : stampsPlan.window.isEmpty = false := by decide
  simp only [gather, hwindow, hdistinct, gatherFrom, hfetch, hnote]
  rfl

theorem run_stampsPlan (calls : List FetchCall) :
    stampsPlan.run openingTables.fetcher calls =
      ⟨.ok ((Cube.panel [.startOf .newYear]
          (Cube.lookup [(.stock "A", oneOpening.project stampsPlan.fields)]) stampsPlan.tickers
          stampsPlan.fields stampsPlan.fields).squeeze stampsPlan.flags),
        [.missingFields "A" ["close", "timestamp"]], calls ++ [stampsPlan.call (.stock "A")]⟩ := by
  have hread : Cube.stampsOf [(.stock "A", oneOpening.project stampsPlan.fields)] =
      .ok [[.startOf .newYear]] := rfl
  have hdates : Cube.sortedInstants [[.startOf .newYear]].flatten = [.startOf .newYear] :=
    congrArg (distinctBy id) (List.mergeSort_singleton _)
  rw [← hdates]
  simp only [run, gather_stampsPlan, answer_eq, hread]
  rfl

/-- The timestamps are noted as missing, and the answer shows them. -/
theorem timestamps_noted_and_shown :
    ∃ history, stampsPlan.run openingTables.fetcher [] = ⟨.ok history,
        [.missingFields "A" ["close", "timestamp"]], [stampsPlan.call (.stock "A")]⟩ ∧
      history.fields? = some ["open", "close", "timestamp"] ∧
      history.cell 0 0 2 = some (.ofInt (Instant.startOf .newYear).millis) := by
  refine ⟨_, run_stampsPlan [], rfl, ?_⟩
  rw [(Cube.shows_panel _ _ _ _ _).cell_eq]
  rfl

/-- The closing price, which is noted as missing too, is not shown. -/
theorem missing_field_blank_iff_stampsPlan :
    ∃ cube : Cube, (stampsPlan.run openingTables.fetcher []).result =
        .ok (cube.squeeze stampsPlan.flags) ∧
      .missingFields "A" ["close", "timestamp"] ∈
        (stampsPlan.run openingTables.fetcher []).diagnostics ∧
      cube.LeavesBlank stampsPlan.flags "A" "close" ∧
      ¬ cube.LeavesBlank ⟨false, false, false⟩ "A" "timestamp" := by
  have hrun := congrArg Run.result (run_stampsPlan [])
  have hsilent : openingTables.fetcher.silent = openingTables.fetcher := rfl
  obtain ⟨hnoted, cube, -, hcube, -, -, hblank⟩ := missing_field_blank_iff hrun
  have hnote : .missingFields "A" ["close", "timestamp"] ∈
      (stampsPlan.run openingTables.fetcher.silent []).diagnostics := by
    rw [hsilent, run_stampsPlan]
    exact List.mem_singleton_self _
  refine ⟨cube, hrun.trans (congrArg Except.ok hcube), hnoted.subset hnote, ?_, ?_⟩
  · exact (hblank "A" _ hnote "close" (by decide)).2 (by decide)
  · intro hleaves
    exact (hblank "A" _ hnote "timestamp" (by decide)).1.mp hleaves rfl

end Plan

end MarketBars
