import MarketBars.Proofs.Pipeline.Contract
import MarketBars.Proofs.Quote.FirstArrivals
import MarketBars.Proofs.Quote.NonDisclosure

/-!
# What the notes of a request tell

The columns of a table are the requested fields that some received row carries, be the row inside the
window or not. The note that fields are missing is therefore the one place where rows of the future
show: such a row can supply a field that no other row carries. Of the future nothing else is told.
Unavailable sources and failed pages are noted alike by two sources that differ in hidden rows only,
and so are missing fields, unless a ticker has rows to show and the hidden ones bring new fields.

## Main definitions

- `KlineRow.CarrySame` — two lists of rows carry the same of some fields
- `Account` — what is noted during a request, and the pages that were asked for
- `Account.Tells` — two accounts of the same symbols differ by the fields that rows carry
-/

namespace MarketBars

namespace Diagnostic

def isMissingFields : Diagnostic → Bool
  | missingFields _ _ => true
  | _ => false

end Diagnostic

namespace KlineRow

/-- Two lists of rows carry the same of some fields, whatever the values are. -/
def CarrySame (fields : List String) (rows₁ rows₂ : List KlineRow) : Prop :=
  ∀ field ∈ fields,
    (∃ row ∈ rows₁, row.carries field = true) ↔ ∃ row ∈ rows₂, row.carries field = true

variable {fields : List String} {window : Window} {rows rows₁ rows₂ : List KlineRow}

theorem carrySame_iff : CarrySame fields rows₁ rows₂ ↔
    ∀ field ∈ fields, field ∈ columnNames rows₁ fields ↔ field ∈ columnNames rows₂ fields := by
  simp only [mem_columnNames]
  exact forall₂_congr fun field hfield => by simp [hfield]

theorem CarrySame.columnNames_eq (h : CarrySame fields rows₁ rows₂) :
    columnNames rows₁ fields = columnNames rows₂ fields := by
  refine congrArg (distinctBy id) (List.filter_congr fun field hfield => ?_)
  rw [Bool.eq_iff_iff, List.any_eq_true, List.any_eq_true]
  exact h field hfield

/-- Rows that carry the same and are the same inside the window make one table. -/
theorem CarrySame.tableWithin_eq (h : CarrySame fields rows₁ rows₂)
    (harranged : arranged window.start window.stop rows₁ = arranged window.start window.stop rows₂) :
    tableWithin fields window rows₁ = tableWithin fields window rows₂ := by
  have hnames := h.columnNames_eq
  by_cases hstamp : Table.stampName ∈ columnNames rows₁ fields
  · rw [tableWithin, tableWithin, table_of_stampName hstamp, table_of_stampName (hnames ▸ hstamp)]
  · obtain ⟨t, ht, htnames, htrows⟩ := exists_tableWithin window hstamp
    obtain ⟨u, hu, hunames, hurows⟩ := exists_tableWithin window (hnames ▸ hstamp)
    have heq : t = u := by
      refine Table.eq_of_names_of_rows ?_ ?_
      · rw [htnames, hunames, hnames]
      · rw [htrows, hurows, hnames, harranged]
    rw [ht, hu, heq]

theorem arranged_ne_nil_iff : arranged window.start window.stop rows ≠ [] ↔
    ∃ row ∈ rows, window.Counts row.time.millis := by
  constructor
  · intro h
    obtain ⟨row, hrow⟩ := List.exists_mem_of_ne_nil _ h
    obtain ⟨⟨row', hrow', hms⟩, hcounts⟩ :=
      mem_millis_arranged.mp (List.mem_map_of_mem (f := fun row => row.time.millis) hrow)
    exact ⟨row', hrow', hms ▸ hcounts⟩
  · rintro ⟨row, hrow, hcounts⟩ hnil
    have hmem := mem_millis_arranged.mpr ⟨⟨row, hrow, rfl⟩, hcounts⟩
    rw [hnil] at hmem
    cases hmem

end KlineRow

namespace Plan

variable {plan : Plan}

/-- The same is noted about two tables, of which both or none have rows, unless there are rows and one
table has a requested field that the other one lacks. -/
theorem missingNote_eq_iff {t u : Table} (hrows : t.rows = [] ↔ u.rows = []) (ticker : Ticker) :
    plan.missingNote ticker t = plan.missingNote ticker u ↔
      (t.rows ≠ [] → ∀ field ∈ plan.fields, field ∈ t.names ↔ field ∈ u.names) := by
  have hempty : t.isEmpty = u.isEmpty := by
    rw [Bool.eq_iff_iff, Table.isEmpty, Table.isEmpty, List.isEmpty_iff, List.isEmpty_iff, hrows]
  rw [← Table.missing_eq_iff, missingNote, missingNote, ← hempty, Table.isEmpty]
  cases t.rows with
  | nil => simp
  | cons r rest =>
    cases ht : t.missing plan.fields <;> cases hu : u.missing plan.fields <;> simp

theorem missingNote_filter (ticker : Ticker) (t : Table) :
    (plan.missingNote ticker t).filter (fun note => !note.isMissingFields) = [] := by
  unfold missingNote
  split <;> rfl

/-- The plan notes of a call what concerns its ticker. -/
theorem ticker_of_mem_notesOn {x : FetchRecord} {note : Diagnostic} (h : note ∈ plan.notesOn x) :
    note.ticker = x.call.ticker.symbol := by
  have hnotes := plan.notes_notesOn x
  obtain ⟨call, result, diagnostics⟩ := x
  generalize plan.notesOn ⟨call, result, diagnostics⟩ = notes at h hnotes
  cases hnotes with
  | unavailable ticker reason => rw [List.mem_singleton.mp h]; rfl
  | fatal he => cases h
  | complete ht => cases h
  | missing ht hascending hmem => rw [List.mem_singleton.mp h]; rfl

end Plan

/-- What is noted during a request, and the pages that were asked for. -/
structure Account where
  notes : List Diagnostic
  pages : List PageExchange

namespace Account

def append (a b : Account) : Account := ⟨a.notes ++ b.notes, a.pages ++ b.pages⟩

/-- Nothing is noted, and no page is asked for. -/
def blank : Account := ⟨[], []⟩

theorem append_blank (a : Account) : a.append blank = a := by
  rw [append, blank, List.append_nil, List.append_nil]

/-- The rows that were received for a code, in order of arrival. -/
def rowsFor (a : Account) (code : String) : List KlineRow :=
  receivedRows (a.pages.filter fun x => x.request.code = code)

/-- All of an account is about some symbols. -/
structure Concerns (a : Account) (symbols : List String) : Prop where
  notes : ∀ note ∈ a.notes, note.ticker ∈ symbols
  pages : ∀ x ∈ a.pages, x.request.code ∈ symbols

variable {a b a₁ a₂ b₁ b₂ : Account} {symbol : String} {symbols : List String}

theorem concerns_blank (symbols : List String) : blank.Concerns symbols :=
  ⟨List.forall_mem_nil _, List.forall_mem_nil _⟩

theorem Concerns.append (ha : a.Concerns [symbol]) (hb : b.Concerns symbols) :
    (a.append b).Concerns (symbol :: symbols) where
  notes note hnote := by
    rcases List.mem_append.mp hnote with hnote | hnote
    · exact List.mem_cons.mpr (.inl (List.mem_singleton.mp (ha.notes note hnote)))
    · exact List.mem_cons_of_mem _ (hb.notes note hnote)
  pages x hx := by
    rcases List.mem_append.mp hx with hx | hx
    · exact List.mem_cons.mpr (.inl (List.mem_singleton.mp (ha.pages x hx)))
    · exact List.mem_cons_of_mem _ (hb.pages x hx)

theorem rowsFor_append (a b : Account) (code : String) :
    (a.append b).rowsFor code = a.rowsFor code ++ b.rowsFor code := by
  simp only [rowsFor, append, receivedRows, List.filter_append, List.map_append, List.flatMap_append]

theorem rowsFor_of_concerns_singleton (ha : a.Concerns [symbol]) :
    a.rowsFor symbol = receivedRows a.pages := by
  rw [rowsFor, List.filter_eq_self.mpr]
  exact fun x hx => decide_eq_true (List.mem_singleton.mp (ha.pages x hx))

theorem rowsFor_eq_nil (ha : a.Concerns symbols) (hnew : symbol ∉ symbols) :
    a.rowsFor symbol = [] := by
  rw [rowsFor, List.filter_eq_nil_iff.mpr]
  · rfl
  · intro x hx hcode
    exact hnew (of_decide_eq_true hcode ▸ ha.pages x hx)

theorem rowsFor_append_left (hb : b.Concerns symbols) (hnew : symbol ∉ symbols) :
    (a.append b).rowsFor symbol = a.rowsFor symbol := by
  rw [rowsFor_append, rowsFor_eq_nil hb hnew, List.append_nil]

theorem rowsFor_append_right (ha : a.Concerns [symbol]) {other : String} (hne : other ≠ symbol) :
    (a.append b).rowsFor other = b.rowsFor other := by
  rw [rowsFor_append, rowsFor_eq_nil ha (by simpa using hne), List.nil_append]

/-- The account shows a row of a symbol inside a window. -/
def Shows (a : Account) (window : Window) (symbol : String) : Prop :=
  ∃ row ∈ a.rowsFor symbol, window.Counts row.time.millis

/-- Two accounts of requests for some symbols tell what fields the received rows carry, and otherwise
the same. They are one if the same fields are carried. Unless the reserved name is a field, all notes but
those on missing fields are the same anyway, and all notes are the same exactly when the same fields are
carried for every symbol that has a row inside the window. -/
structure Tells (fields : List String) (window : Window) (symbols : List String) (a₁ a₂ : Account) :
    Prop where
  notes_eq : (∀ symbol ∈ symbols,
    KlineRow.CarrySame fields (a₁.rowsFor symbol) (a₂.rowsFor symbol)) → a₁.notes = a₂.notes
  others_eq : Table.stampName ∉ fields →
    (a₁.notes.filter fun note => !note.isMissingFields) =
      a₂.notes.filter fun note => !note.isMissingFields
  notes_eq_iff : Table.stampName ∉ fields → (a₁.notes = a₂.notes ↔ ∀ symbol ∈ symbols,
    a₁.Shows window symbol → KlineRow.CarrySame fields (a₁.rowsFor symbol) (a₂.rowsFor symbol))

variable {fields : List String} {window : Window}

theorem tells_blank (fields : List String) (window : Window) (symbols : List String) :
    Tells fields window symbols blank blank where
  notes_eq _ := rfl
  others_eq _ := rfl
  notes_eq_iff _ := by
    refine ⟨fun _ _ _ hshows => ?_, fun _ => rfl⟩
    obtain ⟨row, hrow, -⟩ := hshows
    cases hrow

/-- Accounts are compared symbol by symbol. What comes after a symbol has to be compared only if the
requests go on alike. -/
theorem Tells.append (hsymbol : Tells fields window [symbol] a₁ a₂)
    (ha₁ : a₁.Concerns [symbol]) (ha₂ : a₂.Concerns [symbol]) (hb₁ : b₁.Concerns symbols)
    (hb₂ : b₂.Concerns symbols) (hnew : symbol ∉ symbols)
    (hlater : KlineRow.CarrySame fields (a₁.rowsFor symbol) (a₂.rowsFor symbol) ∨
      Table.stampName ∉ fields → Tells fields window symbols b₁ b₂) :
    Tells fields window (symbol :: symbols) (a₁.append b₁) (a₂.append b₂) := by
  have hfirst₁ := @rowsFor_append_left a₁ _ _ _ hb₁ hnew
  have hfirst₂ := @rowsFor_append_left a₂ _ _ _ hb₂ hnew
  have hrest : ∀ other ∈ symbols, (a₁.append b₁).rowsFor other = b₁.rowsFor other ∧
      (a₂.append b₂).rowsFor other = b₂.rowsFor other := by
    intro other hother
    have hne : other ≠ symbol := fun heq => hnew (heq ▸ hother)
    exact ⟨rowsFor_append_right ha₁ hne, rowsFor_append_right ha₂ hne⟩
  refine ⟨fun hcarry => ?_, fun hstamp => ?_, fun hstamp => ?_⟩
  · obtain ⟨hcarry₁, hcarry₂⟩ := List.forall_mem_cons.mp hcarry
    rw [hfirst₁, hfirst₂] at hcarry₁
    have hnotes := hsymbol.notes_eq (List.forall_mem_singleton.mpr hcarry₁)
    have hnotes' : b₁.notes = b₂.notes := by
      refine (hlater (.inl hcarry₁)).notes_eq fun other hother => ?_
      obtain ⟨h₁, h₂⟩ := hrest other hother
      rw [← h₁, ← h₂]
      exact hcarry₂ other hother
    rw [Account.append, Account.append, hnotes, hnotes']
  · rw [Account.append, Account.append, List.filter_append, List.filter_append, hsymbol.others_eq hstamp,
      (hlater (.inr hstamp)).others_eq hstamp]
  · have hsplit : (a₁.append b₁).notes = (a₂.append b₂).notes ↔
        a₁.notes = a₂.notes ∧ b₁.notes = b₂.notes := by
      rw [Account.append, Account.append]
      refine ⟨fun heq => ?_, fun heq => by rw [heq.1, heq.2]⟩
      -- A note tells by its symbol to which part it belongs.
      refine append_split_unique (fun note => note.ticker ≠ symbol) ?_ ?_ ?_ ?_ heq
      · exact fun note hnote => by simpa using ha₁.notes note hnote
      · exact fun note hnote => decide_eq_true fun h => hnew (h ▸ hb₁.notes note hnote)
      · exact fun note hnote => by simpa using ha₂.notes note hnote
      · exact fun note hnote => decide_eq_true fun h => hnew (h ▸ hb₂.notes note hnote)
    rw [hsplit, hsymbol.notes_eq_iff hstamp, (hlater (.inr hstamp)).notes_eq_iff hstamp,
      List.forall_mem_singleton, List.forall_mem_cons, Shows, Shows, hfirst₁, hfirst₂]
    -- For the other symbols the parts that follow are compared.
    refine and_congr_right fun _ => forall₂_congr fun other hother => ?_
    obtain ⟨h₁, h₂⟩ := hrest other hother
    rw [Shows, Shows, h₁, h₂]

end Account

/-- What comes of one call to two sources of which the rows inside the window are the same: the first page
fails alike, or there are the tables of the received rows. -/
inductive CallOutcomes (call : FetchCall) :
    List KlineRow → Except DataError Table → List KlineRow → Except DataError Table → Prop
  | failed (e : DataError) : CallOutcomes call [] (.error e) [] (.error e)
  | received {rows₁ rows₂ : List KlineRow}
    (h : KlineRow.arranged call.window.start call.window.stop rows₁ =
      KlineRow.arranged call.window.start call.window.stop rows₂) :
    CallOutcomes call rows₁ (KlineRow.tableWithin call.fields call.window rows₁)
      rows₂ (KlineRow.tableWithin call.fields call.window rows₂)

namespace CallOutcomes

variable {call : FetchCall} {rows₁ rows₂ : List KlineRow} {result₁ result₂ : Except DataError Table}

/-- Rows that carry the same fields have the same outcome. -/
theorem result_eq (h : CallOutcomes call rows₁ result₁ rows₂ result₂)
    (hcarry : KlineRow.CarrySame call.fields rows₁ rows₂) : result₁ = result₂ := by
  cases h with
  | failed e => rfl
  | received harranged => exact hcarry.tableWithin_eq harranged

/-- Without the reserved name among the fields the received rows make tables, of which both or none have
rows. -/
theorem exists_tables (h : CallOutcomes call rows₁ result₁ rows₂ result₂)
    (hstamp : Table.stampName ∉ call.fields) :
    (∃ e, rows₁ = [] ∧ result₁ = .error e ∧ result₂ = .error e) ∨
      ∃ t u, result₁ = .ok t ∧ result₂ = .ok u ∧ (t.rows = [] ↔ u.rows = []) ∧
        (t.rows ≠ [] ↔ ∃ row ∈ rows₁, call.window.Counts row.time.millis) ∧
        t.names = KlineRow.columnNames rows₁ call.fields ∧
        u.names = KlineRow.columnNames rows₂ call.fields := by
  have hcolumns : ∀ rows, Table.stampName ∉ KlineRow.columnNames rows call.fields :=
    fun rows hmem => hstamp (KlineRow.mem_columnNames.mp hmem).1
  cases h with
  | failed e => exact .inl ⟨e, rfl, rfl, rfl⟩
  | received harranged =>
    obtain ⟨t, ht, htnames, htrows⟩ := KlineRow.exists_tableWithin call.window (hcolumns rows₁)
    obtain ⟨u, hu, hunames, hurows⟩ := KlineRow.exists_tableWithin call.window (hcolumns rows₂)
    refine .inr ⟨t, u, ht, hu, ?_, ?_, htnames, hunames⟩
    · rw [htrows, hurows, List.map_eq_nil_iff, List.map_eq_nil_iff, harranged]
    · rw [htrows, Ne, List.map_eq_nil_iff]
      exact KlineRow.arranged_ne_nil_iff

/-- Then calls end the fetching alike. -/
theorem fatal?_eq (h : CallOutcomes call rows₁ result₁ rows₂ result₂)
    (hstamp : Table.stampName ∉ call.fields) (notes : List Diagnostic) :
    (FetchRecord.mk call result₁ notes).fatal? = (FetchRecord.mk call result₂ notes).fatal? := by
  rcases h.exists_tables hstamp with ⟨e, -, rfl, rfl⟩ | ⟨t, u, rfl, rfl, -⟩ <;> rfl

variable {plan : Plan} {ticker : Ticker}

theorem notesOn_filter_eq (h : CallOutcomes (plan.call ticker) rows₁ result₁ rows₂ result₂)
    (hstamp : Table.stampName ∉ plan.fields) (notes : List Diagnostic) :
    (plan.notesOn ⟨plan.call ticker, result₁, notes⟩).filter (fun note => !note.isMissingFields) =
      (plan.notesOn ⟨plan.call ticker, result₂, notes⟩).filter fun note => !note.isMissingFields := by
  rcases h.exists_tables hstamp with ⟨e, -, rfl, rfl⟩ | ⟨t, u, rfl, rfl, -⟩
  · rfl
  · exact (plan.missingNote_filter ticker t).trans (plan.missingNote_filter ticker u).symm

/-- The plan notes the same about the outcomes exactly when the rows carry the same fields, or none of
them lies inside the window. -/
theorem notesOn_eq_iff (h : CallOutcomes (plan.call ticker) rows₁ result₁ rows₂ result₂)
    (hstamp : Table.stampName ∉ plan.fields) (notes : List Diagnostic) :
    plan.notesOn ⟨plan.call ticker, result₁, notes⟩ =
        plan.notesOn ⟨plan.call ticker, result₂, notes⟩ ↔
      ((∃ row ∈ rows₁, plan.window.Counts row.time.millis) →
        KlineRow.CarrySame plan.fields rows₁ rows₂) := by
  rcases h.exists_tables hstamp with
    ⟨e, rfl, rfl, rfl⟩ | ⟨t, u, rfl, rfl, hrows, hshown, htnames, hunames⟩
  · exact iff_of_true rfl fun ⟨_, hrow, _⟩ => absurd hrow List.not_mem_nil
  · have hnotes := @Plan.missingNote_eq_iff plan t u hrows ticker
    rw [hshown, htnames, hunames] at hnotes
    rw [KlineRow.carrySame_iff]
    exact hnotes

end CallOutcomes

namespace QuoteSource

variable {σ ι : Type} {source₁ source₂ : QuoteSource σ ι} {states : σ → σ → Prop} {last : Instant}

/-- A list of pages that begins with earlier ones grows in the same way. -/
theorem recorded_extends (source : QuoteSource σ ι) (earlier : List PageExchange) :
    source.recorded.Mirrors (fun t => (t.1, earlier ++ t.2)) source.recorded where
  connect _ := rfl
  page conn r t := by
    simp only [recorded, List.append_assoc]
  close _ _ := rfl

namespace Alike

/-- The later pages fail alike. -/
theorem diagnostics_rowsFrom (h : Alike last states source₁ source₂) (conn : ι) (page : Nat)
    (r : KlineRequest) (s₁ s₂ : σ) (hs : states s₁ s₂) :
    (source₁.rowsFrom conn page r s₁).diagnostics = (source₂.rowsFrom conn page r s₂).diagnostics := by
  induction page, r, s₁ using rowsFrom.induct source₁ conn generalizing s₂ with
  | case1 page r s₁ e s₁' hpage =>
    obtain ⟨s₂', hpage', -⟩ := h.page_of_error hs hpage
    rw [rowsFrom_of_error hpage, rowsFrom_of_error hpage']
  | case2 page r s₁ p₁ s₁' hpage hnext =>
    obtain ⟨p₂, s₂', hpage', -, hkey, -⟩ := h.page_of_ok hs hpage
    rw [rowsFrom_of_last hpage hnext, rowsFrom_of_last hpage' (hkey.symm.trans hnext)]
  | case3 page r s₁ p₁ s₁' hpage key hnext ih =>
    obtain ⟨p₂, s₂', hpage', -, hkey, hstates⟩ := h.page_of_ok hs hpage
    rw [rowsFrom_of_next hpage hnext, rowsFrom_of_next hpage' (hkey.symm.trans hnext)]
    exact ih s₂' hstates

theorem diagnostics_rows (h : Alike last states source₁ source₂) (conn : ι) (r : KlineRequest)
    {s₁ s₂ : σ} (hs : states s₁ s₂) :
    (source₁.rows conn r s₁).diagnostics = (source₂.rows conn r s₂).diagnostics := by
  rcases hpage : source₁.page conn r s₁ with ⟨e | p₁, s₁'⟩
  · obtain ⟨s₂', hpage', -⟩ := h.page_of_error hs hpage
    rw [rows_of_error hpage, rows_of_error hpage']
  · obtain ⟨p₂, s₂', hpage', -, hkey, hstates⟩ := h.page_of_ok hs hpage
    cases hnext : p₁.next? with
    | none => rw [rows_of_last hpage hnext, rows_of_last hpage' (hkey.symm.trans hnext)]
    | some key =>
      rw [rows_of_next hpage hnext, rows_of_next hpage' (hkey.symm.trans hnext)]
      exact h.diagnostics_rowsFrom conn 1 _ s₁' s₂' hstates

end Alike

section Accounts

variable (source : QuoteSource σ ι) (conn : ι) (limit : Nat) (name : String) (plan : Plan)

/-- The account of a call: what is noted about it, and its pages. -/
def accountOfCall (ticker : Ticker) (s : σ) : Account where
  notes := (source.fetcher conn limit name (plan.call ticker) s).diagnostics ++
    plan.notesOn (plan.record (source.fetcher conn limit name) ticker s)
  pages := (source.recorded.fetcher conn limit name (plan.call ticker) (s, [])).state.2

/-- The account of the calls for some tickers in turn. -/
def accountOf (tickers : List Ticker) (s : σ) : Account where
  notes := (plan.gatherFrom (source.fetcher conn limit name) tickers s).diagnostics
  pages := (plan.gatherFrom (source.recorded.fetcher conn limit name) tickers (s, [])).state.2

/-- The account of the calls that follow one for a ticker: there are none if it ends the fetching. -/
def accountAfter (ticker : Ticker) (rest : List Ticker) (s : σ) : Account :=
  match (plan.record (source.fetcher conn limit name) ticker s).fatal? with
  | some _ => .blank
  | none => source.accountOf conn limit name plan rest
      (source.fetcher conn limit name (plan.call ticker) s).state

/-- A call for one ticker leaves the pages of its own, and the state that the source leaves anyway. -/
theorem recorded_state (ticker : Ticker) (s : σ) :
    (source.recorded.fetcher conn limit name (plan.call ticker) (s, [])).state =
      ((source.fetcher conn limit name (plan.call ticker) s).state,
        (source.accountOfCall conn limit name plan ticker s).pages) := by
  have hcall := source.recorded_mirrors.fetcher conn limit name (plan.call ticker) (s, [])
  exact Prod.ext (congrArg Run.state hcall).symm rfl

theorem accountOf_cons (ticker : Ticker) (rest : List Ticker) (s : σ) :
    source.accountOf conn limit name plan (ticker :: rest) s =
      (source.accountOfCall conn limit name plan ticker s).append
        (source.accountAfter conn limit name plan ticker rest s) := by
  have hcall := source.recorded_mirrors.fetcher conn limit name (plan.call ticker) (s, [])
  have hrecord : plan.record (source.fetcher conn limit name) ticker s =
      plan.record (source.recorded.fetcher conn limit name) ticker (s, []) :=
    congrArg (fun run => FetchRecord.mk _ run.result run.diagnostics) hcall
  have hstate := source.recorded_state conn limit name plan ticker s
  rw [accountAfter]
  cases hfatal : (plan.record (source.fetcher conn limit name) ticker s).fatal? with
  | some e =>
    rw [accountOf, Plan.gatherFrom_cons_of_fatal hfatal,
      Plan.gatherFrom_cons_of_fatal (hrecord ▸ hfatal), Account.append_blank]
    rfl
  | none =>
    -- The list of the later calls begins with the pages of the first one.
    have hlater := ((source.recorded_extends
      (source.accountOfCall conn limit name plan ticker s).pages).fetcher conn limit name).gatherFrom
        plan rest ((source.fetcher conn limit name (plan.call ticker) s).state, [])
    rw [List.append_nil] at hlater
    rw [accountOf, Plan.gatherFrom_cons hfatal, Plan.gatherFrom_cons (hrecord ▸ hfatal), hstate, hlater]
    rfl

theorem concerns_accountOfCall (ticker : Ticker) (s : σ) :
    (source.accountOfCall conn limit name plan ticker s).Concerns [ticker.symbol] := by
  have hcall : (∀ x ∈ (source.recorded.fetcher conn limit name (plan.call ticker) (s, [])).state.2,
        x.request.code = ticker.symbol) ∧
      ∀ note ∈ (source.fetcher conn limit name (plan.call ticker) s).diagnostics,
        note.ticker = ticker.symbol := by
    cases hperiod : Period.ofFrequency? (plan.call ticker).frequency with
    | none =>
      rw [fetcher_of_none hperiod, fetcher_of_none hperiod]
      exact ⟨List.forall_mem_nil _, List.forall_mem_nil _⟩
    | some period =>
      rw [fetcher_of_period hperiod, fetcher_of_period hperiod]
      obtain ⟨pages, rfl, hcodes, hnotes, -⟩ :=
        source.exists_received conn (firstRequest limit (plan.call ticker) period) s
      exact ⟨hcodes, hnotes⟩
  refine ⟨fun note hnote => List.mem_singleton.mpr ?_, fun x hx =>
    List.mem_singleton.mpr (hcall.1 x hx)⟩
  rcases List.mem_append.mp hnote with hnote | hnote
  · exact hcall.2 note hnote
  · exact plan.ticker_of_mem_notesOn hnote

theorem accountAfter_eq (ticker : Ticker) (rest : List Ticker) (s : σ) :
    source.accountAfter conn limit name plan ticker rest s = .blank ∨
      source.accountAfter conn limit name plan ticker rest s =
        source.accountOf conn limit name plan rest
          (source.fetcher conn limit name (plan.call ticker) s).state := by
  rw [accountAfter]
  split
  · exact .inl rfl
  · exact .inr rfl

theorem concerns_accountOf (tickers : List Ticker) (s : σ) :
    (source.accountOf conn limit name plan tickers s).Concerns (tickers.map Ticker.symbol) := by
  induction tickers generalizing s with
  | nil => exact Account.concerns_blank _
  | cons ticker rest ih =>
    rw [accountOf_cons]
    refine (source.concerns_accountOfCall conn limit name plan ticker s).append ?_
    rcases source.accountAfter_eq conn limit name plan ticker rest s with h | h <;> rw [h]
    · exact Account.concerns_blank _
    · exact ih _

theorem concerns_accountAfter (ticker : Ticker) (rest : List Ticker) (s : σ) :
    (source.accountAfter conn limit name plan ticker rest s).Concerns (rest.map Ticker.symbol) := by
  rcases source.accountAfter_eq conn limit name plan ticker rest s with h | h <;> rw [h]
  · exact Account.concerns_blank _
  · exact source.concerns_accountOf conn limit name plan rest _

end Accounts

namespace Alike

variable (conn : ι) (limit : Nat) (name : String) {plan : Plan} {s₁ s₂ : σ}

/-- One call is noted alike by the sources, and what comes of it is alike. -/
theorem callOutcomes (h : Alike last states source₁ source₂)
    (hstop : plan.window.stop.millis ≤ last.millis) (hs : states s₁ s₂) (ticker : Ticker) :
    (source₁.fetcher conn limit name (plan.call ticker) s₁).diagnostics =
        (source₂.fetcher conn limit name (plan.call ticker) s₂).diagnostics ∧
      states (source₁.fetcher conn limit name (plan.call ticker) s₁).state
        (source₂.fetcher conn limit name (plan.call ticker) s₂).state ∧
      CallOutcomes (plan.call ticker)
        ((source₁.accountOfCall conn limit name plan ticker s₁).rowsFor ticker.symbol)
        (source₁.fetcher conn limit name (plan.call ticker) s₁).result
        ((source₂.accountOfCall conn limit name plan ticker s₂).rowsFor ticker.symbol)
        (source₂.fetcher conn limit name (plan.call ticker) s₂).result := by
  rw [Account.rowsFor_of_concerns_singleton
      (source₁.concerns_accountOfCall conn limit name plan ticker s₁),
    Account.rowsFor_of_concerns_singleton
      (source₂.concerns_accountOfCall conn limit name plan ticker s₂), accountOfCall, accountOfCall]
  cases hperiod : Period.ofFrequency? (plan.call ticker).frequency with
  | none =>
    simp only [fetcher_of_none hperiod]
    exact ⟨trivial, hs, .failed _⟩
  | some period =>
    simp only [fetcher_of_period hperiod]
    obtain ⟨pages₁, hpages₁, -, -, hrows₁⟩ :=
      source₁.exists_received conn (firstRequest limit (plan.call ticker) period) s₁
    obtain ⟨pages₂, hpages₂, -, -, hrows₂⟩ :=
      source₂.exists_received conn (firstRequest limit (plan.call ticker) period) s₂
    obtain ⟨hdisclosed, hstates⟩ := h.rows conn (firstRequest limit (plan.call ticker) period) hs
    refine ⟨h.diagnostics_rows conn _ hs, hstates, ?_⟩
    rw [hpages₁, hpages₂]
    rcases hrows₁ with hrows₁ | ⟨e₁, hrows₁, hnone₁⟩ <;>
      rcases hrows₂ with hrows₂ | ⟨e₂, hrows₂, hnone₂⟩ <;>
      rw [hrows₁, hrows₂] at hdisclosed
    · -- The disclosed rows are those of the window and more.
      have harranged := congrArg (KlineRow.arranged plan.window.start plan.window.stop)
        (Except.ok.inj hdisclosed)
      rw [KlineRow.arranged_filter hstop, KlineRow.arranged_filter hstop] at harranged
      rw [hrows₁, hrows₂]
      exact .received harranged
    · cases hdisclosed
    · cases hdisclosed
    · cases hdisclosed
      rw [hrows₁, hrows₂, hnone₁, hnone₂]
      exact .failed _

/-- The accounts of one call tell what the received rows carry. -/
theorem tells_accountOfCall (h : Alike last states source₁ source₂)
    (hstop : plan.window.stop.millis ≤ last.millis) (hs : states s₁ s₂) (ticker : Ticker) :
    Account.Tells plan.fields plan.window [ticker.symbol]
      (source₁.accountOfCall conn limit name plan ticker s₁)
      (source₂.accountOfCall conn limit name plan ticker s₂) := by
  obtain ⟨hnotes, -, houtcomes⟩ := h.callOutcomes conn limit name hstop hs ticker
  refine ⟨fun hcarry => ?_, fun hstamp => ?_, fun hstamp => ?_⟩
  · have hresult := houtcomes.result_eq (hcarry _ (List.mem_singleton_self _))
    simp only [accountOfCall, Plan.record, hnotes, hresult]
  · simp only [accountOfCall, Plan.record, List.filter_append, hnotes,
      houtcomes.notesOn_filter_eq hstamp]
  · have hiff := houtcomes.notesOn_eq_iff hstamp
      (source₂.fetcher conn limit name (plan.call ticker) s₂).diagnostics
    rw [List.forall_mem_singleton, Account.Shows, ← hiff]
    simp only [accountOfCall, Plan.record, hnotes, List.append_cancel_left_eq]

/-- The accounts of the calls for distinct symbols tell what the received rows carry. -/
theorem tells_accountOf (h : Alike last states source₁ source₂)
    (hstop : plan.window.stop.millis ≤ last.millis) {tickers : List Ticker}
    (hnodup : (tickers.map Ticker.symbol).Nodup) {s₁ s₂ : σ} (hs : states s₁ s₂) :
    Account.Tells plan.fields plan.window (tickers.map Ticker.symbol)
      (source₁.accountOf conn limit name plan tickers s₁)
      (source₂.accountOf conn limit name plan tickers s₂) := by
  induction tickers generalizing s₁ s₂ with
  | nil => exact Account.tells_blank _ _ _
  | cons ticker rest ih =>
    obtain ⟨hnew, hrest⟩ := List.nodup_cons.mp hnodup
    obtain ⟨hnotes, hstates, houtcomes⟩ := h.callOutcomes conn limit name hstop hs ticker
    rw [accountOf_cons, accountOf_cons]
    refine (h.tells_accountOfCall conn limit name hstop hs ticker).append
      (source₁.concerns_accountOfCall conn limit name plan ticker s₁)
      (source₂.concerns_accountOfCall conn limit name plan ticker s₂)
      (source₁.concerns_accountAfter conn limit name plan ticker rest s₁)
      (source₂.concerns_accountAfter conn limit name plan ticker rest s₂) hnew fun halike => ?_
    -- Either way both sources end the fetching with this call, or none does.
    have hfatal : (plan.record (source₁.fetcher conn limit name) ticker s₁).fatal? =
        (plan.record (source₂.fetcher conn limit name) ticker s₂).fatal? := by
      rcases halike with hcarry | hstamp
      · rw [Plan.record, Plan.record, hnotes, houtcomes.result_eq hcarry]
      · rw [Plan.record, Plan.record, hnotes]
        exact houtcomes.fatal?_eq hstamp _
    rw [accountAfter, accountAfter, ← hfatal]
    split
    · exact Account.tells_blank _ _ _
    · exact ih hrest hstates

end Alike

end QuoteSource

namespace Broker

variable {σ ι : Type} {source₁ source₂ : QuoteSource σ ι} {states : σ → σ → Prop} {last : Instant}

/-- The account of a call: what is recorded during it, and the pages that it asks the source for. -/
def account (b : Broker) (source : QuoteSource σ ι) (call : MarketCall) (s : σ) : Account where
  notes := (b.answer source call s).diagnostics
  pages := (b.answer source.recorded call (s, [])).state.2

/-- A call for price fields records what the request for their columns records. -/
theorem account_eq (b : Broker) (source : QuoteSource σ ι) (call : MarketCall) (s : σ) :
    b.account source call s = ⟨(b.history source (request call) s).diagnostics,
      (b.history source.recorded (request call) (s, [])).state.2⟩ := by
  cases call <;> rfl

theorem tells_runConnected (b : Broker) (h : source₁.Alike last states source₂) (plan : Plan)
    (hwindow : plan.window.isEmpty = false) (hstop : plan.window.stop.millis ≤ last.millis)
    {s₁ s₂ : σ} (hs : states s₁ s₂) :
    Account.Tells plan.fields plan.window ((distinctTickers plan.tickers).map Ticker.symbol)
      ⟨(b.runConnected source₁ plan s₁).diagnostics,
        (b.runConnected source₁.recorded plan (s₁, [])).state.2⟩
      ⟨(b.runConnected source₂ plan s₂).diagnostics,
        (b.runConnected source₂.recorded plan (s₂, [])).state.2⟩ := by
  obtain ⟨hanswer, hstates⟩ := h.connect s₁ s₂ hs
  simp only [runConnected, QuoteSource.recorded]
  rcases hconnect₁ : source₁.connect s₁ with ⟨answer₁, s₁'⟩
  rcases hconnect₂ : source₂.connect s₂ with ⟨answer₂, s₂'⟩
  rw [hconnect₁, hconnect₂] at hanswer hstates
  cases hanswer
  cases answer₁ with
  | error e => exact Account.tells_blank _ _ _
  | ok conn =>
    have hnodup := nodup_map_distinctBy Ticker.symbol plan.tickers
    simp only [Plan.run_of_not_isEmpty hwindow]
    exact h.tells_accountOf conn (max 1 b.pageSize) name hstop hnodup hstates

/-- The account of a call shows a row of a symbol inside the window of the call. -/
def ShowsRow (b : Broker) (call : MarketCall) (a : Account) (symbol : String) : Prop :=
  ∃ window, Window.ofRequest? b.clock (request call).start (request call).stop?
      ((request call).frequency?.getD b.frequency) (request call).lookAhead = some window ∧
    a.Shows window symbol

/-- The accounts of a call that does not look ahead. Without a window they are blank. -/
theorem account_tells (b : Broker) {call : MarketCall} (hlook : (request call).lookAhead = false)
    {s₁ s₂ : σ}
    (h : ∀ last, Disclosure.lastObservable? b.clock ((request call).frequency?.getD b.frequency) =
      some last → source₁.DiscloseSame last s₁ source₂ s₂) :
    (b.account source₁ call s₁ = .blank ∧ b.account source₂ call s₂ = .blank) ∨
    ∃ window, Window.ofRequest? b.clock (request call).start (request call).stop?
        ((request call).frequency?.getD b.frequency) (request call).lookAhead = some window ∧
      Account.Tells (request call).columns window
        ((distinctTickers (request call).tickers.toList).map Ticker.symbol)
        (b.account source₁ call s₁) (b.account source₂ call s₂) := by
  simp only [account_eq]
  -- A request ends before the source is asked, or it runs one plan on a connection.
  rcases b.history_cases (request call) with ⟨result, hresult⟩ | ⟨window, hwindow, hempty, hrun⟩
  · simp only [hresult]
    exact .inl ⟨rfl, rfl⟩
  · refine .inr ⟨window, hwindow, ?_⟩
    rw [hlook] at hwindow
    obtain ⟨last, hlast, hstop⟩ := Window.millis_stop_le hwindow
    obtain ⟨states, halike, hs⟩ := h last hlast
    simp only [hrun]
    exact b.tells_runConnected halike ((request call).plan (request call).tickers.toList
      (request call).tickers.isSingle window ((request call).frequency?.getD b.frequency)) hempty hstop hs

/-- The notes of a call that does not look ahead tell of the future which requested fields are carried by
some row, and nothing else. They are the same for two sources that disclose the same, if the rows that
were received for each ticker carry the same requested fields. If the reserved name is not requested,
which price fields never do, then unavailable sources and failed pages are noted alike in any case; and
all notes are the same exactly when the same requested fields are carried for every ticker that has a row
inside the window. -/
theorem notes_tell_carried_fields (b : Broker) {call : MarketCall}
    (hlook : (request call).lookAhead = false) {s₁ s₂ : σ}
    (h : ∀ last, Disclosure.lastObservable? b.clock ((request call).frequency?.getD b.frequency) =
      some last → source₁.DiscloseSame last s₁ source₂ s₂) :
    ((∀ ticker ∈ (request call).tickers.toList, KlineRow.CarrySame (request call).columns
        ((b.account source₁ call s₁).rowsFor ticker.symbol)
        ((b.account source₂ call s₂).rowsFor ticker.symbol)) →
      (b.answer source₁ call s₁).diagnostics = (b.answer source₂ call s₂).diagnostics) ∧
    (Table.stampName ∉ (request call).columns →
      ((b.answer source₁ call s₁).diagnostics.filter fun note => !note.isMissingFields) =
          ((b.answer source₂ call s₂).diagnostics.filter fun note => !note.isMissingFields) ∧
      ((b.answer source₁ call s₁).diagnostics = (b.answer source₂ call s₂).diagnostics ↔
        ∀ ticker ∈ (request call).tickers.toList,
          b.ShowsRow call (b.account source₁ call s₁) ticker.symbol →
            KlineRow.CarrySame (request call).columns
              ((b.account source₁ call s₁).rowsFor ticker.symbol)
              ((b.account source₂ call s₂).rowsFor ticker.symbol))) := by
  have hnotes₁ : (b.answer source₁ call s₁).diagnostics = (b.account source₁ call s₁).notes := rfl
  have hnotes₂ : (b.answer source₂ call s₂).diagnostics = (b.account source₂ call s₂).notes := rfl
  rw [hnotes₁, hnotes₂]
  rcases b.account_tells hlook h with ⟨hblank₁, hblank₂⟩ | ⟨window, hwindow, htells⟩
  · rw [hblank₁, hblank₂]
    refine ⟨fun _ => rfl, fun _ => ⟨rfl, fun _ ticker _ hshows => ?_, fun _ => rfl⟩⟩
    obtain ⟨window, -, row, hrow, -⟩ := hshows
    cases hrow
  · -- A symbol that several tickers have is asked for once.
    have hsymbols : ∀ p : String → Prop,
        (∀ symbol ∈ (distinctTickers (request call).tickers.toList).map Ticker.symbol, p symbol) ↔
          ∀ ticker ∈ (request call).tickers.toList, p ticker.symbol := by
      intro p
      rw [← @List.forall_mem_map _ _ Ticker.symbol _ p]
      exact forall_congr' fun symbol => imp_congr_left (mem_map_distinctBy Ticker.symbol _ symbol)
    have hshows : ∀ symbol, b.ShowsRow call (b.account source₁ call s₁) symbol ↔
        (b.account source₁ call s₁).Shows window symbol := by
      intro symbol
      refine ⟨?_, fun hshows => ⟨window, hwindow, hshows⟩⟩
      rintro ⟨window', hwindow', hshows⟩
      cases hwindow.symm.trans hwindow'
      exact hshows
    refine ⟨fun hcarry => htells.notes_eq ?_, fun hstamp => ⟨htells.others_eq hstamp, ?_⟩⟩
    · exact (hsymbols _).mpr hcarry
    · rw [htells.notes_eq_iff hstamp, hsymbols]
      simp only [hshows]

/-- At noon of the second of January, scripts disclose the same when they agree up to the first. -/
theorem discloseSame_noonBroker {script₁ script₂ : PageScript}
    (h : script₁.disclosedBy ⟨.newYear, .lastSecond⟩ = script₂.disclosedBy ⟨.newYear, .lastSecond⟩) :
    ∀ last, Disclosure.lastObservable? noonBroker.clock .daily = some last →
      (PageScript.source none).DiscloseSame last script₁ (PageScript.source none) script₂ := by
  intro last hlast
  have heve : Disclosure.lastObservable? noonBroker.clock .daily =
      some ⟨.newYear, .lastSecond⟩ := by decide
  cases heve.symm.trans hlast
  exact PageScript.discloseSame none h

/-- A source that sends the future in another page. -/
def lateScript : PageScript :=
  [("A", [.ok ⟨[newYearRow], some "next"⟩, .ok ⟨[futureRow], none⟩])]

/-- Wherever the future is sent, it brings the same fields, and then nothing of it is noted. -/
theorem notes_tell_carried_fields_lateScript :
    lateScript ≠ indiscreetScript ∧
      (noonBroker.answer (PageScript.source none) (.history rumourRequest) lateScript).diagnostics =
        (noonBroker.answer (PageScript.source none) (.history rumourRequest)
          indiscreetScript).diagnostics := by
  refine ⟨by simp [lateScript, indiscreetScript], ?_⟩
  have hdisclosed := @discloseSame_noonBroker lateScript indiscreetScript rfl
  have hlook : (request (.history rumourRequest)).lookAhead = false := rfl
  have htell := notes_tell_carried_fields noonBroker hlook hdisclosed
  refine htell.1 (List.forall_mem_singleton.mpr ?_)
  have hlate : (noonBroker.account (PageScript.source none) (.history rumourRequest)
      lateScript).rowsFor (Ticker.stock "A").symbol = [newYearRow, futureRow] := by decide +kernel
  have hindiscreet : (noonBroker.account (PageScript.source none) (.history rumourRequest)
      indiscreetScript).rowsFor (Ticker.stock "A").symbol = [futureRow, newYearRow, futureRow] := by
    decide +kernel
  rw [hlate, hindiscreet, KlineRow.CarrySame]
  decide

/-- The plan of that request. -/
def rumourPlan : Plan where
  tickers := [.stock "A"]
  fields := ["rumour", "close"]
  window := ⟨rumourRequest.start, ⟨.newYear, .lastSecond⟩, false⟩
  frequency := .daily
  flags := ⟨false, true, false⟩

/-- The two sources disclose the same, and still one of them is noted to lack a field: the other one has
the field in a row that is hidden. -/
theorem hidden_field_noted :
    (∀ last, Disclosure.lastObservable? noonBroker.clock .daily = some last →
      (PageScript.source none).DiscloseSame last discreetScript (PageScript.source none)
        indiscreetScript) ∧
    (noonBroker.history (PageScript.source none) rumourRequest discreetScript).diagnostics =
      [.missingFields "A" ["rumour"]] ∧
    (noonBroker.history (PageScript.source none) rumourRequest indiscreetScript).diagnostics = [] := by
  refine ⟨discloseSame_noonBroker rfl, by decide +kernel, ?_⟩
  -- The sorting of several rows does not evaluate, so the table is named and known by its columns.
  obtain ⟨t, ht, hnames, -⟩ := @KlineRow.exists_tableWithin rumourPlan.fields
    [futureRow, newYearRow, futureRow] rumourPlan.window (by decide)
  have hfetch : (PageScript.source none).fetcher () 1000 name (rumourPlan.call (.stock "A"))
      indiscreetScript = ⟨.ok t, [], [("A", [])]⟩ := by
    rw [QuoteSource.fetcher_of_period rfl, QuoteSource.rows_of_next rfl rfl,
      QuoteSource.rowsFrom_of_last rfl rfl, ← ht]
    rfl
  have hcomplete : ¬ t.LacksSome rumourPlan.fields := by
    rintro ⟨-, field, hfield, hlacks⟩
    rw [hnames] at hlacks
    revert field
    decide
  have hnote : rumourPlan.notesOn ⟨rumourPlan.call (.stock "A"), .ok t, []⟩ = [] :=
    (rumourPlan.notes_notesOn _).unique (.complete hcomplete)
  have hplan : (noonBroker.history (PageScript.source none) rumourRequest
      indiscreetScript).diagnostics = (rumourPlan.gatherFrom
        ((PageScript.source none).fetcher () 1000 name) [.stock "A"] indiscreetScript).diagnostics :=
    rfl
  rw [hplan, Plan.gatherFrom, hfetch]
  exact congrArg (· ++ []) hnote

end Broker

end MarketBars
