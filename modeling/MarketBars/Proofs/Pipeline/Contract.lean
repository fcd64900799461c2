import MarketBars.Provider
import MarketBars.Proofs.Pipeline.Gathering
import MarketBars.Proofs.Pipeline.Observation
import MarketBars.Proofs.Table.Reading

/-!
# What a plan asks and what it records

A plan asks its source for one ticker after the other, each symbol once, until an error ends the
fetching. What it records and what it answers can be read off the calls that were made: a ticker whose
source was unavailable is noted and left out, the fields that a table lacks are noted, and any other
error is the answer.

## Main definitions

- `FetchRecord`, `Fetcher.logged` — a call with its outcome, and the source that keeps a list of them
- `Plan.records` — the calls for some tickers in turn
- `Plan.Notes` — what is noted about one outcome
- `Plan.Served` — the calls of a plan, with all that follows from them
-/

namespace MarketBars

/-- One call of a source, and its outcome. -/
structure FetchRecord where
  call : FetchCall
  result : Except DataError Table
  diagnostics : List Diagnostic

namespace FetchRecord

/-- The error of the outcome, if it is one that ends the fetching. -/
def fatal? (x : FetchRecord) : Option DataError :=
  match x.result with
  | .error e => if e.isPerTicker then none else some e
  | .ok _ => none

/-- The source was unavailable. -/
def IsUnavailable (x : FetchRecord) : Prop :=
  ∃ ticker reason, x.result = .error (.sourceUnavailable ticker reason)

theorem fatal?_eq_some_iff {x : FetchRecord} {e : DataError} :
    x.fatal? = some e ↔ x.result = .error e ∧ e.isPerTicker = false := by
  obtain ⟨call, _ | table, notes⟩ := x
  · rename_i e'
    by_cases h : e'.isPerTicker = true
    · have hnone : fatal? ⟨call, .error e', notes⟩ = none := if_pos h
      rw [hnone]
      refine ⟨nofun, ?_⟩
      rintro ⟨⟨⟩, he⟩
      cases h.symm.trans he
    · have hsome : fatal? ⟨call, .error e', notes⟩ = some e' := if_neg h
      rw [hsome]
      constructor
      · rintro ⟨⟩
        exact ⟨rfl, Bool.eq_false_iff.mpr h⟩
      · rintro ⟨⟨⟩, -⟩
        rfl
  · exact ⟨nofun, nofun⟩

theorem fatal?_eq_none_iff {x : FetchRecord} :
    x.fatal? = none ↔ x.IsUnavailable ∨ ∃ table, x.result = .ok table := by
  rw [fatal?, IsUnavailable]
  cases x.result with
  | ok table => simp
  | error e => cases e <;> simp [DataError.isPerTicker]

end FetchRecord

variable {σ : Type}

/-- The same source, which keeps a list of its calls. -/
def Fetcher.logged (fetch : Fetcher σ) : Fetcher (σ × List FetchRecord) := fun call (s, log) =>
  let got := fetch call s
  ⟨got.result, got.diagnostics, got.state, log ++ [⟨call, got.result, got.diagnostics⟩]⟩

theorem Fetcher.logged_mirrors (fetch : Fetcher σ) : fetch.logged.Mirrors Prod.fst fetch :=
  fun _ _ => rfl

namespace Plan

def record (fetch : Fetcher σ) (plan : Plan) (ticker : Ticker) (s : σ) : FetchRecord :=
  ⟨plan.call ticker, (fetch (plan.call ticker) s).result, (fetch (plan.call ticker) s).diagnostics⟩

/-- The calls for some tickers in turn, up to the first one that ends the fetching. -/
def records (fetch : Fetcher σ) (plan : Plan) : List Ticker → σ → List FetchRecord
  | [], _ => []
  | ticker :: rest, s =>
    match (plan.record fetch ticker s).fatal? with
    | some _ => [plan.record fetch ticker s]
    | none =>
      plan.record fetch ticker s :: records fetch plan rest (fetch (plan.call ticker) s).state

/-- What the plan itself notes about a call. -/
def notesOn (plan : Plan) (x : FetchRecord) : List Diagnostic :=
  match x.result with
  | .error e => if e.isPerTicker then [.sourceUnavailable x.call.ticker.symbol e.message] else []
  | .ok table => plan.missingNote x.call.ticker table

def keptOf (plan : Plan) (x : FetchRecord) : Option (Ticker × Table) :=
  plan.kept (x.call.ticker, x.result)

section Records

variable {fetch : Fetcher σ} {plan : Plan} {ticker : Ticker} {tickers : List Ticker} {s : σ}

theorem records_cons_of_fatal {e : DataError} (h : (plan.record fetch ticker s).fatal? = some e)
    (rest : List Ticker) :
    plan.records fetch (ticker :: rest) s = [plan.record fetch ticker s] := by
  rw [records, h]

theorem records_cons (h : (plan.record fetch ticker s).fatal? = none) (rest : List Ticker) :
    plan.records fetch (ticker :: rest) s =
      plan.record fetch ticker s :: plan.records fetch rest (fetch (plan.call ticker) s).state := by
  rw [records, h]

theorem gatherFrom_cons_of_fatal {e : DataError} (h : (plan.record fetch ticker s).fatal? = some e)
    (rest : List Ticker) :
    plan.gatherFrom fetch (ticker :: rest) s =
      ⟨.error e, (plan.record fetch ticker s).diagnostics ++
        plan.notesOn (plan.record fetch ticker s), (fetch (plan.call ticker) s).state⟩ := by
  obtain ⟨hresult, he⟩ := FetchRecord.fatal?_eq_some_iff.mp h
  have hgot : (fetch (plan.call ticker) s).result = .error e := hresult
  simp only [gatherFrom, notesOn, hgot, he, Bool.false_eq_true, if_false, List.append_nil, record]

theorem gatherFrom_cons (h : (plan.record fetch ticker s).fatal? = none) (rest : List Ticker) :
    plan.gatherFrom fetch (ticker :: rest) s =
      ⟨(plan.gatherFrom fetch rest (fetch (plan.call ticker) s).state).result.map
          ((plan.keptOf (plan.record fetch ticker s)).toList ++ ·),
        (plan.record fetch ticker s).diagnostics ++ plan.notesOn (plan.record fetch ticker s) ++
          (plan.gatherFrom fetch rest (fetch (plan.call ticker) s).state).diagnostics,
        (plan.gatherFrom fetch rest (fetch (plan.call ticker) s).state).state⟩ := by
  rcases FetchRecord.fatal?_eq_none_iff.mp h with ⟨t, reason, hresult⟩ | ⟨table, hresult⟩
  · have hgot : (fetch (plan.call ticker) s).result = .error (.sourceUnavailable t reason) := hresult
    have hskip : ∀ got : Except DataError (List (Ticker × Table)),
        got.map (fun more => more) = got := by
      intro got
      cases got <;> rfl
    simp only [gatherFrom, notesOn, keptOf, kept, hresult, hgot, DataError.isPerTicker, if_true,
      Option.toList_none, hskip, List.append_assoc, List.cons_append, List.nil_append]
    rfl
  · have hgot : (fetch (plan.call ticker) s).result = .ok table := hresult
    simp only [gatherFrom, notesOn, keptOf, kept, hresult, hgot]
    rfl

/-- A plan notes what its calls say, in their order. -/
theorem gatherFrom_diagnostics (fetch : Fetcher σ) (plan : Plan) (tickers : List Ticker) (s : σ) :
    (plan.gatherFrom fetch tickers s).diagnostics =
      (plan.records fetch tickers s).flatMap fun x => x.diagnostics ++ plan.notesOn x := by
  induction tickers, s using records.induct fetch plan with
  | case1 s => rfl
  | case2 ticker rest s e h =>
    rw [gatherFrom_cons_of_fatal h, records_cons_of_fatal h, List.flatMap_singleton]
  | case3 ticker rest s h ih => rw [gatherFrom_cons h, records_cons h, List.flatMap_cons, ih]

/-- An error that ends the fetching is what comes of it. -/
theorem gatherFrom_of_fatal {x : FetchRecord} {e : DataError} (hx : x ∈ plan.records fetch tickers s)
    (he : x.fatal? = some e) : (plan.gatherFrom fetch tickers s).result = .error e := by
  induction tickers, s using records.induct fetch plan with
  | case1 s => cases hx
  | case2 ticker rest s e' h =>
    rw [records_cons_of_fatal h, List.mem_singleton] at hx
    rw [gatherFrom_cons_of_fatal h, Option.some.inj (h.symm.trans (hx ▸ he))]
  | case3 ticker rest s h ih =>
    rw [records_cons h] at hx
    rcases List.mem_cons.mp hx with rfl | hx
    · cases h.symm.trans he
    · rw [gatherFrom_cons h, ih hx]
      rfl

/-- Without such an error the tables of all calls are kept. -/
theorem gatherFrom_of_complete (hall : ∀ x ∈ plan.records fetch tickers s, x.fatal? = none) :
    (plan.gatherFrom fetch tickers s).result =
      .ok ((plan.records fetch tickers s).filterMap plan.keptOf) := by
  induction tickers, s using records.induct fetch plan with
  | case1 s => rfl
  | case2 ticker rest s e h =>
    rw [records_cons_of_fatal h] at hall
    cases h.symm.trans (hall _ List.mem_cons_self)
  | case3 ticker rest s h ih =>
    rw [records_cons h] at hall ⊢
    rw [gatherFrom_cons h, ih fun x hx => hall x (List.mem_cons_of_mem _ hx), List.filterMap_cons]
    cases plan.keptOf (plan.record fetch ticker s) <;> rfl

/-- An error is what comes of the calls for some tickers exactly when it ends the fetching at one of them,
after the calls for the tickers before it. -/
theorem gatherFrom_eq_error_iff {e : DataError} : (plan.gatherFrom fetch tickers s).result = .error e ↔
    ∃ earlier ticker later, tickers = earlier ++ ticker :: later ∧
      (∃ tables, (plan.gatherFrom fetch earlier s).result = .ok tables) ∧
      (plan.record fetch ticker (plan.gatherFrom fetch earlier s).state).fatal? = some e := by
  induction tickers, s using records.induct fetch plan with
  | case1 s =>
    refine ⟨nofun, ?_⟩
    rintro ⟨earlier, ticker, later, hsplit, -⟩
    exact absurd hsplit.symm (List.append_ne_nil_of_right_ne_nil _ (List.cons_ne_nil _ _))
  | case2 ticker rest s e' h =>
    rw [gatherFrom_cons_of_fatal h, Except.error.injEq]
    constructor
    · rintro rfl
      exact ⟨[], ticker, rest, rfl, ⟨[], rfl⟩, h⟩
    · rintro ⟨_ | ⟨first, earlier⟩, other, later, hsplit, ⟨tables, htables⟩, hfatal⟩
      · cases hsplit
        exact Option.some.inj (h.symm.trans hfatal)
      · -- The calls for the tickers before it would have ended with the first one.
        cases hsplit
        rw [gatherFrom_cons_of_fatal h] at htables
        cases htables
  | case3 ticker rest s h ih =>
    rw [gatherFrom_cons h, map_eq_error_iff, ih]
    constructor
    · rintro ⟨earlier, other, later, rfl, ⟨tables, htables⟩, hfatal⟩
      refine ⟨ticker :: earlier, other, later, rfl, ?_, ?_⟩
      · rw [gatherFrom_cons h, htables]
        exact ⟨_, rfl⟩
      · rw [gatherFrom_cons h]
        exact hfatal
    · rintro ⟨_ | ⟨first, earlier⟩, other, later, hsplit, ⟨tables, htables⟩, hfatal⟩
      · cases hsplit
        cases h.symm.trans hfatal
      · cases hsplit
        rw [gatherFrom_cons h] at htables hfatal
        obtain ⟨more, hmore, -⟩ := map_eq_ok_iff.mp htables
        exact ⟨earlier, other, later, rfl, ⟨more, hmore⟩, hfatal⟩

/-- The tickers are asked for in their order, up to some point. -/
theorem calls_prefix (fetch : Fetcher σ) (plan : Plan) (tickers : List Ticker) (s : σ) :
    (plan.records fetch tickers s).map FetchRecord.call <+: tickers.map plan.call := by
  induction tickers, s using records.induct fetch plan with
  | case1 s => exact List.nil_prefix
  | case2 ticker rest s e h =>
    rw [records_cons_of_fatal h]
    exact (List.prefix_cons_inj _).mpr List.nil_prefix
  | case3 ticker rest s h ih =>
    rw [records_cons h]
    exact (List.prefix_cons_inj _).mpr ih

/-- Without an error that ends the fetching, all of them are. -/
theorem calls_of_complete (hall : ∀ x ∈ plan.records fetch tickers s, x.fatal? = none) :
    (plan.records fetch tickers s).map FetchRecord.call = tickers.map plan.call := by
  induction tickers, s using records.induct fetch plan with
  | case1 s => rfl
  | case2 ticker rest s e h =>
    rw [records_cons_of_fatal h] at hall
    cases h.symm.trans (hall _ List.mem_cons_self)
  | case3 ticker rest s h ih =>
    rw [records_cons h] at hall ⊢
    rw [List.map_cons, ih fun x hx => hall x (List.mem_cons_of_mem _ hx)]
    rfl

/-- No call is made after an error that ends the fetching. -/
theorem fatal?_of_mem_dropLast {x : FetchRecord}
    (hx : x ∈ (plan.records fetch tickers s).dropLast) : x.fatal? = none := by
  induction tickers, s using records.induct fetch plan with
  | case1 s => cases hx
  | case2 ticker rest s e h =>
    rw [records_cons_of_fatal h] at hx
    cases hx
  | case3 ticker rest s h ih =>
    rw [records_cons h] at hx
    -- A call that does not end the fetching may still be the last one, for want of tickers.
    by_cases hrest : plan.records fetch rest (fetch (plan.call ticker) s).state = []
    · rw [hrest] at hx
      cases hx
    · rw [List.dropLast_cons_of_ne_nil hrest] at hx
      rcases List.mem_cons.mp hx with rfl | hx
      · exact h
      · exact ih hx

theorem logged_gatherFrom (fetch : Fetcher σ) (plan : Plan) (tickers : List Ticker) (s : σ)
    (earlier : List FetchRecord) :
    (plan.gatherFrom fetch.logged tickers (s, earlier)).state.2 =
      earlier ++ plan.records fetch tickers s := by
  -- The list does not matter for what the source does.
  have hsame : ∀ ticker s earlier,
      plan.record fetch.logged ticker (s, earlier) = plan.record fetch ticker s := fun _ _ _ => rfl
  induction tickers, s using records.induct fetch plan generalizing earlier with
  | case1 s => exact (List.append_nil earlier).symm
  | case2 ticker rest s e h =>
    rw [gatherFrom_cons_of_fatal ((congrArg _ (hsame ticker s earlier)).trans h),
      records_cons_of_fatal h]
    rfl
  | case3 ticker rest s h ih =>
    rw [gatherFrom_cons ((congrArg _ (hsame ticker s earlier)).trans h), records_cons h]
    exact (ih _).trans (List.append_assoc _ _ _)

end Records

/-- What is noted about the outcome of a call, given the requested fields and the symbol: an unavailable
source, or the set of the fields that a table lacks, in ascending order. -/
inductive Notes (fields : List String) (symbol : String) :
    Except DataError Table → List Diagnostic → Prop
  | unavailable (ticker reason : String) :
    Notes fields symbol (.error (.sourceUnavailable ticker reason))
      [.sourceUnavailable symbol (DataError.sourceUnavailable ticker reason).message]
  | fatal {e : DataError} (h : e.isPerTicker = false) : Notes fields symbol (.error e) []
  | complete {t : Table} (h : ¬ t.LacksSome fields) : Notes fields symbol (.ok t) []
  | missing {t : Table} {names : List String} (h : t.LacksSome fields)
    (hascending : names.Pairwise (· < ·))
    (hmem : ∀ field, field ∈ names ↔ field ∈ fields ∧ field ∉ t.names) :
    Notes fields symbol (.ok t) [.missingFields symbol names]

/-- What is noted about an outcome is determined by it. -/
theorem Notes.unique {fields : List String} {symbol : String} {result : Except DataError Table}
    {notes notes' : List Diagnostic} (h : Notes fields symbol result notes)
    (h' : Notes fields symbol result notes') : notes = notes' := by
  cases h with
  | unavailable ticker reason =>
    cases h' with
    | unavailable => rfl
    | fatal h => cases h
  | fatal h =>
    cases h' with
    | unavailable => cases h
    | fatal => rfl
  | complete h =>
    cases h' with
    | complete => rfl
    | missing h' => exact absurd h' h
  | missing h hascending hmem =>
    cases h' with
    | complete h' => exact absurd h h'
    | missing _ hascending' hmem' =>
      have hnames := eq_of_ascending (fun _ _ => String.lt_asymm) hascending hascending'
        fun field => (hmem field).trans (hmem' field).symm
      rw [hnames]

theorem notes_notesOn (plan : Plan) (x : FetchRecord) :
    Notes plan.fields x.call.ticker.symbol x.result (plan.notesOn x) := by
  obtain ⟨call, e | table, notes⟩ := x
  · cases e with
    | sourceUnavailable ticker reason => exact .unavailable ticker reason
    | _ => exact .fatal rfl
  · simp only [notesOn, missingNote]
    split
    · rename_i h
      exact .complete fun hlacks => Bool.false_ne_true (Table.lacksSome_iff.mp hlacks ▸ h)
    · rename_i h
      refine .missing ?_ (sortedDistinct_ascending _) fun _ => Table.mem_missing
      exact Table.lacksSome_iff.mpr (Bool.eq_false_iff.mpr h)

section Answers

variable {fetch : Fetcher σ} {plan : Plan} {s : σ}

/-- Tables are no data when there are none, although there are tickers. -/
theorem answer_eq_noDataFound_iff {tables : List (Ticker × Table)} {names : String} :
    plan.answer tables = .error (.noDataFound names) ↔
      tables = [] ∧ plan.tickers ≠ [] ∧
        names = String.intercalate ", " (plan.tickers.map Ticker.symbol) := by
  have hdata : (tables.isEmpty && !plan.tickers.isEmpty) = true ↔
      tables = [] ∧ plan.tickers ≠ [] := by simp
  rw [answer_eq]
  split
  · rename_i h
    obtain ⟨htables, htickers⟩ := hdata.mp h
    rw [Except.error.injEq, DataError.noDataFound.injEq]
    exact ⟨fun heq => ⟨htables, htickers, heq.symm⟩, fun heq => heq.2.2.symm⟩
  · rename_i h
    refine ⟨fun herror => ?_, fun hnone => absurd (hdata.mpr ⟨hnone.1, hnone.2.1⟩) h⟩
    cases hstamps : Cube.stampsOf tables with
    | error e =>
      -- A timestamp that cannot be read is an error of another kind.
      obtain ⟨reason, rfl⟩ := Cube.stampsOf_eq_error hstamps
      rw [hstamps] at herror
      cases herror
    | ok stamps =>
      rw [hstamps] at herror
      cases herror

theorem exists_answer {tables : List (Ticker × Table)} (h : tables ≠ [] ∨ plan.tickers = [])
    (hstamps : ∀ entry ∈ tables, ∃ ts, entry.2.stamps = .ok ts) :
    ∃ history, plan.answer tables = .ok history := by
  have hdata : ¬ (tables.isEmpty && !plan.tickers.isEmpty) = true := by
    rcases h with h | h <;> simp [h]
  obtain ⟨stamps, hread⟩ := exists_mapM hstamps
  rw [answer_eq, if_neg hdata, Cube.stampsOf_eq_mapM, hread]
  exact ⟨_, rfl⟩

theorem keptOf_eq_none_iff {x : FetchRecord} (h : x.fatal? = none) :
    plan.keptOf x = none ↔ x.IsUnavailable := by
  rw [keptOf]
  rcases FetchRecord.fatal?_eq_none_iff.mp h with hx | ⟨table, hx⟩
  · refine ⟨fun _ => hx, fun _ => ?_⟩
    obtain ⟨ticker, reason, hresult⟩ := hx
    rw [hresult]
    rfl
  · rw [FetchRecord.IsUnavailable, hx]
    exact ⟨nofun, nofun⟩

theorem run_of_fatal (hwindow : plan.window.isEmpty = false) {x : FetchRecord} {e : DataError}
    (hx : x ∈ plan.records fetch (distinctTickers plan.tickers) s) (he : x.fatal? = some e) :
    (plan.run fetch s).result = .error e := by
  rw [run_of_not_isEmpty hwindow, gatherFrom_of_fatal hx he]
  rfl

theorem run_of_complete (hwindow : plan.window.isEmpty = false)
    (hall : ∀ x ∈ plan.records fetch (distinctTickers plan.tickers) s, x.fatal? = none) :
    (plan.run fetch s).result = plan.answer
      ((plan.records fetch (distinctTickers plan.tickers) s).filterMap plan.keptOf) := by
  rw [run_of_not_isEmpty hwindow, gatherFrom_of_complete hall]
  rfl

/-- A plan with an empty window is answered without a value for any of its labels. -/
theorem exists_run_of_isEmpty (hwindow : plan.window.isEmpty = true) :
    ∃ history, (plan.run fetch s).result = .ok history ∧
      history.Shows plan.flags [] plan.tickers plan.fields fun _ _ _ => none := by
  have hdata : ¬ (((distinctTickers plan.tickers).map fun t => (t, Table.empty)).isEmpty &&
      !plan.tickers.isEmpty) = true := by
    cases plan.tickers <;> exact Bool.false_ne_true
  have hread : ∀ entry ∈ (distinctTickers plan.tickers).map fun t => (t, Table.empty),
      ∃ ts, entry.2.stamps = .ok ts := by
    intro entry hentry
    obtain ⟨t, -, rfl⟩ := List.mem_map.mp hentry
    exact ⟨[], rfl⟩
  obtain ⟨stamps, hstamps⟩ := exists_mapM hread
  rw [← Cube.stampsOf_eq_mapM] at hstamps
  have hdates : Cube.sortedInstants stamps.flatten = [] := by
    rw [List.eq_nil_iff_forall_not_mem]
    intro date hdate
    rw [Cube.mem_sortedInstants, Cube.mem_flatten_of_stampsOf hstamps] at hdate
    obtain ⟨entry, hentry, r, hr, -⟩ := hdate
    obtain ⟨t, -, rfl⟩ := List.mem_map.mp hentry
    cases hr
  rw [run_of_isEmpty hwindow, answer_eq, if_neg hdata, hstamps, Except.map, hdates]
  refine ⟨_, rfl, ?_⟩
  have hshows := Cube.shows_panel []
    (Cube.lookup ((distinctTickers plan.tickers).map fun t => (t, Table.empty))) plan.tickers
    plan.fields plan.flags
  refine ⟨hshows.rank_eq, hshows.dates_eq, hshows.tickers_eq, hshows.fields_eq, fun d t f => ?_⟩
  rw [hshows.cell_eq]
  cases plan.flags.date <;> rfl

theorem exists_of_keptOf {x : FetchRecord} {entry : Ticker × Table} (h : plan.keptOf x = some entry) :
    ∃ table, x.result = .ok table ∧ entry = (x.call.ticker, table.project plan.fields) := by
  obtain ⟨call, e | table, notes⟩ := x
  · cases h
  · exact ⟨table, rfl, (Option.some.inj h).symm⟩

end Answers

/-- The calls of a plan, and what follows from them. -/
structure Served (plan : Plan) (log : List FetchRecord) (run : Run σ (Except DataError History)) :
    Prop where
  calls_prefix : log.map FetchRecord.call <+: (distinctTickers plan.tickers).map plan.call
  /-- No call is made after an error other than an unavailable source. -/
  fatal_last : ∀ x ∈ log.dropLast, x.fatal? = none
  fatal_returned : ∀ x ∈ log, ∀ e, x.fatal? = some e → run.result = .error e
  calls_all : (∀ x ∈ log, x.fatal? = none) →
    log.map FetchRecord.call = (distinctTickers plan.tickers).map plan.call
  /-- What is recorded about a call comes after what the source itself records in it. -/
  noted : ∃ notes : FetchRecord → List Diagnostic,
    (∀ x ∈ log, Notes plan.fields x.call.ticker.symbol x.result (notes x)) ∧
      run.diagnostics = log.flatMap fun x => x.diagnostics ++ notes x
  /-- No data were found when there are tickers, all were asked for and the source was unavailable for
  each of them. A source may also have that error of its own, which is then returned like any other. -/
  noDataFound_iff : ∀ names, run.result = .error (.noDataFound names) ↔
    (∃ x ∈ log, x.fatal? = some (.noDataFound names)) ∨
      (plan.tickers ≠ [] ∧ log.map FetchRecord.call = (distinctTickers plan.tickers).map plan.call ∧
        (∀ x ∈ log, x.IsUnavailable) ∧
        names = String.intercalate ", " (plan.tickers.map Ticker.symbol))
  /-- In all other cases there is an answer, if the tables are made of columns and have no row at a leap
  second that ends the calendar. -/
  answered : (∀ x ∈ log, x.fatal? = none) →
    (plan.tickers = [] ∨ ∃ x ∈ log, ¬ x.IsUnavailable) →
    (∀ x ∈ log, ∀ t, x.result = .ok t →
      t.Made ∧ ∀ r ∈ t.rows, ∀ ms, r.stamp = .moment ms → ms < Instant.endMillis) →
    ∃ history, run.result = .ok history

theorem served_records {plan : Plan} (hwindow : plan.window.isEmpty = false) (fetch : Fetcher σ)
    (s : σ) : plan.Served (plan.records fetch (distinctTickers plan.tickers) s) (plan.run fetch s) where
  calls_prefix := calls_prefix fetch plan _ s
  fatal_last _ := fatal?_of_mem_dropLast
  fatal_returned _ hx _ he := run_of_fatal hwindow hx he
  calls_all := calls_of_complete
  noted := by
    refine ⟨plan.notesOn, fun x _ => plan.notes_notesOn x, ?_⟩
    rw [← gatherFrom_diagnostics, run_of_not_isEmpty hwindow]
  noDataFound_iff names := by
    -- Either every ticker was asked for and the tables decide, or an error of the source is returned.
    by_cases hall : ∀ x ∈ plan.records fetch (distinctTickers plan.tickers) s, x.fatal? = none
    · have hempty : (plan.records fetch (distinctTickers plan.tickers) s).filterMap plan.keptOf = [] ↔
          ∀ x ∈ plan.records fetch (distinctTickers plan.tickers) s, x.IsUnavailable := by
        rw [List.filterMap_eq_nil_iff]
        exact forall₂_congr fun x hx => keptOf_eq_none_iff (hall x hx)
      rw [run_of_complete hwindow hall, answer_eq_noDataFound_iff, hempty]
      constructor
      · rintro ⟨hunavailable, htickers, hnames⟩
        exact .inr ⟨htickers, calls_of_complete hall, hunavailable, hnames⟩
      · rintro (⟨x, hx, he⟩ | ⟨htickers, -, hunavailable, hnames⟩)
        · cases (hall x hx).symm.trans he
        · exact ⟨hunavailable, htickers, hnames⟩
    · obtain ⟨x, hx, hfatal⟩ : ∃ x ∈ plan.records fetch (distinctTickers plan.tickers) s,
          x.fatal? ≠ none := by simpa using hall
      obtain ⟨e, he⟩ := Option.ne_none_iff_exists'.mp hfatal
      constructor
      · intro hresult
        cases (run_of_fatal hwindow hx he).symm.trans hresult
        exact .inl ⟨x, hx, he⟩
      · rintro (⟨y, hy, hnames⟩ | ⟨-, -, hunavailable, -⟩)
        · exact run_of_fatal hwindow hy hnames
        · exact absurd (FetchRecord.fatal?_eq_none_iff.mpr (.inl (hunavailable x hx))) hfatal
  answered hall hdata hmade := by
    rw [run_of_complete hwindow hall]
    refine exists_answer ?_ ?_
    · rcases hdata with htickers | ⟨x, hx, havailable⟩
      · exact .inr htickers
      · refine .inl fun hempty => havailable ?_
        exact (keptOf_eq_none_iff (hall x hx)).mp (List.filterMap_eq_nil_iff.mp hempty x hx)
    · intro entry hentry
      obtain ⟨x, hx, hkept⟩ := List.mem_filterMap.mp hentry
      obtain ⟨table, hresult, rfl⟩ := exists_of_keptOf hkept
      obtain ⟨hmade', hend⟩ := hmade x hx table hresult
      rw [Table.stamps_project]
      exact hmade'.exists_stamps hend

/-- A plan with an empty window makes no call, records nothing, and is answered without any value. Any
other plan makes its calls one after the other and keeps to what they say. -/
theorem run_contract (plan : Plan) (fetch : Fetcher σ) (s : σ) (earlier : List FetchRecord) :
    (plan.window.isEmpty = true →
      (plan.run fetch.logged (s, earlier)).state = (s, earlier) ∧
        (plan.run fetch s).diagnostics = [] ∧
        ∃ history, (plan.run fetch s).result = .ok history ∧
          history.Shows plan.flags [] plan.tickers plan.fields fun _ _ _ => none) ∧
    (plan.window.isEmpty = false →
      ∃ log, plan.run fetch.logged (s, earlier) =
          ⟨(plan.run fetch s).result, (plan.run fetch s).diagnostics,
            ((plan.run fetch s).state, earlier ++ log)⟩ ∧
        plan.Served log (plan.run fetch s)) := by
  refine ⟨fun hwindow => ⟨?_, ?_, exists_run_of_isEmpty hwindow⟩, fun hwindow => ?_⟩
  · rw [run_of_isEmpty hwindow]
  · rw [run_of_isEmpty hwindow]
  · refine ⟨_, ?_, served_records hwindow fetch s⟩
    have hmirrors := fetch.logged_mirrors.run plan (s, earlier)
    have hlog : (plan.run fetch.logged (s, earlier)).state.2 =
        earlier ++ plan.records fetch (distinctTickers plan.tickers) s := by
      rw [← logged_gatherFrom, run_of_not_isEmpty hwindow]
    rw [hmirrors, ← hlog]
    rfl

/-- The opening price of a day. -/
def oneOpening : Table where
  names := ["open"]
  rows := [⟨.moment (Instant.startOf .newYear).millis, [.number (.ofInt 1)]⟩]
  names_nodup := by decide
  stampName_not_mem := by decide
  aligned := by decide

/-- Tables for two symbols, and an error for a third one. -/
def mixedTables : RecordedTables :=
  [("A", .ok oneOpening), ("C", .error (.config "no folder")), ("D", .ok oneOpening)]

/-- A plan for two fields of five tickers, of which two have one symbol. -/
def mixedPlan : Plan where
  tickers := [.stock "A", .stock "B", .index "A", .stock "C", .stock "D"]
  fields := ["close", "open"]
  window := ⟨.startOf .newYear, .startOf .afterNewYear, false⟩
  frequency := .daily
  flags := ⟨false, false, false⟩

/-- The first symbol is asked for once and lacks a field, the second one is unavailable, the third one
ends the plan, and the fourth one is not asked for. -/
theorem run_contract_mixedTables :
    ∃ log, mixedPlan.Served log (mixedPlan.run mixedTables.fetcher []) ∧
      log.map (fun x => x.call.ticker.symbol) = ["A", "B", "C"] ∧
      (mixedPlan.run mixedTables.fetcher []).result = .error (.config "no folder") ∧
      (mixedPlan.run mixedTables.fetcher []).diagnostics = [.missingFields "A" ["close"],
        .sourceUnavailable "B" "source unavailable for 'B': unknown symbol"] := by
  obtain ⟨log, hrun, hserved⟩ := (run_contract mixedPlan mixedTables.fetcher [] []).2 rfl
  have hlog : [
      ⟨mixedPlan.call (.stock "A"), .ok (oneOpening.dedupFirst.within mixedPlan.window.start
        mixedPlan.window.stop), []⟩,
      ⟨mixedPlan.call (.stock "B"), .error (.sourceUnavailable "B" "unknown symbol"), []⟩,
      ⟨mixedPlan.call (.stock "C"), .error (.config "no folder"), []⟩] = log :=
    congrArg (fun run => run.state.2) hrun
  have hrows : (oneOpening.dedupFirst.within mixedPlan.window.start mixedPlan.window.stop).rows =
      oneOpening.rows := by
    have hsorted : oneOpening.dedupFirst.rows = oneOpening.rows := List.mergeSort_singleton _
    exact (congrArg (List.filter _) hsorted).trans rfl
  subst hlog
  refine ⟨_, hserved, rfl, ?_, ?_⟩
  · exact hserved.fatal_returned _ (List.getLast_mem (List.cons_ne_nil _ _)) _ rfl
  · obtain ⟨notes, hnotes, hdiagnostics⟩ := hserved.noted
    simp only [List.forall_mem_cons] at hnotes
    obtain ⟨hA, hB, hC, -⟩ := hnotes
    have hmissing : Notes mixedPlan.fields "A" (.ok (oneOpening.dedupFirst.within mixedPlan.window.start
        mixedPlan.window.stop)) [.missingFields "A" ["close"]] := by
      refine .missing ⟨?_, "close", by decide, by decide⟩ (List.pairwise_singleton _ _) ?_
      · rw [hrows]
        exact List.cons_ne_nil _ _
      · intro field
        change _ ↔ field ∈ ["close", "open"] ∧ field ∉ ["open"]
        grind
    have hfatal : Notes mixedPlan.fields "C" (.error (.config "no folder")) [] := .fatal rfl
    rw [hdiagnostics, List.flatMap_cons, List.flatMap_cons, List.flatMap_cons, hA.unique hmissing,
      hB.unique (.unavailable _ _), hC.unique hfatal]
    rfl

end Plan

end MarketBars
