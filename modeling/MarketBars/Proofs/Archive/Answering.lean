import MarketBars.Archive.Snapshot
import MarketBars.Proofs.Outcome
import MarketBars.Proofs.Pipeline.Contract
import MarketBars.Proofs.Pipeline.Pointwise

namespace MarketBars

/-- The symbol whose source is noted as unavailable. -/
def Diagnostic.unavailable? : Diagnostic → Option String
  | .sourceUnavailable symbol _ => some symbol
  | _ => none

theorem Diagnostic.mem_unavailable_iff {notes : List Diagnostic} {symbol : String} :
    symbol ∈ notes.filterMap unavailable? ↔ ∃ reason, .sourceUnavailable symbol reason ∈ notes := by
  rw [List.mem_filterMap]
  constructor
  · rintro ⟨note, hnote, hsymbol⟩
    cases note <;> cases hsymbol
    exact ⟨_, hnote⟩
  · rintro ⟨reason, hnote⟩
    exact ⟨_, hnote, rfl⟩

namespace Snapshot

variable {σ : Type} {s s₁ s₂ : Snapshot} {clock : MarketClock} {r : HistoryRequest}

/-- A request that is served is answered by a plan for the tickers that it comes to. -/
theorem history_of_window {window : Window} (hfrequency : r.frequency?.getD s.frequency = s.frequency)
    (hkinds : checkKinds name kinds r.tickers.toList = .ok ())
    (hwindow : Window.ofRequest? clock r.start r.stop? s.frequency r.lookAhead = some window)
    (state : σ) :
    s.history clock r state =
      ((r.plan (s.expand r.tickers.toList) (r.tickers.isSingle && !s.expands r.tickers.toList) window
        s.frequency).run (if window.isEmpty then Fetcher.nothing else s.fetcher) state).lift := by
  rw [history, hfrequency, if_neg (fun h => h rfl)]
  simp only [hkinds, hwindow]

/-- A request is served in a window that is not empty. -/
structure Serves (s : Snapshot) (clock : MarketClock) (r : HistoryRequest) (w : Window) : Prop where
  frequency_eq : r.frequency?.getD s.frequency = s.frequency
  kinds_ok : checkKinds name kinds r.tickers.toList = .ok ()
  window_eq : Window.ofRequest? clock r.start r.stop? s.frequency r.lookAhead = some w
  not_isEmpty : w.isEmpty = false

/-- The rows of a ticker inside a window, if it has a table. -/
def slice? (s : Snapshot) (w : Window) (t : Ticker) : Option Table :=
  (s.table? t.symbol).map fun table => table.within w.start w.stop

/-- The value of a date and a field in the rows of a ticker inside a window. -/
def valueIn (s : Snapshot) (w : Window) (date : Instant) (t : Ticker) (field : String) : Value :=
  (s.slice? w t).bind fun rows => Cube.valueAt rows date field

/-- The table that a plan keeps of a ticker. -/
def keptSlice (s : Snapshot) (plan : Plan) (t : Ticker) : Option (Ticker × Table) :=
  (s.slice? plan.window t).map fun rows => (t, rows.project plan.fields)

def sliceNotes (s : Snapshot) (plan : Plan) (t : Ticker) : List Diagnostic :=
  match s.slice? plan.window t with
  | none => [.sourceUnavailable t.symbol
      (DataError.sourceUnavailable t.symbol "not in the loaded snapshot").message]
  | some rows => plan.missingNote t rows

section Gathering

variable {plan : Plan}

theorem slice?_congr {w : Window} {t u : Ticker} (h : t.symbol = u.symbol) :
    s.slice? w t = s.slice? w u := by
  rw [slice?, slice?, h]

theorem slice?_eq_none_iff {w : Window} {t : Ticker} :
    s.slice? w t = none ↔ s.table? t.symbol = none :=
  Option.map_eq_none_iff

theorem gatherFrom_fetcher (s : Snapshot) (plan : Plan) (tickers : List Ticker) (state : σ) :
    plan.gatherFrom s.fetcher tickers state =
      ⟨.ok (tickers.filterMap (s.keptSlice plan)), tickers.flatMap (s.sliceNotes plan), state⟩ := by
  induction tickers with
  | nil => rfl
  | cons t rest ih =>
    have hticker : (plan.call t).ticker = t := rfl
    have hwindow : (plan.call t).window = plan.window := rfl
    cases htable : s.table? t.symbol with
    | none =>
      have hslice : s.slice? plan.window t = none := slice?_eq_none_iff.mpr htable
      simp only [Plan.gatherFrom, fetcher, hticker, htable, ih, DataError.isPerTicker, if_true,
        List.filterMap_cons, List.flatMap_cons, keptSlice, sliceNotes, hslice]
      rfl
    | some table =>
      have hslice : s.slice? plan.window t =
          some (table.within plan.window.start plan.window.stop) := by rw [slice?, htable]; rfl
      simp only [Plan.gatherFrom, fetcher, hticker, hwindow, htable, ih, List.filterMap_cons,
        List.flatMap_cons, keptSlice, sliceNotes, hslice]
      rfl

theorem run_fetcher (hwindow : plan.window.isEmpty = false) (state : σ) :
    plan.run s.fetcher state =
      ⟨plan.answer ((distinctTickers plan.tickers).filterMap (s.keptSlice plan)),
        (distinctTickers plan.tickers).flatMap (s.sliceNotes plan), state⟩ := by
  rw [Plan.run, Plan.gather, hwindow, if_neg Bool.false_ne_true, gatherFrom_fetcher]

/-- The gathered tables have the values of every ticker of a plan, whichever of the tickers with its symbol
was the one that counted. -/
theorem lookup_keptSlice {tickers : List Ticker} {t : Ticker}
    (ht : ∃ u ∈ tickers, u.symbol = t.symbol) (date : Instant) {field : String}
    (hfield : field ∈ plan.fields) :
    Cube.lookup (tickers.filterMap (s.keptSlice plan)) date t field =
      s.valueIn plan.window date t field := by
  have hentry : ∀ e ∈ tickers.filterMap (s.keptSlice plan), e.1.same t = true →
      ∃ rows, s.slice? plan.window t = some rows ∧ e.2 = rows.project plan.fields := by
    intro e he hsame
    obtain ⟨u, -, hu⟩ := List.mem_filterMap.mp he
    obtain ⟨rows, hrows, rfl⟩ := Option.map_eq_some_iff.mp hu
    exact ⟨rows, (slice?_congr (eq_of_beq hsame)).symm.trans hrows, rfl⟩
  rw [Cube.lookup, valueIn]
  cases hfind : (tickers.filterMap (s.keptSlice plan)).find? fun e => e.1.same t with
  | some e =>
    have hsame := List.find?_some hfind
    obtain ⟨rows, hrows, he⟩ := hentry e (List.mem_of_find?_eq_some hfind) hsame
    rw [hrows, Option.bind_some, Option.bind_some, he, Table.valueAt_project rows hfield]
  | none =>
    cases hslice : s.slice? plan.window t with
    | none => rfl
    | some rows =>
      obtain ⟨u, hu, hsymbol⟩ := ht
      have hkept : s.keptSlice plan u = some (u, rows.project plan.fields) := by
        rw [keptSlice, slice?_congr hsymbol, hslice]
        rfl
      exact absurd (beq_iff_eq.mpr hsymbol)
        (List.find?_eq_none.mp hfind _ (List.mem_filterMap.mpr ⟨u, hu, hkept⟩))

theorem exists_distinct_symbol {tickers : List Ticker} {t : Ticker} (ht : t ∈ tickers) :
    ∃ u ∈ distinctTickers tickers, u.symbol = t.symbol :=
  List.mem_map.mp ((mem_map_distinctBy Ticker.symbol tickers t.symbol).mpr (List.mem_map_of_mem ht))

/-- An answer from a snapshot shows the rows of each ticker inside the window, on the dates on which they
say something. -/
theorem run_fetcher_shows (hwindow : plan.window.isEmpty = false) {state : σ} {history : History}
    (h : (plan.run s.fetcher state).result = .ok history) :
    ∃ dates : List Instant, dates.Pairwise (· < ·) ∧
      (∀ date, date ∈ dates ↔ ∃ t ∈ plan.tickers, ∃ field ∈ plan.fields,
        s.valueIn plan.window date t field ≠ none) ∧
      history.Shows plan.flags dates plan.tickers plan.fields (s.valueIn plan.window) := by
  obtain ⟨tables, stamps, hgather, hstamps, rfl⟩ := Plan.run_eq_ok h
  rw [Plan.gather, hwindow, if_neg Bool.false_ne_true, gatherFrom_fetcher] at hgather
  cases hgather
  have hvalue : ∀ date, ∀ t ∈ plan.tickers, ∀ field ∈ plan.fields,
      Cube.lookup ((distinctTickers plan.tickers).filterMap (s.keptSlice plan)) date t field =
        s.valueIn plan.window date t field :=
    fun date t ht field hfield => lookup_keptSlice (exists_distinct_symbol ht) date hfield
  refine ⟨_, (Cube.sortedInstants_pairwise _).filter _, fun date => ?_,
    (Cube.shows_panel _ _ _ _ _).congr hvalue⟩
  simp only [List.mem_filter, List.any_eq_true, Cube.mem_sortedInstants]
  constructor
  · rintro ⟨-, t, ht, field, hfield, hv⟩
    rw [hvalue date t ht field hfield] at hv
    exact ⟨t, ht, field, hfield, Option.isSome_iff_ne_none.mp hv⟩
  · rintro ⟨t, ht, field, hfield, hv⟩
    rw [← hvalue date t ht field hfield] at hv
    exact ⟨Plan.mem_flatten_of_lookup hstamps hv, t, ht, field, hfield,
      Option.isSome_iff_ne_none.mpr hv⟩

theorem filterMap_keptSlice_eq_nil_iff {tickers : List Ticker} :
    (distinctTickers tickers).filterMap (s.keptSlice plan) = [] ↔
      ∀ t ∈ tickers, s.table? t.symbol = none := by
  have hkept : ∀ t, s.keptSlice plan t = none ↔ s.table? t.symbol = none := fun t =>
    Option.map_eq_none_iff.trans slice?_eq_none_iff
  simp only [List.filterMap_eq_nil_iff, hkept]
  constructor
  · intro h t ht
    obtain ⟨u, hu, hsymbol⟩ := exists_distinct_symbol ht
    exact hsymbol ▸ h u hu
  · intro h t ht
    exact h t ((distinctAfter_sublist _ _ _).subset ht)

/-- With a table there is an answer, and without tickers as well. -/
theorem exists_run_fetcher (hwindow : plan.window.isEmpty = false)
    (hinstants : ∀ symbol table, s.table? symbol = some table →
      ∀ row ∈ table.rows, ∃ d, row.instant? = some d)
    (h : ¬(plan.tickers ≠ [] ∧ ∀ t ∈ plan.tickers, s.table? t.symbol = none)) (state : σ) :
    ∃ history, (plan.run s.fetcher state).result = .ok history := by
  rw [run_fetcher hwindow]
  refine Plan.exists_answer ?_ ?_
  · rw [ne_eq, filterMap_keptSlice_eq_nil_iff]
    by_cases htickers : plan.tickers = []
    · exact .inr htickers
    · exact .inl fun hnone => h ⟨htickers, hnone⟩
  · intro e he
    obtain ⟨t, -, ht⟩ := List.mem_filterMap.mp he
    obtain ⟨rows, hrows, rfl⟩ := Option.map_eq_some_iff.mp ht
    obtain ⟨table, htable, rfl⟩ := Option.map_eq_some_iff.mp hrows
    rw [Table.stamps_project]
    exact Table.exists_stamps_of_instants fun row hrow =>
      hinstants _ table htable row (List.mem_filter.mp hrow).1

theorem unavailable_sliceNotes (t : Ticker) :
    (s.sliceNotes plan t).filterMap Diagnostic.unavailable? =
      if (s.table? t.symbol).isNone then [t.symbol] else [] := by
  rw [sliceNotes, slice?]
  cases s.table? t.symbol with
  | none => rfl
  | some table =>
    show (plan.missingNote t _).filterMap Diagnostic.unavailable? = []
    unfold Plan.missingNote
    split <;> rfl

/-- The symbols without a table are noted as unavailable. -/
theorem unavailable_notes (tickers : List Ticker) :
    (tickers.flatMap (s.sliceNotes plan)).filterMap Diagnostic.unavailable? =
      (tickers.map Ticker.symbol).filter fun symbol => (s.table? symbol).isNone := by
  induction tickers with
  | nil => rfl
  | cons t rest ih =>
    rw [List.flatMap_cons, List.filterMap_append, ih, unavailable_sliceNotes, List.map_cons,
      List.filter_cons]
    cases (s.table? t.symbol).isNone <;> rfl

end Gathering

/-- A served request is answered by a plan over its window, for what its tickers stand for. -/
theorem Serves.exists_plan {w : Window} (h : s.Serves clock r w) :
    ∃ plan : Plan, plan.window = w ∧ plan.tickers = s.expand r.tickers.toList ∧
      ∀ state : σ, s.history clock r state = (plan.run s.fetcher state).lift := by
  refine ⟨r.plan (s.expand r.tickers.toList) (r.tickers.isSingle && !s.expands r.tickers.toList) w
    s.frequency, rfl, rfl, fun state => ?_⟩
  rw [history_of_window h.frequency_eq h.kinds_ok h.window_eq, h.not_isEmpty,
    if_neg Bool.false_ne_true]

/-- A served request is answered when one of its tickers has a table, and all timestamps can be read. -/
theorem Serves.exists_history {w : Window} (h : s.Serves clock r w)
    (hsome : ∃ t ∈ s.expand r.tickers.toList, (s.table? t.symbol).isSome)
    (hinstants : ∀ symbol table, s.table? symbol = some table →
      ∀ row ∈ table.rows, ∃ d, row.instant? = some d) (state : σ) :
    ∃ history, (s.history clock r state).result = .ok history := by
  obtain ⟨plan, rfl, htickers, hanswer⟩ := @h.exists_plan σ
  rw [← htickers] at hsome
  obtain ⟨t, ht, htable⟩ := hsome
  obtain ⟨history, hrun⟩ := exists_run_fetcher h.not_isEmpty hinstants (fun hnone => by
    rw [hnone.2 t ht] at htable
    cases htable) state
  rw [hanswer]
  exact ⟨history, liftError_eq_ok_iff.mpr hrun⟩

theorem of_history_eq_ok {state : σ} {history : History}
    (h : (s.history clock r state).result = .ok history) :
    ∃ window, Window.ofRequest? clock r.start r.stop? s.frequency r.lookAhead = some window ∧
      ((r.plan (s.expand r.tickers.toList) (r.tickers.isSingle && !s.expands r.tickers.toList) window
        s.frequency).run (if window.isEmpty then Fetcher.nothing else s.fetcher) state).result =
          .ok history := by
  by_cases hfrequency : r.frequency?.getD s.frequency = s.frequency
  · cases hkinds : checkKinds name kinds r.tickers.toList with
    | error e =>
      rw [Snapshot.history, hfrequency, if_neg (fun h => h rfl)] at h
      simp only [hkinds] at h
      cases h
    | ok _ =>
      cases hwindow : Window.ofRequest? clock r.start r.stop? s.frequency r.lookAhead with
      | none =>
        rw [Snapshot.history, hfrequency, if_neg (fun h => h rfl)] at h
        simp only [hkinds, hwindow] at h
        cases h
      | some window =>
        rw [history_of_window hfrequency hkinds hwindow] at h
        exact ⟨window, rfl, liftError_eq_ok_iff.mp h⟩
  · unfold Snapshot.history at h
    dsimp only at h
    rw [if_pos hfrequency] at h
    cases h

/-- Snapshots that put the same tickers in the place of the requested ones, and have the same rows of them
inside the window of a request, answer it alike. -/
theorem history_congr (hfrequency : s₁.frequency = s₂.frequency)
    (hexpand : s₁.expand r.tickers.toList = s₂.expand r.tickers.toList)
    (hexpands : s₁.expands r.tickers.toList = s₂.expands r.tickers.toList)
    (hrows : ∀ window,
      Window.ofRequest? clock r.start r.stop? s₁.frequency r.lookAhead = some window →
      window.isEmpty = false → ∀ ticker ∈ s₁.expand r.tickers.toList,
        (s₁.table? ticker.symbol).map (Table.within · window.start window.stop) =
          (s₂.table? ticker.symbol).map (Table.within · window.start window.stop)) (state : σ) :
    s₁.history clock r state = s₂.history clock r state := by
  unfold history
  dsimp only
  rw [← hfrequency, ← hexpand, ← hexpands]
  by_cases hf : r.frequency?.getD s₁.frequency = s₁.frequency
  · rw [if_neg (fun h => h hf), if_neg (fun h => h hf), hf]
    cases checkKinds name kinds r.tickers.toList with
    | error e => rfl
    | ok _ =>
      cases hw : Window.ofRequest? clock r.start r.stop? s₁.frequency r.lookAhead with
      | none => rfl
      | some window =>
        dsimp only
        by_cases hempty : window.isEmpty = true
        · rw [if_pos hempty, if_pos hempty]
        · rw [if_neg hempty, if_neg hempty]
          refine congrArg Run.lift (Plan.run_congr (fun ticker hticker s' => ?_) state)
          have hread := hrows window hw (Bool.eq_false_iff.mpr hempty) ticker hticker
          have hcall : ∀ plan : Plan, (plan.call ticker).ticker = ticker := fun _ => rfl
          rw [fetcher, fetcher, hcall]
          -- A table is there in both snapshots or in neither.
          cases h₁ : s₁.table? ticker.symbol with
          | none =>
            rw [h₁] at hread
            rw [Option.map_eq_none_iff.mp hread.symm]
          | some t =>
            rw [h₁] at hread
            obtain ⟨u, h₂, hu⟩ := Option.map_eq_some_iff.mp hread.symm
            rw [h₂]
            exact congrArg (fun table => (⟨.ok table, [], s'⟩ : Run σ (Except DataError Table))) hu.symm
  · rw [if_pos hf, if_pos hf]

end Snapshot

end MarketBars
