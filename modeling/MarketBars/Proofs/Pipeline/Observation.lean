import MarketBars.Pipeline

/-!
# Observed sources

To state what a plan asks of its source, the source is replaced by one that behaves alike and keeps a
list of what happens. Its states hold more than those of the first source, but a view of them is all
that the behaviour depends on. What a plan answers, what it records and the state that it leaves behind
are then the same, as far as the view tells.
-/

namespace MarketBars

variable {σ τ : Type}

/-- The same run, of which the state is seen through a view. -/
def Run.seen {ρ : Type} (view : τ → σ) (run : Run τ ρ) : Run σ ρ :=
  { run with state := view run.state }

/-- A source behaves like another one, as far as a view of its states tells. -/
def Fetcher.Mirrors (view : τ → σ) (outer : Fetcher τ) (inner : Fetcher σ) : Prop :=
  ∀ call t, inner call (view t) = (outer call t).seen view

namespace Fetcher.Mirrors

variable {view : τ → σ} {outer : Fetcher τ} {inner : Fetcher σ}

theorem gatherFrom (h : outer.Mirrors view inner) (plan : Plan) (tickers : List Ticker) (t : τ) :
    plan.gatherFrom inner tickers (view t) = (plan.gatherFrom outer tickers t).seen view := by
  -- Every call leaves a state that is seen as the one of the other source, so the next calls agree.
  induction tickers generalizing t with
  | nil => rfl
  | cons ticker rest ih =>
    have hgot := h (plan.call ticker) t
    simp only [Plan.gatherFrom, hgot, Run.seen]
    cases hresult : (outer (plan.call ticker) t).result with
    | error e =>
      by_cases he : e.isPerTicker
      · simp only [he, if_true, ih, Run.seen]
      · simp only [he, if_false, Bool.false_eq_true]
    | ok table => simp only [ih, Run.seen]

theorem gather (h : outer.Mirrors view inner) (plan : Plan) (t : τ) :
    plan.gather inner (view t) = (plan.gather outer t).seen view := by
  unfold Plan.gather
  by_cases hwindow : plan.window.isEmpty
  · simp only [hwindow, if_true]
    rfl
  · simp only [hwindow, if_false, Bool.false_eq_true]
    exact h.gatherFrom plan _ t

/-- A plan does the same with a source and with one that behaves like it. -/
theorem run (h : outer.Mirrors view inner) (plan : Plan) (t : τ) :
    plan.run inner (view t) = (plan.run outer t).seen view := by
  simp only [Plan.run, h.gather plan t, Run.seen]

end Fetcher.Mirrors

namespace Plan

/-- When nothing can fall inside the window of a plan, the source is left alone. -/
theorem run_of_isEmpty {plan : Plan} (hwindow : plan.window.isEmpty = true) (fetch : Fetcher σ)
    (s : σ) :
    plan.run fetch s =
      ⟨plan.answer ((distinctTickers plan.tickers).map fun t => (t, Table.empty)), [], s⟩ := by
  simp only [run, gather, hwindow, if_true]

/-- Any other plan answers to what it gathers for its distinct tickers. -/
theorem run_of_not_isEmpty {plan : Plan} (hwindow : plan.window.isEmpty = false) (fetch : Fetcher σ)
    (s : σ) :
    plan.run fetch s =
      { plan.gatherFrom fetch (distinctTickers plan.tickers) s with
        result :=
          (plan.gatherFrom fetch (distinctTickers plan.tickers) s).result.bind plan.answer } := by
  simp only [run, gather, hwindow, Bool.false_eq_true, if_false]
  cases (plan.gatherFrom fetch (distinctTickers plan.tickers) s).result <;> rfl

theorem gatherFrom_congr {fetch fetch' : Fetcher σ} {plan : Plan} {tickers : List Ticker}
    (h : ∀ ticker ∈ tickers, ∀ s, fetch (plan.call ticker) s = fetch' (plan.call ticker) s) (s : σ) :
    plan.gatherFrom fetch tickers s = plan.gatherFrom fetch' tickers s := by
  induction tickers generalizing s with
  | nil => rfl
  | cons ticker rest ih =>
    have hrest := ih fun t ht => h t (List.mem_cons_of_mem ticker ht)
    simp only [gatherFrom, h ticker List.mem_cons_self, hrest]

/-- A plan does the same with sources that answer its own calls alike. -/
theorem run_congr {fetch fetch' : Fetcher σ} {plan : Plan}
    (h : ∀ ticker ∈ plan.tickers, ∀ s, fetch (plan.call ticker) s = fetch' (plan.call ticker) s)
    (s : σ) : plan.run fetch s = plan.run fetch' s := by
  have hdistinct : ∀ ticker ∈ distinctTickers plan.tickers, ∀ s,
      fetch (plan.call ticker) s = fetch' (plan.call ticker) s :=
    fun ticker hticker => h ticker ((distinctAfter_sublist _ _ _).subset hticker)
  simp only [run, gather, gatherFrom_congr hdistinct]

variable {fetch : Fetcher σ} {R : σ → σ → Prop}

theorem rel_gatherFrom (hrefl : ∀ s, R s s) (htrans : ∀ a b c, R a b → R b c → R a c)
    (hfetch : ∀ call s, R s (fetch call s).state) (plan : Plan) (tickers : List Ticker) (s : σ) :
    R s (plan.gatherFrom fetch tickers s).state := by
  induction tickers generalizing s with
  | nil => exact hrefl s
  | cons ticker rest ih =>
    have hstep := hfetch (plan.call ticker) s
    simp only [gatherFrom]
    cases (fetch (plan.call ticker) s).result with
    | error e =>
      by_cases he : e.isPerTicker
      · simp only [he, if_true]
        exact htrans _ _ _ hstep (ih _)
      · simp only [he, if_false, Bool.false_eq_true]
        exact hstep
    | ok table => exact htrans _ _ _ hstep (ih _)

/-- A relation of the states before and after that every call keeps is kept by a plan. -/
theorem rel_state (hrefl : ∀ s, R s s) (htrans : ∀ a b c, R a b → R b c → R a c)
    (hfetch : ∀ call s, R s (fetch call s).state) (plan : Plan) (s : σ) :
    R s (plan.run fetch s).state := by
  cases hwindow : plan.window.isEmpty with
  | true =>
    rw [run_of_isEmpty hwindow]
    exact hrefl s
  | false =>
    rw [run_of_not_isEmpty hwindow]
    exact rel_gatherFrom hrefl htrans hfetch plan _ s

end Plan

end MarketBars
