import MarketBars.Proofs.Panel.Relabel
import MarketBars.Proofs.Pipeline.Gathering
import MarketBars.Proofs.Table.Reading

/-!
# What an answer depends on

A request names labels, and each label stands for a column of the source. Of a reply, an answer takes
the timestamps and the values of the labels, and nothing else: columns that are not asked for, the order
of columns and the cells behind a missing value make no difference. The names of the labels end up on the
axis of fields, and nowhere else. Two runs whose replies look alike are therefore answered alike, even
when they read from columns of different names.
-/

namespace MarketBars

namespace Cube

variable {κ : Type}

/-- A panel over columns is one over the labels that stand for them. -/
theorem panel_map {value : Instant → Ticker → String → Value} {value' : Instant → Ticker → κ → Value}
    {column : κ → String} {labels : List κ} (dates : List Instant) (tickers : List Ticker)
    (names : List String)
    (h : ∀ date ticker, ∀ label ∈ labels, value date ticker (column label) = value' date ticker label) :
    panel dates value tickers (labels.map column) names = panel dates value' tickers labels names := by
  have hshown : shownDates dates value tickers (labels.map column) =
      shownDates dates value' tickers labels := by
    refine List.filter_congr fun date _ => congrArg (List.any tickers) (funext fun ticker => ?_)
    rw [List.any_map, Bool.eq_iff_iff, List.any_eq_true, List.any_eq_true]
    constructor
    · rintro ⟨label, hlabel, hv⟩
      refine ⟨label, hlabel, ?_⟩
      rw [← h date ticker label hlabel]
      exact hv
    · rintro ⟨label, hlabel, hv⟩
      refine ⟨label, hlabel, ?_⟩
      rw [← h date ticker label hlabel] at hv
      exact hv
  rw [panel, panel, hshown]
  refine tabulate_congr fun d t f _ _ _ => ?_
  refine congrArg (Option.bind _) (funext fun date => congrArg (Option.bind _) (funext fun ticker => ?_))
  rw [List.getElem?_map]
  cases hlabel : labels[f]? with
  | none => rfl
  | some label => exact h date ticker label (List.mem_of_getElem? hlabel)

end Cube

namespace Table

/-- What a table shows of some labels: its timestamps, and a value for each instant and label. -/
structure View (κ : Type) where
  stamps : Except DataError (List Instant)
  value : Instant → κ → Value

variable {κ : Type} [DecidableEq κ]

/-- What a table shows of some labels that stand for columns. It shows nothing of other labels. -/
def view (column : κ → String) (labels : List κ) (t : Table) : View κ where
  stamps := t.stamps
  value date label := if label ∈ labels then Cube.valueAt t date (column label) else none

theorem view_project (column : κ → String) (labels : List κ) (t : Table) :
    (t.project (labels.map column)).view column labels = t.view column labels := by
  rw [view, view, stamps_project]
  congr 1
  funext date label
  by_cases hlabel : label ∈ labels
  · rw [if_pos hlabel, if_pos hlabel]
    exact valueAt_project t (List.mem_map_of_mem hlabel) date
  · rw [if_neg hlabel, if_neg hlabel]

theorem view_empty (column : κ → String) (labels : List κ) :
    empty.view column labels = ⟨.ok [], fun _ _ => none⟩ := by
  unfold view
  congr 1
  funext date label
  split
  · unfold Cube.valueAt
    split <;> rfl
  · rfl

end Table

namespace Plan

variable {σ κ : Type} [DecidableEq κ]

/-- What the first view of a ticker shows of a date and a label. -/
def viewed (views : List (Ticker × Table.View κ)) (date : Instant) (ticker : Ticker) (label : κ) :
    Value :=
  (views.find? fun entry => entry.1.same ticker).bind fun entry => entry.2.value date label

/-- The answer to what some tables show of the labels. -/
def answerTo (tickers : List Ticker) (flags : SqueezeFlags) (labels : List κ) (names : List String)
    (views : List (Ticker × Table.View κ)) : Except DataError History :=
  if views.isEmpty && !tickers.isEmpty then
    .error (.noDataFound (String.intercalate ", " (tickers.map Ticker.symbol)))
  else
    (views.mapM fun entry : Ticker × Table.View κ => entry.2.stamps).map fun stamps =>
      (Cube.panel (Cube.sortedInstants stamps.flatten) (viewed views) tickers labels names).squeeze flags

/-- The answer to some tables is the answer to what they show. -/
theorem answer_eq_answerTo (plan : Plan) {column : κ → String} {labels : List κ}
    (hfields : plan.fields = labels.map column) (tables : List (Ticker × Table)) :
    plan.answer tables = answerTo plan.tickers plan.flags labels plan.fields
      (tables.map fun entry => (entry.1, entry.2.view column labels)) := by
  have hempty : (tables.map fun entry => (entry.1, entry.2.view column labels)).isEmpty =
      tables.isEmpty := List.isEmpty_map
  have hstamps : (tables.map fun entry => (entry.1, entry.2.view column labels)).mapM
      (fun entry => entry.2.stamps) = Cube.stampsOf tables := by
    rw [Cube.stampsOf_eq_mapM, List.mapM_map]
    rfl
  have hvalue : ∀ date ticker, ∀ label ∈ labels,
      Cube.lookup tables date ticker (column label) =
        viewed (tables.map fun entry => (entry.1, entry.2.view column labels)) date ticker label := by
    intro date ticker label hlabel
    rw [viewed, Cube.lookup, List.find?_map, Option.bind_map]
    refine congrArg (Option.bind _) (funext fun entry => ?_)
    exact (if_pos hlabel).symm
  rw [answer_eq, answerTo, hempty, hstamps]
  split
  · rfl
  · refine congrArg (fun f => Except.map f (Cube.stampsOf tables)) (funext fun stamps => ?_)
    have hpanel := Cube.panel_map (Cube.sortedInstants stamps.flatten) plan.tickers plan.fields hvalue
    rw [← hpanel, ← hfields]

/-- Two sources that answer call after call alike, as far as two functions of their tables tell, give
like replies. The relation of their states is handed on from call to call. -/
theorem mapReplies_replies_congr {σ₁ σ₂ α : Type} {f₁ f₂ : Table → α} {states : σ₁ → σ₂ → Prop}
    {fetch₁ : Fetcher σ₁} {fetch₂ : Fetcher σ₂} {plan₁ plan₂ : Plan}
    (hfetch : ∀ ticker s₁ s₂, states s₁ s₂ →
      (fetch₁ (plan₁.call ticker) s₁).result.map f₁ = (fetch₂ (plan₂.call ticker) s₂).result.map f₂ ∧
        states (fetch₁ (plan₁.call ticker) s₁).state (fetch₂ (plan₂.call ticker) s₂).state)
    (tickers : List Ticker) {s₁ : σ₁} {s₂ : σ₂} (hs : states s₁ s₂) :
    mapReplies f₁ (plan₁.replies fetch₁ tickers s₁) =
      mapReplies f₂ (plan₂.replies fetch₂ tickers s₂) := by
  induction tickers generalizing s₁ s₂ with
  | nil => rfl
  | cons ticker rest ih =>
    obtain ⟨hresult, hstates⟩ := hfetch ticker s₁ s₂ hs
    have hrest := ih hstates
    rw [mapReplies, mapReplies] at hrest ⊢
    rw [replies, replies, List.map_cons, List.map_cons, hrest, hresult]

/-- The answer to a plan depends on what the replies show of the labels, whatever the columns are that
the labels stand for. -/
theorem run_eq_answerTo {fetch : Fetcher σ} {plan : Plan} {column : κ → String} {labels : List κ}
    (hwindow : plan.window.isEmpty = false) (hfields : plan.fields = labels.map column) (s : σ) :
    (plan.run fetch s).result =
      (settled (mapReplies (Table.view column labels)
        (plan.replies fetch (distinctTickers plan.tickers) s))).bind
          (answerTo plan.tickers plan.flags labels plan.fields) := by
  have hproject : mapReplies (Table.view column labels)
      (plan.replies fetch (distinctTickers plan.tickers) s) =
        mapReplies (Table.view column labels) (mapReplies (Table.project · plan.fields)
          (plan.replies fetch (distinctTickers plan.tickers) s)) := by
    rw [mapReplies, mapReplies, mapReplies, List.map_map]
    refine List.map_congr_left fun reply _ => Prod.ext rfl ?_
    obtain ⟨ticker, e | table⟩ := reply
    · rfl
    · refine congrArg Except.ok ?_
      rw [hfields, Table.view_project]
  rw [hproject, settled_mapReplies, ← gather_eq_settled hwindow, run]
  cases (plan.gather fetch s).result with
  | error e => rfl
  | ok tables => exact plan.answer_eq_answerTo hfields tables

/-- A plan with an empty window is answered as if every table were empty. -/
theorem run_nothing_eq_answerTo {plan : Plan} {column : κ → String} {labels : List κ}
    (hwindow : plan.window.isEmpty = true) (hfields : plan.fields = labels.map column) (s : σ) :
    (plan.run Fetcher.nothing s).result = answerTo plan.tickers plan.flags labels plan.fields
      ((distinctTickers plan.tickers).map fun ticker => (ticker, ⟨.ok [], fun _ _ => none⟩)) := by
  have hgather : (plan.gather Fetcher.nothing s).result =
      .ok ((distinctTickers plan.tickers).map fun ticker => (ticker, Table.empty)) := by
    simp only [gather, hwindow, if_true]
  simp only [run, hgather]
  rw [plan.answer_eq_answerTo hfields, List.map_map]
  refine congrArg (answerTo plan.tickers plan.flags labels plan.fields) ?_
  exact List.map_congr_left fun ticker _ => Prod.ext rfl (Table.view_empty column labels)

omit [DecidableEq κ] in
/-- The names of the labels can be exchanged after a request is answered, or before. -/
theorem relabel_answerTo (tickers : List Ticker) (flags : SqueezeFlags) {labels : List κ}
    {names names' : List String} (h : names.length = labels.length)
    (h' : names'.length = labels.length) (views : List (Ticker × Table.View κ)) :
    (∃ e, answerTo tickers flags labels names views = .error e ∧
        answerTo tickers flags labels names' views = .error e) ∨
      ∃ history history', answerTo tickers flags labels names views = .ok history ∧
        answerTo tickers flags labels names' views = .ok history' ∧
          history.relabelFields? names' = some history' := by
  unfold answerTo
  split
  · exact Or.inl ⟨_, rfl, rfl⟩
  · cases views.mapM fun entry : Ticker × Table.View κ => entry.2.stamps with
    | error e => exact Or.inl ⟨e, rfl, rfl⟩
    | ok stamps =>
      exact Or.inr ⟨_, _, rfl, rfl,
        Cube.relabelFields?_squeeze_panel _ (viewed views) tickers h h' flags⟩

end Plan

end MarketBars
