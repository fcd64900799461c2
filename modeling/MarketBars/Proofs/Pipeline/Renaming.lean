import MarketBars.Archive.Snapshot
import MarketBars.Proofs.Pipeline.Observation
import MarketBars.Proofs.Pipeline.Pointwise
import MarketBars.Proofs.Pipeline.Pricing
import MarketBars.Quote.Broker

/-!
# Price fields as a renaming

A request for price fields asks the source once, for the columns that stand for the fields, and puts the
names of the fields on the axis of fields. The labels are exchanged position by position, and that is
possible because an answer has one label for each field of the request, also when fields repeat, when
several of them stand for one column, and when a column goes by the name of another field.
-/

namespace MarketBars

/-- The second answer is the first one with the names for its field labels: the axes that are left, the
dates, the tickers and the values are the same. -/
structure History.Renames (inner outer : History) (names : List String) : Prop where
  rank_eq : outer.rank = inner.rank
  dates_eq : outer.dates? = inner.dates?
  tickers_eq : outer.tickers? = inner.tickers?
  fields_eq : outer.fields? = inner.fields?.map fun _ => names
  length_eq : ∀ labels, inner.fields? = some labels → labels.length = names.length
  cell_eq : ∀ d t f, outer.cell d t f = inner.cell d t f

theorem Series.relabel?_eq {L M : Type} {s : Series L} {index : List M}
    (h : s.index.length = index.length) :
    s.relabel? index = some ⟨index, s.values, s.size_eq.trans h⟩ :=
  dif_pos (s.size_eq.trans h)

theorem Frame.relabelColumns?_eq {R C D : Type} {m : Frame R C} {columns : List D}
    (h : m.columns.length = columns.length) :
    m.relabelColumns? columns = some ⟨m.index, columns, m.values, h ▸ m.size_eq⟩ :=
  dif_pos (h ▸ m.size_eq)

theorem Cube.relabelFields?_eq {c : Cube} {fields : List String}
    (h : c.fields.length = fields.length) :
    c.relabelFields? fields = some ⟨c.dates, c.tickers, fields, c.values, h ▸ c.size_eq⟩ :=
  dif_pos (h ▸ c.size_eq)

namespace History

/-- The field labels of an answer can be exchanged for as many others, whichever axes are left. -/
theorem exists_relabelFields? {inner : History} {names : List String}
    (h : ∀ labels, inner.fields? = some labels → labels.length = names.length) :
    ∃ outer, inner.relabelFields? names = some outer ∧ inner.Renames outer names := by
  cases inner with
  -- Four shapes have no axis of fields and stay as they are.
  | scalar v => exact ⟨.scalar v, rfl, rfl, rfl, rfl, rfl, h, fun _ _ _ => rfl⟩
  | byDate s => exact ⟨.byDate s, rfl, rfl, rfl, rfl, rfl, h, fun _ _ _ => rfl⟩
  | byTicker s => exact ⟨.byTicker s, rfl, rfl, rfl, rfl, rfl, h, fun _ _ _ => rfl⟩
  | dateTicker m => exact ⟨.dateTicker m, rfl, rfl, rfl, rfl, rfl, h, fun _ _ _ => rfl⟩
  | byField s =>
    refine ⟨_, congrArg (Option.map byField) (Series.relabel?_eq (h _ rfl)), ?_⟩
    exact ⟨rfl, rfl, rfl, rfl, h, fun _ _ _ => rfl⟩
  | dateField m =>
    have hlength := h _ rfl
    refine ⟨_, congrArg (Option.map dateField) (Frame.relabelColumns?_eq hlength), ?_⟩
    refine ⟨rfl, rfl, rfl, rfl, h, fun d t f => ?_⟩
    simp only [cell, Frame.get, hlength]
  | tickerField m =>
    have hlength := h _ rfl
    refine ⟨_, congrArg (Option.map tickerField) (Frame.relabelColumns?_eq hlength), ?_⟩
    refine ⟨rfl, rfl, rfl, rfl, h, fun d t f => ?_⟩
    simp only [cell, Frame.get, hlength]
  | cube c =>
    have hlength := h _ rfl
    refine ⟨_, congrArg (Option.map cube) (Cube.relabelFields?_eq hlength), ?_⟩
    refine ⟨rfl, rfl, rfl, rfl, h, fun d t f => ?_⟩
    simp only [cell, Cube.get, hlength]

end History

/-- The axis of fields of an answer, when it is left, has the fields of the plan. -/
theorem Plan.fields?_of_run {τ : Type} {fetch : Fetcher τ} {plan : Plan} {t : τ} {history : History}
    (h : (plan.run fetch t).result = .ok history) {labels : List String}
    (hlabels : history.fields? = some labels) : labels = plan.fields := by
  obtain ⟨tables, stamps, -, -, rfl⟩ := run_eq_ok h
  rw [(Cube.shows_panel _ _ plan.tickers plan.fields plan.flags).fields_eq] at hlabels
  split at hlabels
  · cases hlabels
  · exact (Option.some.inj hlabels).symm

namespace Provider

variable {σ : Type}

/-- The provider, with a list kept of the requests for histories. -/
def logged (p : Provider σ) : Provider (σ × List HistoryRequest) where
  name := p.name
  frequency := p.frequency
  kinds := p.kinds
  priceMap? := p.priceMap?
  history := fun r s =>
    let got := p.history r s.1
    { got with state := (got.state, s.2 ++ [r]) }

/-- The list does not change what the provider does. -/
theorem price_logged_seen (p : Provider σ) (r : PriceRequest) (s : σ) (log : List HistoryRequest) :
    (p.logged.price r (s, log)).seen Prod.fst = p.price r s := by
  have hmap : p.logged.priceMap? = p.priceMap? := rfl
  unfold price
  rw [hmap]
  cases p.priceMap? <;> rfl

/-- Every answer of the provider is the one of some plan for the columns of the request. What is refused,
and why, is left open. -/
def AnswersByPlan (p : Provider σ) : Prop :=
  ∀ (r : HistoryRequest) (s : σ) (history : History), (p.history r s).result = .ok history →
    ∃ (τ : Type) (fetch : Fetcher τ) (plan : Plan) (t : τ),
      plan.fields = r.columns ∧ (plan.run fetch t).result = .ok history

end Provider

/-- The broker answers by a plan, on a connection or without one. -/
theorem Broker.answersByPlan {σ ι : Type} (b : Broker) (source : QuoteSource σ ι) :
    (b.provider source).AnswersByPlan := by
  intro r s history h
  change (b.history source r s).result = .ok history at h
  simp only [Broker.history] at h
  split at h
  · cases h
  · split at h
    · cases h
    · split at h
      · cases h
      · rename_i window _
        split at h
        · exact ⟨σ, _, _, s, rfl, liftError_eq_ok_iff.mp h⟩
        · have hrun := liftError_eq_ok_iff.mp h
          unfold runConnected at hrun
          split at hrun
          · cases hrun
          · exact ⟨σ, _, _, _, rfl, hrun⟩

theorem Snapshot.answersByPlan {σ : Type} (snapshot : Snapshot) (clock : MarketClock) :
    (snapshot.provider clock : Provider σ).AnswersByPlan := by
  intro r s history h
  change (snapshot.history clock r s).result = .ok history at h
  simp only [Snapshot.history] at h
  split at h
  · cases h
  · split at h
    · cases h
    · split at h
      · cases h
      · exact ⟨σ, _, _, s, rfl, liftError_eq_ok_iff.mp h⟩

theorem RecordedTables.answersByPlan (tables : RecordedTables) (name : String) (clock : MarketClock)
    (priceMap? : Option PriceMap) : (tables.provider name clock priceMap?).AnswersByPlan := by
  intro r s history h
  simp only [provider] at h
  split at h
  · cases h
  · split at h
    · cases h
    · exact ⟨_, _, _, s, rfl, liftError_eq_ok_iff.mp h⟩

namespace Provider

variable {σ : Type}

/-- The field labels of an answer to the columns of some price fields are as many as the fields. -/
theorem AnswersByPlan.length_labels {p : Provider σ} (hplan : p.AnswersByPlan) {r : PriceRequest}
    {map : PriceMap} {s : σ} {inner : History}
    (h : (p.history (r.toHistory map) s).result = .ok inner) {labels : List String}
    (hlabels : inner.fields? = some labels) : labels.length = r.names.length := by
  obtain ⟨τ, fetch, plan, t, hfields, hrun⟩ := hplan _ s inner h
  rw [Plan.fields?_of_run hrun hlabels, hfields, PriceRequest.columns_toHistory, List.length_map,
    PriceRequest.names, List.length_map]

/-- Without a map of price fields, a request for them is refused, and the source is not asked. With a
map, the source is asked once, for the mapped column of every field, and the answer is its answer: the
same failure, or the same history under the names of the fields. What the source is asked for is kept in
a list, which changes nothing else. -/
theorem price_renames_history {p : Provider σ} (hplan : p.AnswersByPlan) (r : PriceRequest) (s : σ)
    (log : List HistoryRequest) :
    (p.logged.price r (s, log)).seen Prod.fst = p.price r s ∧
    (p.priceMap? = none →
      p.price r s = .stopped (.error (.missingPriceMap p.name)) s ∧
        (p.logged.price r (s, log)).state.2 = log) ∧
    ∀ map, p.priceMap? = some map →
      (p.logged.price r (s, log)).state.2 = log ++ [r.toHistory map] ∧
      (r.toHistory map).columns = r.fields.toList.map map.column ∧
      (p.price r s).diagnostics = (p.history (r.toHistory map) s).diagnostics ∧
      (p.price r s).state = (p.history (r.toHistory map) s).state ∧
      (∀ e, (p.history (r.toHistory map) s).result = .error e → (p.price r s).result = .error e) ∧
      ∀ inner, (p.history (r.toHistory map) s).result = .ok inner →
        ∃ outer, (p.price r s).result = .ok outer ∧ inner.Renames outer r.names := by
  refine ⟨p.price_logged_seen r s log, ?_, ?_⟩
  · intro hnone
    have hlogged : p.logged.priceMap? = none := hnone
    simp only [price, hnone, hlogged]
    exact ⟨trivial, rfl⟩
  · intro map hmap
    have hlogged : p.logged.priceMap? = some map := hmap
    refine ⟨?_, PriceRequest.columns_toHistory r map, ?_, ?_, ?_, ?_⟩
    · simp only [price, hlogged]
      rfl
    · simp only [price, hmap]
    · simp only [price, hmap]
    · intro e he
      rw [price_eq_labelled hmap, he]
      rfl
    · intro inner hinner
      obtain ⟨outer, houter, hrenames⟩ :=
        History.exists_relabelFields? fun labels => hplan.length_labels hinner
      refine ⟨outer, ?_, hrenames⟩
      rw [price_eq_labelled hmap, hinner]
      simp only [PriceRequest.labelled, houter, Fault.orElse]

/-- Two days of closing prices. Highs are read from that column, and closing prices from one that goes by
the name of the highs and is not there. -/
def crossedColumns : Snapshot where
  tables := [(.stock "A", Plan.twoDays)]
  members := []
  fields := ["close"]
  priceMap? := some [(.high, "close"), (.close, "high")]
  frequency := .daily
  start := Plan.dayOne
  stop := Plan.dayTwo

/-- A request that names a field twice. -/
def highTwice : PriceRequest where
  tickers := .one (.stock "A")
  fields := .many [.high, .close, .high]
  start := Plan.dayOne
  stop? := some Plan.dayTwo

/-- The columns are asked for once, and the answer has the fields of the request. -/
theorem price_renames_history_crossedColumns :
    ∃ outer, ((crossedColumns.provider ⟨Plan.dayTwo, .usual⟩).price highTwice ()).result = .ok outer ∧
      outer.fields? = some ["high", "close", "high"] ∧
      ((crossedColumns.provider ⟨Plan.dayTwo, .usual⟩).logged.price highTwice ((), [])).state.2 =
        [highTwice.toHistory [(.high, "close"), (.close, "high")]] := by
  have hinner : ∃ inner, (crossedColumns.history ⟨Plan.dayTwo, .usual⟩
      (highTwice.toHistory [(.high, "close"), (.close, "high")]) ()).result = .ok inner ∧
      inner.fields? = some ["close", "high", "close"] := ⟨_, rfl, rfl⟩
  obtain ⟨inner, h, hfields⟩ := hinner
  obtain ⟨hasked, -, -, -, -, hanswer⟩ :=
    (price_renames_history (crossedColumns.answersByPlan ⟨Plan.dayTwo, .usual⟩) highTwice () []).2.2 _ rfl
  obtain ⟨outer, houter, hrenames⟩ := hanswer inner h
  refine ⟨outer, houter, ?_, hasked⟩
  rw [hrenames.fields_eq, hfields]
  rfl

end Provider

end MarketBars
