import MarketBars.Proofs.Pipeline.Comparison
import MarketBars.Provider

namespace MarketBars

theorem PriceField.eq_of_name_eq {f g : PriceField} (h : f.name = g.name) : f = g := by
  have hf := PriceField.ofName?_name f
  rw [h, PriceField.ofName?_name] at hf
  exact (Option.some.inj hf).symm

theorem PriceField.name_ne_stampName (f : PriceField) : f.name ≠ Table.stampName := by
  cases f <;> decide

/-- Whichever fields are listed, every field goes by its own name. -/
theorem PriceMap.column_identity (fields : List PriceField) (f : PriceField) :
    (PriceMap.identity fields).column f = f.name := by
  unfold PriceMap.identity PriceMap.column
  induction PriceField.all.filter fields.contains with
  | nil => rfl
  | cons g rest ih =>
    rw [List.map_cons, List.lookup_cons]
    by_cases hg : f = g
    · rw [hg, beq_self_eq_true]
      rfl
    · rw [beq_eq_false_iff_ne.mpr hg]
      exact ih

namespace PriceRequest

/-- An answer under the names of the requested fields. -/
def labelled (r : PriceRequest) : Except Failure History → Except Failure History
  | .error e => .error e
  | .ok history => Fault.shape.orElse (history.relabelFields? r.names)

theorem columns_toHistory (r : PriceRequest) (map : PriceMap) :
    (r.toHistory map).columns = r.fields.toList.map map.column := by
  rw [HistoryRequest.columns, toHistory, OneOrMany.toList_map, List.map_map]
  rfl

/-- The names of the columns do not matter for an answer under the names of the fields. -/
theorem labelled_bind_answerTo (r : PriceRequest) (map : PriceMap) (tickers : List Ticker)
    (flags : SqueezeFlags) (views : Except DataError (List (Ticker × Table.View PriceField))) :
    r.labelled (liftError (views.bind
        (Plan.answerTo tickers flags r.fields.toList (r.toHistory map).columns))) =
      liftError (views.bind (Plan.answerTo tickers flags r.fields.toList r.names)) := by
  cases views with
  | error e => rfl
  | ok views =>
    have hcolumns : (r.toHistory map).columns.length = r.fields.toList.length := by
      rw [columns_toHistory, List.length_map]
    have hnames : r.names.length = r.fields.toList.length := List.length_map _
    simp only [Except.bind]
    rcases Plan.relabel_answerTo tickers flags hcolumns hnames views with
      ⟨e, h, h'⟩ | ⟨history, history', h, h', hrelabel⟩
    · rw [h, h']
      rfl
    · rw [h, h']
      simp only [liftError, labelled, hrelabel, Fault.orElse]

end PriceRequest

/-- Providers with the same map that answer requests for its columns alike, answer requests for price
fields alike. -/
theorem Provider.price_congr {σ : Type} {p q : Provider σ} (hname : p.name = q.name)
    (hmap : p.priceMap? = q.priceMap?) {r : PriceRequest} {s : σ}
    (hhistory : ∀ map, p.history (r.toHistory map) s = q.history (r.toHistory map) s) :
    p.price r s = q.price r s := by
  rw [price, price, hname, hmap]
  cases q.priceMap? with
  | none => rfl
  | some map => simp only [hhistory map]

theorem Provider.price_eq_labelled {σ : Type} {p : Provider σ} {map : PriceMap}
    (h : p.priceMap? = some map) (r : PriceRequest) (s : σ) :
    (p.price r s).result = r.labelled (p.history (r.toHistory map) s).result := by
  simp only [price, h]
  cases (p.history (r.toHistory map) s).result <;> rfl

end MarketBars
