import MarketBars.Proofs.Panel.Shown

namespace MarketBars

theorem ofFn_congr {α : Type} {m n : Nat} (h : m = n) {f g : Nat → α} (hfg : ∀ i < m, f i = g i) :
    (Array.ofFn fun i : Fin m => f i) = Array.ofFn fun i : Fin n => g i := by
  subst h
  congr 1
  funext i
  exact hfg i i.isLt

namespace Series

variable {L M : Type}

/-- A tabulated series takes equally many other labels. -/
theorem relabel?_tabulate {index : List L} {index' : List M} (h : index.length = index'.length)
    {f g : Nat → Value} (hfg : ∀ i, f i = g i) :
    (tabulate index f).relabel? index' = some (tabulate index' g) := by
  have hvalues := ofFn_congr h (fun i _ => hfg i)
  unfold relabel? ofValues? tabulate
  rw [dif_pos (by simpa using h)]
  simp only [hvalues]

end Series

namespace Frame

variable {R C D : Type}

theorem relabelColumns?_tabulate {index : List R} {columns : List C} {columns' : List D}
    (h : columns.length = columns'.length) {f g : Nat → Nat → Value} (hfg : ∀ r c, f r c = g r c) :
    (tabulate index columns f).relabelColumns? columns' = some (tabulate index columns' g) := by
  have hsize : index.length * columns.length = index.length * columns'.length := by rw [h]
  have hvalues := ofFn_congr (f := fun i => f (i / columns.length) (i % columns.length))
    (g := fun i => g (i / columns'.length) (i % columns'.length)) hsize
    (fun i _ => by rw [h, hfg])
  unfold relabelColumns? ofValues? tabulate
  rw [dif_pos (by simpa using hsize)]
  simp only [hvalues]

end Frame

namespace Cube

theorem relabelFields?_tabulate {dates : List Instant} {tickers : List Ticker}
    {fields fields' : List String} (h : fields.length = fields'.length)
    {f g : Nat → Nat → Nat → Value} (hfg : ∀ d t k, f d t k = g d t k) :
    (tabulate dates tickers fields f).relabelFields? fields' =
      some (tabulate dates tickers fields' g) := by
  have hsize : dates.length * tickers.length * fields.length =
      dates.length * tickers.length * fields'.length := by rw [h]
  have hvalues := ofFn_congr
    (f := fun i => f (i / fields.length / tickers.length) (i / fields.length % tickers.length)
      (i % fields.length))
    (g := fun i => g (i / fields'.length / tickers.length) (i / fields'.length % tickers.length)
      (i % fields'.length)) hsize
    (fun i _ => by rw [h, hfg])
  unfold relabelFields? ofValues? tabulate
  rw [dif_pos (by simpa using hsize)]
  simp only [hvalues]

/-- A collapsed panel takes other names for its labels. -/
theorem relabelFields?_squeeze_panel {κ : Type} (dates : List Instant)
    (value : Instant → Ticker → κ → Value) (tickers : List Ticker) {labels : List κ}
    {names names' : List String} (h : names.length = labels.length)
    (h' : names'.length = labels.length) (flags : SqueezeFlags) :
    ((panel dates value tickers labels names).squeeze flags).relabelFields? names' =
      some ((panel dates value tickers labels names').squeeze flags) := by
  have hlength : names.length = names'.length := h.trans h'.symm
  have hget : ∀ d t f, (panel dates value tickers labels names).get d t f =
      (panel dates value tickers labels names').get d t f := by
    intro d t f
    rw [get_panel dates value tickers h, get_panel dates value tickers h']
  have hlast : ∀ t f, (panel dates value tickers labels names).getLast t f =
      (panel dates value tickers labels names').getLast t f := by
    intro t f
    rw [getLast_panel dates value tickers h, getLast_panel dates value tickers h']
  have hwhole : (panel dates value tickers labels names).relabelFields? names' =
      some (panel dates value tickers labels names') :=
    relabelFields?_tabulate hlength fun _ _ _ => rfl
  obtain ⟨date, ticker, field⟩ := flags
  -- The answers with an axis of fields take the names; the others do not depend on them.
  cases date <;> cases ticker <;> cases field
  · exact congrArg (Option.map History.cube) hwhole
  · exact congrArg (fun m => some (History.dateTicker m))
      (congrArg (Frame.tabulate _ tickers) (funext fun d => funext fun t => hget d t 0))
  · exact congrArg (Option.map History.dateField)
      (Frame.relabelColumns?_tabulate hlength fun d f => hget d 0 f)
  · exact congrArg (fun s => some (History.byDate s))
      (congrArg (Series.tabulate _) (funext fun d => hget d 0 0))
  · exact congrArg (Option.map History.tickerField)
      (Frame.relabelColumns?_tabulate hlength fun t f => hlast t f)
  · exact congrArg (fun s => some (History.byTicker s))
      (congrArg (Series.tabulate tickers) (funext fun t => hlast t 0))
  · exact congrArg (Option.map History.byField)
      (Series.relabel?_tabulate hlength fun f => hlast 0 f)
  · exact congrArg (fun v => some (History.scalar v)) (hlast 0 0)

end Cube

end MarketBars
