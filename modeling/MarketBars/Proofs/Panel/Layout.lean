import MarketBars.Panel.History

/-!
# The layout of a cube

The layout of a request reorders two axes of a cube by label, drops the dates without any value, and
collapses the flagged axes. Every one of these operations is a tabulation, so their composition is one
tabulation too: at a kept date, a requested ticker and a requested field it holds the value of the cube
at the first positions that carry the two labels.
-/

namespace MarketBars

/-- The entries of a list at the positions that a test keeps are the entries that it keeps. -/
theorem map_getElem?_filter_range {α : Type} (xs : List α) (keep : α → Bool) (keepAt : Nat → Bool)
    (h : ∀ i x, xs[i]? = some x → keepAt i = keep x) :
    ((List.range xs.length).filter keepAt).map (fun i => xs[i]?) = (xs.filter keep).map some := by
  have hall : (List.range xs.length).map (fun i => xs[i]?) = xs.map some := by
    apply List.ext_getElem
    · simp
    · intro i h₁ h₂
      simp
  -- The test of positions is traded for one of entries, which can be moved past the map.
  have hkeep : (List.range xs.length).filter keepAt =
      (List.range xs.length).filter ((fun x? => x?.any keep) ∘ fun i => xs[i]?) := by
    apply List.filter_congr
    intro i hi
    have hlt : i < xs.length := List.mem_range.mp hi
    simp [h i xs[i] (List.getElem?_eq_getElem hlt), List.getElem?_eq_getElem hlt]
  rw [hkeep, ← List.filter_map, hall, List.filter_map]
  rfl

/-- Values that are all there are kept one by one. -/
theorem map_eq_map_some_filterMap {α β : Type} {f : α → Option β} {xs : List α}
    (h : ∀ x ∈ xs, ∃ y, f x = some y) : xs.map f = (xs.filterMap f).map some := by
  induction xs with
  | nil => rfl
  | cons x rest ih =>
    obtain ⟨y, hy⟩ := h x List.mem_cons_self
    rw [List.map_cons, List.filterMap_cons_some hy, List.map_cons, hy,
      ih fun z hz => h z (List.mem_cons_of_mem x hz)]

namespace Series

variable {L : Type}

theorem get_tabulate_eq (index : List L) (f : Nat → Value) (i : Nat) :
    (tabulate index f).get i = if i < index.length then f i else none := by
  by_cases h : i < index.length
  · rw [if_pos h, get_tabulate index f h]
  · rw [if_neg h]
    simp [tabulate, get, h]

end Series

namespace Frame

variable {R C : Type}

theorem get_tabulate_eq (index : List R) (columns : List C) (f : Nat → Nat → Value) (r c : Nat) :
    (tabulate index columns f).get r c =
      if r < index.length ∧ c < columns.length then f r c else none := by
  by_cases h : r < index.length ∧ c < columns.length
  · rw [if_pos h, get_tabulate index columns f h.1 h.2]
  · rw [if_neg h]
    exact if_neg h

end Frame

namespace Cube

theorem get_eq_none {c : Cube} {d t f : Nat}
    (h : ¬ (d < c.dates.length ∧ t < c.tickers.length ∧ f < c.fields.length)) :
    c.get d t f = none :=
  if_neg h

theorem get_tabulate_eq (dates : List Instant) (tickers : List Ticker) (fields : List String)
    (g : Nat → Nat → Nat → Value) (d t f : Nat) :
    (tabulate dates tickers fields g).get d t f =
      if d < dates.length ∧ t < tickers.length ∧ f < fields.length then g d t f else none := by
  by_cases h : d < dates.length ∧ t < tickers.length ∧ f < fields.length
  · rw [if_pos h, get_tabulate dates tickers fields g h.1 h.2.1 h.2.2]
  · rw [if_neg h]
    exact get_eq_none h

/-- A number below the size is taken apart into positions inside of the three axes. -/
theorem positions_of_lt {D T F i : Nat} (h : i < D * T * F) :
    i / F / T < D ∧ i / F % T < T ∧ i % F < F := by
  have hF : 0 < F := Nat.pos_of_lt_mul_left h
  have hrow : i / F < D * T := (Nat.div_lt_iff_lt_mul hF).mpr h
  have hT : 0 < T := Nat.pos_of_lt_mul_left hrow
  exact ⟨(Nat.div_lt_iff_lt_mul hT).mpr hrow, Nat.mod_lt _ hT, Nat.mod_lt _ hF⟩

theorem tabulate_congr {dates : List Instant} {tickers : List Ticker} {fields : List String}
    {g g' : Nat → Nat → Nat → Value}
    (h : ∀ d t f, d < dates.length → t < tickers.length → f < fields.length → g d t f = g' d t f) :
    tabulate dates tickers fields g = tabulate dates tickers fields g' := by
  simp only [tabulate, mk.injEq, true_and]
  congr 1
  funext i
  obtain ⟨hd, ht, hf⟩ := positions_of_lt i.isLt
  exact h _ _ _ hd ht hf

section Labelled

variable {ι τ κ : Type} {dates : List Instant} {tickers : List Ticker} {fields : List String}
  {xs : List ι} {ys : List τ} {zs : List κ}

/-- A cube in which every position of an axis stands for an element of a list, and the values are those of
the elements. -/
def labelled (dates : List Instant) (tickers : List Ticker) (fields : List String) (xs : List ι)
    (ys : List τ) (zs : List κ) (value : ι → τ → κ → Value) : Cube :=
  tabulate dates tickers fields fun d t f =>
    xs[d]?.bind fun x => ys[t]?.bind fun y => zs[f]?.bind fun z => value x y z

theorem get_labelled (hdates : dates.length = xs.length) (htickers : tickers.length = ys.length)
    (hfields : fields.length = zs.length) (value : ι → τ → κ → Value) (d t f : Nat) :
    (labelled dates tickers fields xs ys zs value).get d t f =
      xs[d]?.bind fun x => ys[t]?.bind fun y => zs[f]?.bind fun z => value x y z := by
  rw [labelled, get_tabulate_eq, hdates, htickers, hfields]
  split
  · rfl
  · -- Beyond one of the axes there is nothing on the right either.
    rename_i h
    cases hd : xs[d]? with
    | none => rfl
    | some x =>
      cases ht : ys[t]? with
      | none => rfl
      | some y =>
        cases hf : zs[f]? with
        | none => rfl
        | some z =>
          exact absurd ⟨(List.getElem?_eq_some_iff.mp hd).1, (List.getElem?_eq_some_iff.mp ht).1,
            (List.getElem?_eq_some_iff.mp hf).1⟩ h

end Labelled

/-- A ticker takes the values of the first position that carries its symbol. -/
theorem get_reindexTickers (c : Cube) (tickers : List Ticker) (d t f : Nat) :
    (c.reindexTickers tickers).get d t f =
      tickers[t]?.bind fun ticker =>
        (c.tickers.findIdx? (Ticker.same · ticker)).bind fun source => c.get d source f := by
  rw [reindexTickers, get_tabulate_eq]
  by_cases ht : t < tickers.length
  · rw [List.getElem?_eq_getElem ht]
    by_cases hdf : d < c.dates.length ∧ f < c.fields.length
    · simp [hdf, ht]
    · have hnone : ∀ source, c.get d source f = none :=
        fun source => get_eq_none fun h => hdf ⟨h.1, h.2.2⟩
      rw [if_neg (fun h => hdf ⟨h.1, h.2.2⟩)]
      simp [hnone]
  · rw [if_neg (fun h => ht h.2.1), List.getElem?_eq_none (by omega)]
    rfl

theorem get_reindexFields (c : Cube) (fields : List String) (d t f : Nat) :
    (c.reindexFields fields).get d t f =
      fields[f]?.bind fun field =>
        (c.fields.findIdx? (· == field)).bind fun source => c.get d t source := by
  rw [reindexFields, get_tabulate_eq]
  by_cases hf : f < fields.length
  · rw [List.getElem?_eq_getElem hf]
    by_cases hdt : d < c.dates.length ∧ t < c.tickers.length
    · simp [hdt, hf]
    · have hnone : ∀ source, c.get d t source = none :=
        fun source => get_eq_none fun h => hdt ⟨h.1, h.2.1⟩
      rw [if_neg (fun h => hdt ⟨h.1, h.2.1⟩)]
      simp [hnone]
  · rw [if_neg (fun h => hf h.2.2), List.getElem?_eq_none (by omega)]
    rfl

/-- The value on a date at the first positions that carry a ticker and a field. -/
def valueOf (c : Cube) (date : Nat) (ticker : Ticker) (field : String) : Value :=
  (c.tickers.findIdx? (Ticker.same · ticker)).bind fun t =>
    (c.fields.findIdx? (· == field)).bind fun f => c.get date t f

/-- A cube laid out to tickers and fields holds the values of their labels. -/
theorem get_reindex (c : Cube) (tickers : List Ticker) (fields : List String) (d t f : Nat) :
    ((c.reindexTickers tickers).reindexFields fields).get d t f =
      tickers[t]?.bind fun ticker => fields[f]?.bind fun field => c.valueOf d ticker field := by
  rw [get_reindexFields]
  have haxis : (c.reindexTickers tickers).fields = c.fields := rfl
  simp only [haxis, get_reindexTickers, valueOf]
  cases tickers[t]? with
  | none => cases fields[f]? <;> simp
  | some ticker =>
    cases fields[f]? with
    | none => rfl
    | some field =>
      simp only [Option.bind_some]
      cases c.tickers.findIdx? (Ticker.same · ticker) <;>
        cases c.fields.findIdx? (· == field) <;> rfl

/-- Some requested ticker and field have a value on the date at a position. -/
def showsOn (c : Cube) (tickers : List Ticker) (fields : List String) (date : Nat) : Bool :=
  tickers.any fun ticker => fields.any fun field => (c.valueOf date ticker field).isSome

/-- The positions of the dates on which some requested ticker and field have a value. -/
def shownPositions (c : Cube) (tickers : List Ticker) (fields : List String) : List Nat :=
  (List.range c.dates.length).filter (c.showsOn tickers fields)

/-- In a cube laid out to tickers and fields, the kept dates are those on which some requested ticker
and field have a value. -/
theorem keptDates_reindex (c : Cube) (tickers : List Ticker) (fields : List String) :
    ((c.reindexTickers tickers).reindexFields fields).keptDates = c.shownPositions tickers fields := by
  have hvalue : ∀ d, ((c.reindexTickers tickers).reindexFields fields).hasValueOn d =
      c.showsOn tickers fields d := by
    intro d
    have haxes : ((c.reindexTickers tickers).reindexFields fields).tickers = tickers ∧
        ((c.reindexTickers tickers).reindexFields fields).fields = fields := ⟨rfl, rfl⟩
    rw [Bool.eq_iff_iff]
    simp only [hasValueOn, showsOn, get_reindex, List.any_eq_true, List.mem_range, haxes]
    constructor
    · rintro ⟨t, ht, f, hf, hv⟩
      rw [List.getElem?_eq_getElem ht, List.getElem?_eq_getElem hf] at hv
      exact ⟨tickers[t], List.getElem_mem ht, fields[f], List.getElem_mem hf, hv⟩
    · rintro ⟨ticker, hticker, field, hfield, hv⟩
      obtain ⟨t, ht, rfl⟩ := List.getElem_of_mem hticker
      obtain ⟨f, hf, rfl⟩ := List.getElem_of_mem hfield
      refine ⟨t, ht, f, hf, ?_⟩
      rw [List.getElem?_eq_getElem ht, List.getElem?_eq_getElem hf]
      exact hv
  exact List.filter_congr fun d _ => hvalue d

/-- The layout of a request is one tabulation, which is then collapsed: on the dates that are shown, it
holds the values of the requested labels. -/
theorem normalize_eq (c : Cube) (tickers : List Ticker) (fields : List String)
    (flags : SqueezeFlags) :
    c.normalize tickers fields flags =
      (tabulate ((c.shownPositions tickers fields).filterMap fun d => c.dates[d]?) tickers fields
        fun d t f =>
          (c.shownPositions tickers fields)[d]?.bind fun source =>
            tickers[t]?.bind fun ticker => fields[f]?.bind fun field =>
              c.valueOf source ticker field).squeeze flags := by
  rw [normalize, dropEmptyDates]
  simp only [keptDates_reindex, get_reindex, List.getElem?_toArray]
  rfl

end Cube

end MarketBars
