import MarketBars.Proofs.Panel.Layout
import Mathlib.Data.List.Basic

/-!
# Values laid out row by row

The values of a series, a frame or a cube stand one after the other, the last axis first. Operations that
loop over the axes and append one value after the other must end with as many values as the labels ask for,
and may only look up values that are there. Done with all of these checks, the layout of a request never
fails, and it is the layout by tabulation.
-/

namespace MarketBars

section Loops

variable {α β γ δ : Type}

/-- Rows of equal length one after the other, counted through. -/
theorem map_range_mul (m n : Nat) (entry : Nat → Nat → α) :
    (List.range (m * n)).map (fun i => entry (i / n) (i % n)) =
      (List.range m).flatMap fun r => (List.range n).map (entry r) := by
  induction m with
  | zero => simp
  | succ m ih =>
    have hrow : (List.range n).map (fun j => entry ((m * n + j) / n) ((m * n + j) % n)) =
        (List.range n).map (entry m) := by
      refine List.map_congr_left fun j hj => ?_
      have hlt : j < n := List.mem_range.mp hj
      rw [Nat.mul_comm, Nat.mul_add_div (by omega), Nat.mul_add_mod, Nat.div_eq_of_lt hlt,
        Nat.mod_eq_of_lt hlt, Nat.add_zero]
    rw [Nat.succ_mul, List.range_add, List.map_append, ih, List.range_succ, List.flatMap_append,
      List.flatMap_singleton, List.map_map]
    exact congrArg _ hrow

/-- A loop over a list is a loop over its positions. -/
theorem map_eq_map_range {xs : List α} {f : α → β} {g : Nat → β}
    (h : ∀ i x, xs[i]? = some x → f x = g i) : xs.map f = (List.range xs.length).map g := by
  apply List.ext_getElem
  · simp
  · intro i h₁ h₂
    rw [List.length_map] at h₁
    simp [h i xs[i] (List.getElem?_eq_getElem h₁)]

theorem flatMap_eq_flatMap_range {xs : List α} {f : α → List β} {g : Nat → List β}
    (h : ∀ i x, xs[i]? = some x → f x = g i) : xs.flatMap f = (List.range xs.length).flatMap g := by
  rw [List.flatMap_def, List.flatMap_def, map_eq_map_range h]

theorem toArray_map_range (n : Nat) (f : Nat → α) :
    ((List.range n).map f).toArray = Array.ofFn fun i : Fin n => f i := by
  apply Array.ext
  · simp
  · intro i h₁ h₂
    simp

/-- The choices of one element from each of three lists, in the order of nested loops. -/
def eachOf (xs : List α) (ys : List β) (zs : List γ) : List (α × β × γ) :=
  xs.flatMap fun x => ys.flatMap fun y => zs.map fun z => (x, y, z)

/-- Three nested loops, counted through. -/
theorem map_eachOf {xs : List α} {ys : List β} {zs : List γ} {value : α × β × γ → δ}
    {g : Nat → Nat → Nat → δ}
    (h : ∀ i j k x y z, xs[i]? = some x → ys[j]? = some y → zs[k]? = some z →
      value (x, y, z) = g i j k) :
    (eachOf xs ys zs).map value =
      (List.range (xs.length * ys.length * zs.length)).map fun i =>
        g (i / zs.length / ys.length) (i / zs.length % ys.length) (i % zs.length) := by
  have hloops : (eachOf xs ys zs).map value = (List.range xs.length).flatMap fun i =>
      (List.range ys.length).flatMap fun j => (List.range zs.length).map fun k => g i j k := by
    simp only [eachOf, List.map_flatMap, List.map_map]
    refine flatMap_eq_flatMap_range fun i x hx => flatMap_eq_flatMap_range fun j y hy => ?_
    exact map_eq_map_range fun k z hz => h i j k x y z hx hy hz
  -- The two outer loops are one loop over rows.
  have hrows := congrArg (List.flatMap fun row : Nat × Nat =>
    (List.range zs.length).map (g row.1 row.2)) (map_range_mul xs.length ys.length Prod.mk)
  rw [List.flatMap_map, List.flatMap_assoc] at hrows
  simp only [List.flatMap_map] at hrows
  rw [hloops, ← hrows]
  exact (map_range_mul (xs.length * ys.length) zs.length
    fun row k => g (row / ys.length) (row % ys.length) k).symm

theorem mapM_eq_some_map {f : α → Option β} {g : α → β} {xs : List α}
    (h : ∀ x ∈ xs, f x = some (g x)) : xs.mapM f = some (xs.map g) := by
  induction xs with
  | nil => rfl
  | cons x rest ih =>
    rw [List.mapM_cons, h x List.mem_cons_self, ih fun y hy => h y (List.mem_cons_of_mem x hy)]
    rfl

/-- Values are looked up one after the other, and something is made of them; nothing is when one of them
cannot be looked up. -/
def fill? (places : List α) (read? : α → Option Value) (make? : Array Value → Option β) : Option β :=
  (places.mapM read?).bind fun values => make? values.toArray

theorem fill?_eq {places : List α} {read? : α → Option Value} (value : α → Value)
    (h : ∀ p, read? p = some (value p)) (make? : Array Value → Option β) :
    fill? places read? make? = make? (places.map value).toArray := by
  rw [fill?, mapM_eq_some_map fun p _ => h p, Option.bind_some]

end Loops

/-- The places of a grid, in the order of nested loops. -/
def pairs (m n : Nat) : List (Nat × Nat) :=
  (List.range m).flatMap fun r => (List.range n).map fun k => (r, k)

theorem Series.fill?_range {L : Type} {index : List L} {read? : Nat → Option Value}
    {value : Nat → Value} (h : ∀ i, read? i = some (value i)) :
    fill? (List.range index.length) read? (ofValues? index) = some (tabulate index value) := by
  rw [fill?_eq value h, ofValues?, dif_pos (by simp)]
  simp only [toArray_map_range, tabulate]

theorem Frame.fill?_pairs {R C : Type} {index : List R} {columns : List C}
    {read? : Nat → Nat → Option Value} {value : Nat → Nat → Value}
    (h : ∀ r k, read? r k = some (value r k)) :
    fill? (pairs index.length columns.length) (fun p => read? p.1 p.2) (ofValues? index columns) =
      some (tabulate index columns value) := by
  have hrows : (pairs index.length columns.length).map (fun p => value p.1 p.2) =
      (List.range (index.length * columns.length)).map fun i =>
        value (i / columns.length) (i % columns.length) := by
    rw [map_range_mul, pairs, List.map_flatMap]
    simp only [List.map_map, Function.comp_def]
  rw [fill?_eq (fun p => value p.1 p.2) fun p => h p.1 p.2, hrows, ofValues?, dif_pos (by simp)]
  simp only [toArray_map_range, tabulate]

namespace Cube

/-- Nested loops over dates, tickers and fields fill a cube. -/
theorem ofValues?_eachOf {α β γ : Type} {xs : List α} {ys : List β} {zs : List γ}
    {value : α × β × γ → Value} {g : Nat → Nat → Nat → Value} {dates : List Instant}
    {tickers : List Ticker} {fields : List String} (hdates : xs.length = dates.length)
    (htickers : ys.length = tickers.length) (hfields : zs.length = fields.length)
    (h : ∀ i j k x y z, xs[i]? = some x → ys[j]? = some y → zs[k]? = some z →
      value (x, y, z) = g i j k) :
    ofValues? dates tickers fields ((eachOf xs ys zs).map value).toArray =
      some (tabulate dates tickers fields g) := by
  rw [map_eachOf h, hdates, htickers, hfields, ofValues?, dif_pos (by simp)]
  simp only [toArray_map_range, tabulate]

/-- The value at three positions, if its place is inside of the array. Beyond the axes nothing is looked
up. -/
def read? (c : Cube) (date ticker field : Nat) : Option Value :=
  if date < c.dates.length ∧ ticker < c.tickers.length ∧ field < c.fields.length then
    c.values[(date * c.tickers.length + ticker) * c.fields.length + field]?
  else some none

/-- Every value is inside of the array. -/
theorem read?_eq (c : Cube) (d t f : Nat) : c.read? d t f = some (c.get d t f) := by
  unfold read? get
  split
  · rename_i h
    have hlt := position_lt h.1 h.2.1 h.2.2
    rw [← c.size_eq] at hlt
    rw [Array.getElem?_eq_getElem hlt]
    rfl
  · rfl

/-- The ticker axis laid out anew, with all checks. -/
def reindexTickers? (c : Cube) (tickers : List Ticker) : Option Cube :=
  let sources := tickers.map fun t => c.tickers.findIdx? (Ticker.same · t)
  fill? (eachOf (List.range c.dates.length) sources (List.range c.fields.length))
    (fun (d, source, f) => source.elim (some none) fun t => c.read? d t f)
    (ofValues? c.dates tickers c.fields)

def reindexFields? (c : Cube) (fields : List String) : Option Cube :=
  let sources := fields.map fun f => c.fields.findIdx? (· == f)
  fill? (eachOf (List.range c.dates.length) (List.range c.tickers.length) sources)
    (fun (d, t, source) => source.elim (some none) fun f => c.read? d t f)
    (ofValues? c.dates c.tickers fields)

theorem elim_eq_bind {read? : Nat → Option Value} {get : Nat → Value}
    (h : ∀ i, read? i = some (get i)) (source : Option Nat) :
    source.elim (some none) read? = some (source.bind get) := by
  cases source with
  | none => rfl
  | some i => exact h i

theorem reindexTickers?_eq (c : Cube) (tickers : List Ticker) :
    c.reindexTickers? tickers = some (c.reindexTickers tickers) := by
  unfold reindexTickers? reindexTickers
  dsimp only
  rw [fill?_eq (fun p => p.2.1.bind fun t => c.get p.1 t p.2.2) fun p =>
    elim_eq_bind (fun t => c.read?_eq p.1 t p.2.2) p.2.1]
  refine ofValues?_eachOf List.length_range ?_ List.length_range ?_
  · rw [List.length_map]
  · intro i j k d source f hi hj hk
    obtain ⟨-, rfl⟩ := List.getElem?_eq_some_iff.mp hi
    obtain ⟨-, rfl⟩ := List.getElem?_eq_some_iff.mp hk
    rw [List.getElem?_toArray, hj]
    simp

theorem reindexFields?_eq (c : Cube) (fields : List String) :
    c.reindexFields? fields = some (c.reindexFields fields) := by
  unfold reindexFields? reindexFields
  dsimp only
  rw [fill?_eq (fun p => p.2.2.bind fun f => c.get p.1 p.2.1 f) fun p =>
    elim_eq_bind (fun f => c.read?_eq p.1 p.2.1 f) p.2.2]
  refine ofValues?_eachOf List.length_range List.length_range ?_ ?_
  · rw [List.length_map]
  · intro i j k d t source hi hj hk
    obtain ⟨-, rfl⟩ := List.getElem?_eq_some_iff.mp hi
    obtain ⟨-, rfl⟩ := List.getElem?_eq_some_iff.mp hj
    rw [List.getElem?_toArray, hk]
    simp

/-- The values of a date, if their places are inside of the array. -/
def slab? (c : Cube) (date : Nat) : Option (List Value) :=
  let width := c.tickers.length * c.fields.length
  if (date + 1) * width ≤ c.values.size then
    some ((c.values.toList.drop (date * width)).take width)
  else none

/-- The values of the tickers and fields on a date. -/
def slab (c : Cube) (date : Nat) : List Value :=
  (List.range c.tickers.length).flatMap fun t => (List.range c.fields.length).map (c.get date t)

theorem slab?_eq {c : Cube} {d : Nat} (h : d < c.dates.length) : c.slab? d = some (c.slab d) := by
  have hsize : c.values.size = c.dates.length * (c.tickers.length * c.fields.length) := by
    rw [c.size_eq, Nat.mul_assoc]
  have hend : (d + 1) * (c.tickers.length * c.fields.length) ≤ c.values.size := by
    rw [hsize]
    exact Nat.mul_le_mul_right _ h
  rw [slab?, if_pos hend, slab, ← map_range_mul]
  rw [Nat.succ_mul] at hend
  refine congrArg some (List.ext_getElem ?_ fun i hi _ => ?_)
  · rw [List.length_take, List.length_drop, Array.length_toList, List.length_map, List.length_range]
    omega
  · have hlt : i < c.tickers.length * c.fields.length := by
      rw [List.length_take] at hi
      omega
    have hfields : 0 < c.fields.length := Nat.pos_of_lt_mul_left hlt
    have hin : d < c.dates.length ∧ i / c.fields.length < c.tickers.length ∧
        i % c.fields.length < c.fields.length :=
      ⟨h, (Nat.div_lt_iff_lt_mul hfields).mpr hlt, Nat.mod_lt _ hfields⟩
    -- The place of a ticker and a field within the date is counted through in the same way.
    have hplace : (d * c.tickers.length + i / c.fields.length) * c.fields.length +
        i % c.fields.length = d * (c.tickers.length * c.fields.length) + i := by
      rw [Nat.add_mul, Nat.mul_assoc, Nat.add_assoc, Nat.div_add_mod']
    have hplace' : d * (c.tickers.length * c.fields.length) + i < c.values.size := by omega
    rw [List.getElem_take, List.getElem_drop, List.getElem_map, List.getElem_range, get, if_pos hin,
      hplace, Array.getElem?_eq_getElem hplace']
    rfl

def dropEmptyDates? (c : Cube) : Option Cube :=
  (c.dates.zipIdx.mapM fun p => (c.slab? p.2).map (Prod.mk p.1)).bind fun slabs =>
    let kept := slabs.filter fun s => s.2.any Option.isSome
    ofValues? (kept.map Prod.fst) c.tickers c.fields (kept.flatMap Prod.snd).toArray

theorem any_slab (c : Cube) (d : Nat) : (c.slab d).any Option.isSome = c.hasValueOn d := by
  simp only [slab, hasValueOn, List.any_flatMap, List.any_map, Function.comp_def]

theorem dropEmptyDates?_eq (c : Cube) : c.dropEmptyDates? = some c.dropEmptyDates := by
  have hmem : ∀ p ∈ c.dates.zipIdx, c.dates[p.2]? = some p.1 :=
    fun p hp => List.mem_zipIdx_iff_getElem?.mp hp
  have hslabs : (c.dates.zipIdx.mapM fun p => (c.slab? p.2).map (Prod.mk p.1)) =
      some (c.dates.zipIdx.map fun p => (p.1, c.slab p.2)) := by
    refine mapM_eq_some_map fun p hp => ?_
    rw [slab?_eq (List.getElem?_eq_some_iff.mp (hmem p hp)).1]
    rfl
  have hkept : ((c.dates.zipIdx.map fun p => (p.1, c.slab p.2)).filter fun s =>
      s.2.any Option.isSome) = (c.dates.zipIdx.filter fun p => c.hasValueOn p.2).map fun p =>
        (p.1, c.slab p.2) := by
    rw [List.filter_map]
    simp only [Function.comp_def, any_slab]
  have hpositions : (c.dates.zipIdx.filter fun p => c.hasValueOn p.2).map Prod.snd = c.keptDates := by
    rw [keptDates, List.range_eq_range', ← List.zipIdx_map_snd 0 c.dates, List.filter_map]
    rfl
  have hdates : (c.dates.zipIdx.filter fun p => c.hasValueOn p.2).map Prod.fst =
      c.keptDates.filterMap fun d => c.dates[d]? := by
    rw [← hpositions, List.filterMap_map]
    exact (List.filterMap_eq_map_iff_forall_eq_some.mpr fun p hp =>
      hmem p (List.mem_filter.mp hp).1).symm
  have hlength : c.keptDates.length = (c.keptDates.filterMap fun d => c.dates[d]?).length := by
    rw [← hdates, ← hpositions, List.length_map, List.length_map]
  have hvalues : c.keptDates.flatMap c.slab =
      (eachOf c.keptDates (List.range c.tickers.length) (List.range c.fields.length)).map fun p =>
        c.get p.1 p.2.1 p.2.2 := by
    simp only [eachOf, List.map_flatMap, List.map_map]
    rfl
  unfold dropEmptyDates? dropEmptyDates
  rw [hslabs, Option.bind_some]
  dsimp only
  rw [hkept, List.map_map, List.flatMap_map]
  dsimp only [Function.comp_def]
  rw [hdates, ← List.flatMap_map, hpositions, hvalues]
  refine ofValues?_eachOf hlength List.length_range List.length_range ?_
  intro i j k d t f hi hj hk
  obtain ⟨-, rfl⟩ := List.getElem?_eq_some_iff.mp hj
  obtain ⟨-, rfl⟩ := List.getElem?_eq_some_iff.mp hk
  rw [List.getElem?_toArray, hi]
  simp

def readLast? (c : Cube) (ticker field : Nat) : Option Value :=
  if c.dates.length = 0 then some none else c.read? (c.dates.length - 1) ticker field

theorem readLast?_eq (c : Cube) (t f : Nat) : c.readLast? t f = some (c.getLast t f) := by
  unfold readLast? getLast
  split
  · rfl
  · exact c.read?_eq _ t f

def squeeze? (c : Cube) (flags : SqueezeFlags) : Option History :=
  let dates := List.range c.dates.length
  let tickers := List.range c.tickers.length
  let fields := List.range c.fields.length
  match flags.date, flags.ticker, flags.field with
  | true, true, true => (c.readLast? 0 0).map .scalar
  | true, true, false =>
    (fill? fields (fun f => c.readLast? 0 f) (Series.ofValues? c.fields)).map .byField
  | true, false, true =>
    (fill? tickers (fun t => c.readLast? t 0) (Series.ofValues? c.tickers)).map .byTicker
  | true, false, false =>
    (fill? (pairs c.tickers.length c.fields.length) (fun (t, f) => c.readLast? t f)
      (Frame.ofValues? c.tickers c.fields)).map .tickerField
  | false, true, true =>
    (fill? dates (fun d => c.read? d 0 0) (Series.ofValues? c.dates)).map .byDate
  | false, true, false =>
    (fill? (pairs c.dates.length c.fields.length) (fun (d, f) => c.read? d 0 f)
      (Frame.ofValues? c.dates c.fields)).map .dateField
  | false, false, true =>
    (fill? (pairs c.dates.length c.tickers.length) (fun (d, t) => c.read? d t 0)
      (Frame.ofValues? c.dates c.tickers)).map .dateTicker
  | false, false, false => some (.cube c)

theorem squeeze?_eq (c : Cube) (flags : SqueezeFlags) :
    c.squeeze? flags = some (c.squeeze flags) := by
  obtain ⟨date, ticker, field⟩ := flags
  cases date <;> cases ticker <;> cases field
  · rfl
  · simp only [squeeze?, squeeze, Frame.fill?_pairs fun d t => c.read?_eq d t 0, Option.map_some]
  · simp only [squeeze?, squeeze, Frame.fill?_pairs fun d f => c.read?_eq d 0 f, Option.map_some]
  · simp only [squeeze?, squeeze, Series.fill?_range fun d => c.read?_eq d 0 0, Option.map_some]
  · simp only [squeeze?, squeeze, Frame.fill?_pairs c.readLast?_eq, Option.map_some]
  · simp only [squeeze?, squeeze, Series.fill?_range fun t => c.readLast?_eq t 0, Option.map_some]
  · simp only [squeeze?, squeeze, Series.fill?_range fun f => c.readLast?_eq 0 f, Option.map_some]
  · simp only [squeeze?, squeeze, c.readLast?_eq, Option.map_some]

def normalize? (c : Cube) (tickers : List Ticker) (fields : List String) (flags : SqueezeFlags) :
    Option History := do
  let c ← c.reindexTickers? tickers
  let c ← c.reindexFields? fields
  let c ← c.dropEmptyDates?
  c.squeeze? flags

/-- No check of a layout fails. -/
theorem normalize?_eq (c : Cube) (tickers : List Ticker) (fields : List String)
    (flags : SqueezeFlags) :
    c.normalize? tickers fields flags = some (c.normalize tickers fields flags) := by
  simp only [normalize?, reindexTickers?_eq, reindexFields?_eq, dropEmptyDates?_eq, squeeze?_eq,
    Option.bind_eq_bind, Option.bind_some]
  rfl

end Cube

end MarketBars
