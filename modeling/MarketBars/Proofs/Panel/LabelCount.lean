import MarketBars.Proofs.Panel.Relabel
import Mathlib.Algebra.GroupWithZero.Nat

namespace MarketBars

namespace Series

variable {L M : Type} {s : Series L} {index : List M}

theorem relabel?_eq_none_iff : s.relabel? index = none ↔ s.index.length ≠ index.length := by
  simp [relabel?, ofValues?, s.size_eq]

theorem of_relabel? {s' : Series M} (h : s.relabel? index = some s') :
    s'.index = index ∧ s'.values = s.values := by
  unfold relabel? ofValues? at h
  split at h
  · cases h
    exact ⟨rfl, rfl⟩
  · cases h

end Series

namespace Frame

variable {R C D : Type} {m : Frame R C} {columns : List D}

theorem relabelColumns?_eq_none_iff :
    m.relabelColumns? columns = none ↔ m.columns.length ≠ columns.length ∧ m.index ≠ [] := by
  simp [relabelColumns?, ofValues?, m.size_eq, mul_eq_mul_left_iff]

theorem of_relabelColumns? {m' : Frame R D} (h : m.relabelColumns? columns = some m') :
    m'.index = m.index ∧ m'.columns = columns ∧ m'.values = m.values := by
  unfold relabelColumns? ofValues? at h
  split at h
  · cases h
    exact ⟨rfl, rfl, rfl⟩
  · cases h

section Congr

variable {m' : Frame R D} (hindex : m'.index = m.index) (hvalues : m'.values = m.values)
include hindex hvalues

theorem length_columns_congr {r : Nat} (hr : r < m.index.length) :
    m'.columns.length = m.columns.length := by
  have hsize : m.index.length * m'.columns.length = m.index.length * m.columns.length := by
    rw [← m.size_eq, ← hvalues, ← hindex, m'.size_eq]
  exact Nat.eq_of_mul_eq_mul_left (by omega) hsize

theorem get_congr : m'.get = m.get := by
  funext r k
  by_cases hr : r < m.index.length
  · rw [get, get, hindex, hvalues, length_columns_congr hindex hvalues hr]
  · simp [get, hindex, hr]

theorem row?_congr (r : Nat) : (m'.row? r).map Series.values = (m.row? r).map Series.values := by
  by_cases hr : r < m.index.length
  · have hlength := length_columns_congr hindex hvalues hr
    simp only [row?, hindex, hr, if_true, Option.map_some, get_congr hindex hvalues]
    exact congrArg some (ofFn_congr hlength fun _ _ => rfl)
  · simp [row?, hindex, hr]

theorem column?_congr (hlength : m'.columns.length = m.columns.length) (k : Nat) :
    m'.column? k = m.column? k := by
  rw [column?, column?, hindex, hlength, get_congr hindex hvalues]

end Congr

end Frame

namespace Cube

variable {c : Cube} {fields : List String}

theorem relabelFields?_eq_none_iff : c.relabelFields? fields = none ↔
    c.fields.length ≠ fields.length ∧ c.dates ≠ [] ∧ c.tickers ≠ [] := by
  simp [relabelFields?, ofValues?, c.size_eq, mul_eq_mul_left_iff]

theorem of_relabelFields? {c' : Cube} (h : c.relabelFields? fields = some c') :
    c'.dates = c.dates ∧ c'.tickers = c.tickers ∧ c'.fields = fields ∧ c'.values = c.values := by
  unfold relabelFields? ofValues? at h
  split at h
  · cases h
    exact ⟨rfl, rfl, rfl, rfl⟩
  · cases h

theorem get_congr {c c' : Cube} (hdates : c'.dates = c.dates) (htickers : c'.tickers = c.tickers)
    (hvalues : c'.values = c.values) : c'.get = c.get := by
  funext d t f
  by_cases hdt : d < c.dates.length ∧ t < c.tickers.length
  · have hsize : c.dates.length * c.tickers.length * c'.fields.length =
        c.dates.length * c.tickers.length * c.fields.length := by
      rw [← c.size_eq, ← hvalues, ← hdates, ← htickers, c'.size_eq]
    have hlength : c'.fields.length = c.fields.length :=
      Nat.eq_of_mul_eq_mul_left (Nat.mul_pos (by omega) (by omega)) hsize
    rw [get, get, hdates, htickers, hvalues, hlength]
  · rw [get_eq_none fun hin => hdt ⟨hin.1, hin.2.1⟩, get_eq_none]
    rw [hdates, htickers]
    exact fun hin => hdt ⟨hin.1, hin.2.1⟩

end Cube

namespace History

/-- There are no dates or no tickers on an axis that is left. -/
def HasEmptyAxis (h : History) : Prop := h.dates? = some [] ∨ h.tickers? = some []

/-- The values of a history, in the order in which they are kept. -/
def values : History → Array Value
  | scalar v => #[v]
  | byDate s => s.values
  | byTicker s => s.values
  | byField s => s.values
  | dateTicker m => m.values
  | dateField m => m.values
  | tickerField m => m.values
  | cube c => c.values

def row? : History → Nat → Option (Array Value)
  | dateTicker m, r => (m.row? r).map Series.values
  | dateField m, r => (m.row? r).map Series.values
  | tickerField m, r => (m.row? r).map Series.values
  | _, _ => none

def column? : History → Nat → Option (Array Value)
  | dateTicker m, k => (m.column? k).map Series.values
  | dateField m, k => (m.column? k).map Series.values
  | tickerField m, k => (m.column? k).map Series.values
  | _, _ => none

/-- The second history is the first one with the names for its field labels. The columns can be looked up
at the same positions if there are as many names as labels. -/
structure Relabels (inner outer : History) (names : List String) : Prop where
  rank_eq : outer.rank = inner.rank
  dates_eq : outer.dates? = inner.dates?
  tickers_eq : outer.tickers? = inner.tickers?
  fields_eq : outer.fields? = inner.fields?.map fun _ => names
  values_eq : outer.values = inner.values
  cell_eq : ∀ d t f, outer.cell d t f = inner.cell d t f
  row_eq : ∀ r, outer.row? r = inner.row? r
  column_eq : (∀ labels, inner.fields? = some labels → labels.length = names.length) →
    ∀ k, outer.column? k = inner.column? k

theorem relabelFields?_eq_none_iff {h : History} {names : List String} :
    h.relabelFields? names = none ↔
      (∃ labels, h.fields? = some labels ∧ labels.length ≠ names.length) ∧ ¬ h.HasEmptyAxis := by
  cases h <;>
    simp [relabelFields?, fields?, HasEmptyAxis, dates?, tickers?, Series.relabel?_eq_none_iff,
      Frame.relabelColumns?_eq_none_iff, Cube.relabelFields?_eq_none_iff]

theorem relabels_refl {h : History} (hfields : h.fields? = none) (names : List String) :
    h.Relabels h names :=
  ⟨rfl, rfl, rfl, by rw [hfields]; rfl, rfl, fun _ _ _ => rfl, fun _ => rfl, fun _ _ => rfl⟩

theorem relabels_of_relabelFields? {inner outer : History} {names : List String}
    (h : inner.relabelFields? names = some outer) : inner.Relabels outer names := by
  cases inner with
  | scalar | byDate | byTicker | dateTicker =>
    cases h
    exact relabels_refl rfl names
  | byField s =>
    obtain ⟨s', hs, rfl⟩ := Option.map_eq_some_iff.mp h
    obtain ⟨hindex, hvalues⟩ := Series.of_relabel? hs
    refine ⟨rfl, rfl, rfl, congrArg some hindex, hvalues, fun d t f => ?_, fun _ => rfl, fun _ _ => rfl⟩
    simp only [cell, Series.get, hvalues]
  | dateField m =>
    obtain ⟨m', hm, rfl⟩ := Option.map_eq_some_iff.mp h
    obtain ⟨hindex, hcolumns, hvalues⟩ := Frame.of_relabelColumns? hm
    refine ⟨rfl, congrArg some hindex, rfl, congrArg some hcolumns, hvalues, fun d t f => ?_,
      fun r => Frame.row?_congr hindex hvalues r, fun hlength k => ?_⟩
    · simp only [cell, Frame.get_congr hindex hvalues]
    · have hk := Frame.column?_congr hindex hvalues (hcolumns ▸ (hlength _ rfl).symm) k
      simp only [column?, hk]
  | tickerField m =>
    obtain ⟨m', hm, rfl⟩ := Option.map_eq_some_iff.mp h
    obtain ⟨hindex, hcolumns, hvalues⟩ := Frame.of_relabelColumns? hm
    refine ⟨rfl, rfl, congrArg some hindex, congrArg some hcolumns, hvalues, fun d t f => ?_,
      fun r => Frame.row?_congr hindex hvalues r, fun hlength k => ?_⟩
    · simp only [cell, Frame.get_congr hindex hvalues]
    · have hk := Frame.column?_congr hindex hvalues (hcolumns ▸ (hlength _ rfl).symm) k
      simp only [column?, hk]
  | cube c =>
    obtain ⟨c', hc, rfl⟩ := Option.map_eq_some_iff.mp h
    obtain ⟨hdates, htickers, hfields, hvalues⟩ := Cube.of_relabelFields? hc
    refine ⟨rfl, congrArg some hdates, congrArg some htickers, congrArg some hfields, hvalues,
      fun d t f => ?_, fun _ => rfl, fun _ _ => rfl⟩
    simp only [cell, Cube.get_congr hdates htickers hvalues]

/-- Field labels are refused when a history without an empty axis has another number of them. Otherwise
they replace the labels, and nothing else changes. -/
theorem labels_refused_iff (h : History) (names : List String) :
    (h.relabelFields? names = none ↔
      (∃ labels, h.fields? = some labels ∧ labels.length ≠ names.length) ∧ ¬ h.HasEmptyAxis) ∧
    ∀ outer, h.relabelFields? names = some outer → h.Relabels outer names :=
  ⟨relabelFields?_eq_none_iff, fun _ => relabels_of_relabelFields?⟩

/-- Two labels are put on an axis of one field. -/
theorem any_labels_without_dates :
    let inner : History := .dateField ⟨[], ["close"], #[], rfl⟩
    ∃ outer, inner.relabelFields? ["open", "close"] = some outer ∧
      inner.fields? = some ["close"] ∧ outer.fields? = some ["open", "close"] :=
  ⟨_, rfl, rfl, rfl⟩

end History

end MarketBars
