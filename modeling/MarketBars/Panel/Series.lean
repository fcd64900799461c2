import MarketBars.Number.Binary64

namespace MarketBars

/-- A number, or no value. -/
abbrev Value := Option Binary64

/-- One value for each label. -/
structure Series (L : Type) where
  index : List L
  values : Array Value
  size_eq : values.size = index.length

namespace Series

variable {L M : Type}

/-- A series from labels and values, which must be equally many. -/
def ofValues? (index : List L) (values : Array Value) : Option (Series L) :=
  if h : values.size = index.length then some ⟨index, values, h⟩ else none

def tabulate (index : List L) (f : Nat → Value) : Series L :=
  ⟨index, Array.ofFn fun i : Fin index.length => f i, by simp⟩

/-- The same values under other labels, which must be equally many. -/
def relabel? (s : Series L) (index : List M) : Option (Series M) :=
  ofValues? index s.values

def length (s : Series L) : Nat := s.values.size

def get (s : Series L) (i : Nat) : Value := s.values[i]?.join

/-- The value at the first position that carries a label. -/
def getBy [BEq L] (s : Series L) (label : L) : Value :=
  (s.index.findIdx? (· == label)).bind s.get

def entries (s : Series L) : List (L × Value) :=
  s.index.zip s.values.toList

/-- Equal labels, and values that are equal as numbers: no NaN equals anything. -/
def numericallyEqual [BEq L] (s t : Series L) : Bool :=
  s.index == t.index && s.values.size == t.values.size &&
    (s.values.toList.zip t.values.toList).all fun
      | (none, none) => true
      | (some x, some y) => x.numericallyEqual y
      | _ => false

theorem get_tabulate (index : List L) (f : Nat → Value) {i : Nat} (h : i < index.length) :
    (tabulate index f).get i = f i := by
  simp [tabulate, get, h]

end Series

/-- One value for each row and column, kept row by row. -/
structure Frame (R C : Type) where
  index : List R
  columns : List C
  values : Array Value
  size_eq : values.size = index.length * columns.length

namespace Frame

variable {R C D : Type}

def ofValues? (index : List R) (columns : List C) (values : Array Value) : Option (Frame R C) :=
  if h : values.size = index.length * columns.length then some ⟨index, columns, values, h⟩
  else none

def tabulate (index : List R) (columns : List C) (f : Nat → Nat → Value) : Frame R C :=
  ⟨index, columns,
    Array.ofFn fun i : Fin (index.length * columns.length) =>
      f (i / columns.length) (i % columns.length),
    by simp⟩

/-- The same values under other column labels. Only the number of values is compared, so a frame
without rows takes any columns. -/
def relabelColumns? (t : Frame R C) (columns : List D) : Option (Frame R D) :=
  ofValues? t.index columns t.values

def isEmpty (t : Frame R C) : Bool := t.values.isEmpty

def get (t : Frame R C) (row column : Nat) : Value :=
  if row < t.index.length ∧ column < t.columns.length then
    t.values[row * t.columns.length + column]?.join
  else none

def column? (t : Frame R C) (column : Nat) : Option (Series R) :=
  if column < t.columns.length then
    some (Series.tabulate t.index fun row => t.get row column)
  else none

def row? (t : Frame R C) (row : Nat) : Option (Series C) :=
  if row < t.index.length then
    some (Series.tabulate t.columns fun column => t.get row column)
  else none

def columnBy? [BEq C] (t : Frame R C) (label : C) : Option (Series R) :=
  (t.columns.findIdx? (· == label)).bind t.column?

theorem get_tabulate (index : List R) (columns : List C) (f : Nat → Nat → Value) {r c : Nat}
    (hr : r < index.length) (hc : c < columns.length) :
    (tabulate index columns f).get r c = f r c := by
  have hlt : r * columns.length + c < index.length * columns.length := by
    calc r * columns.length + c < r * columns.length + columns.length := by omega
      _ = (r + 1) * columns.length := (Nat.succ_mul _ _).symm
      _ ≤ index.length * columns.length := Nat.mul_le_mul_right _ hr
  have hdiv : (r * columns.length + c) / columns.length = r := by
    rw [Nat.mul_comm, Nat.mul_add_div (by omega), Nat.div_eq_of_lt hc, Nat.add_zero]
  have hmod : (r * columns.length + c) % columns.length = c := by
    rw [Nat.mul_comm, Nat.mul_add_mod, Nat.mod_eq_of_lt hc]
  simp [tabulate, get, hr, hc, hlt, hdiv, hmod]

end Frame

end MarketBars
