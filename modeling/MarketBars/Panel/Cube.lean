import MarketBars.Panel.Series
import MarketBars.Table.Basic

/-!
# Cubes

A cube has an axis of dates, an axis of tickers and an axis of fields, and one value for each choice of
the three. Labels may repeat; where an axis is looked up by label, the first position counts.

## Main definitions

- `Cube.ofValues?`, `Cube.tabulate` — a cube from its values, or from a function of positions
- `Cube.get` — the value at three positions, missing beyond the axes
- `Cube.reindexTickers`, `Cube.reindexFields` — an axis laid out anew
- `Cube.dropEmptyDates` — the dates on which there is some value
- `Cube.assemble` — tables of several tickers over their common dates

## Design notes

Every operation that moves values is a tabulation of `get`, and a tabulation reads back
(`Cube.get_tabulate`), so no statement about an operation needs the layout of the values.
-/

namespace MarketBars

/-- One value for each date, ticker and field, kept in this order. -/
structure Cube where
  dates : List Instant
  tickers : List Ticker
  fields : List String
  values : Array Value
  size_eq : values.size = dates.length * tickers.length * fields.length

namespace Cube

/-- A cube from its axes and its values, of which there is one for each choice of labels. -/
def ofValues? (dates : List Instant) (tickers : List Ticker) (fields : List String)
    (values : Array Value) : Option Cube :=
  if h : values.size = dates.length * tickers.length * fields.length then
    some ⟨dates, tickers, fields, values, h⟩
  else none

def tabulate (dates : List Instant) (tickers : List Ticker) (fields : List String)
    (f : Nat → Nat → Nat → Value) : Cube :=
  ⟨dates, tickers, fields,
    Array.ofFn fun i : Fin (dates.length * tickers.length * fields.length) =>
      f (i / fields.length / tickers.length) (i / fields.length % tickers.length)
        (i % fields.length),
    by simp⟩

def get (c : Cube) (date ticker field : Nat) : Value :=
  if date < c.dates.length ∧ ticker < c.tickers.length ∧ field < c.fields.length then
    c.values[(date * c.tickers.length + ticker) * c.fields.length + field]?.join
  else none

/-- The same values under other field labels. Only the number of values is compared. -/
def relabelFields? (c : Cube) (fields : List String) : Option Cube :=
  ofValues? c.dates c.tickers fields c.values

/-- The ticker axis laid out anew. Every ticker takes the values of the first position that carries its
symbol, and no values when there is none. -/
def reindexTickers (c : Cube) (tickers : List Ticker) : Cube :=
  let sources := (tickers.map fun t => c.tickers.findIdx? (Ticker.same · t)).toArray
  tabulate c.dates tickers c.fields fun d t f =>
    sources[t]?.join.bind fun source => c.get d source f

/-- The field axis laid out anew, by the same rules as the ticker axis. -/
def reindexFields (c : Cube) (fields : List String) : Cube :=
  let sources := (fields.map fun f => c.fields.findIdx? (· == f)).toArray
  tabulate c.dates c.tickers fields fun d t f =>
    sources[f]?.join.bind fun source => c.get d t source

def hasValueOn (c : Cube) (date : Nat) : Bool :=
  (List.range c.tickers.length).any fun t =>
    (List.range c.fields.length).any fun f => (c.get date t f).isSome

def keptDates (c : Cube) : List Nat :=
  (List.range c.dates.length).filter c.hasValueOn

/-- The cube without the dates on which no ticker and no field has a value. -/
def dropEmptyDates (c : Cube) : Cube :=
  let kept := c.keptDates.toArray
  tabulate (c.keptDates.filterMap fun d => c.dates[d]?) c.tickers c.fields fun d t f =>
    kept[d]?.bind fun source => c.get source t f

/-- The number of a date, a ticker and a field in the layout of a cube is in range. -/
theorem position_lt {D T F d t f : Nat} (hd : d < D) (ht : t < T) (hf : f < F) :
    (d * T + t) * F + f < D * T * F := by
  have h₁ : d * T + t < D * T := by
    calc d * T + t < d * T + T := by omega
      _ = (d + 1) * T := (Nat.succ_mul _ _).symm
      _ ≤ D * T := Nat.mul_le_mul_right _ hd
  calc (d * T + t) * F + f < (d * T + t) * F + F := by omega
    _ = (d * T + t + 1) * F := (Nat.succ_mul _ _).symm
    _ ≤ D * T * F := Nat.mul_le_mul_right _ h₁

theorem place_eq_iff {T F d t f i : Nat} (ht : t < T) (hf : f < F) :
    (d * T + t) * F + f = i ↔ i / F / T = d ∧ i / F % T = t ∧ i % F = f := by
  constructor
  · rintro rfl
    have hrow : ((d * T + t) * F + f) / F = d * T + t := by
      rw [Nat.mul_comm, Nat.mul_add_div (by omega), Nat.div_eq_of_lt hf, Nat.add_zero]
    refine ⟨?_, ?_, ?_⟩
    · rw [hrow, Nat.mul_comm, Nat.mul_add_div (by omega), Nat.div_eq_of_lt ht, Nat.add_zero]
    · rw [hrow, Nat.mul_comm, Nat.mul_add_mod, Nat.mod_eq_of_lt ht]
    · rw [Nat.mul_comm, Nat.mul_add_mod, Nat.mod_eq_of_lt hf]
  · rintro ⟨rfl, rfl, rfl⟩
    rw [Nat.div_add_mod', Nat.div_add_mod']

theorem get_tabulate (dates : List Instant) (tickers : List Ticker) (fields : List String)
    (g : Nat → Nat → Nat → Value) {d t f : Nat} (hd : d < dates.length) (ht : t < tickers.length)
    (hf : f < fields.length) : (tabulate dates tickers fields g).get d t f = g d t f := by
  have hlt := position_lt hd ht hf
  obtain ⟨hdate, hticker, hfield⟩ := (@place_eq_iff _ _ d _ _ _ ht hf).mp rfl
  simp [tabulate, get, hd, ht, hf, hlt, hdate, hticker, hfield]

/-- The timestamps of every table, or the first error among them. -/
def stampsOf : List (Ticker × Table) → Except DataError (List (List Instant))
  | [] => .ok []
  | (_, table) :: rest =>
    match table.stamps with
    | .error e => .error e
    | .ok stamps =>
      match stampsOf rest with
      | .error e => .error e
      | .ok more => .ok (stamps :: more)

def sortedInstants (instants : List Instant) : List Instant :=
  distinctBy id (instants.mergeSort fun a b => decide (a ≤ b))

def lastRowAt (table : Table) (date : Instant) : Option Row :=
  table.rows.reverse.find? fun r => r.instant? = some date

/-- The value of a field in the last row of a table that is stamped with an instant. -/
def valueAt (table : Table) (date : Instant) (field : String) : Value :=
  if table.hasName field then
    (lastRowAt table date).bind fun r => (table.cellNamed field r).number?
  else none

/-- Tables of several tickers over the ascending union of their timestamps. A ticker without a row for
a date, or without a column for a field, has no value there. -/
def assemble (tables : List (Ticker × Table)) (fields : List String) : Except DataError Cube :=
  match stampsOf tables with
  | .error e => .error e
  | .ok stamps =>
    let dates := sortedInstants stamps.flatten
    let dateAxis := dates.toArray
    let tableAxis := (tables.map Prod.snd).toArray
    let fieldAxis := fields.toArray
    .ok (tabulate dates (tables.map Prod.fst) fields fun d t f =>
      match dateAxis[d]?, tableAxis[t]?, fieldAxis[f]? with
      | some date, some table, some field => valueAt table date field
      | _, _, _ => none)

end Cube

end MarketBars
