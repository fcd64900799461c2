import MarketBars.DataError
import MarketBars.Diagnostic
import MarketBars.Table.Cell

/-!
# Tables of one instrument

A table holds the rows of one instrument: each row has a timestamp and one cell for every named
column. Column names are distinct, and none of them is the reserved name of the timestamps.

## Main definitions

- `Table` — the names of the columns and the rows
- `Table.ofColumns` — a table from its timestamps and its columns
- `Table.dedupFirst` — one row for each timestamp, the first one, in ascending order
- `Table.within` — the rows between two instants
- `Table.project` — the requested columns, and the requested names that are no columns
- `Table.withAlias` — a copy of a column under another name
- `Table.stamps`, `Table.values?` — the timestamps, and the values of a column

## Design notes

A table is a list of rows and not a list of columns, so that no operation can tear a row apart: rows
are dropped and moved as wholes.
-/

namespace MarketBars

/-- A row: its timestamp and its cells, one for every column. -/
structure Row where
  stamp : Cell
  cells : List Cell
  deriving DecidableEq, Repr

namespace Row

/-- The timestamp lies between two instants, both included, as far as milliseconds tell. -/
def isWithin (start stop : Instant) (r : Row) : Bool :=
  match r.stamp.millis? with
  | none => false
  | some ms => start.millis ≤ ms && ms ≤ stop.millis

def cellAt (r : Row) (column : Nat) : Cell :=
  r.cells[column]?.getD .absent

def instant? (r : Row) : Option Instant :=
  r.stamp.millis?.bind Instant.ofMillis?

end Row

/-- The rows of one instrument. -/
structure Table where
  names : List String
  rows : List Row
  names_nodup : names.Nodup
  stampName_not_mem : "timestamp" ∉ names
  aligned : ∀ r ∈ rows, r.cells.length = names.length
  deriving DecidableEq

namespace Table

/-- The reserved name of the timestamps. -/
def stampName : String := "timestamp"

def empty : Table := ⟨[], [], by simp, by simp, by simp⟩

def height (t : Table) : Nat := t.rows.length

def isEmpty (t : Table) : Bool := t.rows.isEmpty

/-- The number of columns, the timestamps included. -/
def width (t : Table) : Nat := t.names.length + 1

/-- The rows of timestamps and columns of values. A timestamp is kept in whole milliseconds. -/
def rowsOf (stamps : List Instant) (columns : List (String × List (Option Binary64))) : List Row :=
  stamps.zipIdx.map fun (t, i) =>
    ⟨.moment t.millis, columns.map fun c => Cell.ofValue (c.2[i]?).join⟩

/-- A table from its timestamps and its columns. Every column has one value for each timestamp, and the
names are distinct. -/
def ofColumns (stamps : List Instant) (columns : List (String × List (Option Binary64))) :
    Except DataError Table :=
  match columns.find? fun c => c.2.length != stamps.length with
  | some (name, values) =>
    .error (.table ("column '" ++ name ++ "' has " ++ Nat.repr values.length ++ " values for " ++
      Nat.repr stamps.length ++ " timestamps"))
  | none =>
    if h : (columns.map Prod.fst).Nodup ∧ "timestamp" ∉ columns.map Prod.fst then
      .ok ⟨columns.map Prod.fst, rowsOf stamps columns, h.1, h.2, by
        intro r hr
        simp only [rowsOf, List.mem_map] at hr
        obtain ⟨_, _, rfl⟩ := hr
        simp⟩
    else .error .columnNames

/-- The same columns over other rows, each of which is a row of the table. -/
def withRows (t : Table) (rows : List Row) (h : ∀ r ∈ rows, r ∈ t.rows) : Table :=
  { t with rows := rows, aligned := fun r hr => t.aligned r (h r hr) }

/-- One row for each timestamp, the first one, in ascending order of timestamps. -/
def dedupFirst (t : Table) : Table :=
  t.withRows
    ((distinctBy (fun r : Row => r.stamp.rank?) t.rows).mergeSort
      fun a b => Cell.rankLE a.stamp.rank? b.stamp.rank?)
    (by
      intro r hr
      rw [List.mem_mergeSort] at hr
      exact (distinctAfter_sublist _ _ _).subset hr)

def within (t : Table) (start stop : Instant) : Table :=
  t.withRows (t.rows.filter (Row.isWithin start stop)) fun _ hr => (List.mem_filter.mp hr).1

/-- The columns with the given names, in that order. Names that are not there give absent cells. -/
def select (t : Table) (names : List String) (hn : names.Nodup) (hs : "timestamp" ∉ names) : Table :=
  ⟨names, t.rows.map fun r => ⟨r.stamp, names.map fun n => r.cellAt (t.names.idxOf n)⟩, hn, hs, by
    intro r hr
    simp only [List.mem_map] at hr
    obtain ⟨_, _, rfl⟩ := hr
    simp⟩

/-- The requested names that are columns, each once, in order of request. -/
def selected (t : Table) (fields : List String) : List String :=
  distinctBy id (fields.filter fun f => t.names.contains f)

/-- The requested names that are no columns, each once, in ascending order. -/
def missing (t : Table) (fields : List String) : List String :=
  sortedDistinct (fields.filter fun f => !t.names.contains f)

/-- The requested columns and no others; a request without names keeps every column. -/
def project (t : Table) (fields : List String) : Table :=
  if fields.isEmpty then t
  else
    t.select (t.selected fields)
      (by simpa [selected] using nodup_map_distinctBy id (fields.filter fun f => t.names.contains f))
      (by
        intro h
        have h' := (distinctAfter_sublist id [] _).subset h
        simp only [List.mem_filter, List.contains_eq_mem, decide_eq_true_eq] at h'
        exact t.stampName_not_mem h'.2)

/-- Replaces an element of a list, or adds it at the end when the position is the length. -/
def setOrPush {α : Type} (xs : List α) (i : Nat) (a : α) : List α :=
  if i < xs.length then xs.set i a else xs ++ [a]

/-- The cells of a row under a name, which may be that of the timestamps. -/
def cellNamed (t : Table) (name : String) (r : Row) : Cell :=
  if name = stampName then r.stamp else r.cellAt (t.names.idxOf name)

def hasName (t : Table) (name : String) : Bool :=
  name == stampName || t.names.contains name

def copyRows (t : Table) (source : String) (column : Nat) : List Row :=
  t.rows.map fun r => ⟨r.stamp, setOrPush r.cells column (t.cellNamed source r)⟩

/-- A copy of a column under another name. A column that has the name already is replaced where it
stands, the timestamps too; a new one comes last. -/
def withAlias (t : Table) (source name : String) : Except DataError Table :=
  if t.hasName source then
    if hs : name = "timestamp" then
      .ok { t with
        rows := t.rows.map fun r => ⟨t.cellNamed source r, r.cells⟩
        aligned := by
          intro r hr
          simp only [List.mem_map] at hr
          obtain ⟨r', hr', rfl⟩ := hr
          exact t.aligned r' hr' }
    else if hm : name ∈ t.names then
      .ok { t with
        rows := t.copyRows source (t.names.idxOf name)
        aligned := by
          intro r hr
          simp only [copyRows, List.mem_map] at hr
          obtain ⟨r', hr', rfl⟩ := hr
          have := t.aligned r' hr'
          have := List.idxOf_lt_length_of_mem hm
          simp only [setOrPush]
          split <;> simp <;> omega }
    else
      .ok {
        names := t.names ++ [name]
        rows := t.copyRows source t.names.length
        names_nodup := by
          rw [List.nodup_append]
          refine ⟨t.names_nodup, by simp, ?_⟩
          intro a ha b hb
          simp only [List.mem_singleton] at hb
          rintro rfl
          exact hm (hb ▸ ha)
        stampName_not_mem := by
          simp only [List.mem_append, List.mem_singleton, not_or]
          exact ⟨t.stampName_not_mem, fun h => hs h.symm⟩
        aligned := by
          intro r hr
          simp only [copyRows, List.mem_map] at hr
          obtain ⟨r', hr', rfl⟩ := hr
          have := t.aligned r' hr'
          simp only [setOrPush]
          split <;> simp <;> omega }
  else .error .columnNames

/-- The instants of rows counted from a number on; a row without one is an error. -/
def stampsFrom (row : Nat) : List Row → Except DataError (List Instant)
  | [] => .ok []
  | r :: rest =>
    match r.instant? with
    | none => .error (.table ("null timestamp at row " ++ Nat.repr row))
    | some t =>
      match stampsFrom (row + 1) rest with
      | .error e => .error e
      | .ok ts => .ok (t :: ts)

def stamps (t : Table) : Except DataError (List Instant) :=
  stampsFrom 0 t.rows

/-- The values of a column, in the order of the rows; there are none for a name that is no column. The
timestamps read as milliseconds. -/
def values? (t : Table) (field : String) : Option (List (Option Binary64)) :=
  if t.hasName field then some (t.rows.map fun r => (t.cellNamed field r).number?) else none

end Table

end MarketBars
