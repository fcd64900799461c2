import MarketBars.Number.Binary64

/-!
# Values of a configuration text

A configuration text holds a table: keys with values, which are texts, numbers, truth values, points in
time, lists and tables.

A table can be written in several places of a text: under a header of its own, as a part of the headers
of other tables, and through keys with dots. Each table remembers how it came about, since that decides
what may still be added to it.
-/

namespace MarketBars

inductive Toml where
  | text (s : String)
  | integer (i : Int)
  | real (x : Binary64)
  | truth (b : Bool)
  | moment (s : String)
  | list (items : List Toml)
  | table (entries : List (String × Toml))
  deriving Repr, Inhabited

/-- How a table came about. -/
inductive TableOrigin where
  /-- It has a header of its own, or braces. -/
  | stated
  /-- It is a part of the headers of other tables. -/
  | passed
  /-- It is a part of a key with dots. -/
  | dotted
  deriving DecidableEq, Repr

/-- A table, or a value, of a text that is still being read. -/
inductive TomlNode where
  | value (v : Toml)
  | table (origin : TableOrigin) (entries : List (String × TomlNode))
  | tables (items : List (List (String × TomlNode)))

namespace TomlNode

abbrev Entries := List (String × TomlNode)

/-- The entries with one of them replaced or added. -/
def setEntry (key : String) (node : TomlNode) : Entries → Entries
  | [] => [(key, node)]
  | (k, old) :: rest =>
    if k = key then (key, node) :: rest else (k, old) :: setEntry key node rest

/-- Changes the table that a path leads to; tables that are missing on the way are made. In a list of
tables the path goes on in the last one. A key with dots leads into no table that was stated. -/
def update? (dotted : Bool) (change : TableOrigin → Entries → Option Entries) :
    List String → TableOrigin → Entries → Option Entries
  | [], origin, entries => change origin entries
  | key :: rest, _, entries =>
    match entries.lookup key with
    | none => do
      let origin := if dotted then .dotted else .passed
      let inner ← update? dotted change rest origin []
      pure (setEntry key (.table origin inner) entries)
    | some (.value _) => none
    | some (.table origin inner) =>
      if dotted && origin == .stated then none
      else do
        let inner ← update? dotted change rest origin inner
        pure (setEntry key (.table origin inner) entries)
    | some (.tables items) =>
      match items.reverse with
      | [] => none
      | last :: before => do
        let last ← update? dotted change rest .stated last
        pure (setEntry key (.tables (last :: before).reverse) entries)

/-- Adds a value under the last key of a path. The key must be new, and only a table that came about
through keys with dots takes one from another key with dots. -/
def insert? (entries : Entries) (path : List String) (value : Toml) : Option Entries :=
  let add (origin : TableOrigin) (inner : Entries) : Option Entries := do
    let key ← path.getLast?
    if (origin == .dotted) == (path.length == 1) || (inner.lookup key).isSome then none
    else pure (inner ++ [(key, .value value)])
  update? true add path.dropLast .stated entries

def insertAll? (entries : Entries) (pairs : List (List String × Toml)) : Option Entries :=
  pairs.foldlM (fun es p => insert? es p.1 p.2) entries

/-- Adds a table with a header. It may have been a part of other headers before, but nothing else. -/
def addTable? (root : Entries) (path : List String) (pairs : List (List String × Toml)) :
    Option Entries :=
  let add (_ : TableOrigin) (parent : Entries) : Option Entries := do
    let key ← path.getLast?
    let old ← match parent.lookup key with
      | none => some []
      | some (.table .passed inner) => some inner
      | some _ => none
    pure (setEntry key (.table .stated (← insertAll? old pairs)) parent)
  update? false add path.dropLast .stated root

/-- Adds a table to the list of tables under a header. -/
def addToList? (root : Entries) (path : List String) (pairs : List (List String × Toml)) :
    Option Entries :=
  let add (_ : TableOrigin) (parent : Entries) : Option Entries := do
    let key ← path.getLast?
    let old ← match parent.lookup key with
      | none => some []
      | some (.tables items) => some items
      | some _ => none
    pure (setEntry key (.tables (old ++ [← insertAll? [] pairs])) parent)
  update? false add path.dropLast .stated root

mutual

def toToml : TomlNode → Toml
  | value v => v
  | table _ entries => .table (entriesToToml entries)
  | tables items => .list (itemsToToml items)

def entriesToToml : List (String × TomlNode) → List (String × Toml)
  | [] => []
  | (key, node) :: rest => (key, toToml node) :: entriesToToml rest

def itemsToToml : List (List (String × TomlNode)) → List Toml
  | [] => []
  | entries :: rest => .table (entriesToToml entries) :: itemsToToml rest

end

end TomlNode

end MarketBars
