import MarketBars.Toml.Scalar

/-!
# Reading configuration texts

A configuration text is read line by line: a line holds a key with its value, the header of a table,
the header of one more table of a list, or nothing. The tables are then put together.
-/

namespace MarketBars.Toml

def isKeyChar (c : Char) : Bool := c.isAlphanum || c == '-' || c == '_'

def readKeyPart (cs : List Char) : Option (String × List Char) :=
  match cs with
  | '"' :: rest => readLine '"' (rest.length + 1) [] rest
  | '\'' :: rest => readLine '\'' (rest.length + 1) [] rest
  | _ =>
    let name := cs.takeWhile isKeyChar
    if name.isEmpty then none else some (String.ofList name, cs.dropWhile isKeyChar)

/-- The parts of a key, with points between them and blanks around them. -/
def readKeyParts : Nat → List Char → Option (List String × List Char)
  | 0, _ => none
  | fuel + 1, cs => do
    let (part, rest) ← readKeyPart (skipBlanks cs)
    match skipBlanks rest with
    | '.' :: rest =>
      let (parts, rest) ← readKeyParts fuel rest
      pure (part :: parts, rest)
    | rest => pure ([part], rest)

/-- One more than the number of parts that a key may have, and than the number of brackets that may be
open at once. -/
def maxDepth : Nat := 80

def readKey (cs : List Char) : Option (List String × List Char) := do
  let (parts, rest) ← readKeyParts (cs.length + 1) cs
  if parts.length < maxDepth then pure (parts, rest) else none

/-- The text after the blanks, comments and line endings at its front. -/
def skipFiller : Nat → List Char → List Char
  | 0, cs => cs
  | fuel + 1, cs =>
    match skipBlanks cs with
    | '#' :: rest =>
      match afterLineEnd? (rest.dropWhile isPlain) with
      | some rest => skipFiller fuel rest
      | none => '#' :: rest
    | rest =>
      match afterLineEnd? rest with
      | some rest => skipFiller fuel rest
      | none => rest

def skipAllFiller (cs : List Char) : List Char := skipFiller (cs.length + 1) cs

mutual

def readValue : Nat → Nat → List Char → Option (Toml × List Char)
  | 0, _, _ => none
  | fuel + 1, depth, cs =>
    match cs with
    | '"' :: _ => (readText cs).map fun (s, rest) => (text s, rest)
    | '\'' :: _ => (readText cs).map fun (s, rest) => (text s, rest)
    | 't' :: 'r' :: 'u' :: 'e' :: rest => some (truth true, rest)
    | 'f' :: 'a' :: 'l' :: 's' :: 'e' :: rest => some (truth false, rest)
    | '[' :: rest =>
      if depth ≤ 1 then none
      else (readItems fuel (depth - 1) (skipAllFiller rest)).map fun (items, rest) =>
        (list items, rest)
    | '\x7b' :: rest =>
      if depth ≤ 1 then none
      else
        match skipBlanks rest with
        | '\x7d' :: rest => some (table [], rest)
        | rest =>
          match readPairs fuel (depth - 1) rest with
          | none => none
          | some (pairs, rest) =>
            (TomlNode.insertAll? [] pairs).map fun entries =>
              (table (TomlNode.entriesToToml entries), rest)
    | _ =>
      match readMoment cs with
      | some found => some found
      | none => readNumber cs

/-- The items of a list up to its closing bracket, before which a comma may stand. -/
def readItems : Nat → Nat → List Char → Option (List Toml × List Char)
  | 0, _, _ => none
  | fuel + 1, depth, cs =>
    match cs with
    | ']' :: rest => some ([], rest)
    | _ =>
      match readValue fuel depth cs with
      | none => none
      | some (item, rest) =>
        match skipAllFiller rest with
        | ']' :: rest => some ([item], rest)
        | ',' :: rest =>
          (readItems fuel depth (skipAllFiller rest)).map fun (items, rest) =>
            (item :: items, rest)
        | _ => none

/-- The keys and values of a table in braces up to its closing brace. -/
def readPairs : Nat → Nat → List Char → Option (List (List String × Toml) × List Char)
  | 0, _, _ => none
  | fuel + 1, depth, cs =>
    match readKey cs with
    | some (key, '=' :: rest) =>
      match readValue fuel depth (skipBlanks rest) with
      | none => none
      | some (value, rest) =>
        match skipBlanks rest with
        | '\x7d' :: rest => some ([(key, value)], rest)
        | ',' :: rest =>
          (readPairs fuel depth rest).map fun (pairs, rest) => ((key, value) :: pairs, rest)
        | _ => none
    | _ => none

end

inductive Line where
  | pair (path : List String) (value : Toml)
  | header (path : List String)
  | listHeader (path : List String)

/-- The text after the end of a line, before which blanks and a comment may stand. -/
def afterLine? (cs : List Char) : Option (List Char) :=
  let rest := match skipBlanks cs with
    | '#' :: rest => rest.dropWhile isPlain
    | rest => rest
  if rest.isEmpty then some [] else afterLineEnd? rest

def readContent (cs : List Char) : Option (Line × List Char) :=
  match cs with
  | '[' :: '[' :: rest => do
    let (path, rest) ← readKey rest
    pure (.listHeader path, ← after? ']' (← after? ']' rest))
  | '[' :: rest => do
    let (path, rest) ← readKey rest
    pure (.header path, ← after? ']' rest)
  | _ => do
    let (path, rest) ← readKey cs
    let rest := skipBlanks (← after? '=' rest)
    let (value, rest) ← readValue (2 * rest.length + 2) maxDepth rest
    pure (.pair path value, rest)

def readLinesOf : Nat → List Char → Option (List Line)
  | 0, _ => none
  | fuel + 1, cs =>
    match skipBlanks cs with
    | [] => some []
    | '#' :: rest => (afterLine? ('#' :: rest)).bind (readLinesOf fuel)
    | rest =>
      match afterLineEnd? rest with
      | some rest => readLinesOf fuel rest
      | none => do
        let (line, rest) ← readContent rest
        let lines ← readLinesOf fuel (← afterLine? rest)
        pure (line :: lines)

/-- A header with the pairs below it. -/
structure Section where
  path : List String
  /-- The header is that of one more table of a list. -/
  inList : Bool
  pairs : List (List String × Toml)

/-- The pairs before the first header, and the headers with their pairs. -/
def sections (lines : List Line) : List (List String × Toml) × List Section :=
  lines.foldr
    (fun line (pairs, rest) =>
      match line with
      | .pair path value => ((path, value) :: pairs, rest)
      | .header path => ([], ⟨path, false, pairs⟩ :: rest)
      | .listHeader path => ([], ⟨path, true, pairs⟩ :: rest))
    ([], [])

def addSection? (root : TomlNode.Entries) (s : Section) : Option TomlNode.Entries :=
  if s.inList then TomlNode.addToList? root s.path s.pairs
  else TomlNode.addTable? root s.path s.pairs

/-- The text without a byte order mark at its front. -/
def dropMark : List Char → List Char
  | c :: rest => if c.toNat = 0xfeff then rest else c :: rest
  | [] => []

def parse? (s : String) : Option Toml := do
  let cs := dropMark s.toList
  let (pairs, sections) := sections (← readLinesOf (cs.length + 1) cs)
  let root ← sections.foldlM addSection? (← TomlNode.insertAll? [] pairs)
  pure (.table (TomlNode.entriesToToml root))

end MarketBars.Toml
