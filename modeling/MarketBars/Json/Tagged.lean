import MarketBars.Json.Printer

namespace MarketBars

namespace Json

mutual

/-- A value with the name of its kind, and so for all values inside. -/
def tagged : Json → String
  | null => "Null"
  | bool b => if b then "Bool(true)" else "Bool(false)"
  | integer i => "Number(" ++ toString i ++ ")"
  | real x => "Number(" ++ realText x ++ ")"
  | string s => "String(" ++ Text.quote s ++ ")"
  | array items => "Array [" ++ String.intercalate ", " (taggedItems items) ++ "]"
  | object members =>
    let shown := (sortedMembers (taggedMembers members)).map fun m => Text.quote m.1 ++ ": " ++ m.2
    "Object \x7b" ++ String.intercalate ", " shown ++ "\x7d"

def taggedItems : List Json → List String
  | [] => []
  | j :: rest => tagged j :: taggedItems rest

def taggedMembers : List (String × Json) → List (String × String)
  | [] => []
  | (name, j) :: rest => (name, tagged j) :: taggedMembers rest

end

/-- A member that may be missing. -/
def taggedIfThere : Option Json → String
  | none => "None"
  | some j => "Some(" ++ tagged j ++ ")"

end Json

end MarketBars
