import MarketBars.Number.Binary64

/-!
# JSON values

A number is an integer when its text is one that fits 64 bits, and a number of double precision
otherwise. An object keeps its members in the order in which they are written.
-/

namespace MarketBars

inductive Json where
  | null
  | bool (b : Bool)
  | integer (i : Int)
  | real (x : Binary64)
  | string (s : String)
  | array (items : List Json)
  | object (members : List (String × Json))
  deriving Repr, Inhabited

namespace Json

def lastMember? (members : List (String × Json)) (name : String) : Option Json :=
  members.reverse.lookup name

/-- The member of an object. -/
def lookup? (j : Json) (name : String) : Option Json :=
  match j with
  | object members => lastMember? members name
  | _ => none

/-- The member of an object, where a null counts as no member. -/
def given? (j : Json) (name : String) : Option Json :=
  match j.lookup? name with
  | some null => none
  | other => other

/-- A number of either kind, in double precision. -/
def number? : Json → Option Binary64
  | integer i => some (Binary64.ofInt i)
  | real x => some x
  | _ => none

def string? : Json → Option String
  | string s => some s
  | _ => none

def items? : Json → Option (List Json)
  | array items => some items
  | _ => none

/-- The form of a value that may be missing. -/
def ofOption {α : Type} (form : α → Json) : Option α → Json
  | none => null
  | some a => form a

def ofTexts (texts : List String) : Json := .array (texts.map .string)

def texts? (j : Json) : Option (List String) := do
  (← j.items?).mapM string?

def nat? : Json → Option Nat
  | integer i => if 0 ≤ i then some i.toNat else none
  | _ => none

/-- The member of an object, or a default where it is left out. -/
def memberOr {α : Type} (j : Json) (name : String) (default : α) (read : Json → Option α) :
    Option α :=
  match j.lookup? name with
  | none => some default
  | some v => read v

/-- The member of an object that may be left out or be null. -/
def memberIfGiven {α : Type} (j : Json) (name : String) (read : Json → Option α) :
    Option (Option α) :=
  match j.given? name with
  | none => some none
  | some v => (read v).map some

/-- Sets a member in a list of members; a name that is there already keeps its place. -/
def setMember {α : Type} (members : List (String × α)) (name : String) (value : α) :
    List (String × α) :=
  if members.any fun m => m.1 == name then
    members.map fun m => if m.1 == name then (name, value) else m
  else members ++ [(name, value)]

/-- The members of an object as a map: each name once, with its last value, in ascending order. -/
def sortedMembers {α : Type} (members : List (String × α)) : List (String × α) :=
  (members.foldl (fun acc m => setMember acc m.1 m.2) []).mergeSort fun a b => decide (a.1 ≤ b.1)

end Json

end MarketBars
