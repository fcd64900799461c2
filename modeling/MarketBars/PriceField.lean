import MarketBars.Text.Blank

namespace MarketBars

/-- A field known under one name for every source. -/
inductive PriceField where
  | opening
  | high
  | low
  | close
  | volume
  deriving DecidableEq, Repr, Inhabited

namespace PriceField

def all : List PriceField := [opening, high, low, close, volume]

def name : PriceField → String
  | opening => "open"
  | high => "high"
  | low => "low"
  | close => "close"
  | volume => "volume"

def rank : PriceField → Nat
  | opening => 0
  | high => 1
  | low => 2
  | close => 3
  | volume => 4

def ofName? (s : String) : Option PriceField :=
  all.find? fun f => f.name == s

theorem ofName?_name (f : PriceField) : ofName? f.name = some f := by
  cases f <;> decide

theorem name_of_ofName? {s : String} {f : PriceField} (h : ofName? s = some f) : f.name = s := by
  simpa using List.find?_some h

end PriceField

/-- A field as a caller names it. -/
inductive FieldToken where
  | canonical (field : PriceField)
  | native (name : String)
  deriving DecidableEq, Repr

namespace FieldToken

def column : FieldToken → String
  | .canonical f => f.name
  | .native s => s

/-- The price field that a token names: a column name counts in any letter case and with blanks
around it. -/
def resolve? : FieldToken → Option PriceField
  | .canonical f => some f
  | .native s => PriceField.ofName? (Text.asciiLower (Text.trim s))

end FieldToken

end MarketBars
