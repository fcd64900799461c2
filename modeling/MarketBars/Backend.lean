namespace MarketBars

/-- Where market data comes from. -/
inductive Backend where
  | broker
  | archive
  deriving DecidableEq, Repr

namespace Backend

def all : List Backend := [broker, archive]

def name : Backend → String
  | broker => "broker"
  | archive => "archive"

/-- The backend of a name, which is taken as it is written. -/
def ofName? (s : String) : Option Backend := all.find? fun b => b.name == s

/-- The line of a backend in the report: its name, filled up with blanks, and its status. -/
def line (b : Backend) : String :=
  b.name ++ String.ofList (List.replicate (8 - b.name.length) ' ') ++ " available\n"

def report : String := String.join (all.map line)

end Backend

end MarketBars
