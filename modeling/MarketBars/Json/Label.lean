import MarketBars.Calendar.Pattern
import MarketBars.Json.Value
import MarketBars.Request
import MarketBars.Session

/-!
# Labels of a request as JSON

The JSON form of tickers, fields, frequencies and session times. A record is written as an object and
may be read from an object, whose other members are ignored, or from the array of its members in order.
A name from a fixed list is written as a string and may be read from an object with that name as its
only member and null for its value.

A field token is read as a price field if it can be, and as a column name otherwise; a request for one or
many labels is read as one label if it can be, and as a list otherwise.
-/

namespace MarketBars

namespace Json

/-- The name that a value from a fixed list of names is given by. -/
def name? : Json → Option String
  | string s => some s
  | object [(s, null)] => some s
  | _ => none

/-- The members of a record with two members, from an object or from an array of the two. -/
def pair? (first second : String) : Json → Option (Json × Json)
  | array [a, b] => some (a, b)
  | object members => do
    let a ← lastMember? members first
    let b ← lastMember? members second
    pure (a, b)
  | _ => none

end Json

namespace Frequency

def dataName : Frequency → String
  | min1 => "Min1"
  | min5 => "Min5"
  | min10 => "Min10"
  | min15 => "Min15"
  | min30 => "Min30"
  | min60 => "Min60"
  | daily => "Daily"
  | weekly => "Weekly"
  | monthly => "Monthly"
  | quarterly => "Quarterly"
  | yearly => "Yearly"

def toJson (f : Frequency) : Json := .string f.dataName

def ofJson? (j : Json) : Option Frequency := do
  let s ← j.name?
  all.find? fun f => f.dataName == s

end Frequency

namespace PriceField

def toJson (f : PriceField) : Json := .string f.name

def ofJson? (j : Json) : Option PriceField :=
  j.name?.bind ofName?

end PriceField

namespace SecurityKind

def toJson (k : SecurityKind) : Json := .string k.name

def ofJson? (j : Json) : Option SecurityKind :=
  j.name?.bind ofName?

end SecurityKind

namespace Ticker

def toJson (t : Ticker) : Json :=
  .object [("symbol", .string t.symbol), ("kind", t.kind.toJson)]

def ofJson? (j : Json) : Option Ticker := do
  let (symbol, kind) ← j.pair? "symbol" "kind"
  pure ⟨← symbol.string?, ← SecurityKind.ofJson? kind⟩

end Ticker

namespace SessionTimes

def toJson (s : SessionTimes) : Json :=
  .object [("open", .string s.opening.text), ("close", .string s.closing.text)]

def timeOfJson? (j : Json) : Option TimeOfDay := do
  (TimeOfDay.read (← j.string?)).toOption

def ofJson? (j : Json) : Option SessionTimes := do
  let (opening, closing) ← j.pair? "open" "close"
  pure ⟨← timeOfJson? opening, ← timeOfJson? closing⟩

end SessionTimes

namespace FieldToken

def toJson : FieldToken → Json
  | .canonical f => f.toJson
  | .native s => .string s

/-- The field token of a JSON value: a price field if it is one, or else a column name. -/
def ofJson? (j : Json) : Option FieldToken :=
  match PriceField.ofJson? j with
  | some f => some (.canonical f)
  | none => j.string?.map .native

end FieldToken

namespace OneOrMany

variable {α : Type}

def toJson (item : α → Json) : OneOrMany α → Json
  | one a => item a
  | many as => .array (as.map item)

/-- One label or a list of labels from a JSON value: one label if it is one, or else a list. -/
def ofJson? (item : Json → Option α) (j : Json) : Option (OneOrMany α) :=
  match item j with
  | some a => some (one a)
  | none => do
    let items ← j.items?
    pure (many (← items.mapM item))

end OneOrMany

end MarketBars
