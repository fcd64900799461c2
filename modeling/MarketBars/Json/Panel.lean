import MarketBars.Json.Label
import MarketBars.Panel.History

/-!
# Histories as JSON

A history is an object with the name of its shape and its data. The data of a series has labels and
values, that of a frame row labels, column labels and values row by row, that of a cube its three axes
and its values. A value that is missing is null.
-/

namespace MarketBars

def valueJson : Value → Json
  | none => .null
  | some x => .real x

def valuesJson (values : Array Value) : Json :=
  .array (values.toList.map valueJson)

def Instant.toJson (t : Instant) : Json := .string t.text

def Series.toJson {L : Type} (label : L → Json) (s : Series L) : Json :=
  .object [("index", .array (s.index.map label)), ("values", valuesJson s.values)]

def Frame.toJson {R C : Type} (row : R → Json) (column : C → Json) (t : Frame R C) : Json :=
  .object [
    ("index", .array (t.index.map row)),
    ("columns", .array (t.columns.map column)),
    ("values", valuesJson t.values)]

def Cube.toJson (c : Cube) : Json :=
  .object [
    ("dates", .array (c.dates.map Instant.toJson)),
    ("tickers", .array (c.tickers.map Ticker.toJson)),
    ("fields", .array (c.fields.map .string)),
    ("values", valuesJson c.values)]

namespace History

def shapeName : History → String
  | scalar _ => "scalar"
  | byDate _ => "by_date"
  | byTicker _ => "by_ticker"
  | byField _ => "by_field"
  | dateTicker _ => "date_ticker"
  | dateField _ => "date_field"
  | tickerField _ => "ticker_field"
  | cube _ => "cube"

def dataJson : History → Json
  | scalar v => valueJson v
  | byDate s => s.toJson Instant.toJson
  | byTicker s => s.toJson Ticker.toJson
  | byField s => s.toJson .string
  | dateTicker t => t.toJson Instant.toJson Ticker.toJson
  | dateField t => t.toJson Instant.toJson .string
  | tickerField t => t.toJson Ticker.toJson .string
  | cube c => c.toJson

def toJson (h : History) : Json :=
  .object [("shape", .string h.shapeName), ("data", h.dataJson)]

end History

end MarketBars
