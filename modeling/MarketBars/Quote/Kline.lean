import MarketBars.DataError
import MarketBars.Table.Basic

namespace MarketBars

inductive Period where
  | minutes1
  | minutes5
  | minutes15
  | minutes30
  | minutes60
  | day
  | week
  | month
  | quarter
  deriving DecidableEq, Repr

namespace Period

/-- The period of a frequency. There are no candlesticks of ten minutes or of a year. -/
def ofFrequency? : Frequency → Option Period
  | .min1 => some minutes1
  | .min5 => some minutes5
  | .min10 => none
  | .min15 => some minutes15
  | .min30 => some minutes30
  | .min60 => some minutes60
  | .daily => some day
  | .weekly => some week
  | .monthly => some month
  | .quarterly => some quarter
  | .yearly => none

/-- The name of a period on the wire. -/
def name : Period → String
  | minutes1 => "K_1M"
  | minutes5 => "K_5M"
  | minutes15 => "K_15M"
  | minutes30 => "K_30M"
  | minutes60 => "K_60M"
  | day => "K_DAY"
  | week => "K_WEEK"
  | month => "K_MON"
  | quarter => "K_QUARTER"

end Period

/-- A request for one page of candlesticks. Its bounds are whole days. -/
structure KlineRequest where
  code : String
  start : Date
  stop : Date
  period : Period
  fields : List String
  limit : Nat
  /-- Prices are adjusted for later splits and dividends. -/
  adjusted : Bool
  /-- The key that came with the page before; the first page has none. -/
  pageKey? : Option String := none
  deriving DecidableEq

def KlineRequest.continued (r : KlineRequest) (key : String) : KlineRequest :=
  { r with pageKey? := some key }

/-- A candlestick: its time and its values by field. -/
structure KlineRow where
  time : Instant
  values : List (String × Option Binary64)
  deriving DecidableEq

/-- A page of candlesticks. The last page has no key for another. -/
structure KlinePage where
  rows : List KlineRow
  next? : Option String
  deriving DecidableEq

namespace KlineRow

/-- The row carries the field, with a value or without. -/
def carries (row : KlineRow) (field : String) : Bool :=
  row.values.any fun v => v.1 == field

def value (row : KlineRow) (field : String) : Option Binary64 :=
  (row.values.lookup field).join

/-- The requested fields that some row carries, each once, in order of request. -/
def columnNames (rows : List KlineRow) (fields : List String) : List String :=
  distinctBy id (fields.filter fun f => rows.any (carries · f))

/-- The table of the rows, in order of arrival, with a column for each requested field that some row
carries. -/
def table (rows : List KlineRow) (fields : List String) : Except DataError Table :=
  Table.ofColumns (rows.map time) ((columnNames rows fields).map fun f => (f, rows.map (value · f)))

end KlineRow

end MarketBars
