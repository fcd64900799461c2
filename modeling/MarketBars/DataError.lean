import MarketBars.Frequency
import MarketBars.Ticker

/-!
# Errors

A request fails for one of the causes listed here. Only an unavailable source concerns a single
ticker; every other cause ends the request. Beside the errors there are faults: a computation that
leaves the range in which it has a meaning. A fault is a defect of the request or of the data that no
caller is expected to handle, and it is kept apart from the errors.
-/

namespace MarketBars

/-- Why a request for data fails. -/
inductive DataError where
  | sourceUnavailable (ticker reason : String)
  | unsupportedField (field : String)
  | unsupportedFrequency (provider : String) (frequency : Frequency)
  | unsupportedKind (provider ticker : String) (kind : SecurityKind)
  | environmentUnavailable (reason : String)
  | noDataFound (tickers : String)
  | missingPriceMap (provider : String)
  | table (reason : String)
  /-- Two columns of a table have one name, or a column is asked for that is not there. -/
  | columnNames
  | archive (reason : String)
  | config (reason : String)
  deriving DecidableEq, Repr

namespace DataError

def message : DataError → String
  | sourceUnavailable ticker reason => "source unavailable for '" ++ ticker ++ "': " ++ reason
  | unsupportedField field => "unsupported field '" ++ field ++ "'"
  | unsupportedFrequency provider frequency =>
    provider ++ " does not support frequency " ++ frequency.name
  | unsupportedKind provider ticker kind =>
    provider ++ " does not support " ++ kind.title ++ " tickers ('" ++ ticker ++ "')"
  | environmentUnavailable reason => "environment unavailable: " ++ reason
  | noDataFound tickers => "no data was found for any of the requested tickers: " ++ tickers
  | missingPriceMap provider => provider ++ " has no price field mapping; get_price is unavailable"
  | table reason => "table error: " ++ reason
  | columnNames => "table error"
  | archive reason => "archive error: " ++ reason
  | config reason => "config error: " ++ reason

def cause : DataError → String
  | sourceUnavailable _ _ => "SourceUnavailable"
  | unsupportedField _ => "UnsupportedField"
  | unsupportedFrequency _ _ => "UnsupportedFrequency"
  | unsupportedKind _ _ _ => "UnsupportedInstrumentKind"
  | environmentUnavailable _ => "EnvironmentUnavailable"
  | noDataFound _ => "NoDataFound"
  | missingPriceMap _ => "MissingPriceFieldMap"
  | table _ => "Table"
  | columnNames => "Table"
  | archive _ => "Archive"
  | config _ => "Config"

/-- The error concerns a single ticker, so that a request for several can go on without it. -/
def isPerTicker : DataError → Bool
  | sourceUnavailable _ _ => true
  | _ => false

end DataError

/-- A computation left the range in which it has a meaning. -/
inductive Fault where
  /-- An instant lies outside the calendar. -/
  | calendarRange
  /-- A panel's values do not fill its axes. -/
  | shape
  /-- A position is beyond the largest one. -/
  | positionRange
  deriving DecidableEq, Repr

inductive Failure where
  | error (e : DataError)
  | fault (f : Fault)
  deriving DecidableEq, Repr

/-- The value of an optional result, whose absence is the given fault. -/
def Fault.orElse {α : Type} (f : Fault) : Option α → Except Failure α
  | some a => .ok a
  | none => .error (.fault f)

/-- A result whose failures are all errors. -/
def liftError {α : Type} : Except DataError α → Except Failure α
  | .ok a => .ok a
  | .error e => .error (.error e)

end MarketBars
