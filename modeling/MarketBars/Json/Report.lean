import MarketBars.DataError
import MarketBars.Diagnostic
import MarketBars.Json.Label

namespace MarketBars

def Json.text? (j : Json) (name : String) : Option String := do
  (← j.lookup? name).string?

/-- The error of an object, which has the name of the cause under `error` and the parts beside it. -/
def DataError.ofJson? (j : Json) : Option DataError := do
  match ← j.text? "error" with
  | "SourceUnavailable" => return .sourceUnavailable (← j.text? "ticker") (← j.text? "reason")
  | "UnsupportedField" => return .unsupportedField (← j.text? "field")
  | "UnsupportedFrequency" =>
    let frequency ← Frequency.ofName? (← j.text? "frequency")
    return .unsupportedFrequency (← j.text? "provider") frequency
  | "UnsupportedInstrumentKind" =>
    let kind ← SecurityKind.ofJson? (← j.lookup? "kind")
    return .unsupportedKind (← j.text? "provider") (← j.text? "ticker") kind
  | "EnvironmentUnavailable" => return .environmentUnavailable (← j.text? "text")
  | "NoDataFound" => return .noDataFound (← j.text? "tickers")
  | "MissingPriceFieldMap" => return .missingPriceMap (← j.text? "provider")
  | "Table" => return .table (← j.text? "text")
  | "Archive" => return .archive (← j.text? "text")
  | "Config" => return .config (← j.text? "text")
  | _ => none

namespace Diagnostic

def toJson : Diagnostic → Json
  | sourceUnavailable ticker reason =>
    .object [("kind", .string "source_unavailable"), ("ticker", .string ticker),
      ("reason", .string reason)]
  | missingFields ticker fields =>
    .object [("kind", .string "missing_fields"), ("ticker", .string ticker),
      ("fields", .ofTexts fields)]
  | pageFailed ticker page reason =>
    .object [("kind", .string "page_failed"), ("ticker", .string ticker), ("page", .integer page),
      ("reason", .string reason)]

def ofJson? (j : Json) : Option Diagnostic := do
  match ← j.text? "kind" with
  | "source_unavailable" => return .sourceUnavailable (← j.text? "ticker") (← j.text? "reason")
  | "missing_fields" =>
    return .missingFields (← j.text? "ticker") (sortedDistinct (← (← j.lookup? "fields").texts?))
  | "page_failed" =>
    return .pageFailed (← j.text? "ticker") (← (← j.lookup? "page").nat?) (← j.text? "reason")
  | _ => none

end Diagnostic

end MarketBars
