import MarketBars.Json.Label
import MarketBars.Settings

namespace MarketBars

namespace Json

def date? (j : Json) : Option Date := do
  (Date.read (← j.string?)).toOption

end Json

namespace ArchiveSettings

def toJson (s : ArchiveSettings) : Json :=
  .object [
    ("path", .ofOption (fun p => .string p.text) s.path?),
    ("region", .ofOption .string s.region?),
    ("tickers", .ofTexts s.tickers),
    ("indices", .ofTexts s.indices),
    ("fields", .ofTexts s.fields),
    ("field_map", .object (s.fieldMap.map fun m => (m.1, m.2.toJson))),
    ("start", .string s.start.text),
    ("end", .string s.stop.text),
    ("frequency", .string s.frequency)]

/-- The price fields of the columns, from an object. -/
def fieldMapOfJson? : Json → Option (List (String × PriceField))
  | .object members => (Json.sortedMembers members).mapM fun m => do
    pure (m.1, ← PriceField.ofJson? m.2)
  | _ => none

/-- The settings of the archive; one that is left out of the object has its default. -/
def ofJson? (j : Json) : Option ArchiveSettings := do
  let start ← (← j.lookup? "start").date?
  let blank : ArchiveSettings := { start := start, stop := ← (← j.lookup? "end").date? }
  pure { blank with
    path? := (← j.memberIfGiven "path" Json.string?).map FilePath.mk
    region? := ← j.memberIfGiven "region" Json.string?
    tickers := ← j.memberOr "tickers" blank.tickers Json.texts?
    indices := ← j.memberOr "indices" blank.indices Json.texts?
    fields := ← j.memberOr "fields" blank.fields Json.texts?
    fieldMap := ← j.memberOr "field_map" blank.fieldMap fieldMapOfJson?
    frequency := ← j.memberOr "frequency" blank.frequency Json.string? }

end ArchiveSettings

namespace BrokerSettings

def toJson (s : BrokerSettings) : Json :=
  .object [
    ("base_url", .string s.baseUrl),
    ("timeout_secs", .integer s.timeoutSeconds),
    ("max_retries", .integer s.maxRetries),
    ("page_size", .integer s.pageSize),
    ("default_frequency", .string s.frequency)]

def ofJson? (j : Json) : Option BrokerSettings := do
  let blank : BrokerSettings := { baseUrl := ← (← j.lookup? "base_url").string? }
  pure { blank with
    timeoutSeconds := ← j.memberOr "timeout_secs" blank.timeoutSeconds Json.nat?
    maxRetries := ← j.memberOr "max_retries" blank.maxRetries Json.nat?
    pageSize := ← j.memberOr "page_size" blank.pageSize Json.nat?
    frequency := ← j.memberOr "default_frequency" blank.frequency Json.string? }

end BrokerSettings

def Settings.toJson (s : Settings) : Json :=
  .object [
    ("sessions", s.sessions.toJson),
    ("archive", .ofOption ArchiveSettings.toJson s.archive?),
    ("broker", .ofOption BrokerSettings.toJson s.broker?)]

end MarketBars
