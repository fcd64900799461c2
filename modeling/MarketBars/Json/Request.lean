import MarketBars.Json.Label
import MarketBars.Provider
import MarketBars.Quote.Kline

namespace MarketBars

def FetchCall.toJson (c : FetchCall) : Json :=
  .object [
    ("ticker", c.ticker.toJson),
    ("fields", .ofTexts c.fields),
    ("start", .string c.window.start.text),
    ("end", .string c.window.stop.text),
    ("frequency", .string c.frequency.name)]

def KlineRequest.toJson (r : KlineRequest) : Json :=
  .object [
    ("code", .string r.code),
    ("start", .string r.start.text),
    ("end", .string r.stop.text),
    ("ktype", .string r.period.name),
    ("fields", .ofTexts r.fields),
    ("max_count", .integer r.limit),
    ("adjust", .bool r.adjusted),
    ("page_req_key", .ofOption .string r.pageKey?)]

namespace PriceMap

def toJson (map : PriceMap) : Json :=
  .object (map.map fun entry => (entry.1.name, .string entry.2))

def entry? (m : String × Json) : Option (PriceField × String) := do
  pure (← PriceField.ofName? m.1, ← m.2.string?)

/-- The map of an object, in the order of the fields. -/
def ofJson? : Json → Option PriceMap
  | .object members => do
    let entries ← members.mapM entry?
    pure (PriceField.all.filterMap fun f => (entries.lookup f).map fun column => (f, column))
  | _ => none

end PriceMap

end MarketBars
