import MarketBars.Http.Transport
import MarketBars.Json.Printer

namespace MarketBars

def HttpRequest.toJson (r : HttpRequest) : Json :=
  .object [("request", .string ("POST " ++ r.address.path)), ("body", r.body)]

/-- The failure that a word stands for. -/
def SendFailure.ofWord : String → SendFailure
  | "connect" => noConnection
  | "timeout" => timeout
  | _ => other

/-- The text of a body. A body that is not given as a text is the text of a value. -/
def Json.bodyText : Option Json → String
  | none => ""
  | some (.string s) => s
  | some j => j.compact

/-- The outcome of an object. A status that is not given is that of success, a body that is not given is
empty. -/
def HttpOutcome.ofJson? (j : Json) : Option HttpOutcome :=
  match j.given? "fail" with
  | some why => do pure (.failed (.ofWord (← why.string?)))
  | none => do
    let status ← (j.given? "status").elim (some 200) Json.nat?
    pure (.answered ⟨status⟩ (Json.bodyText (j.given? "body")))

end MarketBars
