import MarketBars.Calendar.Pattern
import MarketBars.Json.Excerpt
import MarketBars.Json.Tagged
import MarketBars.Quote.Kline

/-!
# Envelopes

Every answer of the gateway comes in an envelope, which says whether the request was accepted. A page
of candlesticks is accepted as a whole or not at all: one row whose time cannot be read spoils it.
-/

namespace MarketBars

/-- What an answer of the gateway holds. The code of an accepted request is zero. -/
structure Envelope where
  code : Int
  message : String := ""
  session? : Option String := none
  rows : List (List (String × Json)) := []
  nextKey? : Option String := none

namespace Envelope

def memberNames : List String := ["ret", "msg", "session_id", "data", "page_req_key"]

/-- A whole number of 64 bits. -/
def code? : Json → Option Int
  | .integer i => if fitsSigned 64 i then some i else none
  | _ => none

def textOrNull? : Json → Option (Option String)
  | .null => some none
  | .string s => some (some s)
  | _ => none

def members? : Json → Option (List (String × Json))
  | .object members => some members
  | _ => none

def rows? (j : Json) : Option (List (List (String × Json))) := do
  (← j.items?).mapM members?

/-- A member that may be left out. -/
def orBlank {α : Type} (blank : α) (read : Json → Option α) : Option Json → Option α
  | none => some blank
  | some j => read j

/-- The envelope with the given members, of which all but the first may be left out. -/
def ofMembers? (member : String → Option Json) : Option Envelope := do
  pure {
    code := ← code? (← member "ret")
    message := ← orBlank "" Json.string? (member "msg")
    session? := ← orBlank none textOrNull? (member "session_id")
    rows := ← orBlank [] rows? (member "data")
    nextKey? := ← orBlank none textOrNull? (member "page_req_key") }

/-- The envelope of a value: an object, in which no member of an envelope is repeated and other members
do not count, or a list of the members in their order. -/
def ofJson? : Json → Option Envelope
  | .object members =>
    if ((members.map Prod.fst).filter memberNames.contains).Nodup then
      ofMembers? fun name => members.lookup name
    else none
  | .array items =>
    if items.length ≤ memberNames.length then ofMembers? fun name => (memberNames.zip items).lookup name
    else none
  | _ => none

/-- The envelope of a text. What is not a member of an envelope is passed over. -/
def ofText? (s : String) : Option Envelope := do
  ofJson? (← Json.excerpt? memberNames s)

end Envelope

/-- Why an envelope holds no page. -/
inductive PageFault where
  /-- The request was not accepted, for the given reason. -/
  | rejected (message : String)
  /-- A row has no text for its time. -/
  | noTime (found : Option Json)
  /-- The text for the time of a row cannot be read. -/
  | badTime (text : String) (fault : Pattern.Fault)

def PageFault.reason : PageFault → String
  | rejected message => message
  | noTime found => "row without time_key: " ++ Json.taggedIfThere found
  | badTime text fault => "bad time_key '" ++ text ++ "': " ++ fault.message

namespace KlineRow

def timeKey : String := "time_key"

/-- The value that a member stands for, if it stands for one: a number, or null for no value. -/
def memberValue? : Json → Option (Option Binary64)
  | .null => some none
  | j => j.number?.map some

/-- The row of an object. Its values are the numbers and nulls beside the time. -/
def ofMembers (members : List (String × Json)) : Except PageFault KlineRow :=
  match Json.lastMember? members timeKey with
  | some (.string text) =>
    match Instant.readStamp text with
    | .error fault => .error (.badTime text fault)
    | .ok time =>
      let others := (Json.sortedMembers members).filter fun m => m.1 != timeKey
      .ok ⟨time, others.filterMap fun m => (memberValue? m.2).map fun v => (m.1, v)⟩
  | other => .error (.noTime other)

end KlineRow

/-- The page that an envelope holds. An empty key leads to no other page. -/
def Envelope.page (e : Envelope) : Except PageFault KlinePage :=
  if e.code = 0 then do
    let rows ← e.rows.mapM KlineRow.ofMembers
    pure ⟨rows, e.nextKey?.filter fun key => !key.isEmpty⟩
  else .error (.rejected e.message)

end MarketBars
