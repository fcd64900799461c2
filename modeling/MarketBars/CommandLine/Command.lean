import MarketBars.Backend
import MarketBars.CommandLine.Arguments
import MarketBars.Files.Path
import MarketBars.Ticker

namespace MarketBars

/-- What is asked of a source. Times and the frequency are kept as they are written. -/
structure Query where
  config : FilePath
  backend : Backend := .archive
  tickers : List Ticker := []
  fields : List String := ["close"]
  start : String
  stop? : Option String := none
  frequency? : Option String := none
  lookAhead : Bool := false
  deriving DecidableEq

inductive Command where
  | history (query : Query)
  | price (query : Query)
  | instruments (config : FilePath) (index : String)
  | backends
  deriving DecidableEq

/-- The option for the file of the configuration, whose path is not empty. -/
def OptionRule.config : OptionRule := { name := "config", accepts := fun s => !s.isEmpty }

namespace Query

/-- The switch that lets a query see beyond the present. -/
def lookAheadSwitch : String := "look-ahead-bias"

def grammar : Grammar where
  options := [
    .config,
    { name := "source", accepts := fun s => (Backend.ofName? s).isSome },
    { name := "index", repeatable := true },
    { name := "fields", repeatable := true },
    { name := "start" },
    { name := "end" },
    { name := "frequency" }]
  switches := [lookAheadSwitch]
  maxOperands? := none

/-- The fields of lists in which commas separate them. -/
def fieldNames (lists : List String) : List String :=
  if lists.isEmpty then ["close"] else lists.flatMap (·.splitOn ",")

def ofArguments (texts : List String) : Except Refusal Query := do
  let given ← grammar.read [] texts
  match Argument.values given "config", Argument.values given "start" with
  | config :: _, start :: _ =>
    pure {
      config := ⟨config⟩
      backend := ((Argument.values given "source").head?.bind Backend.ofName?).getD .archive
      tickers := (Argument.operands given).map Ticker.stock ++
        (Argument.values given "index").map Ticker.index
      fields := fieldNames (Argument.values given "fields")
      start := start
      stop? := (Argument.values given "end").head?
      frequency? := (Argument.values given "frequency").head?
      lookAhead := given.contains (.switch lookAheadSwitch) }
  | _, _ => throw .misuse

end Query

namespace Command

def names : List String := ["history", "price", "instruments", "backends", "help"]

def instrumentsGrammar : Grammar where
  options := [.config]
  maxOperands? := some 1

def instrumentsOfArguments (texts : List String) : Except Refusal Command := do
  let given ← instrumentsGrammar.read [] texts
  match Argument.values given "config", Argument.operands given with
  | config :: _, index :: _ => pure (.instruments ⟨config⟩ index)
  | _, _ => throw .misuse

/-- What a user gets who asks for help on some command. -/
def helpRefusal (texts : List String) : Refusal :=
  match texts with
  | [] => .help
  | [name] => if names.contains name then .help else .misuse
  | _ => .misuse

def ofArguments : List String → Except Refusal Command
  | "history" :: rest => (Query.ofArguments rest).map .history
  | "price" :: rest => (Query.ofArguments rest).map .price
  | "instruments" :: rest => instrumentsOfArguments rest
  | "backends" :: rest => (Grammar.read {} [] rest).map fun _ => .backends
  | "help" :: rest => .error (helpRefusal rest)
  | text :: _ =>
    match Grammar.read {} [] [text] with
    | .error refusal => .error refusal
    | .ok _ => .error .misuse
  | [] => .error .misuse

end Command

end MarketBars
