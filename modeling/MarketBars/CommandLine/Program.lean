import MarketBars.Archive.Snapshot
import MarketBars.CommandLine.Command
import MarketBars.Gateway.Session
import MarketBars.Json.Panel
import MarketBars.Json.Printer
import MarketBars.ProgramEnd
import MarketBars.Quote.Broker
import MarketBars.Toml.Settings

/-!
# The program

A run of the program takes its arguments and what surrounds it (files, environment, time and a way to
the gateway) to an exit code, an output and complaints.
-/

namespace MarketBars

/-- What surrounds a run of the program. -/
structure Surroundings (τ : Type) where
  files : FileSystem
  environment : Environment
  now : Instant
  transport : Transport τ

inductive CommandFailure where
  /-- The configuration could not be loaded for a query. -/
  | loading (path : FilePath) (e : DataError)
  | noSection (path : FilePath) (backend : Backend)
  | noTickers
  | badDate (text : String) (why : Pattern.Fault)
  | unknownFrequency (text : String)
  | data (e : DataError)
  | fault (f : Fault)

namespace CommandFailure

def ofFailure : Failure → CommandFailure
  | .error e => data e
  | .fault f => fault f

/-- A complaint with its cause, which stands below it and indented. -/
def withCause (text cause : String) : String :=
  text ++ "\n\nCaused by:\n    " ++ cause.replace "\n" "\n    "

/-- The wording of a failure, which a fault does not have. -/
def complaint : CommandFailure → String
  | loading path e => withCause ("loading " ++ path.text) e.message
  | noSection path backend => path.text ++ " has no [" ++ backend.name ++ "] section"
  | noTickers => "at least one ticker or --index is required"
  | badDate text why =>
    withCause ("invalid date '" ++ text ++ "', expected YYYY-MM-DD") why.message
  | unknownFrequency text => Frequency.unknownMessage text
  | data e => e.message
  | fault _ => ""

def programEnd : CommandFailure → ProgramEnd
  | fault _ => .ofFault
  | failure => { code := 1, complaint := "Error: " ++ failure.complaint ++ "\n" }

end CommandFailure

namespace Query

variable {τ : Type}

structure Terms where
  start : Instant
  stop? : Option Instant
  frequency? : Option Frequency

def instant (text : String) : Except CommandFailure Instant :=
  (Instant.readStamp text).mapError (.badDate text)

def frequency (text : String) : Except CommandFailure Frequency :=
  match Frequency.ofName? text with
  | some f => .ok f
  | none => .error (.unknownFrequency text)

/-- A part of a query that may be left out. -/
def ifGiven {α : Type} (read : String → Except CommandFailure α) :
    Option String → Except CommandFailure (Option α)
  | none => .ok none
  | some text => (read text).map some

/-- The times and the frequency of a query, which names at least one ticker. -/
def terms (q : Query) : Except CommandFailure Terms := do
  if q.tickers.isEmpty then throw .noTickers
  let start ← instant q.start
  let stop? ← ifGiven instant q.stop?
  let frequency? ← ifGiven frequency q.frequency?
  pure ⟨start, stop?, frequency?⟩

/-- The request for columns that a query stands for. -/
def historyRequest (q : Query) : Except CommandFailure HistoryRequest := do
  let terms ← q.terms
  pure {
    tickers := .ofList q.tickers
    fields := .ofList (q.fields.map .native)
    start := terms.start
    stop? := terms.stop?
    frequency? := terms.frequency?
    lookAhead := q.lookAhead }

def priceField (name : String) : Except CommandFailure PriceField :=
  match (FieldToken.native name).resolve? with
  | some f => .ok f
  | none => .error (.data (.unsupportedField name))

def priceRequest (q : Query) : Except CommandFailure PriceRequest := do
  let fields ← q.fields.mapM priceField
  let terms ← q.terms
  pure {
    tickers := .ofList q.tickers
    fields := .ofList fields
    start := terms.start
    stop? := terms.stop?
    frequency? := terms.frequency?
    lookAhead := q.lookAhead }

def brokerProvider (w : Surroundings τ) (clock : MarketClock) (settings : BrokerSettings) :
    Except DataError (Provider (GatewayState τ)) := do
  let broker ← Broker.ofSettings settings clock
  pure (broker.provider ((Gateway.ofSettings settings).source w.transport))

def archiveProvider (w : Surroundings τ) (clock : MarketClock) (settings : ArchiveSettings) :
    Except Failure (Provider (GatewayState τ)) := do
  let snapshot ← (Snapshot.ofSettings w.files w.environment settings).result
  pure (snapshot.provider clock)

def provider (q : Query) (w : Surroundings τ) :
    Except CommandFailure (Provider (GatewayState τ)) := do
  let settings ← (Settings.ofFile w.files q.config).mapError (.loading q.config)
  let clock : MarketClock := ⟨w.now, settings.sessions⟩
  match q.backend, settings.broker?, settings.archive? with
  | .broker, some broker, _ => (brokerProvider w clock broker).mapError .data
  | .archive, _, some archive => (archiveProvider w clock archive).mapError .ofFailure
  | backend, _, _ => throw (.noSection q.config backend)

def output (answer : Except Failure History) : Except CommandFailure String :=
  match answer with
  | .ok history => .ok (history.toJson.pretty ++ "\n")
  | .error e => .error (.ofFailure e)

end Query

/-- The output for the constituents of an index: one line for each, and their number. -/
def constituentsOutput (index : String) (spans : List InstrumentSpan) : String :=
  let line (s : InstrumentSpan) : String :=
    s.symbol ++ "\t" ++ s.listed.text ++ "\t" ++ s.delisted.text ++ "\n"
  String.join (spans.map line) ++ Nat.repr spans.length ++ " instruments in " ++ index ++ "\n"

namespace Command

variable {τ : Type}

/-- The constituents of an index, as the archive of a configuration lists them. -/
def constituents (w : Surroundings τ) (config : FilePath) (index : String) :
    Except CommandFailure (List InstrumentSpan) := do
  let settings ← (Settings.ofFile w.files config).mapError .data
  match settings.archive? with
  | none => throw (.noSection config .archive)
  | some archive =>
    let folder ← (ArchiveFolder.open? w.files (archive.folder w.environment)).mapError .data
    (folder.constituents index).mapError .data

def run (c : Command) (w : Surroundings τ) (s : GatewayState τ) :
    Except CommandFailure String × GatewayState τ :=
  match c with
  | history q =>
    match do pure (← q.provider w, ← q.historyRequest) with
    | .error e => (.error e, s)
    | .ok (p, r) =>
      let got := p.history r s
      (Query.output got.result, got.state)
  | price q =>
    match do pure (← q.provider w, ← q.priceRequest) with
    | .error e => (.error e, s)
    | .ok (p, r) =>
      let got := p.price r s
      (Query.output got.result, got.state)
  | instruments config index =>
    ((constituents w config index).map (constituentsOutput index), s)
  | backends => (.ok Backend.report, s)

end Command

namespace Program

variable {τ : Type}

def help : String :=
  "Look-ahead-safe market data\n\nCommands:\n" ++
  "  history      Fetch history by the field names of the source\n" ++
  "  price        Fetch price fields (open, high, low, close, volume)\n" ++
  "  instruments  List the members of an archive index\n" ++
  "  backends     Report the data backends\n" ++
  "  help         Print this message\n"

def refused : Refusal → ProgramEnd
  | .help => { code := 0, output := help }
  | .misuse => { code := 2, complaint := help }

/-- A run of the program. -/
def run (w : Surroundings τ) (texts : List String) (s : GatewayState τ) :
    ProgramEnd × GatewayState τ :=
  match Command.ofArguments texts with
  | .error refusal => (refused refusal, s)
  | .ok command =>
    match command.run w s with
    | (.ok output, s) => ({ code := 0, output }, s)
    | (.error failure, s) => (failure.programEnd, s)

end Program

end MarketBars
