import MarketBars.Pipeline
import MarketBars.Request

/-!
# Providers

A provider answers requests from one source. Requests for price fields are answered through requests
for the columns of the source: the fields are mapped to columns, and the answer is labelled with the
names of the fields.
-/

namespace MarketBars

/-- The column of a source for each price field, in the order of the fields. -/
abbrev PriceMap := List (PriceField × String)

namespace PriceMap

/-- The column of a field; a field that is not mapped goes by its own name. -/
def column (map : PriceMap) (field : PriceField) : String :=
  (map.lookup field).getD field.name

/-- Every field goes by its own name. -/
def identity (fields : List PriceField) : PriceMap :=
  (PriceField.all.filter fields.contains).map fun f => (f, f.name)

end PriceMap

/-- A source of histories with its settings. Its state is handed from request to request. -/
structure Provider (σ : Type) where
  name : String
  frequency : Frequency
  kinds : List SecurityKind
  priceMap? : Option PriceMap
  history : HistoryRequest → σ → Run σ (Except Failure History)

/-- Refuses the first ticker whose kind is not among the supported ones. -/
def checkKinds (provider : String) (supported : List SecurityKind) (tickers : List Ticker) :
    Except DataError Unit :=
  match tickers.find? fun t => !supported.contains t.kind with
  | some t => .error (.unsupportedKind provider t.symbol t.kind)
  | none => .ok ()

namespace PriceRequest

def toHistory (r : PriceRequest) (map : PriceMap) : HistoryRequest :=
  { tickers := r.tickers
    fields := r.fields.map fun f => .native (map.column f)
    start := r.start
    stop? := r.stop?
    frequency? := r.frequency?
    lookAhead := r.lookAhead }

def names (r : PriceRequest) : List String :=
  r.fields.toList.map PriceField.name

end PriceRequest

def HistoryRequest.plan (r : HistoryRequest) (tickers : List Ticker) (singleTicker : Bool)
    (window : Window) (frequency : Frequency) : Plan :=
  { tickers, window, frequency
    fields := r.columns
    flags := ⟨window.singleDate, singleTicker, r.fields.isSingle⟩ }

/-- A run whose result is an error, and that did nothing. -/
def Run.stopped {σ α : Type} (failure : Failure) (s : σ) : Run σ (Except Failure α) :=
  ⟨.error failure, [], s⟩

/-- The run with its errors counted among the failures. -/
def Run.lift {σ α : Type} (run : Run σ (Except DataError α)) : Run σ (Except Failure α) :=
  { run with result := liftError run.result }

namespace Provider

variable {σ : Type}

/-- The answer to a request for price fields, labelled with their names whatever the columns are
called. -/
def price (p : Provider σ) (r : PriceRequest) (s : σ) : Run σ (Except Failure History) :=
  match p.priceMap? with
  | none => .stopped (.error (.missingPriceMap p.name)) s
  | some map =>
    let got := p.history (r.toHistory map) s
    { got with
      result :=
        match got.result with
        | .error e => .error e
        | .ok history => Fault.shape.orElse (history.relabelFields? r.names) }

end Provider

/-- Tables held in memory by symbol, or the error that a symbol meets. -/
abbrev RecordedTables := List (String × Except DataError Table)

namespace RecordedTables

/-- Answers from the recorded tables, first rows first and inside the window only, and keeps a list of
the calls. -/
def fetcher (tables : RecordedTables) : Fetcher (List FetchCall) := fun call calls =>
  let result : Except DataError Table :=
    match tables.lookup call.ticker.symbol with
    | none => .error (.sourceUnavailable call.ticker.symbol "unknown symbol")
    | some (.error e) => .error e
    | some (.ok t) => .ok (t.dedupFirst.within call.window.start call.window.stop)
  ⟨result, [], calls ++ [call]⟩

def provider (tables : RecordedTables) (name : String) (clock : MarketClock)
    (priceMap? : Option PriceMap) : Provider (List FetchCall) where
  name := name
  frequency := .daily
  kinds := [.stock]
  priceMap? := priceMap?
  history := fun r calls =>
    let frequency := r.frequency?.getD .daily
    match checkKinds name [.stock] r.tickers.toList with
    | .error e => .stopped (.error e) calls
    | .ok () =>
      match Window.ofRequest? clock r.start r.stop? frequency r.lookAhead with
      | none => .stopped (.fault .calendarRange) calls
      | some window =>
        ((r.plan r.tickers.toList r.tickers.isSingle window frequency).run tables.fetcher calls).lift

end RecordedTables

end MarketBars
