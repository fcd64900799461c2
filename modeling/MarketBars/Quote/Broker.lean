import MarketBars.Provider
import MarketBars.Quote.Paging
import MarketBars.Settings

namespace MarketBars

/-- The clock and the choices of the broker provider. -/
structure Broker where
  clock : MarketClock
  frequency : Frequency := .daily
  pageSize : Nat := 1000

namespace Broker

def name : String := "broker"

def kinds : List SecurityKind := [.stock, .index]

def ofSettings (settings : BrokerSettings) (clock : MarketClock) : Except DataError Broker := do
  let frequency ← frequencySetting settings.frequency
  pure { clock, frequency, pageSize := settings.pageSize }

variable {σ ι : Type}

/-- Runs a plan on a connection of its own, which is closed however the plan ends. -/
def runConnected (b : Broker) (source : QuoteSource σ ι) (plan : Plan) (s : σ) :
    Run σ (Except DataError History) :=
  match source.connect s with
  | (.error e, s') => ⟨.error e, [], s'⟩
  | (.ok conn, s') =>
    let got := plan.run (source.fetcher conn (max 1 b.pageSize) name) s'
    { got with state := source.close conn got.state }

/-- The answer to a request. Only what cannot be refused or answered without the source opens a connection. -/
def history (b : Broker) (source : QuoteSource σ ι) (r : HistoryRequest) (s : σ) :
    Run σ (Except Failure History) :=
  let frequency := r.frequency?.getD b.frequency
  if (Period.ofFrequency? frequency).isNone then
    .stopped (.error (.unsupportedFrequency name frequency)) s
  else
    match checkKinds name kinds r.tickers.toList with
    | .error e => .stopped (.error e) s
    | .ok () =>
      match Window.ofRequest? b.clock r.start r.stop? frequency r.lookAhead with
      | none => .stopped (.fault .calendarRange) s
      | some window =>
        let plan := r.plan r.tickers.toList r.tickers.isSingle window frequency
        if window.isEmpty then (plan.run Fetcher.nothing s).lift
        else (b.runConnected source plan s).lift

/-- The provider over a quote source. Its price fields go by their own names. -/
def provider (b : Broker) (source : QuoteSource σ ι) : Provider σ where
  name := name
  frequency := b.frequency
  kinds := kinds
  priceMap? := some (PriceMap.identity PriceField.all)
  history := b.history source

end Broker

end MarketBars
