import MarketBars.Disclosure
import MarketBars.Panel.History

/-!
# From a plan to an answer

Every provider answers a request in the same way: one table is fetched for each distinct ticker, the
tables are assembled into a cube, and the cube is laid out to the labels of the request. Only the
fetching differs from provider to provider.

## Main definitions

- `Plan` — the labels, the window and the shape of a request
- `Fetcher` — how a source answers for one ticker
- `Plan.gather` — the tables of the distinct tickers
- `Plan.run` — the answer to a plan

## Design notes

A source has a state, which every fetch takes and hands on. A `Run` is what an action leaves behind: its
result, the diagnostics recorded by it, in order, and the state of the source after it.
-/

namespace MarketBars

/-- What an action leaves behind. -/
structure Run (σ ρ : Type) where
  result : ρ
  diagnostics : List Diagnostic
  state : σ

/-- The labels, the window and the shape of a request. -/
structure Plan where
  tickers : List Ticker
  fields : List String
  window : Window
  frequency : Frequency
  flags : SqueezeFlags
  deriving DecidableEq

/-- What a source is asked for: the rows of one ticker. -/
structure FetchCall where
  ticker : Ticker
  fields : List String
  window : Window
  frequency : Frequency
  deriving DecidableEq

abbrev Fetcher (σ : Type) := FetchCall → σ → Run σ (Except DataError Table)

def Fetcher.nothing {σ : Type} : Fetcher σ := fun _ s => ⟨.ok Table.empty, [], s⟩

namespace Plan

variable {σ : Type}

def call (plan : Plan) (ticker : Ticker) : FetchCall :=
  ⟨ticker, plan.fields, plan.window, plan.frequency⟩

/-- What is recorded when a table lacks some of the requested fields: nothing for a table without
rows. -/
def missingNote (plan : Plan) (ticker : Ticker) (table : Table) : List Diagnostic :=
  if table.isEmpty || (table.missing plan.fields).isEmpty then []
  else [.missingFields ticker.symbol (table.missing plan.fields)]

/-- Fetches the tables of some tickers in turn. A ticker whose source is unavailable is recorded and
left out; any other error ends the fetching. -/
def gatherFrom (fetch : Fetcher σ) (plan : Plan) :
    List Ticker → σ → Run σ (Except DataError (List (Ticker × Table)))
  | [], s => ⟨.ok [], [], s⟩
  | ticker :: rest, s =>
    let got := fetch (plan.call ticker) s
    match got.result with
    | .error e =>
      if e.isPerTicker then
        let more := gatherFrom fetch plan rest got.state
        { more with
          diagnostics :=
            got.diagnostics ++ .sourceUnavailable ticker.symbol e.message :: more.diagnostics }
      else ⟨.error e, got.diagnostics, got.state⟩
    | .ok table =>
      let more := gatherFrom fetch plan rest got.state
      { more with
        result := more.result.map ((ticker, table.project plan.fields) :: ·)
        diagnostics := got.diagnostics ++ plan.missingNote ticker table ++ more.diagnostics }

/-- The tables of the distinct tickers, in order of first appearance. When nothing can fall inside the
window, every ticker has an empty table and nothing is fetched. -/
def gather (fetch : Fetcher σ) (plan : Plan) (s : σ) :
    Run σ (Except DataError (List (Ticker × Table))) :=
  let distinct := distinctTickers plan.tickers
  if plan.window.isEmpty then ⟨.ok (distinct.map fun t => (t, Table.empty)), [], s⟩
  else gatherFrom fetch plan distinct s

def answer (plan : Plan) (tables : List (Ticker × Table)) : Except DataError History :=
  if tables.isEmpty && !plan.tickers.isEmpty then
    .error (.noDataFound (String.intercalate ", " (plan.tickers.map Ticker.symbol)))
  else
    match Cube.assemble tables plan.fields with
    | .error e => .error e
    | .ok cube => .ok (cube.normalize plan.tickers plan.fields plan.flags)

/-- Fetches, assembles and lays out. -/
def run (fetch : Fetcher σ) (plan : Plan) (s : σ) : Run σ (Except DataError History) :=
  let got := plan.gather fetch s
  { got with
    result :=
      match got.result with
      | .error e => .error e
      | .ok tables => plan.answer tables }

end Plan

end MarketBars
