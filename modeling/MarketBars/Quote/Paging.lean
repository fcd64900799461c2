import MarketBars.Pipeline
import MarketBars.Quote.Source

/-!
# Following pages

The rows of a request are those of all its pages, in order of arrival. A first page that fails is the
failure of the whole request. When a later page fails, the rows received before it are kept, and the
failure is recorded.
-/

namespace MarketBars

namespace QuoteSource

variable {σ ι : Type} (source : QuoteSource σ ι)

/-- The rows of a later page, which has a number, and of all the pages after it. -/
def rowsFrom (conn : ι) (page : Nat) (r : KlineRequest) (s : σ) : Run σ (List KlineRow) :=
  match _h : source.page conn r s with
  | (.error e, s') => ⟨[], [.pageFailed r.code page e.message], s'⟩
  | (.ok p, s') =>
    match hk : p.next? with
    | none => ⟨p.rows, [], s'⟩
    | some key =>
      let more := rowsFrom conn (page + 1) (r.continued key) s'
      { more with result := p.rows ++ more.result }
termination_by source.budget conn r s
decreasing_by exact source.budget_lt conn r s p s' key _h hk

def rows (conn : ι) (r : KlineRequest) (s : σ) : Run σ (Except DataError (List KlineRow)) :=
  match source.page conn r s with
  | (.error e, s') => ⟨.error e, [], s'⟩
  | (.ok p, s') =>
    match p.next? with
    | none => ⟨.ok p.rows, [], s'⟩
    | some key =>
      let more := source.rowsFrom conn 1 (r.continued key) s'
      { more with result := .ok (p.rows ++ more.result) }

def firstRequest (limit : Nat) (call : FetchCall) (period : Period) : KlineRequest where
  code := call.ticker.symbol
  start := call.window.start.date
  stop := call.window.stop.date
  period := period
  fields := call.fields
  limit := limit
  adjusted := true

/-- The table of a ticker: the rows of its code, one for each timestamp, inside the window. -/
def fetcher (conn : ι) (limit : Nat) (provider : String) : Fetcher σ := fun call s =>
  match Period.ofFrequency? call.frequency with
  | none => ⟨.error (.unsupportedFrequency provider call.frequency), [], s⟩
  | some period =>
    let got := source.rows conn (firstRequest limit call period) s
    { got with
      result := do
        let table ← KlineRow.table (← got.result) call.fields
        pure (table.dedupFirst.within call.window.start call.window.stop) }

end QuoteSource

end MarketBars
