import MarketBars.Proofs.Archive.Membership

namespace MarketBars

namespace Snapshot

section Notes

variable {σ : Type} {s : Snapshot} {plan : Plan}

end Notes

section Slices

variable {s : Snapshot} {plan : Plan}

def slices (s : Snapshot) (w : Window) (tickers : List Ticker) : List (String × Table) :=
  tickers.filterMap fun t => (s.slice? w t).map fun rows => (t.symbol, rows)

/-- Answers from slices. A slice that is given away is not there any more. -/
def takeSlice : Fetcher (List (String × Table)) := fun call slices =>
  match slices.lookup call.ticker.symbol with
  | none => ⟨.error (.sourceUnavailable call.ticker.symbol "not in the loaded snapshot"), [], slices⟩
  | some rows => ⟨.ok rows, [], slices.filter fun e => e.1 != call.ticker.symbol⟩

end Slices

/-- A request, answered from the slices of its distinct tickers. -/
def served (s : Snapshot) (r : HistoryRequest) (w : Window) :
    Run (List (String × Table)) (Except DataError History) :=
  (r.plan (s.expand r.tickers.toList) (r.tickers.isSingle && !s.expands r.tickers.toList) w
    s.frequency).run takeSlice (s.slices w (distinctTickers (s.expand r.tickers.toList)))

end Snapshot

end MarketBars
