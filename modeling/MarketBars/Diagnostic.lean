import MarketBars.Text.Quoted

namespace MarketBars

/-- The texts of a list in ascending order, each once. -/
def sortedDistinct (texts : List String) : List String :=
  (texts.mergeSort fun a b => decide (a ≤ b)).eraseReps

/-- A recoverable condition met while serving a request. -/
inductive Diagnostic where
  /-- The source rejected the ticker, which was skipped. -/
  | sourceUnavailable (ticker reason : String)
  /-- Some requested fields are not there for the ticker; they are in ascending order. -/
  | missingFields (ticker : String) (fields : List String)
  /-- A page after the first one failed; the rows of earlier pages were kept. -/
  | pageFailed (ticker : String) (page : Nat) (reason : String)
  deriving DecidableEq, Repr

inductive LogLevel where
  | warning
  | info
  deriving DecidableEq, Repr

namespace Diagnostic

def ticker : Diagnostic → String
  | sourceUnavailable t _ => t
  | missingFields t _ => t
  | pageFailed t _ _ => t

def logLine : Diagnostic → LogLevel × String
  | sourceUnavailable t reason => (.warning, "skipping " ++ t ++ ": " ++ reason)
  | missingFields t fields =>
    (.info, "not all fields are available for " ++ t ++ "; missing: " ++ Text.quoteSet fields)
  | pageFailed t page reason =>
    (.warning, "page " ++ Nat.repr page ++ " for " ++ t ++ " failed, keeping earlier pages: " ++
      reason)

end Diagnostic

end MarketBars
