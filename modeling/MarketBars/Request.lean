import MarketBars.Calendar.Instant
import MarketBars.Frequency
import MarketBars.PriceField
import MarketBars.Ticker

namespace MarketBars

/-- A label, or a list of labels. The axis of a single label is collapsed in the answer, the axis of a list is
not, however short the list. -/
inductive OneOrMany (α : Type) where
  | one (a : α)
  | many (as : List α)
  deriving DecidableEq, Repr

namespace OneOrMany

variable {α β : Type}

def isSingle : OneOrMany α → Bool
  | one _ => true
  | many _ => false

def toList : OneOrMany α → List α
  | one a => [a]
  | many as => as

def map (f : α → β) : OneOrMany α → OneOrMany β
  | one a => one (f a)
  | many as => many (as.map f)

/-- A list of exactly one label counts as a single label. -/
def ofList : List α → OneOrMany α
  | [a] => one a
  | as => many as

theorem toList_map (f : α → β) (x : OneOrMany α) : (x.map f).toList = x.toList.map f := by
  cases x <;> rfl

theorem isSingle_map (f : α → β) (x : OneOrMany α) : (x.map f).isSingle = x.isSingle := by
  cases x <;> rfl

end OneOrMany

/-- A request for fields by the names of a source. The end defaults to the present, the frequency to
that of the provider. -/
structure HistoryRequest where
  tickers : OneOrMany Ticker
  fields : OneOrMany FieldToken
  start : Instant
  stop? : Option Instant := none
  frequency? : Option Frequency := none
  lookAhead : Bool := false
  deriving DecidableEq

def HistoryRequest.columns (r : HistoryRequest) : List String :=
  r.fields.toList.map FieldToken.column

structure PriceRequest where
  tickers : OneOrMany Ticker
  fields : OneOrMany PriceField
  start : Instant
  stop? : Option Instant := none
  frequency? : Option Frequency := none
  lookAhead : Bool := false
  deriving DecidableEq

end MarketBars
