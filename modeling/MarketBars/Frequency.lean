import MarketBars.Text.Blank

/-!
# Bar frequencies

A bar sums up one stretch of trading: some minutes, a day, or a longer part of the calendar. Minute
bars have a fixed length and are handled bar by bar; all others are handled day by day.
-/

namespace MarketBars

inductive Frequency where
  | min1
  | min5
  | min10
  | min15
  | min30
  | min60
  | daily
  | weekly
  | monthly
  | quarterly
  | yearly
  deriving DecidableEq, Repr, Inhabited

namespace Frequency

def all : List Frequency :=
  [min1, min5, min10, min15, min30, min60, daily, weekly, monthly, quarterly, yearly]

def rank : Frequency → Nat
  | min1 => 0
  | min5 => 1
  | min10 => 2
  | min15 => 3
  | min30 => 4
  | min60 => 5
  | daily => 6
  | weekly => 7
  | monthly => 8
  | quarterly => 9
  | yearly => 10

instance : LT Frequency := ⟨fun a b => a.rank < b.rank⟩

instance (a b : Frequency) : Decidable (a < b) := inferInstanceAs (Decidable (a.rank < b.rank))

/-- Shorter than a day. -/
def isIntraday (f : Frequency) : Bool := f < daily

/-- The length of a bar in minutes, for frequencies shorter than a day. -/
def barMinutes? : Frequency → Option Nat
  | min1 => some 1
  | min5 => some 5
  | min10 => some 10
  | min15 => some 15
  | min30 => some 30
  | min60 => some 60
  | _ => none

def barSeconds? (f : Frequency) : Option Nat :=
  f.barMinutes?.map (· * 60)

def name : Frequency → String
  | min1 => "1m"
  | min5 => "5m"
  | min10 => "10m"
  | min15 => "15m"
  | min30 => "30m"
  | min60 => "60m"
  | daily => "1d"
  | weekly => "1w"
  | monthly => "1mo"
  | quarterly => "1q"
  | yearly => "1y"

def ofAlias? : String → Option Frequency
  | "daily" | "day" => some daily
  | "weekly" | "week" => some weekly
  | "monthly" | "month" => some monthly
  | "quarterly" | "quarter" => some quarterly
  | "yearly" | "year" => some yearly
  | "1min" => some min1
  | "5min" => some min5
  | "10min" => some min10
  | "15min" => some min15
  | "30min" => some min30
  | "60min" => some min60
  | _ => none

/-- The frequency of a name or an alias, in any letter case and with blanks around it. -/
def ofName? (s : String) : Option Frequency :=
  let key := Text.asciiLower (Text.trim s)
  (all.find? fun f => f.name == key).orElse fun _ => ofAlias? key

def unknownMessage (s : String) : String :=
  "unknown frequency '" ++ s ++ "'"

/-- The length of a bar is given exactly for the frequencies shorter than a day. -/
theorem isIntraday_eq_isSome (f : Frequency) : f.isIntraday = f.barSeconds?.isSome := by
  cases f <;> rfl

end Frequency

end MarketBars
