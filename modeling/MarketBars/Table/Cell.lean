import MarketBars.Number.Binary64
import MarketBars.Calendar.Instant

namespace MarketBars

/-- A cell of a table. Each kind can be asked for its number and for its time, so that a column of numbers
can serve as the timestamps of a table and the other way round. -/
inductive Cell where
  | absent
  | number (x : Binary64)
  | moment (millis : Int)
  deriving DecidableEq, Repr, Inhabited

namespace Cell

def ofValue : Option Binary64 → Cell
  | none => absent
  | some x => number x

/-- The number of a cell; a NaN counts as nothing, and a time is its milliseconds. -/
def number? : Cell → Option Binary64
  | absent => none
  | number x => if x.isNaN then none else some x
  | moment ms => some (Binary64.ofInt ms)

/-- The time of a cell in milliseconds; a number counts toward zero, if it fits. -/
def millis? : Cell → Option Int
  | absent => none
  | number x => x.truncate?
  | moment ms => some ms

def rank? : Cell → Option Int
  | absent => none
  | number x => some x.rank
  | moment ms => some ms

/-- The order of positions, with nothing before everything. -/
def rankLE : Option Int → Option Int → Bool
  | none, _ => true
  | some _, none => false
  | some a, some b => a ≤ b

theorem rankLE_trans {a b c : Option Int} (hab : rankLE a b = true) (hbc : rankLE b c = true) :
    rankLE a c = true := by
  cases a <;> cases b <;> cases c <;> simp_all [rankLE]
  omega

theorem rankLE_total (a b : Option Int) : (rankLE a b || rankLE b a) = true := by
  cases a <;> cases b <;> simp [rankLE]
  omega

end Cell

end MarketBars
