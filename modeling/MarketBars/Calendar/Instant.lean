import MarketBars.Calendar.Date

/-!
# Times of day and instants

A time of day has a resolution of nanoseconds. A leap second is written as second 59 with more than
`10 ^ 9` nanoseconds. An instant is a date with a time of day; there are no time zones.

## Main definitions

- `TimeOfDay`, `Instant` — the two types
- `Instant.rank` — the position of an instant in the order of time
- `Instant.addSeconds?` — the instant some seconds later or earlier
- `Instant.millis`, `Instant.ofMillis?` — to and from whole milliseconds
- `Instant.dropSeconds` — the whole minute of an instant

## Design notes

`Instant.rank` counts every second as two seconds of nanoseconds, which leaves room for a leap second
between second 59 and the next minute. Instants are compared by rank, and instants of one rank are
equal, so that statements about order become statements about integers.
-/

namespace MarketBars

/-- A time of day: seconds from midnight, and nanoseconds, which reach two seconds in a leap second. -/
structure TimeOfDay where
  second : Nat
  nano : Nat
  second_lt : second < 86400
  nano_lt : nano < 2000000000
  deriving DecidableEq

structure Instant where
  date : Date
  time : TimeOfDay
  deriving DecidableEq

namespace TimeOfDay

def ofSecond (s : Nat) (h : s < 86400) : TimeOfDay := ⟨s, 0, h, by decide⟩

def midnight : TimeOfDay := ofSecond 0 (by decide)

/-- The last second of the day, without a fraction. -/
def lastSecond : TimeOfDay := ofSecond 86399 (by decide)

/-- The time with the given hour, minute and second; second 60 is a leap second. -/
def ofClock? (hour minute second nano : Nat) : Option TimeOfDay :=
  let leap := if second = 60 then 1 else 0
  let seconds := hour * 3600 + minute * 60 + (second - leap)
  let nanos := nano + leap * 1000000000
  if h : minute < 60 ∧ second ≤ 60 ∧ nano < 1000000000 ∧ seconds < 86400 ∧ nanos < 2000000000 then
    some ⟨seconds, nanos, h.2.2.2.1, h.2.2.2.2⟩
  else none

def dropSeconds (t : TimeOfDay) : TimeOfDay :=
  ⟨t.second / 60 * 60, 0, by have := t.second_lt; omega, by decide⟩

/-- The number of nanoseconds in two seconds, the width of one second in the order of time. -/
def secondWidth : Int := 2000000000

/-- The position of a time in the order of the day. -/
def rank (t : TimeOfDay) : Int :=
  t.second * secondWidth + t.nano

instance : LE TimeOfDay := ⟨fun a b => a.rank ≤ b.rank⟩

instance (a b : TimeOfDay) : Decidable (a ≤ b) := inferInstanceAs (Decidable (a.rank ≤ b.rank))

end TimeOfDay

namespace Instant

def rank (t : Instant) : Int :=
  t.date.day * (86400 * TimeOfDay.secondWidth) + t.time.rank

instance : LE Instant := ⟨fun a b => a.rank ≤ b.rank⟩

instance : LT Instant := ⟨fun a b => a.rank < b.rank⟩

instance (a b : Instant) : Decidable (a ≤ b) := inferInstanceAs (Decidable (a.rank ≤ b.rank))

instance (a b : Instant) : Decidable (a < b) := inferInstanceAs (Decidable (a.rank < b.rank))

def earlier (a b : Instant) : Instant :=
  if a ≤ b then a else b

def startOf (d : Date) : Instant := ⟨d, .midnight⟩

def dropSeconds (t : Instant) : Instant :=
  ⟨t.date, t.time.dropSeconds⟩

/-- The seconds since the beginning of 1970, a leap second counted with the second before it. -/
def seconds (t : Instant) : Int :=
  t.date.day * 86400 + t.time.second

/-- The instant of a count of seconds and a fraction, when its date is in the calendar. -/
def ofSeconds? (s : Int) (nano : Nat) : Option Instant :=
  match Date.ofDay? (s / 86400) with
  | none => none
  | some d =>
    if h : (s % 86400).toNat < 86400 ∧ nano < 2000000000 then
      some ⟨d, ⟨(s % 86400).toNat, nano, h.1, h.2⟩⟩
    else none

/-- The instant `n` seconds later. Moving forward out of a leap second drops its extra second, moving
backward counts it. -/
def addSeconds? (t : Instant) (n : Int) : Option Instant :=
  if t.time.nano < 1000000000 ∨ n = 0 then ofSeconds? (t.seconds + n) t.time.nano
  else if 0 < n then ofSeconds? (t.seconds + n) (t.time.nano - 1000000000)
  else ofSeconds? (t.seconds + 1 + n) (t.time.nano - 1000000000)

/-- The last whole second of a date: one day after its beginning, less one second. The last date of the
calendar has none, for its next day is outside. -/
def endOf? (d : Date) : Option Instant := do
  let next ← (startOf d).addSeconds? 86400
  next.addSeconds? (-1)

/-- Milliseconds since the beginning of 1970, rounded down; a leap second runs on past its second. -/
def millis (t : Instant) : Int :=
  t.seconds * 1000 + (t.time.nano / 1000000 : Nat)

def ofMillis? (ms : Int) : Option Instant :=
  ofSeconds? (ms / 1000) ((ms % 1000).toNat * 1000000)

theorem le_iff {a b : Instant} : a ≤ b ↔ a.rank ≤ b.rank := Iff.rfl

theorem lt_iff {a b : Instant} : a < b ↔ a.rank < b.rank := Iff.rfl

theorem eq_of_rank_eq {a b : Instant} (h : a.rank = b.rank) : a = b := by
  obtain ⟨⟨da, _, _⟩, ⟨sa, na, ha, ha'⟩⟩ := a
  obtain ⟨⟨db, _, _⟩, ⟨sb, nb, hb, hb'⟩⟩ := b
  simp only [rank, TimeOfDay.rank, TimeOfDay.secondWidth] at h
  have hd : da = db := by omega
  have hs : sa = sb := by omega
  have hn : na = nb := by omega
  subst hd hs hn
  rfl

theorem earlier_le_left (a b : Instant) : earlier a b ≤ a := by
  unfold earlier
  split
  · exact Int.le_refl _
  · rename_i h; rw [le_iff] at h ⊢; omega

theorem earlier_le_right (a b : Instant) : earlier a b ≤ b := by
  unfold earlier
  split
  · assumption
  · exact Int.le_refl _

end Instant

end MarketBars
