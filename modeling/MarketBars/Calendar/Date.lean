/-!
# Dates

Dates of the proleptic Gregorian calendar, counted as days from the first day of 1970. The calendar
reaches from the first day of the year -262143 to the last day of the year 262142; a date is always
inside this range, and moving out of it has no result.
-/

namespace MarketBars

/-- The first day of the calendar, the first of January -262143. -/
def firstDay : Int := -96465292

/-- The last day of the calendar, the last of December 262142. -/
def lastDay : Int := 95026236

/-- A day of the calendar, counted from the first of January 1970. -/
structure Date where
  day : Int
  first_le : firstDay ≤ day
  le_last : day ≤ lastDay
  deriving DecidableEq

structure Civil where
  year : Int
  month : Nat
  day : Nat
  deriving DecidableEq, Repr

namespace Civil

def isLeapYear (year : Int) : Bool :=
  year % 4 == 0 && (year % 100 != 0 || year % 400 == 0)

def daysInMonth (year : Int) (month : Nat) : Nat :=
  if month = 2 then (if isLeapYear year then 29 else 28)
  else if month = 4 ∨ month = 6 ∨ month = 9 ∨ month = 11 then 30
  else 31

def isValid (c : Civil) : Bool :=
  1 ≤ c.month && c.month ≤ 12 && 1 ≤ c.day && c.day ≤ daysInMonth c.year c.month

/-- The number of days from the first of January 1970. Years are counted from March, so that the
added day of a leap year comes last, and grouped into cycles of 400 years. -/
def dayNumber (c : Civil) : Int :=
  let year := if c.month ≤ 2 then c.year - 1 else c.year
  let month := if c.month ≤ 2 then c.month + 9 else c.month - 3
  let cycle := year.fdiv 400
  let inCycle := year.fmod 400
  let dayOfYear : Int := (153 * month + 2) / 5 + c.day - 1
  cycle * 146097 + inCycle * 365 + inCycle / 4 - inCycle / 100 + dayOfYear - 719468

def ofDayNumber (n : Int) : Civil :=
  let shifted := n + 719468
  let cycle := shifted.fdiv 146097
  let dayOfCycle := (shifted.fmod 146097).toNat
  let yearOfCycle :=
    (dayOfCycle - dayOfCycle / 1460 + dayOfCycle / 36524 - dayOfCycle / 146096) / 365
  let dayOfYear := dayOfCycle - (365 * yearOfCycle + yearOfCycle / 4 - yearOfCycle / 100)
  let month := (5 * dayOfYear + 2) / 153
  let day := dayOfYear - (153 * month + 2) / 5 + 1
  let year : Int := cycle * 400 + yearOfCycle
  if month < 10 then ⟨year, month + 3, day⟩ else ⟨year + 1, month - 9, day⟩

end Civil

namespace Date

/-- The date of a day number, when it is in the calendar. -/
def ofDay? (n : Int) : Option Date :=
  if h : firstDay ≤ n ∧ n ≤ lastDay then some ⟨n, h.1, h.2⟩ else none

def ofCivil? (c : Civil) : Option Date :=
  if c.isValid then ofDay? c.dayNumber else none

def civil (d : Date) : Civil :=
  Civil.ofDayNumber d.day

/-- The date `n` days later, when it is in the calendar. -/
def addDays? (d : Date) (n : Int) : Option Date :=
  ofDay? (d.day + n)

instance : LE Date := ⟨fun a b => a.day ≤ b.day⟩

instance : LT Date := ⟨fun a b => a.day < b.day⟩

instance (a b : Date) : Decidable (a ≤ b) := inferInstanceAs (Decidable (a.day ≤ b.day))

instance (a b : Date) : Decidable (a < b) := inferInstanceAs (Decidable (a.day < b.day))

theorem le_iff {a b : Date} : a ≤ b ↔ a.day ≤ b.day := Iff.rfl

theorem eq_of_day_eq {a b : Date} (h : a.day = b.day) : a = b := by
  cases a; cases b; simp_all

theorem ofDay?_eq_some_iff {n : Int} {d : Date} : ofDay? n = some d ↔ d.day = n := by
  unfold ofDay?
  constructor
  · intro h
    split at h
    · simp only [Option.some.injEq] at h; rw [← h]
    · simp at h
  · rintro rfl
    simp [d.first_le, d.le_last]

end Date

end MarketBars
