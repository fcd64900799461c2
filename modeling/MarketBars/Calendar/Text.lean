import MarketBars.Calendar.Instant

namespace MarketBars

/-- A natural number in decimal, with zeros in front up to the given width. -/
def padLeft (width n : Nat) : String :=
  let digits := Nat.repr n
  String.ofList (List.replicate (width - digits.length) '0') ++ digits

/-- A year of four digits or more, with a sign outside 0 to 9999. -/
def yearText (year : Int) : String :=
  if 0 ≤ year ∧ year ≤ 9999 then padLeft 4 year.toNat
  else (if year < 0 then "-" else "+") ++ padLeft 4 year.natAbs

def Date.text (d : Date) : String :=
  let c := d.civil
  yearText c.year ++ "-" ++ padLeft 2 c.month ++ "-" ++ padLeft 2 c.day

/-- A fraction of a second in three, six or nine digits, the least number that is exact. There are no digits
for zero. -/
def fractionText (nano : Nat) : String :=
  if nano = 0 then ""
  else if nano % 1000000 = 0 then "." ++ padLeft 3 (nano / 1000000)
  else if nano % 1000 = 0 then "." ++ padLeft 6 (nano / 1000)
  else "." ++ padLeft 9 nano

/-- A leap second is written as second 60. -/
def TimeOfDay.text (t : TimeOfDay) : String :=
  let leap := if 1000000000 ≤ t.nano then 1 else 0
  padLeft 2 (t.second / 3600) ++ ":" ++ padLeft 2 (t.second / 60 % 60) ++ ":" ++
    padLeft 2 (t.second % 60 + leap) ++ fractionText (t.nano - leap * 1000000000)

def Instant.text (t : Instant) : String :=
  t.date.text ++ "T" ++ t.time.text

end MarketBars
