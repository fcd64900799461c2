import MarketBars.Calendar.Text
import MarketBars.Number.Power
import MarketBars.Text.Blank

/-!
# Reading dates and times

A written date or time is read against a pattern: a list of numbers, literal characters and blanks.
Blank characters before a number are skipped, and blanks of a pattern match any number of blank
characters. A year takes at most four digits, or a sign and any number of digits.
-/

namespace MarketBars

namespace Pattern

inductive Part where
  | year
  | month
  | day
  | hour
  | minute
  | second
  | fraction
  | blanks
  | literal (c : Char)
  deriving DecidableEq

inductive Fault where
  | unexpectedCharacter
  | tooShort
  | outOfRange
  | tooLong
  deriving DecidableEq, Repr

def Fault.message : Fault → String
  | .unexpectedCharacter => "input contains invalid characters"
  | .tooShort => "premature end of input"
  | .outOfRange => "input is out of range"
  | .tooLong => "trailing input"

/-- The numbers read so far. -/
structure Numbers where
  year : Int := 0
  month : Nat := 1
  day : Nat := 1
  hour : Nat := 0
  minute : Nat := 0
  second : Nat := 0
  nano : Nat := 0
  deriving Repr

/-- The digits at the front of a text, at most `width` of them, and the rest. -/
def takeDigits : Nat → List Char → List Char × List Char
  | 0, cs => ([], cs)
  | _ + 1, [] => ([], [])
  | width + 1, c :: cs =>
    if c.isDigit then
      let (digits, rest) := takeDigits width cs
      (c :: digits, rest)
    else ([], c :: cs)

def digitsValue (digits : List Char) : Nat :=
  digits.foldl (fun n c => 10 * n + (c.toNat - 48)) 0

/-- A number of at least one and at most `width` digits. -/
def number (width : Nat) (cs : List Char) : Except Fault (Nat × List Char) :=
  match takeDigits width cs with
  | ([], []) => .error .tooShort
  | ([], _ :: _) => .error .unexpectedCharacter
  | (digits, rest) => .ok (digitsValue digits, rest)

/-- A year: up to four digits, or a sign and any number of digits. It must fit 32 bits. -/
def yearNumber (cs : List Char) : Except Fault (Int × List Char) := do
  let (year, rest) ← (match cs with
    | '-' :: cs => do
      let (n, rest) ← number cs.length cs
      pure (-(n : Int), rest)
    | '+' :: cs => do
      let (n, rest) ← number cs.length cs
      pure ((n : Int), rest)
    | cs => do
      let (n, rest) ← number 4 cs
      pure ((n : Int), rest) : Except Fault (Int × List Char))
  if fitsSigned 32 year then pure (year, rest) else throw .outOfRange

/-- A number of at most two digits between two bounds. -/
def boundedNumber (low high : Nat) (cs : List Char) : Except Fault (Nat × List Char) := do
  let (n, rest) ← number 2 cs
  if low ≤ n ∧ n ≤ high then pure (n, rest) else throw .outOfRange

/-- A fraction of a second after its point: nine digits count, and more are skipped. -/
def fractionNumber (cs : List Char) : Except Fault (Nat × List Char) :=
  match takeDigits 9 cs with
  | ([], []) => .error .tooShort
  | ([], _ :: _) => .error .unexpectedCharacter
  | (digits, rest) =>
    .ok (digitsValue digits * tenTo (9 - digits.length), rest.dropWhile Char.isDigit)

def readPart (part : Part) (found : Numbers) (cs : List Char) : Except Fault (Numbers × List Char) :=
  match part with
  | .year => do
    let (n, rest) ← yearNumber (Text.trimLeft cs)
    pure ({ found with year := n }, rest)
  | .month => do
    let (n, rest) ← boundedNumber 1 12 (Text.trimLeft cs)
    pure ({ found with month := n }, rest)
  | .day => do
    let (n, rest) ← boundedNumber 1 31 (Text.trimLeft cs)
    pure ({ found with day := n }, rest)
  | .hour => do
    let (n, rest) ← boundedNumber 0 23 (Text.trimLeft cs)
    pure ({ found with hour := n }, rest)
  | .minute => do
    let (n, rest) ← boundedNumber 0 59 (Text.trimLeft cs)
    pure ({ found with minute := n }, rest)
  | .second => do
    let (n, rest) ← boundedNumber 0 60 (Text.trimLeft cs)
    pure ({ found with second := n }, rest)
  | .fraction =>
    match cs with
    | '.' :: cs => do
      let (n, rest) ← fractionNumber cs
      pure ({ found with nano := n }, rest)
    | cs => pure (found, cs)
  | .blanks => pure (found, Text.trimLeft cs)
  | .literal c =>
    match cs with
    | [] => throw .tooShort
    | d :: rest => if c = d then pure (found, rest) else throw .unexpectedCharacter

def read : List Part → Numbers → List Char → Except Fault (Numbers × List Char)
  | [], found, cs => .ok (found, cs)
  | part :: parts, found, cs =>
    match readPart part found cs with
    | .error f => .error f
    | .ok (found, rest) => read parts found rest

/-- Reads a whole text by a pattern; nothing may be left over. -/
def readAll (parts : List Part) (s : String) : Except Fault Numbers :=
  match read parts {} s.toList with
  | .error f => .error f
  | .ok (found, []) => .ok found
  | .ok (_, _ :: _) => .error .tooLong

def Numbers.date (n : Numbers) : Except Fault Date :=
  match Date.ofCivil? ⟨n.year, n.month, n.day⟩ with
  | some d => .ok d
  | none => .error .outOfRange

def Numbers.time (n : Numbers) : Except Fault TimeOfDay :=
  match TimeOfDay.ofClock? n.hour n.minute n.second n.nano with
  | some t => .ok t
  | none => .error .outOfRange

def dateParts : List Part := [.year, .literal '-', .month, .literal '-', .day]

def clockParts : List Part := [.hour, .literal ':', .minute, .literal ':', .second]

def stampParts : List Part := dateParts ++ [.blanks] ++ clockParts

/-- A date in which blanks may stand before the hyphens and at the end. -/
def looseDateParts : List Part :=
  [.year, .blanks, .literal '-', .month, .blanks, .literal '-', .day, .blanks]

/-- The hour and the minute of a time, blanks allowed before the colon. -/
def hourMinuteParts : List Part := [.hour, .blanks, .literal ':', .minute]

def secondParts : List Part := [.blanks, .literal ':', .second, .fraction, .blanks]

/-- A time of day whose second may be left out. -/
def readTime (found : Numbers) (cs : List Char) : Except Fault (Numbers × List Char) :=
  match read hourMinuteParts found cs with
  | .error f => .error f
  | .ok (found, rest) =>
    match read secondParts found rest with
    | .ok done => .ok done
    | .error _ => .ok (found, Text.trimLeft rest)

end Pattern

/-- Reads a date, with blanks allowed between its parts. -/
def Date.read (s : String) : Except Pattern.Fault Date := do
  (← Pattern.readAll Pattern.looseDateParts s).date

/-- Reads a time of day; the seconds may be left out. -/
def TimeOfDay.read (s : String) : Except Pattern.Fault TimeOfDay :=
  match Pattern.readTime {} s.toList with
  | .error f => .error f
  | .ok (found, []) => found.time
  | .ok (_, _ :: _) => .error .tooLong

def Instant.read (s : String) : Except Pattern.Fault Instant := do
  let n ← Pattern.readAll
    (Pattern.looseDateParts ++ [.literal 'T'] ++ Pattern.hourMinuteParts ++ Pattern.secondParts) s
  pure ⟨← n.date, ← n.time⟩

/-- Reads a timestamp: a date and a time with blanks between them, or a date alone, which stands for its
midnight. The fault is that of the date alone. -/
def Instant.readStamp (s : String) : Except Pattern.Fault Instant :=
  let full : Except Pattern.Fault Instant := do
    let n ← Pattern.readAll Pattern.stampParts s
    pure ⟨← n.date, ← n.time⟩
  match full with
  | .ok t => .ok t
  | .error _ => do
    let d ← (← Pattern.readAll Pattern.dateParts s).date
    pure (Instant.startOf d)

end MarketBars
