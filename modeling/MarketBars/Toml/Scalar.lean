import MarketBars.Number.Power
import MarketBars.Text.Digit
import MarketBars.Toml.Value

/-!
# Simple values of a configuration text

Texts in four kinds of quotation marks, whole numbers in four bases, numbers with a fraction or an
exponent, and dates and times. Each reader takes a value from the front of a text and returns the rest.
-/

namespace MarketBars.Toml

/-- Characters that stand for themselves: no control characters but the tabulator. -/
def isPlain (c : Char) : Bool :=
  c == '\t' || (0x20 ≤ c.toNat && c.toNat != 0x7f)

def isBlank (c : Char) : Bool := c == ' ' || c == '\t'

def skipBlanks (cs : List Char) : List Char := cs.dropWhile isBlank

def afterLineEnd? : List Char → Option (List Char)
  | '\n' :: rest => some rest
  | '\r' :: '\n' :: rest => some rest
  | _ => none

def skipBlankLines : List Char → List Char
  | '\n' :: rest => skipBlankLines rest
  | '\r' :: '\n' :: rest => skipBlankLines rest
  | ' ' :: rest => skipBlankLines rest
  | '\t' :: rest => skipBlankLines rest
  | cs => cs

def charOf? (n : Nat) : Option Char :=
  if h : n.isValidChar then some (Char.ofNatAux n h) else none

/-- The character of an escape, after its backslash. -/
def readEscape : List Char → Option (Char × List Char)
  | 'b' :: rest => some ('\x08', rest)
  | 't' :: rest => some ('\t', rest)
  | 'n' :: rest => some ('\n', rest)
  | 'f' :: rest => some ('\x0c', rest)
  | 'r' :: rest => some ('\r', rest)
  | '"' :: rest => some ('"', rest)
  | '\\' :: rest => some ('\\', rest)
  | 'u' :: rest => do
    let (n, rest) ← Text.hexNumber? 4 rest
    pure (← charOf? n, rest)
  | 'U' :: rest => do
    let (n, rest) ← Text.hexNumber? 8 rest
    pure (← charOf? n, rest)
  | _ => none

def readLine (mark : Char) : Nat → List Char → List Char → Option (String × List Char)
  | 0, _, _ => none
  | fuel + 1, acc, cs =>
    match cs with
    | [] => none
    | c :: rest =>
      if c = mark then some (String.ofList acc.reverse, rest)
      else if c = '\\' ∧ mark = '"' then
        match readEscape rest with
        | none => none
        | some (e, rest) => readLine mark fuel (e :: acc) rest
      else if isPlain c then readLine mark fuel (c :: acc) rest
      else none

/-- A backslash at the end of a line joins it to the next text. -/
def afterJoint? (cs : List Char) : Option (List Char) :=
  (afterLineEnd? (skipBlanks cs)).map skipBlankLines

/-- The characters of a text of several lines up to its three closing marks, before which one or two
more may stand. -/
def readLines (mark : Char) : Nat → List Char → List Char → Option (String × List Char)
  | 0, _, _ => none
  | fuel + 1, acc, cs =>
    match cs with
    | [] => none
    | c :: rest =>
      if c = mark then
        let marks := cs.takeWhile (· == mark)
        let after := cs.drop marks.length
        if marks.length < 3 then readLines mark fuel (marks ++ acc) after
        else if marks.length ≤ 5 then
          some (String.ofList (marks.drop 3 ++ acc).reverse, after)
        else none
      else if c = '\\' ∧ mark = '"' then
        match afterJoint? rest with
        | some rest => readLines mark fuel acc rest
        | none =>
          match readEscape rest with
          | none => none
          | some (e, rest) => readLines mark fuel (e :: acc) rest
      else
        match afterLineEnd? cs with
        | some rest => readLines mark fuel ('\n' :: acc) rest
        | none => if isPlain c then readLines mark fuel (c :: acc) rest else none

/-- A text of several lines, after its three opening marks. A line ending right there is dropped. -/
def readBlock (mark : Char) (cs : List Char) : Option (String × List Char) :=
  readLines mark (cs.length + 1) [] ((afterLineEnd? cs).getD cs)

/-- A text in quotation marks of either kind, once or three times. -/
def readText : List Char → Option (String × List Char)
  | '"' :: '"' :: '"' :: rest => readBlock '"' rest
  | '"' :: rest => readLine '"' (rest.length + 1) [] rest
  | '\'' :: '\'' :: '\'' :: rest => readBlock '\'' rest
  | '\'' :: rest => readLine '\'' (rest.length + 1) [] rest
  | _ => none

/-- Digits at the front of a text, between which single underscores may stand, and the rest. -/
def takeDigits (isDigit : Char → Bool) : List Char → List Char × List Char
  | [] => ([], [])
  | '_' :: d :: rest =>
    if isDigit d then
      let (ds, after) := takeDigits isDigit rest
      (d :: ds, after)
    else ([], '_' :: d :: rest)
  | c :: rest =>
    if isDigit c then
      let (ds, after) := takeDigits isDigit rest
      (c :: ds, after)
    else ([], c :: rest)

def readDigits (isDigit : Char → Bool) (cs : List Char) : Option (List Char × List Char) :=
  match cs with
  | c :: _ => if isDigit c then some (takeDigits isDigit cs) else none
  | [] => none

/-- The digits of a whole number, which is zero or begins with another digit. -/
def readWhole : List Char → Option (List Char × List Char)
  | '0' :: rest => some (['0'], rest)
  | cs => readDigits Char.isDigit cs

def readSign : List Char → Option Bool × List Char
  | '+' :: rest => (some false, rest)
  | '-' :: rest => (some true, rest)
  | cs => (none, cs)

/-- An integer that fits a signed word of 64 bits. -/
def integer? (i : Int) : Option Toml :=
  if fitsSigned 64 i then some (integer i) else none

/-- A whole number in another base, after the letter that tells the base. -/
def readInBase (base : Nat) (isDigit : Char → Bool) (cs : List Char) :
    Option (Toml × List Char) := do
  let (digits, rest) ← readDigits isDigit cs
  pure (← integer? (Text.numberInBase base digits), rest)

def readFraction : List Char → Option (List Char × List Char)
  | '.' :: rest => readDigits Char.isDigit rest
  | cs => some ([], cs)

def readExponent : List Char → Option (Int × List Char)
  | c :: rest =>
    if c = 'e' ∨ c = 'E' then do
      let (below?, rest) := readSign rest
      let (digits, rest) ← readDigits Char.isDigit rest
      let size : Int := Text.numberInBase 10 digits
      pure (if below? = some true then -size else size, rest)
    else some (0, c :: rest)
  | [] => some (0, [])

/-- A number in decimal digits. One without a fraction and an exponent is whole. Positive infinity is
only written by its name, so that no number may be as large as to be rounded to it. -/
def readDecimal (below : Bool) (cs : List Char) : Option (Toml × List Char) := do
  let (whole, afterWhole) ← readWhole cs
  let (fraction, afterFraction) ← readFraction afterWhole
  let (exponent, rest) ← readExponent afterFraction
  if rest.length = afterWhole.length then
    let n : Int := Text.numberInBase 10 whole
    pure (← integer? (if below then -n else n), rest)
  else
    let x := Binary64.nearestDecimal below (Text.numberInBase 10 (whole ++ fraction))
      (exponent - fraction.length)
    if x = Binary64.infinity false then none else pure (real x, rest)

def readNumber (cs : List Char) : Option (Toml × List Char) :=
  match cs with
  | '0' :: 'x' :: rest => readInBase 16 Text.isHexDigit rest
  | '0' :: 'o' :: rest => readInBase 8 (fun c => '0' ≤ c && c ≤ '7') rest
  | '0' :: 'b' :: rest => readInBase 2 (fun c => c == '0' || c == '1') rest
  | _ =>
    let (sign?, rest) := readSign cs
    let below := sign?.getD false
    match rest with
    | 'i' :: 'n' :: 'f' :: rest => some (real (Binary64.infinity below), rest)
    | 'n' :: 'a' :: 'n' :: rest => some (real Binary64.nan, rest)
    | _ => readDecimal below rest

/-- A number of a fixed count of decimal digits that lies between two others. -/
def readFixed (count low high : Nat) (cs : List Char) : Option (Nat × List Char) :=
  let digits := cs.take count
  let n := Text.numberInBase 10 digits
  if digits.length = count ∧ digits.all Char.isDigit ∧ low ≤ n ∧ n ≤ high then
    some (n, cs.drop count)
  else none

def after? (c : Char) : List Char → Option (List Char)
  | d :: rest => if c = d then some rest else none
  | [] => none

def monthLength (year month : Nat) : Nat :=
  if month = 2 then
    if year % 4 = 0 ∧ (year % 100 ≠ 0 ∨ year % 400 = 0) then 29 else 28
  else if month = 4 ∨ month = 6 ∨ month = 9 ∨ month = 11 then 30
  else 31

def afterDate? (cs : List Char) : Option (List Char) := do
  let (year, cs) ← readFixed 4 0 9999 cs
  let (month, cs) ← readFixed 2 1 12 (← after? '-' cs)
  let (_, cs) ← readFixed 2 1 (monthLength year month) (← after? '-' cs)
  pure cs

/-- The text after the time at its front. A fraction of a second needs at least one digit. -/
def afterTime? (cs : List Char) : Option (List Char) := do
  let (_, cs) ← readFixed 2 0 23 cs
  let (_, cs) ← readFixed 2 0 59 (← after? ':' cs)
  let (_, cs) ← readFixed 2 0 60 (← after? ':' cs)
  match cs with
  | '.' :: rest =>
    if (rest.takeWhile Char.isDigit).isEmpty then pure cs else pure (rest.dropWhile Char.isDigit)
  | _ => pure cs

/-- The text after the distance from universal time at its front, if there is one. -/
def afterOffset? : List Char → Option (List Char)
  | [] => some []
  | c :: rest =>
    if c = 'Z' ∨ c = 'z' then some rest
    else if c = '+' ∨ c = '-' then do
      let (_, rest) ← readFixed 2 0 23 rest
      let (_, rest) ← readFixed 2 0 59 (← after? ':' rest)
      pure rest
    else some (c :: rest)

/-- The text after the time of day that may follow a date. -/
def afterTimeOfDate? (cs : List Char) : Option (List Char) :=
  match cs with
  | c :: rest =>
    if c = 'T' ∨ c = 't' ∨ c = ' ' then
      match afterTime? rest with
      | some rest => afterOffset? rest
      | none => some cs
    else some cs
  | [] => some cs

/-- A date, a time, or both, kept as it is written. -/
def readMoment (cs : List Char) : Option (Toml × List Char) := do
  let rest ← match afterDate? cs with
    | some rest => afterTimeOfDate? rest
    | none => afterTime? cs
  pure (moment (String.ofList (cs.take (cs.length - rest.length))), rest)

end MarketBars.Toml
