import MarketBars.Json.Value
import MarketBars.Text.Digit

/-!
# Reading JSON texts

A text is read as one value with nothing but blanks around it. Nesting is limited, control characters
must be escaped, and an escaped surrogate must be followed by its other half.

The digits of a number are gathered as long as the gathered number fits 64 bits; further digits only
shift the decimal point. An integer that fits 64 bits stays an integer. The reader takes a bound on the
number of its steps, which is computed from the length of the text.
-/

namespace MarketBars

namespace Json

def isSpace (c : Char) : Bool :=
  c == ' ' || c == '\n' || c == '\t' || c == '\r'

def skipSpace (cs : List Char) : List Char := cs.dropWhile isSpace

def maxGathered : Nat := twoTo 64 - 1

/-- Gathers digits into a number as long as it fits; also counts the digits that were gathered. -/
def gather (n : Nat) : List Char → Nat × Nat
  | [] => (n, 0)
  | c :: rest =>
    let next := n * 10 + (c.toNat - 48)
    if maxGathered < next then (n, 0)
    else
      let (total, count) := gather next rest
      (total, count + 1)

/-- An integer without a fraction and an exponent. Negative zero, and what does not fit 64 bits, is a
number of double precision. -/
def integerValue? (negative : Bool) (digits : List Char) : Option Json :=
  let (n, count) := gather 0 digits
  if count < digits.length then
    (Binary64.ofDecimal? negative n (digits.length - count : Nat)).map real
  else if !negative then some (integer n)
  else if n = 0 ∨ twoTo 63 < n then (Binary64.ofDecimal? true n 0).map real
  else some (integer (-(n : Int)))

structure Numeral where
  negative : Bool
  digits : List Char
  fraction? : Option (List Char)
  /-- The digits of the exponent, and whether it is below zero. -/
  exponent? : Option (Bool × List Char)

def Numeral.value? (n : Numeral) : Option Json :=
  match n.fraction?, n.exponent? with
  | none, none => integerValue? n.negative n.digits
  | _, _ =>
    let (whole, wholeCount) := gather 0 n.digits
    let (total, fractionCount) := gather whole (n.fraction?.getD [])
    let shift : Int := (n.digits.length - wholeCount : Nat) - (fractionCount : Int)
    let exponent : Int :=
      match n.exponent? with
      | none => 0
      | some (below, ds) =>
        let size : Int := ds.foldl (fun n c => 10 * n + (c.toNat - 48)) 0
        if below then -size else size
    (Binary64.ofDecimal? n.negative total (shift + exponent)).map real

/-- A fraction at the front of a text, if there is one: a point and at least one digit. -/
def readFraction (cs : List Char) : Option (Option (List Char) × List Char) :=
  match cs with
  | '.' :: rest =>
    let digits := rest.takeWhile Char.isDigit
    if digits.isEmpty then none else some (some digits, rest.dropWhile Char.isDigit)
  | _ => some (none, cs)

def readExponentDigits (below : Bool) (cs : List Char) :
    Option (Option (Bool × List Char) × List Char) :=
  let digits := cs.takeWhile Char.isDigit
  if digits.isEmpty then none else some (some (below, digits), cs.dropWhile Char.isDigit)

def readExponent (cs : List Char) : Option (Option (Bool × List Char) × List Char) :=
  match cs with
  | c :: rest =>
    if c = 'e' ∨ c = 'E' then
      match rest with
      | '+' :: rest => readExponentDigits false rest
      | '-' :: rest => readExponentDigits true rest
      | rest => readExponentDigits false rest
    else some (none, cs)
  | [] => some (none, cs)

/-- The text of a number at the front of a text. No zero stands before another digit. -/
def readNumeral (cs : List Char) : Option (Numeral × List Char) := do
  let (negative, cs) := match cs with
    | '-' :: rest => (true, rest)
    | _ => (false, cs)
  let digits := cs.takeWhile Char.isDigit
  if digits.isEmpty ∨ (digits.head? = some '0' ∧ 1 < digits.length) then none
  else
    let (fraction?, cs) ← readFraction (cs.dropWhile Char.isDigit)
    let (exponent?, cs) ← readExponent cs
    pure (⟨negative, digits, fraction?, exponent?⟩, cs)

def readNumber (cs : List Char) : Option (Json × List Char) := do
  let (numeral, cs) ← readNumeral cs
  pure (← numeral.value?, cs)

/-- A code point after the letter of its escape; two escaped surrogates make one. -/
def readCodePoint (cs : List Char) : Option (Char × List Char) := do
  let (high, rest) ← Text.hexNumber? 4 cs
  if 0xDC00 ≤ high ∧ high ≤ 0xDFFF then none
  else if 0xD800 ≤ high ∧ high ≤ 0xDBFF then
    match rest with
    | '\\' :: 'u' :: rest =>
      let (low, rest) ← Text.hexNumber? 4 rest
      if 0xDC00 ≤ low ∧ low ≤ 0xDFFF then
        pure (Char.ofNat (0x10000 + (high - 0xD800) * 0x400 + (low - 0xDC00)), rest)
      else none
    | _ => none
  else pure (Char.ofNat high, rest)

/-- The characters of a string up to its closing quote, in reverse. -/
def readString : Nat → List Char → List Char → Option (String × List Char)
  | 0, _, _ => none
  | fuel + 1, acc, cs =>
    match cs with
    | [] => none
    | '"' :: rest => some (String.ofList acc.reverse, rest)
    | '\\' :: 'u' :: rest =>
      match readCodePoint rest with
      | none => none
      | some (c, rest) => readString fuel (c :: acc) rest
    | '\\' :: c :: rest =>
      match c with
      | '"' => readString fuel ('"' :: acc) rest
      | '\\' => readString fuel ('\\' :: acc) rest
      | '/' => readString fuel ('/' :: acc) rest
      | 'b' => readString fuel ('\x08' :: acc) rest
      | 'f' => readString fuel ('\x0c' :: acc) rest
      | 'n' => readString fuel ('\n' :: acc) rest
      | 'r' => readString fuel ('\r' :: acc) rest
      | 't' => readString fuel ('\t' :: acc) rest
      | _ => none
    | c :: rest => if c.toNat < 32 then none else readString fuel (c :: acc) rest

mutual

def readValue : Nat → Nat → List Char → Option (Json × List Char)
  | 0, _, _ => none
  | fuel + 1, depth, cs =>
    match skipSpace cs with
    | 'n' :: 'u' :: 'l' :: 'l' :: rest => some (null, rest)
    | 't' :: 'r' :: 'u' :: 'e' :: rest => some (bool true, rest)
    | 'f' :: 'a' :: 'l' :: 's' :: 'e' :: rest => some (bool false, rest)
    | '"' :: rest => (readString (fuel + 1) [] rest).map fun (s, rest) => (string s, rest)
    | '[' :: rest =>
      if depth ≤ 1 then none
      else
        match skipSpace rest with
        | ']' :: rest => some (array [], rest)
        | rest =>
          (readItems fuel (depth - 1) rest).map fun (items, rest) => (array items, rest)
    | '\x7b' :: rest =>
      if depth ≤ 1 then none
      else
        match skipSpace rest with
        | '\x7d' :: rest => some (object [], rest)
        | rest =>
          (readMembers fuel (depth - 1) rest).map fun (members, rest) => (object members, rest)
    | rest => readNumber rest

def readItems : Nat → Nat → List Char → Option (List Json × List Char)
  | 0, _, _ => none
  | fuel + 1, depth, cs =>
    match readValue fuel depth cs with
    | none => none
    | some (item, rest) =>
      match skipSpace rest with
      | ']' :: rest => some ([item], rest)
      | ',' :: rest => (readItems fuel depth rest).map fun (items, rest) => (item :: items, rest)
      | _ => none

def readMembers : Nat → Nat → List Char → Option (List (String × Json) × List Char)
  | 0, _, _ => none
  | fuel + 1, depth, cs =>
    match skipSpace cs with
    | '"' :: rest =>
      match readString (fuel + 1) [] rest with
      | none => none
      | some (name, rest) =>
        match skipSpace rest with
        | ':' :: rest =>
          match readValue fuel depth rest with
          | none => none
          | some (value, rest) =>
            match skipSpace rest with
            | '\x7d' :: rest => some ([(name, value)], rest)
            | ',' :: rest =>
              (readMembers fuel depth rest).map fun (members, rest) =>
                ((name, value) :: members, rest)
            | _ => none
        | _ => none
    | _ => none

end

/-- One more than the number of brackets that may be open at once. -/
def maxDepth : Nat := 128

/-- What was read from a text, if nothing but blanks is left of it. -/
def whole? (found : Option (Json × List Char)) : Option Json := do
  let (value, rest) ← found
  if (skipSpace rest).isEmpty then some value else none

/-- A bound on the number of steps that reading a text takes. -/
def stepBound (cs : List Char) : Nat := 2 * cs.length + 2

def parse? (s : String) : Option Json :=
  whole? (readValue (stepBound s.toList) maxDepth s.toList)

end Json

end MarketBars
