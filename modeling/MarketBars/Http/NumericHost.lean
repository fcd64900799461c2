import MarketBars.Number.Power
import MarketBars.Text.Digit
import MarketBars.Text.Pieces

/-!
# Hosts named by numbers

A host can be named by a number of 32 bits or by eight words of 16 bits. The number is written in up to
four parts with points between them, each in decimal, octal or hexadecimal digits; the last part fills
whatever the others leave. The words are written in hexadecimal with colons between them; two colons in
a row stand for words that are all zero, and the last two words may be written as a number of 32 bits.
-/

namespace MarketBars.NumericHost

/-- The number of a list of digits; none of them stand for zero. -/
def numberOf? (base : Nat) (isDigit : Char → Bool) (cs : List Char) : Option Nat :=
  if cs.all isDigit then some (Text.numberInBase base cs) else none

def part? : List Char → Option Nat
  | [] => none
  | '0' :: 'x' :: ds => numberOf? 16 Text.isHexDigit ds
  | '0' :: 'X' :: ds => numberOf? 16 Text.isHexDigit ds
  | '0' :: d :: ds => numberOf? 8 (fun c => '0' ≤ c && c ≤ '7') (d :: ds)
  | ds => numberOf? 10 Char.isDigit ds

/-- The parts of a name between its points. A point at the end is left out. -/
def parts (cs : List Char) : List (List Char) :=
  let ps := Text.pieces (· == '.') cs
  if 1 < ps.length ∧ ps.getLast? = some [] then ps.dropLast else ps

/-- The last part of a name is a number, or is made of digits. -/
def endsInNumber (cs : List Char) : Bool :=
  match (parts cs).getLast? with
  | some p => !p.isEmpty && (p.all Char.isDigit || (part? p).isSome)
  | none => false

def number? (cs : List Char) : Option Nat := do
  let numbers ← (parts cs).mapM part?
  let last ← numbers.getLast?
  let bytes := numbers.dropLast
  if bytes.length ≤ 3 ∧ bytes.all (· < 256) ∧ last < twoTo (8 * (4 - bytes.length)) then
    some (bytes.foldl (fun n b => 256 * n + b) 0 * twoTo (8 * (4 - bytes.length)) + last)
  else none

def textOfNumber (n : Nat) : String :=
  String.intercalate "." ([24, 16, 8, 0].map fun k => Nat.repr (n / twoTo k % 256))

/-- The number of a part in decimal digits, without a zero in front, of one byte. -/
def byte? (cs : List Char) : Option Nat :=
  let n := Text.numberInBase 10 cs
  if !cs.isEmpty ∧ cs.all Char.isDigit ∧ (cs.head? ≠ some '0' ∨ cs.length = 1) ∧ n < 256 then some n
  else none

def wordPair? (cs : List Char) : Option (List Nat) :=
  match (Text.pieces (· == '.') cs).mapM byte? with
  | some [a, b, c, d] => some [256 * a + b, 256 * c + d]
  | _ => none

def word? (cs : List Char) : Option Nat :=
  if !cs.isEmpty ∧ cs.length ≤ 4 ∧ cs.all Text.isHexDigit then some (Text.numberInBase 16 cs) else none

def wordsOf? (atEnd : Bool) : List (List Char) → Option (List Nat)
  | [] => some []
  | [p] => if atEnd ∧ p.contains '.' then wordPair? p else (word? p).map fun w => [w]
  | p :: rest => do pure ((← word? p) :: (← wordsOf? atEnd rest))

/-- The words of a text that has no two colons in a row. The text may be empty. -/
def run? (atEnd : Bool) (cs : List Char) : Option (List Nat) :=
  if cs.isEmpty then some [] else wordsOf? atEnd (Text.pieces (· == ':') cs)

/-- The parts of a text before and after its first two colons in a row. -/
def cutAtGap : List Char → List Char × Option (List Char)
  | [] => ([], none)
  | ':' :: ':' :: rest => ([], some rest)
  | c :: rest =>
    let (front, back) := cutAtGap rest
    (c :: front, back)

/-- The eight words that a text writes. A gap stands for at least one word. -/
def words? (cs : List Char) : Option (List Nat) :=
  match cutAtGap cs with
  | (_, none) => do
    let words ← run? true cs
    if words.length = 8 then some words else none
  | (front, some back) => do
    let before ← run? false front
    let after ← run? true back
    let given := before.length + after.length
    if given < 8 then some (before ++ List.replicate (8 - given) 0 ++ after) else none

def zerosAt (words : List Nat) : Nat := (words.takeWhile (· == 0)).length

/-- The place and the length of the longest run of zeros in a list, the first of several; the list
begins at a place. -/
def longestZeros (place : Nat) : List Nat → Nat × Nat
  | [] => (place, 0)
  | w :: rest =>
    let here := zerosAt (w :: rest)
    let (later, length) := longestZeros (place + 1) rest
    if 0 < here ∧ length ≤ here then (place, here) else (later, length)

def joinWords (words : List Nat) : String :=
  String.intercalate ":" (words.map fun w => String.ofList (Nat.toDigits 16 w))

/-- Eight words, with a gap for the longest run of two zeros or more. -/
def textOfWords (words : List Nat) : String :=
  let (place, length) := longestZeros 0 words
  if length < 2 then joinWords words
  else joinWords (words.take place) ++ "::" ++ joinWords (words.drop (place + length))

end MarketBars.NumericHost
