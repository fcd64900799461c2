import MarketBars.Text.CodeRun
import MarketBars.Text.CompositionTable
import MarketBars.Text.MarkTable

/-!
# Composed form

A letter with marks can be written as one character or as several. In the composed form every letter
takes up as many of its marks as there are characters for; marks on one letter are ordered by their
classes, and marks of one class keep their order.

A syllable of Korean is a composed character as well, but its parts follow from its code point: three
letters in nineteen, twenty-one and twenty-seven kinds, of which the last may be missing.
-/

namespace MarketBars.Text

/-- The class by which a mark is ordered; zero for what is not ordered. -/
def combiningClass (n : Nat) : Nat :=
  ((combiningClasses.find? fun r => r.1 ≤ n && n ≤ r.2.1).map fun r => r.2.2).getD 0

def compositions : List CodeRun := CodeRun.ofLines compositionLines

namespace Syllable

/-- The first code points of the syllables and of their three kinds of letters. -/
def first : Nat := 0xac00
def leadingFirst : Nat := 0x1100
def vowelFirst : Nat := 0x1161
def trailingFirst : Nat := 0x11a7

/-- The numbers of letters of each kind; among the trailing ones counts the missing letter. -/
def leadingCount : Nat := 19
def vowelCount : Nat := 21
def trailingCount : Nat := 28

def count : Nat := leadingCount * vowelCount * trailingCount

def parts? (n : Nat) : Option (Nat × Nat) :=
  if first ≤ n ∧ n < first + count then
    let i := n - first
    if i % trailingCount = 0 then
      some (leadingFirst + i / (vowelCount * trailingCount),
        vowelFirst + i / trailingCount % vowelCount)
    else some (n - i % trailingCount, trailingFirst + i % trailingCount)
  else none

/-- The syllable of two parts: a leading letter and a vowel, or a syllable and a trailing letter. -/
def joined? (a b : Nat) : Option Nat :=
  if leadingFirst ≤ a ∧ a < leadingFirst + leadingCount ∧
      vowelFirst ≤ b ∧ b < vowelFirst + vowelCount then
    some (first + ((a - leadingFirst) * vowelCount + (b - vowelFirst)) * trailingCount)
  else if first ≤ a ∧ a < first + count ∧ (a - first) % trailingCount = 0 ∧
      trailingFirst < b ∧ b < trailingFirst + trailingCount then
    some (a + (b - trailingFirst))
  else none

end Syllable

def parts? (n : Nat) : Option (Nat × Nat) :=
  match CodeRun.image? compositions n with
  | some [a, b] => some (a, b)
  | _ => Syllable.parts? n

def joined? (a b : Nat) : Option Nat :=
  match compositions.find? fun run => run.image == [a, b] with
  | some run => some run.first
  | none => Syllable.joined? a b

/-- The parts of a character, which are not composed themselves, in front of other code points. No
character is composed more often than the given number of times. -/
def decomposeInto : Nat → Nat → List Nat → List Nat
  | 0, n, rest => n :: rest
  | depth + 1, n, rest =>
    match parts? n with
    | some (a, b) => decomposeInto depth a (b :: rest)
    | none => n :: rest

def decompose (codes : List Nat) : List Nat :=
  codes.flatMap fun n => decomposeInto 4 n []

/-- Puts a code point in front of others, a mark behind marks of lower classes. -/
def placeMark (n : Nat) : List Nat → List Nat
  | [] => [n]
  | m :: rest =>
    if 0 < combiningClass m ∧ combiningClass m < combiningClass n then m :: placeMark n rest
    else n :: m :: rest

/-- The code points with the marks on each letter in the order of their classes. -/
def orderMarks : List Nat → List Nat
  | [] => []
  | n :: rest => placeMark n (orderMarks rest)

/-- Joins a letter with the code points after it. The marks that the letter could not take up come in
between; a mark of the same class as one of these, or of a lower one, is not taken up either. -/
def composeFrom (letter : Nat) (left : List Nat) : List Nat → List Nat
  | [] => letter :: left
  | n :: rest =>
    let isOpen := match left.getLast? with
      | none => true
      | some m => decide (combiningClass m < combiningClass n)
    match if isOpen then joined? letter n else none with
    | some composed => composeFrom composed left rest
    | none =>
      if combiningClass n = 0 then letter :: left ++ composeFrom n [] rest
      else composeFrom letter (left ++ [n]) rest

def composeCodes (codes : List Nat) : List Nat :=
  match orderMarks (decompose codes) with
  | [] => []
  | n :: rest => composeFrom n [] rest

def compose (cs : List Char) : List Char :=
  (composeCodes (cs.map Char.toNat)).map Char.ofNat

end MarketBars.Text
