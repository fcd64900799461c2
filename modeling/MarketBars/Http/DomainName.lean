import MarketBars.Http.FoldingTable
import MarketBars.Text.Composition
import MarketBars.Text.DirectionTable
import MarketBars.Text.Lowercase
import MarketBars.Text.Pieces
import MarketBars.Text.PrintTable
import MarketBars.Text.Punycode

/-!
# Domain names

The name of a host is a row of labels with points between them, in any script. Names that differ only in
case, width or composition are the same name; they are folded to one form. A label beyond ASCII is
written in Punycode behind a mark of its own, and must then be the label that it would be in full.
-/

namespace MarketBars.DomainName

open Text

def foldings : List CodeRun := CodeRun.ofLines foldingLines

/-- The joiner and the non-joiner, which only tell how the letters beside them are drawn. -/
def joiner : Char := Char.ofNat 0x200d
def nonJoiner : Char := Char.ofNat 0x200c

def isAscii (c : Char) : Bool := decide (c.toNat < 128)

/-- What a character stands for, if it can stand in a name at all. -/
def fold? (c : Char) : Option (List Char) :=
  if isAscii c then some [c.toLower]
  else if c = joiner ∨ c = nonJoiner then some [c]
  else if ignored.has c then some []
  else
    match CodeRun.image? foldings c.toNat with
    | some image => some (image.map Char.ofNat)
    | none =>
      if unfolded.has c then some [c]
      else if refused.has c || unprintable.has c then none
      else some (lowerChar c)

/-- The characters of ASCII that cannot stand in a name. -/
def isForbidden (c : Char) : Bool :=
  isAscii c && (decide (c.toNat ≤ 32) || c.toNat == 127 || "#%/:<>?@[\\]^|".toList.contains c)

def punycodeMark : List Char := "xn--".toList

def isFolded (cs : List Char) : Bool :=
  cs.all (fun c => fold? c == some [c]) && compose cs == cs

def label? (cs : List Char) : Option (List Char × List Char) :=
  if punycodeMark.isPrefixOf cs then
    if cs.all isAscii then do
      let full ← Punycode.decode? (cs.drop punycodeMark.length)
      if !full.all isAscii && isFolded full && !punycodeMark.isPrefixOf full then some (full, cs)
      else none
    else none
  else if cs.all isAscii then some (cs, cs)
  else some (cs, punycodeMark ++ Punycode.encode cs)

/-- The character is a mark that belongs to the character before it. -/
def isMark (c : Char) : Bool := graphemeExtend.has c || spacingMarks.has c

/-- The nearest character that is not drawn onto another is of the given kind. -/
def meets (kind : Char → Bool) (cs : List Char) : Bool :=
  match cs.dropWhile graphemeExtend.has with
  | [] => false
  | c :: _ => kind c

/-- A non-joiner between these characters keeps letters apart that would be joined. The characters
before it are given from the nearest one outwards. -/
def partsLetters (before after : List Char) : Bool :=
  meets (fun c => joinsAfter.has c || joinsBoth.has c) before &&
    meets (fun c => joinsBefore.has c || joinsBoth.has c) after

/-- The character before a place takes the vowel from the letter it follows. -/
def followsVirama : List Char → Bool
  | [] => false
  | c :: _ => combiningClass c.toNat == 9

/-- Joiners stand after a sign that takes away a vowel, and non-joiners also between letters that would
be joined. The characters before come last one first. -/
def inContext (before : List Char) : List Char → Bool
  | [] => true
  | c :: rest =>
    (if c = joiner then followsVirama before
      else if c = nonJoiner then followsVirama before || partsLetters before rest
      else true) && inContext (c :: before) rest

def isLabel (cs : List Char) : Bool :=
  !(cs.head?.any isMark) && inContext [] cs

inductive Direction where
  | leftToRight
  | rightToLeft
  | arabicDigit
  | europeanDigit
  | mark
  | none
  deriving DecidableEq, Repr

def direction (c : Char) : Direction :=
  if rightToLeft.has c then .rightToLeft
  else if arabicDigits.has c then .arabicDigit
  else if europeanDigits.has c then .europeanDigit
  else if graphemeExtend.has c then .mark
  else if undirected.has c then .none
  else .leftToRight

/-- The last direction that is not of a mark. -/
def lastDirection? (ds : List Direction) : Option Direction :=
  (ds.reverse.dropWhile (· == .mark)).head?

/-- A label in full that can stand in a name with labels written from right to left: one of these has no
letter written from left to right, does not mix the digits of two scripts, and ends in a letter or a
digit; any other one has no letter written from right to left, and begins and ends as one. -/
def isOrderly (cs : List Char) : Bool :=
  let ds := cs.map direction
  match ds.head? with
  | none => true
  | some .rightToLeft =>
    !ds.contains .leftToRight && !(ds.contains .europeanDigit && ds.contains .arabicDigit) &&
      (lastDirection? ds).any [.rightToLeft, .europeanDigit, .arabicDigit].contains
  | some .leftToRight =>
    !ds.contains .rightToLeft && !ds.contains .arabicDigit &&
      (lastDirection? ds).any [.leftToRight, .europeanDigit].contains
  | some _ => false

def isRightToLeft (cs : List Char) : Bool :=
  cs.any fun c => rightToLeft.has c || arabicDigits.has c

def toAscii? (cs : List Char) : Option (List Char) := do
  let folded := compose (← cs.mapM fold?).flatten
  let labels ← (pieces (· == '.') folded).mapM label?
  let full := labels.map Prod.fst
  if folded.any isForbidden || !full.all isLabel then none
  else if full.any isRightToLeft && !full.all isOrderly then none
  else some (['.'].intercalate (labels.map Prod.snd))

end MarketBars.DomainName
