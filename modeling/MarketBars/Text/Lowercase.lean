import MarketBars.Text.CaseTable

/-!
# Lower case

The lower case of a whole text. Each character goes to its lower case on its own, with two exceptions
of the standard: the capital I with a dot becomes two characters, and a capital sigma at the end of a
word takes its final form.
-/

namespace MarketBars.Text

def lowerFromRuns (n : Nat) : Option Nat :=
  (lowerRuns.find? fun (lo, hi, step, _) => lo ≤ n && n ≤ hi && (n - lo) % step == 0).map
    fun (_, _, _, distance) => (n + distance).toNat

/-- The lower case of one character, without regard to its neighbours. -/
def lowerChar (c : Char) : List Char :=
  if c.toNat < 128 then [c.toLower]
  else if c.toNat = 0x130 then ['i', Char.ofNat 0x307]
  else [((lowerFromRuns c.toNat).map Char.ofNat).getD c]

/-- The nearest character that is not case-ignorable is a letter with a case. -/
def meetsCased (cs : List Char) : Bool :=
  match cs.dropWhile caseIgnorable.has with
  | [] => false
  | c :: _ => cased.has c

/-- A sigma takes its final form when a cased letter stands before it and none after it. The
characters before it are given from the nearest one outwards. -/
def isFinalSigma (before after : List Char) : Bool :=
  meetsCased before && !meetsCased after

/-- Lower-cases a list of characters; `before` holds the characters already read, last one first. -/
def lowerAfter (before : List Char) : List Char → List Char
  | [] => []
  | c :: rest =>
    let image :=
      if c.toNat = 0x3A3 then [Char.ofNat (if isFinalSigma before rest then 0x3C2 else 0x3C3)]
      else lowerChar c
    image ++ lowerAfter (c :: before) rest

def lower (s : String) : String :=
  String.ofList (lowerAfter [] s.toList)

end MarketBars.Text
