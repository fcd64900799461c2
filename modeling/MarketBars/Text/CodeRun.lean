import MarketBars.Text.Digit

/-!
# Runs of code points with images

Long tables that give characters an image, as lines of text. A run of code points begins with a word for
its first one, which ends in a colon. The words after it are the images of the code points from there on,
one after the other: hexadecimal numbers with plus signs between them. A star and a number after an image
say that so many code points have images which run on from it.
-/

namespace MarketBars.Text

/-- Code points that follow each other, with the image of the first. If there are several, each has an
image of one code point, the next after that of the one before. -/
structure CodeRun where
  first : Nat
  count : Nat
  image : List Nat
  deriving DecidableEq, Repr

namespace CodeRun

def code (word : String) : Nat := numberInBase 16 word.toList

/-- The run of a word at a place of a table, if the word is an image, and the place of the next word. -/
def ofWord (place : Nat) (word : String) : Option CodeRun × Nat :=
  match word.splitOn ":", word.splitOn "*" with
  | [start, _], _ => (none, code start)
  | _, [image, count] => (some ⟨place, code count, [code image]⟩, place + code count)
  | _, _ => (some ⟨place, 1, (word.splitOn "+").map code⟩, place + 1)

def ofWords (place : Nat) : List String → List CodeRun
  | [] => []
  | word :: rest => (ofWord place word).1.toList ++ ofWords (ofWord place word).2 rest

def ofLines (lines : List String) : List CodeRun :=
  lines.flatMap fun line => ofWords 0 (line.splitOn " ")

def imageIn? (run : CodeRun) (n : Nat) : Option (List Nat) :=
  if run.first ≤ n ∧ n < run.first + run.count then
    some (run.image.map fun i => i + (n - run.first))
  else none

def image? (table : List CodeRun) (n : Nat) : Option (List Nat) :=
  table.findSome? fun run => run.imageIn? n

end CodeRun

end MarketBars.Text
