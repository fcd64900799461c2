/-!
# Blank characters and lines

Blank means the White_Space property of Unicode. Trimming removes blank characters from both ends
of a text; a line ends at a line feed, and a carriage return before it belongs to the ending.
-/

namespace MarketBars.Text

def isBlank (c : Char) : Bool :=
  let n := c.toNat
  (9 ≤ n && n ≤ 13) || n == 0x20 || n == 0x85 || n == 0xA0 || n == 0x1680 ||
    (0x2000 ≤ n && n ≤ 0x200A) || n == 0x2028 || n == 0x2029 || n == 0x202F || n == 0x205F ||
    n == 0x3000

def trimLeft (cs : List Char) : List Char :=
  cs.dropWhile isBlank

/-- The text between its first and its last character that is not blank. -/
def trim (s : String) : String :=
  String.ofList (trimLeft (trimLeft s.toList).reverse).reverse

/-- Lower-cases the letters `A` to `Z` and keeps every other character. -/
def asciiLower (s : String) : String :=
  String.ofList (s.toList.map Char.toLower)

/-- The pieces of a text between its line feeds; the piece after the last line feed is left out
when it is empty. -/
def splitLines : List Char → List (List Char)
  | [] => []
  | '\n' :: rest => [] :: splitLines rest
  | c :: rest =>
    match splitLines rest with
    | [] => [[c]]
    | line :: lines => (c :: line) :: lines

def dropReturn (line : List Char) : List Char :=
  if line.getLast? = some '\r' then line.dropLast else line

def lines (s : String) : List String :=
  (splitLines s.toList).map fun line => String.ofList (dropReturn line)

end MarketBars.Text
