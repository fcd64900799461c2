import MarketBars.Text.PrintTable

namespace MarketBars.Text

def hexDigits (n : Nat) : String :=
  String.ofList (Nat.toDigits 16 n)

def escapeCode (c : Char) : String :=
  "\\u\x7b" ++ hexDigits c.toNat ++ "\x7d"

/-- The character does not print on its own. -/
def isHidden (c : Char) : Bool :=
  graphemeExtend.has c || unprintable.has c || defaultIgnorable.has c

def quoteChar (c : Char) : String :=
  match c with
  | '\x00' => "\\0"
  | '\t' => "\\t"
  | '\r' => "\\r"
  | '\n' => "\\n"
  | '"' => "\\\""
  | '\\' => "\\\\"
  | _ => if isHidden c then escapeCode c else c.toString

/-- A text as it is shown inside a message: between double quotes, with escapes for the quote, the backslash
and everything that does not print on its own. -/
def quote (s : String) : String :=
  "\"" ++ String.join (s.toList.map quoteChar) ++ "\""

/-- Quoted texts between braces, separated by commas. -/
def quoteSet (texts : List String) : String :=
  "\x7b" ++ String.intercalate ", " (texts.map quote) ++ "\x7d"

end MarketBars.Text
