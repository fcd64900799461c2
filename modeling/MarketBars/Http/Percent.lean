import MarketBars.Text.Hex

namespace MarketBars.Percent

/-- A byte as a percent sign and two digits. -/
def encodeByte (b : UInt8) : List Char :=
  '%' :: ((Text.hexPadded 2 b.toNat).toList.map Char.toUpper)

/-- A text with some of its characters encoded, byte by byte in UTF-8. -/
def encode (reserved : Char → Bool) (cs : List Char) : List Char :=
  cs.flatMap fun c => if reserved c then (String.utf8EncodeChar c).flatMap encodeByte else [c]

/-- Characters that no part of an address can hold: blanks, controls, and all beyond ASCII. -/
def isAlwaysReserved (c : Char) : Bool :=
  decide (c.toNat ≤ 32 ∨ 127 ≤ c.toNat)

def isFragmentReserved (c : Char) : Bool :=
  isAlwaysReserved c || "\"<>`".toList.contains c

def isPathReserved (c : Char) : Bool :=
  isFragmentReserved c || "#?\x7b\x7d".toList.contains c

def isQueryReserved (c : Char) : Bool :=
  isAlwaysReserved c || "\"#<>'".toList.contains c

def decodeBytes : List Char → List UInt8
  | [] => []
  | '%' :: high :: low :: rest =>
    match Text.hexValue? high, Text.hexValue? low with
    | some h, some l => UInt8.ofNat (16 * h + l) :: decodeBytes rest
    | _, _ => UInt8.ofNat '%'.toNat :: decodeBytes (high :: low :: rest)
  | c :: rest => String.utf8EncodeChar c ++ decodeBytes rest
termination_by cs => cs.length

/-- The characters of a text in which bytes may be encoded, if its bytes are well-formed. -/
def decode? (cs : List Char) : Option (List Char) :=
  (String.fromUTF8? ⟨(decodeBytes cs).toArray⟩).map String.toList

end MarketBars.Percent
