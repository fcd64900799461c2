import MarketBars.Text.Digit

namespace MarketBars.Text

/-- The hexadecimal digits of a number, filled up with zeros in front. -/
def hexPadded (count n : Nat) : String :=
  let digits := Nat.toDigits 16 n
  String.ofList (List.replicate (count - digits.length) '0' ++ digits)

def hexOfBytes (bytes : List UInt8) : String :=
  String.join (bytes.map fun b => hexPadded 2 b.toNat)

/-- The bytes that some digits write, two by two. -/
def bytesOfDigits? : List Char → Option (List UInt8)
  | [] => some []
  | high :: low :: rest => do
    let high ← hexValue? high
    let low ← hexValue? low
    pure (UInt8.ofNat (16 * high + low) :: (← bytesOfDigits? rest))
  | [_] => none

def bytesOfHex? (s : String) : Option (List UInt8) :=
  bytesOfDigits? s.toList

end MarketBars.Text
