import MarketBars.Number.Binary64

namespace MarketBars

/-- A number of single precision, by its bit pattern. -/
structure Binary32 where
  bits : UInt32
  deriving DecidableEq, Repr, Inhabited

namespace Binary32

def ofBits (n : Nat) : Binary32 := ⟨UInt32.ofNat n⟩

def read (x : Binary32) : BinaryFormat.Reading :=
  BinaryFormat.single.read x.bits.toNat

def isNaN (x : Binary32) : Bool :=
  BinaryFormat.single.infinity < x.bits.toNat % BinaryFormat.single.signWeight

def nan : Binary32 := ⟨0x7fc00000⟩

def widen (x : Binary32) : Binary64 :=
  match x.read with
  | .nan => Binary64.nan
  | .infinite negative => Binary64.infinity negative
  | .finite negative m e => Binary64.nearest negative m e

/-- The number of single precision nearest to one of double precision. -/
def round (x : Binary64) : Binary32 :=
  match x.read with
  | .nan => nan
  | .infinite negative => ofBits (BinaryFormat.single.nearest negative 1 1024)
  | .finite negative m e => ofBits (BinaryFormat.single.nearest negative m e)

def ofNat (n : Nat) : Binary32 :=
  ofBits (BinaryFormat.single.nearest false n 0)

def maxIndex : Nat := twoTo 64 - 1

/-- The position that a number stands for: it must be finite, whole and not below zero, and a position
is at most `maxIndex`. Negative zero is position zero. -/
def index? (x : Binary32) : Option Nat :=
  match x.read with
  | .nan => none
  | .infinite _ => none
  | .finite negative m e =>
    if negative && m != 0 then none
    else if 0 ≤ e then some (min (m * twoTo e.toNat) maxIndex)
    else if m % twoTo (-e).toNat = 0 then some (min (m / twoTo (-e).toNat) maxIndex)
    else none

/-- The shortest text that reads back as the number, without an exponent and without a point after a
whole number. Of two such texts that are equally near, the one farther from zero is taken. -/
def text (x : Binary32) : String :=
  match x.read with
  | .nan => "NaN"
  | .infinite negative => if negative then "-inf" else "inf"
  | .finite negative m e =>
    let sign := if negative then "-" else ""
    if m = 0 then sign ++ "0"
    else
      let (d, k) := BinaryFormat.single.shortest .awayFromZero m e
      sign ++ Decimal.positional d k

end Binary32

end MarketBars
