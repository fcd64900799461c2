import MarketBars.Number.Shortest

/-!
# Double-precision numbers

A number of double precision is held as its bit pattern, so that two numbers are equal exactly when
their patterns are. Everything a panel or a table does with numbers is here: telling a NaN apart,
dividing, converting from and to integers, ordering and writing.
-/

namespace MarketBars

structure Binary64 where
  bits : UInt64
  deriving DecidableEq, Repr, Inhabited

namespace Binary64

def ofBits (n : Nat) : Binary64 := ⟨UInt64.ofNat n⟩

def read (x : Binary64) : BinaryFormat.Reading :=
  BinaryFormat.double.read x.bits.toNat

/-- The number nearest to `m * 2 ^ e`. -/
def nearest (negative : Bool) (m : Nat) (e : Int) : Binary64 :=
  ofBits (BinaryFormat.double.nearest negative m e)

def nearestDecimal (negative : Bool) (m : Nat) (k : Int) : Binary64 :=
  ofBits (BinaryFormat.double.nearestDecimal m k +
    if negative then BinaryFormat.double.signWeight else 0)

def isNaN (x : Binary64) : Bool :=
  BinaryFormat.double.infinity < x.bits.toNat % BinaryFormat.double.signWeight

def ofInt (i : Int) : Binary64 :=
  nearest (i < 0) i.natAbs 0

def nan : Binary64 := ⟨0x7ff8000000000000⟩

def infinity (negative : Bool) : Binary64 :=
  if negative then ⟨0xfff0000000000000⟩ else ⟨0x7ff0000000000000⟩

def div (x y : Binary64) : Binary64 :=
  ⟨(Float.ofBits x.bits / Float.ofBits y.bits).toBits⟩

def mul (x y : Binary64) : Binary64 :=
  ⟨(Float.ofBits x.bits * Float.ofBits y.bits).toBits⟩

/-- The integer toward zero from a number, when it fits a signed word of 64 bits. -/
def truncate? (x : Binary64) : Option Int :=
  match x.read with
  | .nan => none
  | .infinite _ => none
  | .finite negative m e =>
    let size := if 0 ≤ e then m * twoTo e.toNat else m / twoTo (-e).toNat
    let value : Int := if negative then -(size : Int) else size
    if fitsSigned 64 value then some value else none

/-- The decimal `m * 10 ^ k`: the digits are rounded to a number, which is then multiplied or divided
by a power of ten that is itself a number. Powers beyond `10 ^ 308` are taken in steps. A value
beyond the largest number has no result. -/
def ofDecimal? (negative : Bool) (m : Nat) (k : Int) : Option Binary64 :=
  let power (n : Nat) : Binary64 := ofInt (tenTo n)
  let scaled : Option Binary64 :=
    if 0 ≤ k then
      if k ≤ 308 then some ((ofInt m).mul (power k.toNat))
      else if m = 0 then some (ofInt 0)
      else none
    else if -308 ≤ k then some ((ofInt m).div (power (-k).toNat))
    else if -616 ≤ k then some (((ofInt m).div (power 308)).div (power (-k - 308).toNat))
    else some (ofInt 0)
  match scaled with
  | none => none
  | some x =>
    if x.bits.toNat = BinaryFormat.double.infinity then none
    else some (ofBits (x.bits.toNat + if negative then BinaryFormat.double.signWeight else 0))

/-- The position of a number in the order of numbers. The two zeros share a position and every NaN is
above positive infinity. -/
def rank (x : Binary64) : Int :=
  let magnitude := x.bits.toNat % BinaryFormat.double.signWeight
  if x.isNaN then BinaryFormat.double.infinity + 1
  else if BinaryFormat.double.signWeight ≤ x.bits.toNat then -(magnitude : Int)
  else magnitude

/-- The two numbers are equal as numbers: no NaN equals anything, and the two zeros are equal. -/
def numericallyEqual (x y : Binary64) : Bool :=
  !x.isNaN && !y.isNaN && x.rank == y.rank

/-- The shortest text that reads back as the number. Numbers from `10 ^ -5` up to `10 ^ 16` are written
without an exponent, and a whole number ends in `.0`; a NaN or an infinity has no text. Of two texts that
are equally near, the one with the even last digit is taken. -/
def text? (x : Binary64) : Option String :=
  match x.read with
  | .nan => none
  | .infinite _ => none
  | .finite negative m e =>
    let sign := if negative then "-" else ""
    if m = 0 then some (sign ++ "0.0")
    else
      let (d, k) := BinaryFormat.double.shortest .toEven m e
      let leading : Int := k + (Nat.repr d).length
      if 0 ≤ k && leading ≤ 16 then some (sign ++ Decimal.positional d k ++ ".0")
      else if -5 < leading && leading ≤ 16 then some (sign ++ Decimal.positional d k)
      else some (sign ++ Decimal.scientific d k)

end Binary64

end MarketBars
