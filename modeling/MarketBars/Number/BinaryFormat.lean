import MarketBars.Number.Power

/-!
# Binary floating-point formats

A binary format of the IEEE 754 standard is fixed by the widths of its fraction and its exponent. A
bit pattern is read as a NaN, an infinity, or an exact value `m * 2 ^ e`; an exact value is written
as the nearest pattern, a tie going to the even one.

All arithmetic is on natural numbers and integers, so that every step can be reasoned about. The
pattern of a finite number is its rank among the numbers of its sign: with the step `q` above the
least exponent and a significand counted in that step, the pattern is `q * 2 ^ f + significand`, and
a significand that rounds up to the next power of two carries into the exponent by itself.
-/

namespace MarketBars

/-- A binary format, by the widths of its two fields. -/
structure BinaryFormat where
  fractionBits : Nat
  exponentBits : Nat
  deriving DecidableEq

namespace BinaryFormat

def double : BinaryFormat := ⟨52, 11⟩

def single : BinaryFormat := ⟨23, 8⟩

/-- The exponent of the smallest step between two numbers. -/
def leastExponent (F : BinaryFormat) : Int :=
  2 - (twoTo (F.exponentBits - 1) : Int) - F.fractionBits

def signWeight (F : BinaryFormat) : Nat :=
  twoTo (F.fractionBits + F.exponentBits)

/-- The pattern of positive infinity. -/
def infinity (F : BinaryFormat) : Nat :=
  (twoTo F.exponentBits - 1) * twoTo F.fractionBits

/-- What a bit pattern stands for. A finite number is `m * 2 ^ e`, with its sign. -/
inductive Reading where
  | nan
  | infinite (negative : Bool)
  | finite (negative : Bool) (m : Nat) (e : Int)
  deriving DecidableEq

def read (F : BinaryFormat) (bits : Nat) : Reading :=
  let negative := decide (F.signWeight ≤ bits)
  let magnitude := bits % F.signWeight
  let field := magnitude / twoTo F.fractionBits
  let fraction := magnitude % twoTo F.fractionBits
  if F.infinity < magnitude then .nan
  else if magnitude = F.infinity then .infinite negative
  else if field = 0 then .finite negative fraction F.leastExponent
  else .finite negative (fraction + twoTo F.fractionBits) (F.leastExponent + (field - 1 : Nat))

/-- The natural number nearest to `n / d`, the even one on a tie. -/
def roundHalfEven (n d : Nat) : Nat :=
  let q := n / d
  let r := n % d
  if 2 * r < d then q
  else if d < 2 * r then q + 1
  else if q % 2 = 0 then q else q + 1

/-- The pattern without sign nearest to `m * 2 ^ e`. -/
def nearestMagnitude (F : BinaryFormat) (m : Nat) (e : Int) : Nat :=
  if m = 0 then 0
  else
    let step := max (e + Nat.log2 m - F.fractionBits) F.leastExponent
    let significand :=
      if step ≤ e then m * twoTo (e - step).toNat
      else roundHalfEven m (twoTo (step - e).toNat)
    min ((step - F.leastExponent).toNat * twoTo F.fractionBits + significand) F.infinity

def nearest (F : BinaryFormat) (negative : Bool) (m : Nat) (e : Int) : Nat :=
  F.nearestMagnitude m e + (if negative then F.signWeight else 0)

/-- The pattern without sign nearest to `n / d`. The quotient is taken to a step far below that of the
result, and a last bit tells whether anything is left over, so that it is rounded only once. -/
def nearestRatio (F : BinaryFormat) (n d : Nat) : Nat :=
  let places : Int := Nat.log2 d - Nat.log2 n + F.fractionBits + 3
  let scaled := n * twoTo places.toNat
  let unit := d * twoTo (-places).toNat
  F.nearestMagnitude (2 * (scaled / unit) + if scaled % unit = 0 then 0 else 1) (-places - 1)

/-- The pattern without sign nearest to `m * 10 ^ k`. Powers of ten far beyond the range of the format
are told by their size alone. -/
def nearestDecimal (F : BinaryFormat) (m : Nat) (k : Int) : Nat :=
  let reach : Int := 2 * twoTo F.exponentBits
  let size : Int := Nat.log2 m + (k * 33219).fdiv 10000
  if m = 0 ∨ size < -reach then 0
  else if reach < size then F.infinity
  else F.nearestRatio (m * tenTo k.toNat) (tenTo (-k).toNat)

theorem roundHalfEven_bounds (n d : Nat) :
    n / d ≤ roundHalfEven n d ∧ roundHalfEven n d ≤ n / d + 1 := by
  unfold roundHalfEven
  dsimp only
  split
  · omega
  · split
    · omega
    · split <;> omega

theorem roundHalfEven_mul (q : Nat) {d : Nat} (hd : 0 < d) : roundHalfEven (q * d) d = q := by
  simp [roundHalfEven, Nat.mul_div_cancel _ hd, hd]

/-- The pattern of infinity is the largest one without a sign that is not a NaN. -/
theorem nearestMagnitude_le (F : BinaryFormat) (m : Nat) (e : Int) :
    F.nearestMagnitude m e ≤ F.infinity := by
  unfold nearestMagnitude
  split
  · exact Nat.zero_le _
  · exact Nat.min_le_right _ _

end BinaryFormat

end MarketBars
