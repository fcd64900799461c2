import MarketBars.Number.BinaryFormat

/-!
# Shortest decimal digits

The decimal text of a floating-point number has the fewest digits that read back as the same number,
and of several such texts the one nearest to the number. Which digits to write is decided here; how
they are laid out is decided where they are written.

A text with more digits lies on a finer grid of powers of ten. The search goes from a coarse grid to
finer ones and stops at the first grid with a point in the interval; on one grid only the two
neighbours of the number can be nearest.
-/

namespace MarketBars

/-- Which of two neighbours is taken for a number halfway between them. -/
inductive TieRule where
  | toEven
  | awayFromZero
  deriving DecidableEq, Repr

def TieRule.keeps (tie : TieRule) (floor : Nat) : Bool :=
  tie == .toEven && floor % 2 == 0

namespace BinaryFormat

/-- The reals that round to the number `m * 2 ^ e`, as a lower bound, the number and an upper bound in
quarters of its step, and whether the bounds themselves round to it. Below a power of two the step
is half as long. -/
def roundingInterval (F : BinaryFormat) (m : Nat) (e : Int) : Nat × Nat × Nat × Bool :=
  let below := if m = twoTo F.fractionBits ∧ F.leastExponent < e then 1 else 2
  (4 * m - below, 4 * m, 4 * m + 2, m % 2 == 0)

/-- Looks for a point of the grid `10 ^ k` in the rounding interval, then on finer grids. -/
def shortestFrom (tie : TieRule) (low value high : Nat) (closed : Bool) (e : Int) : Nat → Int → Nat × Int
  | 0, k => (0, k)
  | fuel + 1, k =>
    let scale := twoTo (e - 2).toNat * tenTo (-k).toNat
    let unit := twoTo (2 - e).toNat * tenTo k.toNat
    let inside (c : Nat) : Bool :=
      let x := c * unit
      if closed then low * scale ≤ x && x ≤ high * scale
      else low * scale < x && x < high * scale
    let floor := value * scale / unit
    match inside floor, inside (floor + 1) with
    | true, false => (floor, k)
    | false, true => (floor + 1, k)
    | true, true =>
      let twice := 2 * (value * scale)
      let middle := (2 * floor + 1) * unit
      if twice < middle || (twice == middle && tie.keeps floor) then (floor, k) else (floor + 1, k)
    | false, false => shortestFrom tie low value high closed e fuel (k - 1)

/-- The digits and the decimal exponent of the shortest text of `m * 2 ^ e`, for `m` not zero. The
search starts at a power of ten above the number. -/
def shortest (F : BinaryFormat) (tie : TieRule) (m : Nat) (e : Int) : Nat × Int :=
  let (low, value, high, closed) := F.roundingInterval m e
  let start := (((Nat.log2 m : Int) + 1 + e) * 30103).fdiv 100000 + 1
  shortestFrom tie low value high closed e 40 start

end BinaryFormat

namespace Decimal

def zeros (n : Nat) : String :=
  String.ofList (List.replicate n '0')

/-- The number `d * 10 ^ k` without an exponent; a point is written only before a fraction. -/
def positional (d : Nat) (k : Int) : String :=
  let digits := (Nat.repr d).toList
  let places := (-k).toNat
  if 0 ≤ k then String.ofList digits ++ zeros k.toNat
  else if places < digits.length then
    String.ofList (digits.take (digits.length - places)) ++ "." ++
      String.ofList (digits.drop (digits.length - places))
  else "0." ++ zeros (places - digits.length) ++ String.ofList digits

/-- The number `d * 10 ^ k` with one digit before the point and an exponent, with its sign, after the
letter `e`. -/
def scientific (d : Nat) (k : Int) : String :=
  let digits := (Nat.repr d).toList
  let leading := k + digits.length - 1
  let exponent := if 0 ≤ leading then "+" ++ toString leading else toString leading
  match digits with
  | [] => "0e" ++ exponent
  | [c] => c.toString ++ "e" ++ exponent
  | c :: rest => c.toString ++ "." ++ String.ofList rest ++ "e" ++ exponent

end Decimal

end MarketBars
