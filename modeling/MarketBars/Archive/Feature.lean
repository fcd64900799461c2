import MarketBars.Number.Binary32

/-!
# Feature files

A feature file holds the values of one field of one instrument: numbers of single precision, four
bytes each, lowest byte first. The first number is the position in the calendar at which the values
begin; the values belong to that position and the ones after it.
-/

namespace MarketBars

/-- The values of a field at consecutive positions of a calendar. -/
structure FeatureSeries where
  start : Nat
  values : Array Binary32
  deriving DecidableEq, Repr

/-- Why bytes are no feature file. -/
inductive FeatureFault where
  | notWhole (bytes : Nat)
  | badStart (start : Binary32)
  deriving DecidableEq, Repr

def FeatureFault.message : FeatureFault → String
  | notWhole bytes => Nat.repr bytes ++ " bytes is not a whole number of f32 values"
  | badStart start => "invalid start index " ++ start.text

namespace Binary32

/-- The number of four bytes, lowest byte first. -/
def ofBytes (a b c d : UInt8) : Binary32 :=
  ofBits (a.toNat + 256 * (b.toNat + 256 * (c.toNat + 256 * d.toNat)))

def toBytes (x : Binary32) : List UInt8 :=
  let n := x.bits.toNat
  [UInt8.ofNat n, UInt8.ofNat (n / 256), UInt8.ofNat (n / 65536), UInt8.ofNat (n / 16777216)]

theorem ofBytes_toBytes (x : Binary32) :
    ofBytes (UInt8.ofNat x.bits.toNat) (UInt8.ofNat (x.bits.toNat / 256))
      (UInt8.ofNat (x.bits.toNat / 65536)) (UInt8.ofNat (x.bits.toNat / 16777216)) = x := by
  obtain ⟨bits⟩ := x
  have hb := bits.toNat_lt
  simp only [ofBytes, ofBits, Binary32.mk.injEq]
  apply UInt32.toNat.inj
  simp only [UInt8.toNat_ofNat', UInt32.toNat_ofNat']
  omega

end Binary32

namespace FeatureSeries

/-- The value at a position of the calendar; there is none outside the series or where the file has
a NaN. -/
def at? (s : FeatureSeries) (position : Nat) : Option Binary64 :=
  if position < s.start then none
  else
    match s.values[position - s.start]? with
    | none => none
    | some x => if x.isNaN then none else some x.widen

/-- The position after the last value, if it is one. -/
def stop? (s : FeatureSeries) : Option Nat :=
  if s.start + s.values.size ≤ Binary32.maxIndex then some (s.start + s.values.size) else none

/-- The numbers of some bytes, if the bytes come in fours. -/
def numbers? : List UInt8 → Option (List Binary32)
  | [] => some []
  | a :: b :: c :: d :: rest => (numbers? rest).map (Binary32.ofBytes a b c d :: ·)
  | _ => none

def decode (bytes : List UInt8) : Except FeatureFault FeatureSeries :=
  match numbers? bytes with
  | some (first :: values) =>
    match first.index? with
    | some start => .ok ⟨start, values.toArray⟩
    | none => .error (.badStart first)
  | _ => .error (.notWhole bytes.length)

/-- The file of a series whose first position is given, which is rounded to single precision. -/
def encode (start : Nat) (values : List Binary32) : List UInt8 :=
  (Binary32.ofNat start :: values).flatMap Binary32.toBytes

theorem numbers?_flatMap_toBytes (values : List Binary32) :
    numbers? (values.flatMap Binary32.toBytes) = some values := by
  induction values with
  | nil => rfl
  | cons x rest ih =>
    have h : (x :: rest).flatMap Binary32.toBytes =
        UInt8.ofNat x.bits.toNat :: UInt8.ofNat (x.bits.toNat / 256) ::
          UInt8.ofNat (x.bits.toNat / 65536) :: UInt8.ofNat (x.bits.toNat / 16777216) ::
          rest.flatMap Binary32.toBytes := rfl
    rw [h, numbers?, ih, Option.map_some, Binary32.ofBytes_toBytes]

end FeatureSeries

end MarketBars
