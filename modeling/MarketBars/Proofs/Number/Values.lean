import Mathlib.Algebra.Order.Field.Power
import Mathlib.Tactic.Linarith
import MarketBars.Proofs.Number.Rounding

/-!
# Exact values of single precision

The finite numbers of single precision are rationals. A natural number below 2 ^ 64 is rounded to the
nearest of them, which is a natural number again, and a number stands for a position exactly when its value
is a natural number.
-/

namespace MarketBars

open BinaryFormat (single)

namespace Binary32

variable {x y : Binary32} {v w : ℚ} {n k : Nat}

/-- The exact value of a finite number. -/
def value? (x : Binary32) : Option ℚ :=
  match x.read with
  | .finite negative m e => some (if negative then -((m : ℚ) * 2 ^ e) else (m : ℚ) * 2 ^ e)
  | .infinite _ => none
  | .nan => none

/-- No finite number is nearer to a rational, and the pattern is even if another value is as near. -/
def IsNearest (x : Binary32) (r : ℚ) : Prop :=
  ∃ v, x.value? = some v ∧ ∀ (y : Binary32) (w : ℚ), y.value? = some w →
    |v - r| ≤ |w - r| ∧ (|v - r| = |w - r| → w = v ∨ x.bits.toNat % 2 = 0)

def negativeZero : Binary32 := ⟨0x80000000⟩

/-- The count of smallest steps in a number, with its sign. -/
def stepCount (x : Binary32) : Int :=
  if single.signWeight ≤ x.bits.toNat then
    -(single.steps (x.bits.toNat % single.signWeight) : Int)
  else single.steps (x.bits.toNat % single.signWeight)

theorem eq_of_toNat_bits_eq (h : x.bits.toNat = y.bits.toNat) : x = y :=
  congrArg mk (UInt32.toNat.inj h)

theorem cast_twoTo (k : Nat) : (twoTo k : ℚ) = 2 ^ k := by
  exact_mod_cast rfl

theorem mul_zpow_eq {m : Nat} {e least : Int} (h : least ≤ e) :
    (m : ℚ) * 2 ^ e = ((m * twoTo (e - least).toNat : Nat) : ℚ) * 2 ^ least := by
  rw [Nat.cast_mul, cast_twoTo, mul_assoc, ← zpow_natCast, ← zpow_add₀ (by decide),
    Int.toNat_of_nonneg (by omega), Int.sub_add_cancel]

theorem natCast_eq {least : Int} (h : least ≤ 0) (n : Nat) :
    (n : ℚ) = ((n * twoTo (-least).toNat : Nat) : ℚ) * 2 ^ least := by
  have hscale := mul_zpow_eq (m := n) h
  rwa [zpow_zero, mul_one, Int.zero_sub] at hscale

theorem value?_of_read {negative : Bool} {m : Nat} {e : Int} (h : x.read = .finite negative m e) :
    x.value? = some (x.stepCount * (2 : ℚ) ^ single.leastExponent) := by
  obtain ⟨hsign, -, hle, hsteps⟩ := BinaryFormat.steps_of_read h
  simp only [value?, h, hsign, decide_eq_true_eq, stepCount, hsteps, mul_zpow_eq hle]
  split
  · rw [Int.cast_neg, Int.cast_natCast, neg_mul]
  · rw [Int.cast_natCast]

theorem value?_eq_some_iff :
    x.value? = some v ↔ x.bits.toNat % single.signWeight < single.infinity ∧
      v = x.stepCount * (2 : ℚ) ^ single.leastExponent := by
  constructor
  · intro h
    cases hread : x.read with
    | nan => simp [value?, hread] at h
    | infinite negative => simp [value?, hread] at h
    | finite negative m e =>
      have hlt := (BinaryFormat.steps_of_read hread).2.1
      exact ⟨hlt, Option.some.inj (h.symm.trans (value?_of_read hread))⟩
  · rintro ⟨hlt, rfl⟩
    obtain ⟨negative, m, e, hread⟩ := BinaryFormat.exists_read hlt
    exact value?_of_read hread

/-- Between a value and a natural number lies a count of smallest steps. -/
theorem abs_sub_eq (hx : x.value? = some v) (n : Nat) :
    |v - n| = ((x.stepCount - (n * twoTo 149 : Nat)).natAbs : ℚ) * 2 ^ (-149 : Int) := by
  obtain ⟨-, rfl⟩ := value?_eq_some_iff.mp hx
  have hleast : single.leastExponent = -149 := rfl
  have hn : (n : ℚ) = ((n * twoTo 149 : Nat) : ℚ) * 2 ^ (-149 : Int) := natCast_eq (show -149 ≤ 0 by decide) n
  have hpos : (0 : ℚ) < 2 ^ (-149 : Int) := by positivity
  rw [hleast, hn, ← sub_mul, abs_mul, abs_of_pos hpos, Nat.cast_natAbs, Int.cast_abs, Int.cast_sub,
    Int.cast_natCast]

theorem abs_sub_le_iff (hx : x.value? = some v) (hy : y.value? = some w) :
    |v - n| ≤ |w - n| ↔
      (x.stepCount - (n * twoTo 149 : Nat)).natAbs ≤ (y.stepCount - (n * twoTo 149 : Nat)).natAbs := by
  rw [abs_sub_eq hx, abs_sub_eq hy, mul_le_mul_iff_left₀ (by positivity), Nat.cast_le]

theorem abs_sub_eq_iff (hx : x.value? = some v) (hy : y.value? = some w) :
    |v - n| = |w - n| ↔
      (x.stepCount - (n * twoTo 149 : Nat)).natAbs = (y.stepCount - (n * twoTo 149 : Nat)).natAbs := by
  rw [abs_sub_eq hx, abs_sub_eq hy, mul_left_inj' (by positivity), Nat.cast_inj]

theorem value?_eq_natCast_iff (hlt : x.bits.toNat % single.signWeight < single.infinity) :
    x.value? = some (k : ℚ) ↔ x.stepCount = (k * twoTo 149 : Nat) := by
  obtain ⟨v, hv⟩ : ∃ v, x.value? = some v := ⟨_, value?_eq_some_iff.mpr ⟨hlt, rfl⟩⟩
  have hdistance := abs_sub_eq hv k
  rw [hv, Option.some_inj, ← sub_eq_zero, ← abs_eq_zero, hdistance, mul_eq_zero_iff_right (by positivity),
    Nat.cast_eq_zero]
  omega

section Rounding

theorem toNat_bits_ofBits {p : Nat} (h : p < single.infinity) : (ofBits p).bits.toNat = p := by
  have hword : single.infinity < 2 ^ 32 := by decide
  rw [ofBits, UInt32.toNat_ofNat']
  exact Nat.mod_eq_of_lt (by omega)

theorem nearestToSteps_lt (hn : n ≤ maxIndex) : single.nearestToSteps (n * twoTo 149) < single.infinity := by
  have hinfinity : single.infinity = 255 * twoTo single.fractionBits := by decide
  have hbits : single.fractionBits = 23 := rfl
  have hlog : Nat.log2 (n * twoTo 149) < 213 := by
    rcases Nat.eq_zero_or_pos n with rfl | hpos
    · decide
    · have hend : maxIndex < 2 ^ 64 := by decide
      have hlt := (Nat.log2_lt (Nat.ne_of_gt hpos)).mpr (Nat.lt_of_le_of_lt hn hend)
      rw [log2_mul_twoTo (Nat.ne_of_gt hpos)]
      omega
  refine Nat.lt_of_le_of_lt (BinaryFormat.nearestToSteps_le _ _) ?_
  rw [hinfinity]
  exact Nat.mul_lt_mul_of_pos_right (by omega) (twoTo_pos _)

theorem toNat_bits_ofNat (hn : n ≤ maxIndex) :
    (ofNat n).bits.toNat = single.nearestToSteps (n * twoTo 149) := by
  have hlt := nearestToSteps_lt hn
  have hunit : ((0 : Int) - single.leastExponent).toNat = 149 := by decide
  have hmagnitude : single.nearest false n 0 = single.nearestToSteps (n * twoTo 149) := by
    rw [BinaryFormat.nearest, if_neg Bool.false_ne_true, Nat.add_zero,
      BinaryFormat.nearestMagnitude_eq (by decide), hunit, Nat.min_eq_left (Nat.le_of_lt hlt)]
  rw [ofNat, hmagnitude, toNat_bits_ofBits hlt]

/-- A natural number below 2 ^ 64 is not rounded to an infinity. -/
theorem toNat_bits_ofNat_lt (hn : n ≤ maxIndex) : (ofNat n).bits.toNat < single.infinity := by
  rw [toNat_bits_ofNat hn]
  exact nearestToSteps_lt hn

theorem nearest_ofNat (hn : n ≤ maxIndex) : single.Nearest (n * twoTo 149) (ofNat n).bits.toNat := by
  rw [toNat_bits_ofNat hn]
  exact BinaryFormat.nearest_nearestToSteps (by decide) _

theorem stepCount_ofNat (hn : n ≤ maxIndex) : (ofNat n).stepCount = single.steps (ofNat n).bits.toNat := by
  have hlt := toNat_bits_ofNat_lt hn
  have hweight := single.infinity_lt_signWeight
  rw [stepCount, if_neg (by omega), Nat.mod_eq_of_lt (by omega)]

theorem exists_value_ofNat (hn : n ≤ maxIndex) : ∃ v, (ofNat n).value? = some v := by
  have hlt := toNat_bits_ofNat_lt hn
  exact ⟨_, value?_eq_some_iff.mpr ⟨Nat.lt_of_le_of_lt (Nat.mod_le _ _) hlt, rfl⟩⟩

/-- A number that is as near to a natural number as zero is not below zero. -/
theorem stepCount_eq_of_le (h : (x.stepCount - n).natAbs ≤ n) :
    x.stepCount = single.steps (x.bits.toNat % single.signWeight) := by
  rw [stepCount] at h ⊢
  split at h
  · rename_i hsign
    rw [if_pos hsign]
    omega
  · rename_i hsign
    rw [if_neg hsign]

theorem isNearest_ofNat (hn : n ≤ maxIndex) : (ofNat n).IsNearest n := by
  obtain ⟨v, hv⟩ := exists_value_ofNat hn
  have hnearest := nearest_ofNat hn
  have hzero := hnearest.le
  refine ⟨v, hv, fun y w hw => ?_⟩
  rw [abs_sub_le_iff hv hw, abs_sub_eq_iff hv hw, stepCount_ofNat hn]
  by_cases hsign : (y.stepCount - (n * twoTo 149 : Nat)).natAbs ≤ n * twoTo 149
  · rw [stepCount_eq_of_le hsign]
    refine ⟨hnearest.nearest _, fun htie => (hnearest.even _ htie).imp_left fun heq => ?_⟩
    rw [(value?_eq_some_iff.mp hw).2, (value?_eq_some_iff.mp hv).2, stepCount_eq_of_le hsign,
      stepCount_ofNat hn, heq]
  · constructor <;> omega

/-- A natural number is rounded to one value. -/
theorem IsNearest.value?_eq (hn : n ≤ maxIndex) (h : x.IsNearest n) : x.value? = (ofNat n).value? := by
  obtain ⟨w, hw, hx⟩ := h
  obtain ⟨v, hv, hnear⟩ := isNearest_ofNat hn
  have htie : |v - n| = |w - n| := le_antisymm (hnear x w hw).1 (hx _ v hv).1
  rw [hw, hv, Option.some_inj]
  rcases (hnear x w hw).2 htie with heq | hpattern
  · exact heq
  rcases (hx _ v hv).2 htie.symm with heq | heven
  · exact heq.symm
  -- Both patterns are even, and neither number is below zero.
  have hnearest := nearest_ofNat hn
  have hzero := hnearest.le
  rw [abs_sub_eq_iff hv hw, stepCount_ofNat hn] at htie
  have hsign := stepCount_eq_of_le (x := x) (n := n * twoTo 149) (by omega)
  have hparity : x.bits.toNat % single.signWeight % 2 = 0 := by
    have hweight : single.signWeight = 2147483648 := by decide
    rw [hweight]
    omega
  rw [hsign] at htie
  have hsame := hnearest.eq_of_even hpattern hparity htie
  rw [(value?_eq_some_iff.mp hw).2, (value?_eq_some_iff.mp hv).2, hsign, stepCount_ofNat hn, hsame]

theorem value?_ofNat_of_dvd (hn : n ≤ maxIndex)
    (h : twoTo (Nat.log2 (n * twoTo 149) - 23) ∣ n * twoTo 149) : (ofNat n).value? = some (n : ℚ) := by
  obtain ⟨v, hv⟩ := exists_value_ofNat hn
  rw [value?_eq_natCast_iff (value?_eq_some_iff.mp hv).1, stepCount_ofNat hn, toNat_bits_ofNat hn,
    BinaryFormat.steps_nearestToSteps_of_dvd h]

/-- A natural number is rounded to a natural number. -/
theorem exists_natCast_ofNat (hn : n ≤ maxIndex) : ∃ k : Nat, (ofNat n).value? = some (k : ℚ) := by
  obtain ⟨v, hv⟩ := exists_value_ofNat hn
  by_cases hshift : 149 ≤ Nat.log2 (n * twoTo 149) - 23
  · obtain ⟨more, hmore⟩ := Nat.exists_eq_add_of_le hshift
    have hbits : single.fractionBits = 23 := rfl
    refine ⟨BinaryFormat.roundHalfEven (n * twoTo 149) (twoTo (149 + more)) * twoTo more, ?_⟩
    rw [value?_eq_natCast_iff (value?_eq_some_iff.mp hv).1, stepCount_ofNat hn, toNat_bits_ofNat hn,
      BinaryFormat.steps_nearestToSteps, hbits, hmore, Nat.mul_assoc, ← twoTo_add, Nat.add_comm more]
  · refine ⟨n, value?_ofNat_of_dvd hn (Nat.dvd_mul_left_of_dvd ?_ n)⟩
    exact Nat.pow_dvd_pow 2 (by omega)

/-- The natural numbers of 24 bits are values, and so is the next one. -/
theorem value?_ofNat_of_le (h : n ≤ twoTo 24) : (ofNat n).value? = some (n : ℚ) := by
  have hn : n ≤ maxIndex := Nat.le_trans h (by decide)
  refine value?_ofNat_of_dvd hn ?_
  rcases Nat.eq_zero_or_pos n with rfl | hpos
  · rw [Nat.zero_mul]
    exact Nat.dvd_zero _
  · rw [log2_mul_twoTo (Nat.ne_of_gt hpos)]
    rcases Nat.eq_or_lt_of_le h with rfl | hlt
    · rw [← twoTo_add, show Nat.log2 (twoTo 24) = 24 from Nat.log2_two_pow]
      exact Nat.pow_dvd_pow 2 (by decide)
    · have hlog := (Nat.log2_lt (Nat.ne_of_gt hpos)).mpr hlt
      exact Nat.dvd_mul_left_of_dvd (Nat.pow_dvd_pow 2 (by omega)) n

/-- A natural number that is a value is written as it was, up to the sign of zero. -/
theorem ofNat_eq_of_value? (h : x.value? = some (n : ℚ)) (hn : n ≤ maxIndex) (hx : x ≠ negativeZero) :
    ofNat n = x := by
  rw [value?_eq_natCast_iff (value?_eq_some_iff.mp h).1] at h
  have hsign := stepCount_eq_of_le (x := x) (n := n * twoTo 149) (by omega)
  have hnearest := (nearest_ofNat hn).nearest (x.bits.toNat % single.signWeight)
  have hsame : (ofNat n).bits.toNat = x.bits.toNat % single.signWeight :=
    single.steps_strictMono.injective (by omega)
  have hplus : x.bits.toNat < single.signWeight := by
    -- With a sign, the number would be zero.
    by_contra hminus
    refine hx (eq_of_toNat_bits_eq ?_)
    rw [stepCount, if_pos (by omega)] at hsign
    have hzero : x.bits.toNat % single.signWeight = 0 := by
      refine single.steps_strictMono.injective ?_
      rw [BinaryFormat.steps_zero]
      omega
    have hweight : single.signWeight = 2147483648 := by decide
    have hword := x.bits.toNat_lt
    rw [hweight] at hminus hzero
    show x.bits.toNat = 2147483648
    omega
  exact eq_of_toNat_bits_eq (hsame.trans (Nat.mod_eq_of_lt hplus))

end Rounding

section Position

variable {m : Nat} {e : Int}

theorem mul_zpow_of_nonneg (he : 0 ≤ e) (m : Nat) : (m : ℚ) * 2 ^ e = (m * twoTo e.toNat : Nat) := by
  rw [mul_zpow_eq he, zpow_zero, mul_one, Int.sub_zero]

theorem mul_zpow_eq_iff_of_neg (he : ¬ 0 ≤ e) : (m : ℚ) * 2 ^ e = k ↔ m = k * twoTo (-e).toNat := by
  have hpower : (2 : ℚ) ^ e ≠ 0 := by positivity
  rw [natCast_eq (show e ≤ 0 by omega) k, mul_left_inj' hpower, Nat.cast_inj]

theorem signed_eq_natCast_iff {negative : Bool} :
    (if negative then -((m : ℚ) * 2 ^ e) else (m : ℚ) * 2 ^ e) = k ↔
      ¬ (negative && m != 0) ∧ (m : ℚ) * 2 ^ e = k := by
  cases negative with
  | false => simp
  | true =>
    rcases Nat.eq_zero_or_pos m with rfl | hm
    · simp
    · have hpos : (0 : ℚ) < m := Nat.cast_pos.mpr hm
      have hvalue : (0 : ℚ) < m * 2 ^ e := by positivity
      have hnonneg : (0 : ℚ) ≤ k := Nat.cast_nonneg k
      rw [if_pos rfl]
      constructor
      · intro h
        linarith
      · rintro ⟨hsign, -⟩
        exact absurd (by simpa using Nat.ne_of_gt hm) hsign

theorem position_eq_some_iff :
    (if 0 ≤ e then some (min (m * twoTo e.toNat) maxIndex)
      else if m % twoTo (-e).toNat = 0 then some (min (m / twoTo (-e).toNat) maxIndex)
      else none) = some n ↔ ∃ k : Nat, (m : ℚ) * 2 ^ e = k ∧ n = min k maxIndex := by
  by_cases he : 0 ≤ e
  · rw [if_pos he, mul_zpow_of_nonneg he]
    constructor
    · intro h
      exact ⟨_, rfl, (Option.some.inj h).symm⟩
    · rintro ⟨k, hk, rfl⟩
      rw [Nat.cast_inj.mp hk]
  · simp only [if_neg he, mul_zpow_eq_iff_of_neg he]
    constructor
    · intro h
      split at h
      · rename_i hwhole
        cases h
        exact ⟨_, (Nat.div_mul_cancel (Nat.dvd_of_mod_eq_zero hwhole)).symm, rfl⟩
      · cases h
    · rintro ⟨k, rfl, rfl⟩
      rw [if_pos (Nat.mul_mod_left _ _), Nat.mul_div_cancel _ (twoTo_pos _)]

/-- A number stands for a position exactly when its value is a natural number, which is the position unless it
is past the largest one. -/
theorem index?_eq_some_iff :
    x.index? = some n ↔ ∃ k : Nat, x.value? = some (k : ℚ) ∧ n = min k maxIndex := by
  rw [index?, value?]
  cases x.read with
  | nan => simp
  | infinite negative => simp
  | finite negative m e =>
    simp only [Option.some_inj, signed_eq_natCast_iff]
    by_cases hsign : negative && m != 0
    · simp [hsign]
    · rw [if_neg hsign, position_eq_some_iff]
      simp [hsign]

end Position

end Binary32

end MarketBars
