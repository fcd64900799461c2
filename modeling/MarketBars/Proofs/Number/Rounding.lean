import Mathlib.Order.Monotone.Basic
import MarketBars.Proofs.Number.Single

/-!
# Rounding to nearest

Every finite number of a format is a whole count of its smallest steps, and the patterns without a sign are
in the order of these counts. The pattern that is written for a count is the one nearest to it, and no
pattern with an odd last bit is written where another is as near.
-/

namespace MarketBars

theorem log2_mul_twoTo {m : Nat} (hm : m ≠ 0) (k : Nat) : Nat.log2 (m * twoTo k) = Nat.log2 m + k := by
  have hpos := twoTo_pos k
  rw [Nat.log2_eq_iff (Nat.mul_ne_zero hm (Nat.ne_of_gt hpos))]
  constructor
  · rw [Nat.pow_add]
    exact Nat.mul_le_mul_right _ (Nat.log2_self_le hm)
  · rw [Nat.add_right_comm, Nat.pow_add]
    exact Nat.mul_lt_mul_of_pos_right Nat.lt_log2_self hpos

namespace BinaryFormat

variable {F : BinaryFormat} {n d p shift q : Nat}

/-- The count of smallest steps in the number of a pattern without a sign. -/
def steps (F : BinaryFormat) (pattern : Nat) : Nat :=
  let shift := pattern / twoTo F.fractionBits - 1
  (pattern - shift * twoTo F.fractionBits) * twoTo shift

/-- The pattern that is written for a count of smallest steps. -/
def nearestToSteps (F : BinaryFormat) (n : Nat) : Nat :=
  let shift := Nat.log2 n - F.fractionBits
  shift * twoTo F.fractionBits + roundHalfEven n (twoTo shift)

/-- The pattern stands for the number nearest to a count of smallest steps, and is even if another number is
as near. -/
structure Nearest (F : BinaryFormat) (n pattern : Nat) : Prop where
  nearest : ∀ p, ((F.steps pattern : Int) - n).natAbs ≤ ((F.steps p : Int) - n).natAbs
  even : ∀ p, ((F.steps pattern : Int) - n).natAbs = ((F.steps p : Int) - n).natAbs →
    p = pattern ∨ pattern % 2 = 0

/-- A pattern is a significand above its shift, where only the smallest shift allows a short significand. -/
theorem exists_pattern_eq (F : BinaryFormat) (p : Nat) :
    ∃ shift q, p = shift * twoTo F.fractionBits + q ∧ q < 2 * twoTo F.fractionBits ∧
      (shift = 0 ∨ twoTo F.fractionBits ≤ q) := by
  have hpos := twoTo_pos F.fractionBits
  have hsplit := Nat.div_add_mod' p (twoTo F.fractionBits)
  have hmod := Nat.mod_lt p hpos
  cases hfield : p / twoTo F.fractionBits with
  | zero =>
    rw [hfield] at hsplit
    exact ⟨0, p, by omega, by omega, Or.inl rfl⟩
  | succ shift =>
    rw [hfield, Nat.succ_mul] at hsplit
    exact ⟨shift, p % twoTo F.fractionBits + twoTo F.fractionBits, by omega, by omega, Or.inr (by omega)⟩

/-- The significand may also be the power of two that carries into the shift. -/
theorem steps_mul_add (hq : q ≤ 2 * twoTo F.fractionBits) (h : shift = 0 ∨ twoTo F.fractionBits ≤ q) :
    F.steps (shift * twoTo F.fractionBits + q) = q * twoTo shift := by
  have hpos := twoTo_pos F.fractionBits
  rw [steps]
  generalize twoTo F.fractionBits = b at hq h hpos
  rw [Nat.mul_comm shift b, Nat.mul_add_div hpos, Nat.mul_comm b shift]
  by_cases hcarry : q = 2 * b
  · have hnext : shift + 2 - 1 = shift + 1 := rfl
    have hrest : shift * b + 2 * b - (shift + 1) * b = b := by
      rw [Nat.succ_mul shift b]
      omega
    rw [hcarry, Nat.mul_div_cancel _ hpos, hnext, hrest, twoTo_succ, Nat.mul_left_comm, Nat.mul_assoc]
  · have hfield : shift + q / b - 1 = shift := by
      rcases h with rfl | hle
      · have hlt : q / b < 2 := Nat.div_lt_of_lt_mul (by omega)
        omega
      · have hone : q / b = 1 := Nat.div_eq_of_lt_le (by omega) (by omega)
        omega
    rw [hfield, Nat.add_sub_cancel_left]

theorem steps_strictMono (F : BinaryFormat) : StrictMono F.steps := by
  refine strictMono_nat_of_lt_succ fun p => ?_
  obtain ⟨shift, q, rfl, hlt, hlong⟩ := F.exists_pattern_eq p
  have hlong' : shift = 0 ∨ twoTo F.fractionBits ≤ q + 1 := by omega
  rw [Nat.add_assoc, steps_mul_add (by omega) hlong, steps_mul_add (by omega) hlong']
  exact Nat.mul_lt_mul_of_pos_right (Nat.lt_succ_self q) (twoTo_pos shift)

theorem steps_zero (F : BinaryFormat) : F.steps 0 = 0 := by
  simp [steps]

/-- From a power of two on, the numbers are multiples of its step. -/
theorem twoTo_dvd_steps (h : shift * twoTo F.fractionBits + twoTo F.fractionBits ≤ p) :
    twoTo shift ∣ F.steps p := by
  obtain ⟨larger, q, rfl, hlt, hlong⟩ := F.exists_pattern_eq p
  rw [steps_mul_add (by omega) hlong]
  have hle : shift ≤ larger := by
    refine Nat.le_of_lt_succ (Nat.lt_of_mul_lt_mul_right (a := twoTo F.fractionBits) ?_)
    rw [Nat.succ_mul]
    omega
  exact Nat.dvd_mul_left_of_dvd (Nat.pow_dvd_pow 2 hle) q

theorem steps_lt_of_lt (h : p < shift * twoTo F.fractionBits + twoTo F.fractionBits) :
    F.steps p < twoTo F.fractionBits * twoTo shift := by
  rw [← steps_mul_add (by omega) (Or.inr (Nat.le_refl _))]
  exact F.steps_strictMono h

/-- A quotient is rounded to the multiple of the divisor that is nearest to the number. -/
theorem roundHalfEven_nearest (n : Nat) (hd : 0 < d) (k : Nat) :
    (((roundHalfEven n d * d : Nat) : Int) - n).natAbs ≤ (((k * d : Nat) : Int) - n).natAbs ∧
      ((((roundHalfEven n d * d : Nat) : Int) - n).natAbs = (((k * d : Nat) : Int) - n).natAbs →
        k = roundHalfEven n d ∨ roundHalfEven n d % 2 = 0) := by
  have hsplit := Nat.div_add_mod' n d
  have hmod := Nat.mod_lt n hd
  have hnext : (n / d + 1) * d = n / d * d + d := Nat.succ_mul _ _
  -- The multiples other than the two around the number are a whole divisor farther away.
  have hk : k = n / d ∨ k = n / d + 1 ∨ k * d + d ≤ n / d * d ∨ (n / d + 1) * d + d ≤ k * d := by
    rcases Nat.lt_trichotomy k (n / d) with hlt | heq | hgt
    · have hle := Nat.mul_le_mul_right d hlt
      rw [Nat.succ_mul] at hle
      exact Or.inr (Or.inr (Or.inl hle))
    · exact Or.inl heq
    · rcases Nat.eq_or_lt_of_le hgt with heq | hlt
      · exact Or.inr (Or.inl heq.symm)
      · have hle := Nat.mul_le_mul_right d hlt
        rw [Nat.succ_mul] at hle
        exact Or.inr (Or.inr (Or.inr hle))
  rw [roundHalfEven]
  generalize n / d = a at *
  generalize n % d = r at *
  split
  · rcases hk with rfl | rfl | hle | hle <;> omega
  · split
    · rcases hk with rfl | rfl | hle | hle <;> omega
    · split
      · rcases hk with rfl | rfl | hle | hle <;> omega
      · rcases hk with rfl | rfl | hle | hle <;> omega

theorem roundHalfEven_mul_mul {k : Nat} (n d : Nat) (hk : 0 < k) :
    roundHalfEven (n * k) (d * k) = roundHalfEven n d := by
  have hlt : 2 * (n % d * k) < d * k ↔ 2 * (n % d) < d := by
    rw [← Nat.mul_assoc, Nat.mul_lt_mul_right hk]
  have hgt : d * k < 2 * (n % d * k) ↔ d < 2 * (n % d) := by
    rw [← Nat.mul_assoc, Nat.mul_lt_mul_right hk]
  simp only [roundHalfEven, Nat.mul_div_mul_right _ _ hk, Nat.mul_mod_mul_right, hlt, hgt]

/-- The shift of a count leaves a significand of full length, unless it is the smallest shift, which keeps
the count as it is. -/
theorem significand_bounds (F : BinaryFormat) (n : Nat) :
    roundHalfEven n (twoTo (Nat.log2 n - F.fractionBits)) ≤ 2 * twoTo F.fractionBits ∧
      (Nat.log2 n - F.fractionBits = 0 ∨
        twoTo F.fractionBits * twoTo (Nat.log2 n - F.fractionBits) ≤ n ∧
        twoTo F.fractionBits ≤ roundHalfEven n (twoTo (Nat.log2 n - F.fractionBits))) := by
  obtain ⟨hlow, hhigh⟩ := roundHalfEven_bounds n (twoTo (Nat.log2 n - F.fractionBits))
  have hpos := twoTo_pos (Nat.log2 n - F.fractionBits)
  have hfew : n / twoTo (Nat.log2 n - F.fractionBits) < 2 * twoTo F.fractionBits := by
    rw [Nat.div_lt_iff_lt_mul hpos, ← twoTo_succ, ← twoTo_add]
    exact Nat.lt_of_lt_of_le Nat.lt_log2_self (Nat.pow_le_pow_right (by decide) (by omega))
  refine ⟨by omega, ?_⟩
  rcases Nat.eq_zero_or_pos (Nat.log2 n - F.fractionBits) with hzero | hshift
  · exact Or.inl hzero
  · have hne : n ≠ 0 := by
      rintro rfl
      simp [Nat.log2_zero] at hshift
    have hmany : twoTo F.fractionBits * twoTo (Nat.log2 n - F.fractionBits) ≤ n := by
      rw [← twoTo_add, Nat.add_sub_cancel' (by omega)]
      exact Nat.log2_self_le hne
    have hquotient := (Nat.le_div_iff_mul_le hpos).mpr hmany
    exact Or.inr ⟨hmany, by omega⟩

theorem steps_nearestToSteps (F : BinaryFormat) (n : Nat) :
    F.steps (F.nearestToSteps n) = roundHalfEven n (twoTo (Nat.log2 n - F.fractionBits)) *
      twoTo (Nat.log2 n - F.fractionBits) := by
  obtain ⟨hle, hlong⟩ := F.significand_bounds n
  exact steps_mul_add hle (hlong.imp_right And.right)

/-- A count that is a multiple of its step is written exactly. -/
theorem steps_nearestToSteps_of_dvd (h : twoTo (Nat.log2 n - F.fractionBits) ∣ n) :
    F.steps (F.nearestToSteps n) = n := by
  have hpos := twoTo_pos (Nat.log2 n - F.fractionBits)
  rw [steps_nearestToSteps]
  generalize twoTo (Nat.log2 n - F.fractionBits) = d at h hpos
  obtain ⟨k, rfl⟩ := h
  rw [Nat.mul_comm d k, roundHalfEven_mul k hpos]

theorem nearest_nearestToSteps (hfraction : 0 < F.fractionBits) (n : Nat) :
    F.Nearest n (F.nearestToSteps n) := by
  have hpos := twoTo_pos (Nat.log2 n - F.fractionBits)
  have hsteps := F.steps_nearestToSteps n
  have hparity : F.nearestToSteps n % 2 =
      roundHalfEven n (twoTo (Nat.log2 n - F.fractionBits)) % 2 := by
    obtain ⟨few, hfew⟩ := Nat.exists_eq_succ_of_ne_zero (Nat.ne_of_gt hfraction)
    rw [nearestToSteps, hfew, Nat.succ_eq_add_one, twoTo_succ, Nat.mul_left_comm, Nat.mul_add_mod]
  have hcase : ∀ p, (∃ k, F.steps p = k * twoTo (Nat.log2 n - F.fractionBits)) ∨
      ((F.steps (F.nearestToSteps n) : Int) - n).natAbs < ((F.steps p : Int) - n).natAbs := by
    intro p
    rcases Nat.lt_or_ge p ((Nat.log2 n - F.fractionBits) * twoTo F.fractionBits + twoTo F.fractionBits) with
      hlt | hge
    · rcases (F.significand_bounds n).2 with hzero | ⟨hmany, -⟩
      · exact Or.inl ⟨F.steps p, by rw [hzero]; exact (Nat.mul_one _).symm⟩
      · have hbelow := steps_lt_of_lt hlt
        have hpower := (roundHalfEven_nearest n hpos (twoTo F.fractionBits)).1
        rw [hsteps]
        exact Or.inr (by omega)
    · obtain ⟨k, hk⟩ := twoTo_dvd_steps hge
      exact Or.inl ⟨k, by rw [hk, Nat.mul_comm]⟩
  constructor
  · intro p
    rcases hcase p with ⟨k, hk⟩ | hlt
    · rw [hsteps, hk]
      exact (roundHalfEven_nearest n hpos k).1
    · exact Nat.le_of_lt hlt
  · intro p htie
    rcases hcase p with ⟨k, hk⟩ | hlt
    · rw [hsteps, hk] at htie
      rw [hparity]
      refine ((roundHalfEven_nearest n hpos k).2 htie).imp_left fun heq => ?_
      exact F.steps_strictMono.injective (by rw [hk, hsteps, heq])
    · omega

/-- A value that is a whole count of smallest steps is written as the count is, up to the infinity. -/
theorem nearestMagnitude_eq {m : Nat} {e : Int} (he : F.leastExponent ≤ e) :
    F.nearestMagnitude m e =
      min (F.nearestToSteps (m * twoTo (e - F.leastExponent).toNat)) F.infinity := by
  rw [nearestMagnitude]
  split
  · rename_i hzero
    simp [hzero, nearestToSteps, Nat.log2_zero, roundHalfEven]
  · rename_i hne
    dsimp only
    rw [nearestToSteps, log2_mul_twoTo hne]
    generalize hstep : max (e + Nat.log2 m - F.fractionBits) F.leastExponent = step
    generalize hunit : (e - F.leastExponent).toNat = unit
    have hshift : Nat.log2 m + unit - F.fractionBits = (step - F.leastExponent).toNat := by omega
    rw [hshift]
    congr 2
    split
    · have hsplit : unit = (e - step).toNat + (step - F.leastExponent).toNat := by omega
      rw [hsplit, twoTo_add, ← Nat.mul_assoc, roundHalfEven_mul _ (twoTo_pos _)]
    · have hsplit : (step - F.leastExponent).toNat = (step - e).toNat + unit := by omega
      rw [hsplit, twoTo_add, roundHalfEven_mul_mul _ _ (twoTo_pos _)]

/-- The nearest number is as near as zero is. -/
theorem Nearest.le {pattern : Nat} (h : F.Nearest n pattern) :
    ((F.steps pattern : Int) - n).natAbs ≤ n := by
  have hzero := h.nearest 0
  rw [steps_zero] at hzero
  omega

/-- Two even patterns are not next to each other, so that no two of them are equally near. -/
theorem Nearest.eq_of_even {pattern : Nat} (h : F.Nearest n pattern) (heven : pattern % 2 = 0)
    (hp : p % 2 = 0)
    (htie : ((F.steps pattern : Int) - n).natAbs = ((F.steps p : Int) - n).natAbs) : p = pattern := by
  rcases Nat.lt_trichotomy p pattern with hlt | heq | hgt
  · have hleft := F.steps_strictMono (show p < p + 1 by omega)
    have hright := F.steps_strictMono (show p + 1 < pattern by omega)
    have hbetween := h.nearest (p + 1)
    omega
  · exact heq
  · have hleft := F.steps_strictMono (show pattern < pattern + 1 by omega)
    have hright := F.steps_strictMono (show pattern + 1 < p by omega)
    have hbetween := h.nearest (pattern + 1)
    omega

theorem nearestToSteps_le (F : BinaryFormat) (n : Nat) :
    F.nearestToSteps n ≤ (Nat.log2 n - F.fractionBits + 2) * twoTo F.fractionBits := by
  rw [nearestToSteps, Nat.add_mul]
  exact Nat.add_le_add_left (F.significand_bounds n).1 _

section Reading

variable {bits m : Nat} {negative : Bool} {e : Int}

/-- A finite number is its count of smallest steps, with its sign. -/
theorem steps_of_read (h : F.read bits = .finite negative m e) :
    negative = decide (F.signWeight ≤ bits) ∧ bits % F.signWeight < F.infinity ∧ F.leastExponent ≤ e ∧
      F.steps (bits % F.signWeight) = m * twoTo (e - F.leastExponent).toNat := by
  simp only [read] at h
  split at h
  · cases h
  · split at h
    · cases h
    · have hsplit := Nat.div_add_mod' (bits % F.signWeight) (twoTo F.fractionBits)
      refine ⟨?_, by omega, ?_, ?_⟩
      · split at h <;> cases h <;> rfl
      · split at h <;> cases h <;> omega
      · rw [steps]
        split at h
        · rename_i hfield
          cases h
          simp only [hfield, Nat.zero_mul, Nat.zero_add, Nat.zero_sub, Int.sub_self, Int.toNat_zero] at hsplit ⊢
          rw [hsplit, Nat.sub_zero]
        · rename_i hfield
          cases h
          have hunit : (F.leastExponent + ((bits % F.signWeight / twoTo F.fractionBits - 1 : Nat) : Int) -
              F.leastExponent).toNat = bits % F.signWeight / twoTo F.fractionBits - 1 := by omega
          rw [hunit]
          congr 1
          rw [Nat.sub_mul]
          have hle := Nat.le_mul_of_pos_left (twoTo F.fractionBits) (Nat.pos_of_ne_zero hfield)
          omega

theorem exists_read (h : bits % F.signWeight < F.infinity) :
    ∃ negative m e, F.read bits = .finite negative m e := by
  simp only [read]
  rw [if_neg (by omega), if_neg (by omega)]
  split
  · exact ⟨_, _, _, rfl⟩
  · exact ⟨_, _, _, rfl⟩

end Reading

end BinaryFormat

end MarketBars
