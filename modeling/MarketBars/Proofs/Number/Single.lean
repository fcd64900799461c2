import MarketBars.Number.Binary32

namespace MarketBars

theorem twoTo_add (a b : Nat) : twoTo (a + b) = twoTo a * twoTo b :=
  Nat.pow_add 2 a b

theorem twoTo_toNat_of_nonpos {e : Int} (h : e ≤ 0) : twoTo e.toNat = 1 := by
  rw [Int.toNat_of_nonpos h]
  rfl

/-- A number of a few bits, scaled by a power of two, keeps away from the powers of two above it. -/
theorem mul_twoTo_add_le {m p k q : Nat} (hm : m < twoTo p) (h : m * twoTo k < twoTo (p + q)) :
    m * twoTo k + twoTo q ≤ twoTo (p + q) := by
  rw [twoTo_add] at h ⊢
  -- Either way, the scaled number is at most a multiple of the smaller power.
  obtain ⟨c, hc, hle⟩ : ∃ c, c < twoTo p ∧ m * twoTo k ≤ c * twoTo q := by
    by_cases hk : k ≤ q
    · exact ⟨m, hm, Nat.mul_le_mul_left m (Nat.pow_le_pow_right (by decide) hk)⟩
    · have hsplit : twoTo k = twoTo (k - q) * twoTo q := by
        rw [← twoTo_add]
        congr 1
        omega
      rw [hsplit, ← Nat.mul_assoc] at h ⊢
      exact ⟨m * twoTo (k - q), Nat.lt_of_mul_lt_mul_right h, Nat.le_refl _⟩
  calc m * twoTo k + twoTo q ≤ c * twoTo q + twoTo q := Nat.add_le_add_right hle _
    _ = (c + 1) * twoTo q := (Nat.succ_mul c _).symm
    _ ≤ twoTo p * twoTo q := Nat.mul_le_mul_right _ hc

namespace BinaryFormat

variable {F : BinaryFormat} {bits m : Nat} {negative : Bool} {e : Int}

theorem infinity_lt_signWeight (F : BinaryFormat) : F.infinity < F.signWeight := by
  rw [signWeight, Nat.add_comm, twoTo_add, infinity]
  refine Nat.mul_lt_mul_of_pos_right ?_ (twoTo_pos _)
  have hpos := twoTo_pos F.exponentBits
  omega

/-- The significand of a finite number has one bit more than its fraction. -/
theorem lt_of_read (h : F.read bits = .finite negative m e) : m < twoTo (F.fractionBits + 1) := by
  have hfraction : bits % F.signWeight % twoTo F.fractionBits < twoTo F.fractionBits :=
    Nat.mod_lt _ (twoTo_pos _)
  rw [twoTo_succ]
  simp only [read] at h
  split at h
  · cases h
  · split at h
    · cases h
    · split at h
      · cases h
        omega
      · cases h
        omega

theorem read_eq_nan_iff : F.read bits = .nan ↔ F.infinity < bits % F.signWeight := by
  simp only [read]
  split
  · simp [*]
  · split
    · simp [*]
    · split <;> simp [*]

end BinaryFormat

namespace Binary64

/-- Rounding gives a number or an infinity. -/
theorem isNaN_nearest (negative : Bool) (m : Nat) (e : Int) : (nearest negative m e).isNaN = false := by
  have hle := BinaryFormat.double.nearestMagnitude_le m e
  have hlt := BinaryFormat.double.infinity_lt_signWeight
  have hweight : BinaryFormat.double.signWeight = 9223372036854775808 := by decide
  have hbits : (nearest negative m e).bits.toNat % BinaryFormat.double.signWeight =
      BinaryFormat.double.nearestMagnitude m e := by
    simp only [nearest, ofBits, BinaryFormat.nearest, UInt64.toNat_ofNat', hweight] at hlt ⊢
    split <;> omega
  rw [isNaN, hbits]
  exact decide_eq_false (by omega)

end Binary64

namespace Binary32

/-- Only a NaN is widened to a NaN. -/
theorem isNaN_widen {x : Binary32} (h : x.isNaN = false) : x.widen.isNaN = false := by
  rw [widen]
  split
  · rename_i hnan
    rw [isNaN, decide_eq_false_iff_not, ← BinaryFormat.read_eq_nan_iff] at h
    exact absurd hnan h
  · rename_i negative _
    cases negative <;> decide
  · exact Binary64.isNaN_nearest _ _ _

/-- A number is at least 2 ^ 64. -/
def IsBeyond (x : Binary32) : Prop :=
  ∃ m e, x.read = .finite false m e ∧ twoTo 64 ≤ m * twoTo e.toNat

/-- The numbers from 2 ^ 64 on stand for the largest position, and no other number stands for one close to
it. -/
theorem index?_bounds {x : Binary32} {n : Nat} (h : x.index? = some n) :
    (x.IsBeyond ∧ n = maxIndex) ∨ (¬ x.IsBeyond ∧ n + twoTo 40 ≤ maxIndex + 1) := by
  have hmax : maxIndex = 18446744073709551615 := by decide
  have hend : twoTo 64 = 18446744073709551616 := by decide
  have hgap : twoTo 40 = 1099511627776 := by decide
  rw [index?] at h
  split at h
  · cases h
  · cases h
  · rename_i negative m e hread
    have hm : m < twoTo 24 := BinaryFormat.lt_of_read hread
    have hfew : twoTo 24 = 16777216 := by decide
    have hbeyond : x.IsBeyond ↔ negative = false ∧ twoTo 64 ≤ m * twoTo e.toNat := by
      rw [IsBeyond, hread]
      constructor
      · rintro ⟨m', e', heq, hle⟩
        cases heq
        exact ⟨rfl, hle⟩
      · rintro ⟨rfl, hle⟩
        exact ⟨m, e, rfl, hle⟩
    rw [hbeyond]
    split at h
    · cases h
    · rename_i hsign
      split at h
      · cases h
        by_cases hlt : m * twoTo e.toNat < twoTo 64
        · have hle := mul_twoTo_add_le (q := 40) hm hlt
          have hsum : twoTo (24 + 40) = twoTo 64 := rfl
          exact Or.inr (by omega)
        · have hpos : m ≠ 0 := by
            rintro rfl
            omega
          have hplus : negative = false := by simpa [hpos] using hsign
          exact Or.inl ⟨⟨hplus, by omega⟩, by omega⟩
      · rename_i hsmall
        split at h
        · cases h
          have hle := Nat.div_le_self m (twoTo (-e).toNat)
          rw [twoTo_toNat_of_nonpos (by omega)]
          exact Or.inr (by omega)
        · cases h

theorem index?_of_isBeyond {x : Binary32} (h : x.IsBeyond) : x.index? = some maxIndex := by
  obtain ⟨m, e, hread, hle⟩ := h
  have hm : m < twoTo 24 := BinaryFormat.lt_of_read hread
  have hlarge : 0 ≤ e := by
    refine Int.not_lt.mp fun hneg => ?_
    have hlt : twoTo 24 < twoTo 64 := by decide
    rw [twoTo_toNat_of_nonpos (by omega)] at hle
    omega
  have hmin : min (m * twoTo e.toNat) maxIndex = maxIndex :=
    Nat.min_eq_right (Nat.le_trans (Nat.sub_le _ 1) hle)
  simp only [index?, hread, Bool.false_and, Bool.false_eq_true, if_false, if_pos hlarge, hmin]

end Binary32

end MarketBars
