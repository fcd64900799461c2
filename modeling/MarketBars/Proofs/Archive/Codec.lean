import Mathlib.Tactic.NormNum
import MarketBars.Proofs.Archive.Overflow
import MarketBars.Proofs.Number.Values

/-!
# Feature files and their series

A feature file is the bytes of its numbers, whatever they are. It is a series when the first number is a
natural number; a series that is written is read back with the same values, from a position that went through
single precision; and a file that was read is written as it was, unless its first number is beyond the
positions or a zero with a sign.
-/

namespace MarketBars

namespace FeatureSeries

variable {bytes : List UInt8} {s : FeatureSeries} {first : Binary32} {numbers values : List Binary32}

/-- The number of the first four bytes, lowest byte first. -/
def firstNumber? : List UInt8 → Option Binary32
  | a :: b :: c :: d :: _ => some (Binary32.ofBytes a b c d)
  | _ => none

theorem toBytes_ofBytes (a b c d : UInt8) : (Binary32.ofBytes a b c d).toBytes = [a, b, c, d] := by
  have ha := a.toNat_lt
  have hb := b.toNat_lt
  have hc := c.toNat_lt
  have hd := d.toNat_lt
  have hbits : (Binary32.ofBytes a b c d).bits.toNat =
      a.toNat + 256 * (b.toNat + 256 * (c.toNat + 256 * d.toNat)) := by
    rw [Binary32.ofBytes, Binary32.ofBits, UInt32.toNat_ofNat']
    omega
  simp only [Binary32.toBytes, hbits, List.cons.injEq, and_true, ← UInt8.toNat_inj, UInt8.toNat_ofNat']
  omega

theorem numbers?_eq_some_iff : numbers? bytes = some numbers ↔ bytes = numbers.flatMap Binary32.toBytes := by
  constructor
  · intro h
    induction bytes using numbers?.induct generalizing numbers with
    | case1 =>
      cases h
      rfl
    | case2 a b c d rest ih =>
      obtain ⟨more, hmore, rfl⟩ := Option.map_eq_some_iff.mp h
      rw [List.flatMap_cons, toBytes_ofBytes, ← ih hmore]
      rfl
    | case3 bytes hnil hfour => simp [numbers?] at h
  · rintro rfl
    exact numbers?_flatMap_toBytes numbers

theorem exists_numbers?_iff : (∃ numbers, numbers? bytes = some numbers) ↔ bytes.length % 4 = 0 := by
  constructor
  · rintro ⟨numbers, hnumbers⟩
    have hlength := length_numbers? hnumbers
    omega
  · intro h
    induction bytes using numbers?.induct with
    | case1 => exact ⟨[], rfl⟩
    | case2 a b c d rest ih =>
      obtain ⟨more, hmore⟩ := ih (by simpa [Nat.add_assoc] using h)
      exact ⟨Binary32.ofBytes a b c d :: more, by rw [numbers?, hmore, Option.map_some]⟩
    | case3 bytes hnil hfour =>
      -- One, two or three bytes are left.
      rcases bytes with _ | ⟨a, _ | ⟨b, _ | ⟨c, _ | ⟨d, rest⟩⟩⟩⟩
      · exact absurd rfl hnil
      · cases h
      · cases h
      · cases h
      · exact absurd rfl (hfour a b c d rest)

theorem decode_ok_iff :
    decode bytes = .ok s ↔ ∃ first, bytes = (first :: s.values.toList).flatMap Binary32.toBytes ∧
      first.index? = some s.start := by
  rw [decode_eq_ok_iff]
  constructor
  · rintro ⟨first, values, hnumbers, hstart, hvalues⟩
    exact ⟨first, by rw [hvalues]; exact numbers?_eq_some_iff.mp hnumbers, hstart⟩
  · rintro ⟨first, hbytes, hstart⟩
    exact ⟨first, _, numbers?_eq_some_iff.mpr hbytes, hstart, rfl⟩

theorem firstNumber?_flatMap (first : Binary32) (values : List Binary32) :
    firstNumber? ((first :: values).flatMap Binary32.toBytes) = some first :=
  congrArg some (Binary32.ofBytes_toBytes first)

/-- A file is read when it is made of numbers of which the first is a natural number. -/
theorem exists_decode_iff :
    (∃ s, decode bytes = .ok s) ↔ 0 < bytes.length ∧ bytes.length % 4 = 0 ∧
      ∃ (first : Binary32) (i : Int), firstNumber? bytes = some first ∧ first.value? = some (i : ℚ) ∧ 0 ≤ i := by
  constructor
  · rintro ⟨s, hs⟩
    obtain ⟨first, hbytes, hstart⟩ := decode_ok_iff.mp hs
    obtain ⟨k, hk, -⟩ := Binary32.index?_eq_some_iff.mp hstart
    have hnumbers := numbers?_eq_some_iff.mpr hbytes
    have hlength := length_numbers? hnumbers
    rw [List.length_cons] at hlength
    refine ⟨by omega, by omega, first, k, ?_, hk, Int.natCast_nonneg k⟩
    rw [hbytes, firstNumber?_flatMap]
  · rintro ⟨hpos, hfours, first, i, hfirst, hvalue, hnonneg⟩
    obtain ⟨numbers, hnumbers⟩ := exists_numbers?_iff.mpr hfours
    have hbytes := numbers?_eq_some_iff.mp hnumbers
    cases numbers with
    | nil =>
      rw [hbytes] at hpos
      cases hpos
    | cons head values =>
      rw [hbytes, firstNumber?_flatMap] at hfirst
      obtain rfl := Option.some.inj hfirst
      obtain ⟨k, rfl⟩ := Int.eq_ofNat_of_zero_le hnonneg
      exact ⟨⟨min k Binary32.maxIndex, values.toArray⟩,
        decode_ok_iff.mpr ⟨head, hbytes, Binary32.index?_eq_some_iff.mpr ⟨k, hvalue, rfl⟩⟩⟩

theorem decode_encode {start k : Nat} (h : (Binary32.ofNat start).value? = some (k : ℚ))
    (values : List Binary32) :
    decode (encode start values) = .ok ⟨min k Binary32.maxIndex, values.toArray⟩ :=
  decode_ok_iff.mpr ⟨Binary32.ofNat start, rfl, Binary32.index?_eq_some_iff.mpr ⟨k, h, rfl⟩⟩

/-- A file that is read is written as it was, unless its first number is beyond the positions or a zero with a
sign. -/
theorem encode_decode {v : ℚ} (hs : decode bytes = .ok s) (hfirst : firstNumber? bytes = some first)
    (hv : first.value? = some v) (hlt : v < 2 ^ 64) (hzero : first ≠ Binary32.negativeZero) :
    encode s.start s.values.toList = bytes := by
  obtain ⟨head, hbytes, hindex⟩ := decode_ok_iff.mp hs
  rw [hbytes, firstNumber?_flatMap] at hfirst
  obtain rfl := Option.some.inj hfirst
  obtain ⟨k, hk, hsaturated⟩ := Binary32.index?_eq_some_iff.mp hindex
  have hvalue : v = (k : ℚ) := Option.some.inj (hv.symm.trans hk)
  have hend : Binary32.maxIndex + 1 = 2 ^ 64 := by decide
  have hsmall : k < 2 ^ 64 := by
    rw [hvalue] at hlt
    exact_mod_cast hlt
  rw [hsaturated, Nat.min_eq_left (by omega), encode, Binary32.ofNat_eq_of_value? hk (by omega) hzero, hbytes]

/-- A file is a series exactly when it is made of numbers of which the first is finite, whole and not below
zero. A series that is written is read back with its values and with its first position rounded to nearest,
up to the largest position. A file that is read is written as it was when its first number is below 2 ^ 64
and is not a zero with a sign. -/
theorem codec_laws :
    (∀ bytes : List UInt8, (∃ s, decode bytes = .ok s) ↔ 0 < bytes.length ∧ bytes.length % 4 = 0 ∧
      ∃ (first : Binary32) (i : Int),
        firstNumber? bytes = some first ∧ first.value? = some (i : ℚ) ∧ 0 ≤ i) ∧
    (∀ (start : Nat) (values : List Binary32), start ≤ Binary32.maxIndex →
      (∃ x : Binary32, x.IsNearest start) ∧
      (∀ x : Binary32, x.IsNearest start → ∃ k : Nat, x.value? = some (k : ℚ) ∧
        decode (encode start values) = .ok ⟨min k Binary32.maxIndex, values.toArray⟩) ∧
      (start ≤ twoTo 24 → decode (encode start values) = .ok ⟨start, values.toArray⟩)) ∧
    (∀ (bytes : List UInt8) (s : FeatureSeries) (first : Binary32) (v : ℚ), decode bytes = .ok s →
      firstNumber? bytes = some first → first.value? = some v → v < 2 ^ 64 → first ≠ Binary32.negativeZero →
      encode s.start s.values.toList = bytes) := by
  refine ⟨fun _ => exists_decode_iff, fun start values hstart => ⟨?_, ?_, ?_⟩, ?_⟩
  · exact ⟨Binary32.ofNat start, Binary32.isNearest_ofNat hstart⟩
  · intro x hx
    obtain ⟨k, hk⟩ := Binary32.exists_natCast_ofNat hstart
    exact ⟨k, by rw [hx.value?_eq hstart, hk], decode_encode hk values⟩
  · intro hexact
    rw [decode_encode (Binary32.value?_ofNat_of_le hexact), Nat.min_eq_left hstart]
  · intro bytes s first v hs hfirst hv hlt hzero
    exact encode_decode hs hfirst hv hlt hzero

/-- The file of the number 2 ^ 24 and a NaN. -/
def evenFile : List UInt8 := [0x00, 0x00, 0x80, 0x4b, 0x01, 0x00, 0xc0, 0xff]

/-- The position 2 ^ 24 + 1 is written as the even one of its neighbours, which is read back from the file and
written to it again. -/
theorem codec_laws_evenFile :
    (∃ x : Binary32, x.IsNearest (16777217 : Nat) ∧ x.value? = some 16777216) ∧
    encode 16777217 [⟨0xffc00001⟩] = evenFile ∧
    decode evenFile = .ok ⟨16777216, #[⟨0xffc00001⟩]⟩ ∧
    encode 16777216 [⟨0xffc00001⟩] = evenFile := by
  have hfile : encode 16777217 [⟨0xffc00001⟩] = evenFile := by decide
  have hread : decode evenFile = .ok ⟨16777216, #[⟨0xffc00001⟩]⟩ := by decide
  have hvalue : (⟨0x4b800000⟩ : Binary32).value? = some 16777216 := by
    show some ((8388608 : ℚ) * 2 ^ (1 : Int)) = _
    norm_num
  obtain ⟨⟨x, hx⟩, hdecode, -⟩ := codec_laws.2.1 16777217 [⟨0xffc00001⟩] (by decide)
  obtain ⟨k, hk, hstart⟩ := hdecode x hx
  rw [hfile, hread] at hstart
  have hmin : 16777216 = min k Binary32.maxIndex := congrArg start (Except.ok.inj hstart)
  have hmax : Binary32.maxIndex = 18446744073709551615 := by decide
  have hlt : (16777216 : ℚ) < 2 ^ 64 := by norm_num
  have hk' : x.value? = some 16777216 := by
    rw [hk, show k = 16777216 by omega]
    norm_num
  exact ⟨⟨x, hx, hk'⟩, hfile, hread, codec_laws.2.2 evenFile ⟨16777216, #[⟨0xffc00001⟩]⟩ ⟨0x4b800000⟩
    16777216 hread (by decide) hvalue hlt (by decide)⟩

end FeatureSeries

end MarketBars
