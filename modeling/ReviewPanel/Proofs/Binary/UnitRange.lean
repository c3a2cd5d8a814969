import ReviewPanel.Proofs.Binary.ExactRounding

/-! # Numbers from zero to one

The patterns of a format have the order of their numbers. So clamping, which compares patterns, leaves a number
from zero to one, and leaves alone what is in that range. -/
namespace ReviewPanel

namespace Binary.Format

variable {f : Format}

theorem value_magnitude_lt_succ (p : ℕ) : (f.magnitude p).value < (f.magnitude (p + 1)).value := by
  have hgrow {m n : ℕ} (e : ℤ) (h : m < n) : Scaled.value ⟨m, e⟩ < Scaled.value ⟨n, e⟩ :=
    mul_lt_mul_of_pos_right (Nat.cast_lt.mpr h) (two_zpow_pos e)
  rcases f.pattern_cases p with h | ⟨k, r, h, rfl⟩
  · rw [magnitude_of_lt h]
    rcases Nat.lt_or_ge (p + 1) (2 ^ (f.precision - 1)) with hnext | hnext
    · rw [magnitude_of_lt hnext]
      exact hgrow _ p.lt_succ_self
    · have hunit : p + 1 = (0 + 1) * 2 ^ (f.precision - 1) + 0 := by omega
      rw [hunit, magnitude_of_add (Nat.two_pow_pos _), Nat.cast_zero, Int.add_zero]
      exact hgrow _ h
  · rw [magnitude_of_add h]
    rcases Nat.lt_or_ge (r + 1) (2 ^ (f.precision - 1)) with hnext | hnext
    · rw [Nat.add_assoc, magnitude_of_add hnext]
      exact hgrow _ (by omega)
    · have hunit : (k + 1) * 2 ^ (f.precision - 1) + r + 1 = (k + 1 + 1) * 2 ^ (f.precision - 1) + 0 := by
        rw [Nat.add_mul (k + 1) 1]
        omega
      rw [hunit, magnitude_of_add (Nat.two_pow_pos _), Scaled.value, Scaled.value, Nat.cast_succ, ← add_assoc,
        two_zpow_succ, ← mul_assoc]
      refine mul_lt_mul_of_pos_right ?_ (two_zpow_pos _)
      exact_mod_cast (by omega : 2 ^ (f.precision - 1) + r < (2 ^ (f.precision - 1) + 0) * 2)

theorem value_magnitude_strictMono (f : Format) : StrictMono fun p => (f.magnitude p).value :=
  strictMono_nat_of_lt_succ value_magnitude_lt_succ

end Binary.Format

namespace Single

open Binary

/-- The number itself, if the pattern is finite. -/
def value (x : Single) : ℚ := (if x.isNegative then -1 else 1) * (single.magnitude x.pattern).value

/-- A finite number from zero to one. -/
structure InUnitRange (x : Single) : Prop where
  finite : x.isFinite = true
  nonneg : 0 ≤ x.value
  le_one : x.value ≤ 1

theorem value_magnitude_zero : (single.magnitude 0).value = 0 := by
  rw [Format.magnitude_of_lt (Nat.two_pow_pos _), Scaled.value, Nat.cast_zero, zero_mul]

theorem value_magnitude_one : (single.magnitude one.pattern).value = 1 := by
  have hone : single.magnitude one.pattern = ⟨2 ^ 23, -23⟩ := by decide
  rw [hone, Scaled.value]
  norm_num

/-- Below zero is only the negative zero, and above it nothing beyond the pattern of one. -/
theorem inUnitRange_iff {x : Single} : x.InUnitRange ↔
    (x.isNegative = true → x.pattern = 0) ∧ (x.isNegative = false → x.pattern ≤ one.pattern) := by
  have hmono := single.value_magnitude_strictMono
  constructor
  · rintro ⟨-, hnonneg, hle⟩
    constructor
    · intro negative
      by_contra hzero
      have hpos := hmono (Nat.pos_of_ne_zero hzero)
      rw [value, if_pos negative] at hnonneg
      simp only [value_magnitude_zero] at hpos
      linarith
    · intro positive
      rw [value, if_neg (by simp [positive]), one_mul, ← value_magnitude_one] at hle
      exact hmono.le_iff_le.mp hle
  · rintro ⟨hnegative, hpositive⟩
    rw [Bool.eq_false_iff] at hpositive
    by_cases negative : x.isNegative = true
    · have hvalue : x.value = 0 := by rw [value, hnegative negative, value_magnitude_zero, mul_zero]
      have hfinite : x.isFinite = true := decide_eq_true (hnegative negative ▸ by decide)
      exact ⟨hfinite, hvalue.ge, hvalue.trans_le zero_le_one⟩
    · have hle := hpositive negative
      have hvalue : x.value = (single.magnitude x.pattern).value := by rw [value, if_neg negative, one_mul]
      refine ⟨decide_eq_true (Nat.lt_of_le_of_lt hle (by decide)), ?_, ?_⟩
      · exact hvalue.symm ▸ Scaled.value_nonneg _
      · rw [hvalue, ← value_magnitude_one]
        exact hmono.le_iff_le.mpr hle

theorem inUnitRange_zero : zero.InUnitRange := inUnitRange_iff.mpr (by decide)

theorem inUnitRange_half : half.InUnitRange := inUnitRange_iff.mpr (by decide)

theorem inUnitRange_one : one.InUnitRange := inUnitRange_iff.mpr (by decide)

theorem inUnitRange_clamp (x : Single) : x.clamp.InUnitRange := by
  rw [clamp]
  split
  · exact inUnitRange_zero
  · next hlow =>
    split
    · exact inUnitRange_one
    · next hhigh =>
      refine inUnitRange_iff.mpr ⟨fun negative => ?_, fun positive => ?_⟩
      · simpa [negative] using hlow
      · simpa [positive] using hhigh

/-- Clamping leaves a number alone that is in the range. -/
theorem InUnitRange.clamp_eq {x : Single} (h : x.InUnitRange) : x.clamp = x := by
  obtain ⟨hnegative, hpositive⟩ := inUnitRange_iff.mp h
  rw [clamp, if_neg, if_neg]
  · rintro hhigh
    simp only [Bool.and_eq_true, Bool.not_eq_true', decide_eq_true_eq] at hhigh
    exact absurd (hpositive hhigh.1) (Nat.not_le.mpr hhigh.2)
  · intro hlow
    simp only [Bool.and_eq_true, bne_iff_ne] at hlow
    exact hlow.2 (hnegative hlow.1)

/-- Clamping moves a number to the nearest one in the range. -/
theorem value_clamp (x : Single) : x.clamp.value = max 0 (min 1 x.value) := by
  have hmono := single.value_magnitude_strictMono
  have hzero : zero.value = 0 := by
    rw [value, if_neg (by decide), one_mul]
    exact value_magnitude_zero
  have hone : one.value = 1 := by rw [value, if_neg (by decide), one_mul, value_magnitude_one]
  by_cases hrange : x.InUnitRange
  · rw [hrange.clamp_eq, min_eq_right hrange.le_one, max_eq_right hrange.nonneg]
  · cases hsign : x.isNegative with
    | true =>
      have hne : x.pattern ≠ 0 := fun h => hrange (inUnitRange_iff.mpr ⟨fun _ => h, by simp [hsign]⟩)
      have hpos := hmono (Nat.pos_of_ne_zero hne)
      simp only [value_magnitude_zero] at hpos
      have hvalue : x.value ≤ 0 := by
        rw [value, if_pos hsign]
        linarith
      rw [clamp, if_pos (by simp [hsign, hne]), hzero, max_eq_left ((min_le_right _ _).trans hvalue)]
    | false =>
      have hlt : one.pattern < x.pattern :=
        not_le.mp fun h => hrange (inUnitRange_iff.mpr ⟨by simp [hsign], fun _ => h⟩)
      have hvalue : 1 ≤ x.value := by
        rw [value, if_neg (by simp [hsign]), one_mul, ← value_magnitude_one]
        exact (hmono hlt).le
      rw [clamp, if_neg (by simp [hsign]), if_pos (by simp [hsign, hlt]), hone, min_eq_left hvalue,
        max_eq_right zero_le_one]

end Single

end ReviewPanel
