import Mathlib.Algebra.Order.Field.Power
import Mathlib.Data.Rat.Cast.Order
import Mathlib.Order.Monotone.Basic
import Mathlib.Tactic.FieldSimp
import Mathlib.Tactic.Linarith
import Mathlib.Tactic.NormNum
import Mathlib.Tactic.Positivity
import Mathlib.Tactic.Ring
import ReviewPanel.Binary.Numbers

/-! # Numbers that need no rounding

Every pattern of a format has one normal form, a mantissa and an exponent, and rounding takes a number with a
normal form to its pattern. The numbers of the narrow format have normal forms in the wide one, so they come
back unchanged from it. -/
namespace ReviewPanel.Binary

/-! ## Powers of two -/

theorem two_zpow_eq_div (e : ℤ) : (2 : ℚ) ^ e = (2 ^ e.toNat : ℕ) / (2 ^ (-e).toNat : ℕ) := by
  obtain ⟨n, rfl | rfl⟩ := e.eq_nat_or_neg
  · simp
  · simp [zpow_neg]

theorem two_zpow_pos (e : ℤ) : (0 : ℚ) < 2 ^ e := zpow_pos (by norm_num) e

theorem two_zpow_lt_iff {d e : ℤ} : (2 : ℚ) ^ d < 2 ^ e ↔ d < e := zpow_lt_zpow_iff_right₀ (by norm_num)

theorem two_zpow_succ (e : ℤ) : (2 : ℚ) ^ (e + 1) = 2 * 2 ^ e := by
  rw [zpow_add_one₀ (by norm_num), mul_comm]

/-- A power of two compared with a quotient, as the comparison is computed. -/
theorem mul_two_pow_le_iff {num den : ℕ} (hden : 0 < den) (e : ℤ) :
    den * Nat.pow 2 e.toNat ≤ num * Nat.pow 2 (-e).toNat ↔ (2 : ℚ) ^ e ≤ num / den := by
  have hden' : (0 : ℚ) < den := Nat.cast_pos.mpr hden
  have hpow : (0 : ℚ) < (2 ^ (-e).toNat : ℕ) := by positivity
  rw [two_zpow_eq_div, div_le_div_iff₀ hpow hden', ← Nat.cast_mul, ← Nat.cast_mul, Nat.cast_le, Nat.mul_comm den]
  rfl

theorem floorLog_spec {num den : ℕ} (hnum : 0 < num) (hden : 0 < den) :
    (2 : ℚ) ^ floorLog num den ≤ num / den ∧ (num / den : ℚ) < 2 ^ (floorLog num den + 1) := by
  have hnum' : (0 : ℚ) < num := Nat.cast_pos.mpr hnum
  have hden' : (0 : ℚ) < den := Nat.cast_pos.mpr hden
  have hnumLow : (2 : ℚ) ^ (num.log2 : ℤ) ≤ num := by exact_mod_cast Nat.log2_self_le hnum.ne'
  have hnumHigh : (num : ℚ) < 2 ^ (num.log2 + 1 : ℤ) := by exact_mod_cast Nat.lt_log2_self
  have hdenLow : (2 : ℚ) ^ (den.log2 : ℤ) ≤ den := by exact_mod_cast Nat.log2_self_le hden.ne'
  have hdenHigh : (den : ℚ) < 2 ^ (den.log2 + 1 : ℤ) := by exact_mod_cast Nat.lt_log2_self
  -- the logarithms leave an error of one either way, and the comparison decides which of the two holds
  have hlow : (2 : ℚ) ^ ((num.log2 : ℤ) - den.log2 - 1) ≤ num / den := by
    rw [le_div_iff₀ hden']
    calc (2 : ℚ) ^ ((num.log2 : ℤ) - den.log2 - 1) * den
        ≤ 2 ^ ((num.log2 : ℤ) - den.log2 - 1) * 2 ^ (den.log2 + 1 : ℤ) :=
          mul_le_mul_of_nonneg_left hdenHigh.le (two_zpow_pos _).le
      _ = 2 ^ (num.log2 : ℤ) := by
          rw [← zpow_add₀ (by norm_num)]
          congr 1
          ring
      _ ≤ num := hnumLow
  have hhigh : (num / den : ℚ) < 2 ^ ((num.log2 : ℤ) - den.log2 + 1) := by
    rw [div_lt_iff₀ hden']
    calc (num : ℚ) < 2 ^ (num.log2 + 1 : ℤ) := hnumHigh
      _ = 2 ^ ((num.log2 : ℤ) - den.log2 + 1) * 2 ^ (den.log2 : ℤ) := by
          rw [← zpow_add₀ (by norm_num)]
          congr 1
          ring
      _ ≤ 2 ^ ((num.log2 : ℤ) - den.log2 + 1) * den :=
          mul_le_mul_of_nonneg_left hdenLow (two_zpow_pos _).le
  rw [floorLog]
  split
  · next h => exact ⟨(mul_two_pow_le_iff hden _).mp h, hhigh⟩
  · next h =>
    rw [mul_two_pow_le_iff hden, not_le] at h
    rw [sub_add_cancel]
    exact ⟨hlow, h⟩

theorem floorLog_eq {num den : ℕ} (hden : 0 < den) {e : ℤ} (hlow : (2 : ℚ) ^ e ≤ num / den)
    (hhigh : (num / den : ℚ) < 2 ^ (e + 1)) : floorLog num den = e := by
  have hnum : 0 < num := by
    by_contra hzero
    rw [Nat.eq_zero_of_not_pos hzero, Nat.cast_zero, zero_div] at hlow
    exact absurd hlow (not_le.mpr (two_zpow_pos e))
  obtain ⟨hlow', hhigh'⟩ := floorLog_spec hnum hden
  have hle := two_zpow_lt_iff.mp (hlow.trans_lt hhigh')
  have hge := two_zpow_lt_iff.mp (hlow'.trans_lt hhigh)
  omega

theorem roundQuotient_mul (k : ℕ) {den : ℕ} (hden : 0 < den) : roundQuotient (k * den) den = k := by
  have hrest : k * den % den = 0 := Nat.mul_mod_left k den
  have hquotient : k * den / den = k := Nat.mul_div_cancel k hden
  simp only [roundQuotient, hrest, hquotient, Nat.mul_zero, if_pos hden]

/-! ## Normal forms -/

namespace Scaled

/-- The number itself. -/
def value (x : Scaled) : ℚ := x.mantissa * 2 ^ x.exponent

theorem denominator_pos (x : Scaled) : 0 < x.denominator := Nat.two_pow_pos _

theorem numerator_div_denominator (x : Scaled) : (x.numerator / x.denominator : ℚ) = x.value := by
  rw [value, two_zpow_eq_div, numerator, denominator, Nat.cast_mul, mul_div_assoc]
  rfl

theorem value_nonneg (x : Scaled) : 0 ≤ x.value := mul_nonneg (Nat.cast_nonneg _) (two_zpow_pos _).le

end Scaled

namespace Format

variable {f : Format}

/-- The mantissa fits into the format, and it is as great as the least exponent allows. -/
structure Normal (f : Format) (x : Scaled) : Prop where
  lt : x.mantissa < 2 ^ f.precision
  lowest_le : f.lowest ≤ x.exponent
  full : x.exponent = f.lowest ∨ 2 ^ (f.precision - 1) ≤ x.mantissa

/-- The pattern of a normal form. -/
def patternOf (f : Format) (x : Scaled) : ℕ :=
  (x.exponent - f.lowest).toNat * 2 ^ (f.precision - 1) + x.mantissa

theorem two_pow_precision (hf : 0 < f.precision) : 2 ^ f.precision = 2 * 2 ^ (f.precision - 1) := by
  rw [← Nat.pow_succ', Nat.succ_eq_add_one, Nat.sub_add_cancel hf]

theorem magnitude_of_lt {p : ℕ} (h : p < 2 ^ (f.precision - 1)) : f.magnitude p = ⟨p, f.lowest⟩ := by
  have hfield : p / Nat.pow 2 (f.precision - 1) = 0 := Nat.div_eq_of_lt h
  simp only [magnitude, hfield, if_true]

theorem magnitude_of_add {k r : ℕ} (h : r < 2 ^ (f.precision - 1)) :
    f.magnitude ((k + 1) * 2 ^ (f.precision - 1) + r) = ⟨2 ^ (f.precision - 1) + r, f.lowest + k⟩ := by
  have hunit : 0 < 2 ^ (f.precision - 1) := Nat.two_pow_pos _
  have hfield : ((k + 1) * 2 ^ (f.precision - 1) + r) / 2 ^ (f.precision - 1) = k + 1 := by
    rw [Nat.add_comm, Nat.add_mul_div_right _ _ hunit, Nat.div_eq_of_lt h, Nat.zero_add]
  have hrest : ((k + 1) * 2 ^ (f.precision - 1) + r) % 2 ^ (f.precision - 1) = r := by
    rw [Nat.add_comm, Nat.add_mul_mod_self_right, Nat.mod_eq_of_lt h]
  simp only [magnitude, Nat.pow_eq, hfield, hrest, Nat.succ_ne_zero, if_false, Nat.add_sub_cancel]
  rw [Nat.add_comm r]

/-- A pattern lies below the least full mantissa, or it counts the exponents and the rest of a full one. -/
theorem pattern_cases (f : Format) (p : ℕ) : p < 2 ^ (f.precision - 1) ∨
    ∃ k r, r < 2 ^ (f.precision - 1) ∧ p = (k + 1) * 2 ^ (f.precision - 1) + r := by
  have hunit : 0 < 2 ^ (f.precision - 1) := Nat.two_pow_pos _
  rcases Nat.lt_or_ge p (2 ^ (f.precision - 1)) with h | h
  · exact .inl h
  · have hdiv : 0 < p / 2 ^ (f.precision - 1) := Nat.div_pos h hunit
    refine .inr ⟨p / 2 ^ (f.precision - 1) - 1, p % 2 ^ (f.precision - 1), Nat.mod_lt _ hunit, ?_⟩
    rw [Nat.sub_add_cancel hdiv, Nat.mul_comm]
    exact (Nat.div_add_mod p _).symm

theorem normal_magnitude (hf : 0 < f.precision) (p : ℕ) : f.Normal (f.magnitude p) := by
  have hprecision := two_pow_precision hf
  rcases f.pattern_cases p with h | ⟨k, r, h, rfl⟩
  · rw [magnitude_of_lt h]
    exact ⟨by simp only; omega, Int.le_refl _, .inl rfl⟩
  · rw [magnitude_of_add h]
    exact ⟨by simp only; omega, by simp only; omega, .inr (by simp only; omega)⟩

theorem patternOf_magnitude (f : Format) (p : ℕ) : f.patternOf (f.magnitude p) = p := by
  rcases f.pattern_cases p with h | ⟨k, r, h, rfl⟩
  · simp [magnitude_of_lt h, patternOf]
  · rw [magnitude_of_add h, patternOf]
    simp only [add_sub_cancel_left, Int.toNat_natCast, Nat.add_mul, Nat.one_mul]
    omega

theorem magnitude_patternOf (hf : 0 < f.precision) {x : Scaled} (h : f.Normal x) :
    f.magnitude (f.patternOf x) = x := by
  obtain ⟨m, q⟩ := x
  obtain ⟨hlt, hle, hfull⟩ := h
  simp only [two_pow_precision hf] at hlt hle hfull
  obtain ⟨k, rfl⟩ : ∃ k : ℕ, q = f.lowest + k := ⟨(q - f.lowest).toNat, by omega⟩
  rcases Nat.lt_or_ge m (2 ^ (f.precision - 1)) with hm | hm
  · obtain rfl : k = 0 := by omega
    simp [patternOf, magnitude_of_lt hm]
  · obtain ⟨r, rfl⟩ := Nat.exists_eq_add_of_le hm
    have hpattern : f.patternOf ⟨2 ^ (f.precision - 1) + r, f.lowest + k⟩ = (k + 1) * 2 ^ (f.precision - 1) + r := by
      simp only [patternOf, add_sub_cancel_left, Int.toNat_natCast, Nat.add_mul, Nat.one_mul]
      omega
    rw [hpattern, magnitude_of_add (by omega)]

/-- The exponent that rounding chooses for a number with a normal form is that of the normal form. -/
theorem max_lowest_floorLog (hf : 0 < f.precision) {x : Scaled} (h : f.Normal x) (hpos : 0 < x.mantissa)
    {num den : ℕ} (hden : 0 < den) (hvalue : (num / den : ℚ) = x.value) :
    max f.lowest (floorLog num den - (f.precision - 1 : ℕ)) = x.exponent := by
  have hlog := floorLog_eq (e := x.mantissa.log2 + x.exponent) hden
    (by
      rw [hvalue, Scaled.value, zpow_add₀ (by norm_num)]
      refine mul_le_mul_of_nonneg_right ?_ (two_zpow_pos _).le
      exact_mod_cast Nat.log2_self_le hpos.ne')
    (by
      rw [hvalue, Scaled.value, add_right_comm, zpow_add₀ (by norm_num)]
      refine mul_lt_mul_of_pos_right ?_ (two_zpow_pos _)
      exact_mod_cast Nat.lt_log2_self)
  have hlow : x.mantissa.log2 < f.precision := (Nat.log2_lt hpos.ne').mpr h.lt
  rw [hlog]
  rcases h.full with hlowest | hfull
  · omega
  · have hhigh : f.precision - 1 ≤ x.mantissa.log2 := (Nat.le_log2 hpos.ne').mpr hfull
    have hle := h.lowest_le
    omega

/-- Rounding takes a number with a normal form to its pattern. -/
theorem round_eq_patternOf (hf : 0 < f.precision) {x : Scaled} (h : f.Normal x) {num den : ℕ} (hden : 0 < den)
    (hvalue : (num / den : ℚ) = x.value) : f.round num den = min f.infinity (f.patternOf x) := by
  have hden' : (den : ℚ) ≠ 0 := Nat.cast_ne_zero.mpr hden.ne'
  rcases Nat.eq_zero_or_pos x.mantissa with hzero | hpos
  · have hnum : num = 0 := by
      rw [Scaled.value, hzero, Nat.cast_zero, zero_mul, div_eq_zero_iff] at hvalue
      exact_mod_cast hvalue.resolve_right hden'
    have hlowest : x.exponent = f.lowest := by
      refine h.full.resolve_right fun hfull => ?_
      rw [hzero] at hfull
      exact absurd hfull (Nat.not_le.mpr (Nat.two_pow_pos _))
    have hpattern : f.patternOf x = 0 := by simp [patternOf, hlowest, hzero]
    rw [round, if_pos hnum, hpattern, Nat.min_zero]
  · have hnum : num ≠ 0 := by
      rintro rfl
      rw [Nat.cast_zero, zero_div] at hvalue
      exact absurd hvalue (mul_pos (Nat.cast_pos.mpr hpos) (two_zpow_pos _)).ne
    have hexact : num * 2 ^ (-x.exponent).toNat = x.mantissa * (den * 2 ^ x.exponent.toNat) := by
      rw [Scaled.value, two_zpow_eq_div, ← mul_div_assoc,
        div_eq_div_iff hden' (Nat.cast_ne_zero.mpr (Nat.two_pow_pos _).ne')] at hvalue
      have hcast : num * 2 ^ (-x.exponent).toNat = x.mantissa * 2 ^ x.exponent.toNat * den := by
        exact_mod_cast hvalue
      rw [hcast, Nat.mul_assoc, Nat.mul_comm den]
    have hscale : 0 < den * 2 ^ x.exponent.toNat := Nat.mul_pos hden (Nat.two_pow_pos _)
    simp only [round, if_neg hnum, max_lowest_floorLog hf h hpos hden hvalue, Nat.pow_eq, hexact,
      roundQuotient_mul x.mantissa hscale]
    rfl

end Format

/-! ## From the narrow format to the wide one and back -/

theorem exponent_le_of_finite {p : ℕ} (h : p < single.infinity) : (single.magnitude p).exponent ≤ 104 := by
  change p < 255 * 2 ^ 23 at h
  rcases single.pattern_cases p with hsmall | ⟨k, r, hr, rfl⟩
  · rw [Format.magnitude_of_lt hsmall]
    exact (by decide : single.lowest ≤ 104)
  · rw [Format.magnitude_of_add hr]
    change (k + 1) * 2 ^ 23 + r < 255 * 2 ^ 23 at h
    change -149 + (k : ℤ) ≤ 104
    omega

/-- A normal form of the narrow format with its mantissa shifted up is one of the wide format. -/
theorem exists_normal_double {x : Scaled} (h : single.Normal x) (hle : x.exponent ≤ 104) :
    ∃ y, double.Normal y ∧ y.value = x.value ∧ double.patternOf y < double.infinity := by
  obtain ⟨m, q⟩ := x
  have hlt : m < 2 ^ 24 := h.lt
  have hlowest : -149 ≤ q := h.lowest_le
  have hhighest : q ≤ 104 := hle
  rcases Nat.eq_zero_or_pos m with rfl | hpos
  · refine ⟨⟨0, double.lowest⟩, ⟨by decide, Int.le_refl _, .inl rfl⟩, ?_, by decide⟩
    simp [Scaled.value]
  · have hlog : m.log2 < 24 := (Nat.log2_lt hpos.ne').mpr hlt
    have hbounds : 2 ^ 52 ≤ m * 2 ^ (52 - m.log2) ∧ m * 2 ^ (52 - m.log2) < 2 ^ 53 := by
      have hsum : m.log2 + (52 - m.log2) = 52 := by omega
      have hscale : 0 < 2 ^ (52 - m.log2) := Nat.two_pow_pos _
      constructor
      · calc 2 ^ 52 = 2 ^ m.log2 * 2 ^ (52 - m.log2) := by rw [← Nat.pow_add, hsum]
          _ ≤ m * 2 ^ (52 - m.log2) := Nat.mul_le_mul_right _ (Nat.log2_self_le hpos.ne')
      · calc m * 2 ^ (52 - m.log2) < 2 ^ (m.log2 + 1) * 2 ^ (52 - m.log2) :=
              Nat.mul_lt_mul_of_pos_right Nat.lt_log2_self hscale
          _ = 2 ^ 53 := by rw [← Nat.pow_add, Nat.add_right_comm, hsum]
    refine ⟨⟨m * 2 ^ (52 - m.log2), q - (52 - m.log2 : ℕ)⟩, ⟨hbounds.2, ?_, .inr hbounds.1⟩, ?_, ?_⟩
    · change -1074 ≤ q - ((52 - m.log2 : ℕ) : ℤ)
      omega
    · rw [Scaled.value, Scaled.value, Nat.cast_mul, Nat.cast_pow, Nat.cast_ofNat, mul_assoc, ← zpow_natCast,
        ← zpow_add₀ (by norm_num), add_sub_cancel]
    · change (q - ((52 - m.log2 : ℕ) : ℤ) - -1074).toNat * 2 ^ 52 + m * 2 ^ (52 - m.log2) < 2047 * 2 ^ 52
      omega

end ReviewPanel.Binary

namespace ReviewPanel

open Binary

theorem Single.ofParts_eq (x : Single) : ofParts x.isNegative x.pattern = x := by
  have hlt : x.bits.toNat < 2 ^ 32 := x.bits.toNat_lt
  have hbits : (if x.isNegative then 2 ^ 31 + x.pattern else x.pattern) = x.bits.toNat := by
    simp only [isNegative, pattern, Nat.pow_eq, decide_eq_true_eq]
    split <;> omega
  rw [ofParts, Nat.pow_eq, hbits, UInt32.ofNat_toNat]

theorem Double.toNat_ofParts (negative : Bool) {p : ℕ} (h : p < 2 ^ 63) :
    (ofParts negative p).bits.toNat = if negative then 2 ^ 63 + p else p := by
  rw [ofParts, UInt64.toNat_ofNat', Nat.pow_eq, Nat.mod_eq_of_lt]
  split <;> omega

theorem Double.isNegative_ofParts (negative : Bool) {p : ℕ} (h : p < 2 ^ 63) :
    (ofParts negative p).isNegative = negative := by
  rw [isNegative, toNat_ofParts negative h, Nat.pow_eq]
  cases negative
  · exact decide_eq_false (Nat.not_le.mpr h)
  · exact decide_eq_true (Nat.le_add_right _ _)

theorem Double.pattern_ofParts (negative : Bool) {p : ℕ} (h : p < 2 ^ 63) :
    (ofParts negative p).pattern = p := by
  rw [pattern, toNat_ofParts negative h, Nat.pow_eq]
  cases negative
  · exact Nat.mod_eq_of_lt h
  · exact (Nat.add_mod_left _ _).trans (Nat.mod_eq_of_lt h)

/-- A finite number of 32 bits comes back unchanged from the 64-bit format. -/
theorem Single.toSingle_toDouble {x : Single} (finite : x.isFinite = true) : x.toDouble.toSingle = x := by
  have hpattern : x.pattern < single.infinity := of_decide_eq_true finite
  have hnormal := Format.normal_magnitude (f := single) (by decide) x.pattern
  obtain ⟨y, hy, hvalue, hfinite⟩ := exists_normal_double hnormal (exponent_le_of_finite hpattern)
  have hwide : double.round (single.magnitude x.pattern).numerator (single.magnitude x.pattern).denominator =
      double.patternOf y := by
    rw [Format.round_eq_patternOf (by decide) hy (Scaled.denominator_pos _)
      ((Scaled.numerator_div_denominator _).trans hvalue.symm), Nat.min_eq_right hfinite.le]
  have hnarrow : single.round y.numerator y.denominator = x.pattern := by
    rw [Format.round_eq_patternOf (by decide) hnormal (Scaled.denominator_pos _)
      ((Scaled.numerator_div_denominator _).trans hvalue), Format.patternOf_magnitude,
      Nat.min_eq_right hpattern.le]
  have hlt : double.patternOf y < 2 ^ 63 := hfinite.trans (by decide)
  rw [toDouble, Double.toSingle]
  simp only [hwide, Double.pattern_ofParts _ hlt, Double.isNegative_ofParts _ hlt,
    Format.magnitude_patternOf (f := double) (by decide) hy, hnarrow, ofParts_eq]

end ReviewPanel
