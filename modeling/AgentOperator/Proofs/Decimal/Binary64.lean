import AgentOperator.Decimal.Binary64
import Mathlib.Tactic.Ring

/-!
# Bounds for floating-point numbers

A number of the format is compared by its bits, `Binary64.order`, and computed with by
its value, `Binary64.ratio`, which counts units of `2 ^ (-bias)`.  The two meet at the
powers of two: the bits of `2 ^ k` are `(k + 1023) * 2 ^ 52`.  Rounding does not pass a
power of two, and so sums and products stay below the power of two that bounds them.
-/

namespace AgentOperator.Decimal.Binary64

variable {x y : Binary64} {j k num den c m : Nat} {negative : Bool}

/-! ## Nearest whole number -/

theorem roundDiv_le (hden : 0 < den) (hnum : num ≤ c * den) : roundDiv num den ≤ c := by
  unfold roundDiv
  have hquotient : num / den ≤ c := Nat.div_le_of_le_mul (by rwa [Nat.mul_comm])
  rcases hquotient.lt_or_eq with hless | hequal
  · dsimp only
    split <;> omega
  · have hrest : num % den = 0 := by
      have hsplit := Nat.div_add_mod num den
      rw [hequal, Nat.mul_comm] at hsplit
      omega
    simp [hrest, hequal, hden.ne]

theorem le_roundDiv (hden : 0 < den) (hnum : c * den ≤ num) : c ≤ roundDiv num den := by
  unfold roundDiv
  have hquotient : c ≤ num / den := (Nat.le_div_iff_mul_le hden).mpr hnum
  dsimp only
  split <;> omega

/-! ## Bits and values -/

/-- The smallest number above zero is two to the power of minus this. It is kept closed,
for no proof is to compute that power. -/
@[irreducible]
def bias : Nat := 1074

theorem bias_eq : bias = 1074 := by unfold bias; rfl

theorem two_pow_bias : Nat.pow 2 1074 = 2 ^ bias := by rw [← bias_eq]; rfl

theorem ratio_two (x : Binary64) : x.ratio.2 = 2 ^ bias := by
  simp only [ratio, two_pow_bias]

theorem ratio_one (x : Binary64) : x.ratio.1 = x.significand * 2 ^ x.scale := rfl

theorem significand_lt (x : Binary64) : x.significand < 2 ^ 53 := by
  unfold significand
  simp only [Nat.pow_eq]
  split <;> omega

theorem le_significand (hx : 2 ^ 52 ≤ x.magnitude) : 2 ^ 52 ≤ x.significand := by
  unfold significand
  simp only [Nat.pow_eq]
  split <;> omega

theorem scale_eq (x : Binary64) : x.scale = x.magnitude / 2 ^ 52 - 1 := rfl

theorem ratio_le_of_magnitude_lt (hx : x.magnitude < (k + 1023) * 2 ^ 52) :
    x.ratio.1 ≤ (2 ^ 53 - 1) * 2 ^ (k + bias - 53) := by
  have hscale : x.scale ≤ k + bias - 53 := by
    rw [scale_eq, bias_eq]
    omega
  have hsignificand := x.significand_lt
  exact Nat.mul_le_mul (by omega) (Nat.pow_le_pow_right (by omega) hscale)

theorem two_pow_le_ratio (hx : (k + 1023) * 2 ^ 52 ≤ x.magnitude) :
    2 ^ (k + bias) ≤ x.ratio.1 := by
  have hsignificand : 2 ^ 52 ≤ x.significand :=
    le_significand ((Nat.le_mul_of_pos_left _ (by omega)).trans hx)
  have hscale : k + bias - 52 ≤ x.scale := by
    rw [scale_eq, bias_eq]
    omega
  have hsum : k + bias = 52 + (k + bias - 52) := by
    rw [bias_eq]
    omega
  rw [ratio_one]
  calc 2 ^ (k + bias) = 2 ^ 52 * 2 ^ (k + bias - 52) := by rw [← pow_add, ← hsum]
    _ ≤ x.significand * 2 ^ x.scale :=
        Nat.mul_le_mul hsignificand (Nat.pow_le_pow_right (by omega) hscale)

theorem ratio_le_two_pow (hx : x.magnitude ≤ (k + 1023) * 2 ^ 52) :
    x.ratio.1 ≤ 2 ^ (k + bias) := by
  rcases hx.lt_or_eq with hless | hequal
  · have hsum : k + bias = 53 + (k + bias - 53) := by
      rw [bias_eq]
      omega
    rw [hsum, pow_add]
    exact (ratio_le_of_magnitude_lt hless).trans (Nat.mul_le_mul_right _ (by omega))
  · have hscale : x.scale = k + bias - 52 := by
      rw [scale_eq, hequal, bias_eq]
      omega
    have hsignificand : x.significand = 2 ^ 52 := by
      unfold significand
      simp only [Nat.pow_eq, hequal]
      split <;> omega
    have hsum : 52 + (k + bias - 52) = k + bias := by
      rw [bias_eq]
      omega
    rw [ratio_one, hscale, hsignificand, ← pow_add, hsum]

theorem ratio_eq_zero (hx : x.magnitude = 0) : x.ratio.1 = 0 := by
  have hsignificand : x.significand = 0 := by
    unfold significand
    simp only [Nat.pow_eq, hx]
    split <;> omega
  rw [ratio_one, hsignificand, Nat.zero_mul]

/-! ## Signs -/

theorem magnitude_ofMagnitude (hm : m < 2 ^ 63) : (ofMagnitude negative m).magnitude = m := by
  unfold ofMagnitude magnitude signBit
  simp only [UInt64.toNat_ofNat', Nat.pow_eq]
  split <;> omega

theorem isNegative_ofMagnitude (hm : m < 2 ^ 63) :
    (ofMagnitude negative m).isNegative = negative := by
  unfold ofMagnitude isNegative signBit
  simp only [UInt64.toNat_ofNat', Nat.pow_eq]
  cases negative <;> simp <;> omega

/-! ## Rounding -/

theorem magnitude_ofRatio (negative : Bool) (num den : Nat) :
    (ofRatio negative num den).magnitude =
      min (roundDiv (num * 2 ^ bias) (den * 2 ^ scaleOf num den) + scaleOf num den * 2 ^ 52)
        infinityMagnitude := by
  have hinfinity : infinityMagnitude < 2 ^ 63 := by decide
  unfold ofRatio
  rw [two_pow_bias]
  simp only [Nat.pow_eq]
  split
  · rename_i hfinite
    rw [magnitude_ofMagnitude (hfinite.trans hinfinity), min_eq_left hfinite.le]
  · rename_i hinfinite
    rw [infinity, magnitude_ofMagnitude hinfinity, min_eq_right (Nat.not_lt.mp hinfinite)]

theorem isNegative_ofRatio (negative : Bool) (num den : Nat) :
    (ofRatio negative num den).isNegative = negative := by
  have hinfinity : infinityMagnitude < 2 ^ 63 := by decide
  unfold ofRatio
  dsimp only
  split
  · rename_i hfinite
    exact isNegative_ofMagnitude (hfinite.trans hinfinity)
  · exact isNegative_ofMagnitude hinfinity

theorem scaleOf_eq (num den : Nat) : scaleOf num den = (num * 2 ^ bias / den).log2 - 52 := by
  rw [scaleOf, two_pow_bias]

/-- The significand has 53 bits or is, after rounding, the least number with more. -/
theorem roundDiv_scaleOf_le (hden : 0 < den) :
    roundDiv (num * 2 ^ bias) (den * 2 ^ scaleOf num den) ≤ 2 ^ 53 := by
  apply roundDiv_le (Nat.mul_pos hden (Nat.two_pow_pos _))
  have hscale := scaleOf_eq num den
  have hless : num * 2 ^ bias / den < 2 ^ ((num * 2 ^ bias / den).log2 + 1) := Nat.lt_log2_self
  have hlog : num * 2 ^ bias / den + 1 ≤ 2 ^ (scaleOf num den + 53) :=
    hless.trans_le (Nat.pow_le_pow_right (by omega) (by omega))
  calc num * 2 ^ bias ≤ den * (num * 2 ^ bias / den + 1) := (Nat.lt_mul_div_succ _ hden).le
    _ ≤ den * 2 ^ (scaleOf num den + 53) := Nat.mul_le_mul_left _ hlog
    _ = 2 ^ 53 * (den * 2 ^ scaleOf num den) := by rw [pow_add]; ring

theorem scaleOf_le (hnum : num ≤ 2 ^ k * den) : scaleOf num den ≤ k + 1022 := by
  have hbound : num * 2 ^ bias / den ≤ 2 ^ (k + bias) := by
    apply Nat.div_le_of_le_mul
    calc num * 2 ^ bias ≤ 2 ^ k * den * 2 ^ bias := Nat.mul_le_mul_right _ hnum
      _ = den * 2 ^ (k + bias) := by rw [pow_add]; ring
  have hlog : (num * 2 ^ bias / den).log2 ≤ k + bias := by
    by_cases hzero : num * 2 ^ bias / den = 0
    · simp [hzero]
    · exact (Nat.pow_le_pow_iff_right (by omega)).mp ((Nat.log2_self_le hzero).trans hbound)
  rw [scaleOf_eq]
  rw [bias_eq] at hlog ⊢
  omega

/-- At the scale of a power of two the significand is that of the power. -/
theorem roundDiv_le_of_scaleOf (hden : 0 < den) (hnum : num ≤ 2 ^ k * den)
    (hscale : scaleOf num den = k + 1022) :
    roundDiv (num * 2 ^ bias) (den * 2 ^ scaleOf num den) ≤ 2 ^ 52 := by
  apply roundDiv_le (Nat.mul_pos hden (Nat.two_pow_pos _))
  have hsum : k + bias = 52 + scaleOf num den := by
    rw [bias_eq, hscale]
    omega
  calc num * 2 ^ bias ≤ 2 ^ k * den * 2 ^ bias := Nat.mul_le_mul_right _ hnum
    _ = 2 ^ (k + bias) * den := by rw [pow_add]; ring
    _ = 2 ^ 52 * (den * 2 ^ scaleOf num den) := by rw [hsum, pow_add]; ring

/-- Rounding does not pass a power of two. -/
theorem magnitude_ofRatio_le (negative : Bool) (hden : 0 < den) (hnum : num ≤ 2 ^ k * den) :
    (ofRatio negative num den).magnitude ≤ (k + 1023) * 2 ^ 52 := by
  rw [magnitude_ofRatio]
  refine (min_le_left _ _).trans ?_
  rcases (scaleOf_le hnum).lt_or_eq with hless | hequal
  · calc roundDiv (num * 2 ^ bias) (den * 2 ^ scaleOf num den) + scaleOf num den * 2 ^ 52
        ≤ 2 ^ 53 + (k + 1021) * 2 ^ 52 :=
          add_le_add (roundDiv_scaleOf_le hden) (Nat.mul_le_mul_right _ (by omega))
      _ = (k + 1023) * 2 ^ 52 := by ring
  · calc roundDiv (num * 2 ^ bias) (den * 2 ^ scaleOf num den) + scaleOf num den * 2 ^ 52
        ≤ 2 ^ 52 + (k + 1022) * 2 ^ 52 :=
          add_le_add (roundDiv_le_of_scaleOf hden hnum hequal)
            (Nat.mul_le_mul_right _ hequal.le)
      _ = (k + 1023) * 2 ^ 52 := by ring

theorem magnitude_ofNat_le {n : Nat} (hn : n ≤ 2 ^ k) :
    (ofNat n).magnitude ≤ (k + 1023) * 2 ^ 52 :=
  magnitude_ofRatio_le false Nat.one_pos (by rwa [Nat.mul_one])

theorem magnitude_plus_le (hx : x.magnitude ≤ (k + 1023) * 2 ^ 52)
    (hy : y.magnitude ≤ (k + 1023) * 2 ^ 52) :
    (x.plus y).magnitude ≤ (k + 1 + 1023) * 2 ^ 52 := by
  unfold plus
  rw [two_pow_bias]
  apply magnitude_ofRatio_le false (Nat.two_pow_pos _)
  calc x.ratio.1 + y.ratio.1 ≤ 2 ^ (k + bias) + 2 ^ (k + bias) :=
        add_le_add (ratio_le_two_pow hx) (ratio_le_two_pow hy)
    _ = 2 ^ (k + 1) * 2 ^ bias := by rw [pow_add, pow_succ]; ring

theorem magnitude_mul_le (hx : x.magnitude ≤ (j + 1023) * 2 ^ 52)
    (hy : y.magnitude ≤ (k + 1023) * 2 ^ 52) :
    (x.mul y).magnitude ≤ (j + k + 1023) * 2 ^ 52 := by
  unfold mul
  rw [ratio_two, ratio_two]
  apply magnitude_ofRatio_le _ (Nat.mul_pos (Nat.two_pow_pos _) (Nat.two_pow_pos _))
  calc x.ratio.1 * y.ratio.1 ≤ 2 ^ (j + bias) * 2 ^ (k + bias) :=
        Nat.mul_le_mul (ratio_le_two_pow hx) (ratio_le_two_pow hy)
    _ = 2 ^ (j + k) * (2 ^ bias * 2 ^ bias) := by rw [pow_add, pow_add, pow_add]; ring

theorem magnitude_div_le (hx : x.magnitude ≤ (j + k + 1023) * 2 ^ 52)
    (hy : (k + 1023) * 2 ^ 52 ≤ y.magnitude) :
    (x.div y).magnitude ≤ (j + 1023) * 2 ^ 52 := by
  have hdivisor := two_pow_le_ratio hy
  have hpositive : 0 < y.ratio.1 := (Nat.two_pow_pos _).trans_le hdivisor
  unfold div
  rw [ratio_two, ratio_two]
  apply magnitude_ofRatio_le _ (Nat.mul_pos (Nat.two_pow_pos _) hpositive)
  calc x.ratio.1 * 2 ^ bias ≤ 2 ^ (j + k + bias) * 2 ^ bias :=
        Nat.mul_le_mul_right _ (ratio_le_two_pow hx)
    _ = 2 ^ j * (2 ^ bias * 2 ^ (k + bias)) := by rw [pow_add, pow_add, pow_add]; ring
    _ ≤ 2 ^ j * (2 ^ bias * y.ratio.1) :=
        Nat.mul_le_mul_left _ (Nat.mul_le_mul_left _ hdivisor)

/-! ## Numbers that are not negative -/

theorem isNaN_of_isFinite (hx : x.isFinite = true) : x.isNaN = false := by
  have hless := of_decide_eq_true hx
  exact decide_eq_false hless.le.not_gt

theorem isNonneg_iff : x.isNonneg = true ↔ x.isNaN = false ∧ 0 ≤ x.order := by
  simp [isNonneg]

theorem magnitude_of_isNegative (hx : x.isNonneg = true) (hsign : x.isNegative = true) :
    x.magnitude = 0 := by
  have hpositive := (isNonneg_iff.mp hx).2
  rw [order, if_pos hsign] at hpositive
  omega

theorem order_of_isNonneg (hx : x.isNonneg = true) : x.order = x.magnitude := by
  unfold order
  split
  · rename_i hsign
    rw [magnitude_of_isNegative hx hsign]
    rfl
  · rfl

theorem isNaN_ofRatio (negative : Bool) (num den : Nat) :
    (ofRatio negative num den).isNaN = false := by
  have hbound : (ofRatio negative num den).magnitude ≤ infinityMagnitude :=
    (magnitude_ofRatio negative num den).trans_le (min_le_right _ _)
  simpa [isNaN] using hbound

theorem isNonneg_ofRatio (num den : Nat) : (ofRatio false num den).isNonneg = true := by
  rw [isNonneg_iff, order, isNegative_ofRatio]
  exact ⟨isNaN_ofRatio false num den, by simp⟩

theorem isNonneg_ofNat (n : Nat) : (ofNat n).isNonneg = true := by
  unfold ofNat
  exact isNonneg_ofRatio _ _

theorem isNonneg_plus (x y : Binary64) : (x.plus y).isNonneg = true := by
  unfold plus
  exact isNonneg_ofRatio _ _

theorem isNonneg_of_magnitude_eq_zero (hx : x.magnitude = 0) : x.isNonneg = true := by
  simp [isNonneg, isNaN, order, hx]

theorem magnitude_ofRatio_zero (negative : Bool) (hden : 0 < den) :
    (ofRatio negative 0 den).magnitude = 0 := by
  have hscale : scaleOf 0 den = 0 := by
    rw [scaleOf_eq, Nat.zero_mul, Nat.zero_div]
    rfl
  have hround : roundDiv 0 den ≤ 0 := roundDiv_le hden (Nat.zero_le _)
  rw [magnitude_ofRatio, hscale]
  simp only [Nat.zero_mul, pow_zero, Nat.mul_one, Nat.add_zero]
  rw [Nat.le_zero.mp hround, Nat.zero_min]

theorem isNonneg_mul (hx : x.isNonneg = true) (hy : y.isNonneg = true) :
    (x.mul y).isNonneg = true := by
  unfold mul
  cases hsign : x.isNegative != y.isNegative with
  | false => exact isNonneg_ofRatio _ _
  | true =>
      -- One of the two is a negative zero, and so is the product.
      have hzero : x.ratio.1 * y.ratio.1 = 0 := by
        cases hxsign : x.isNegative with
        | true => rw [ratio_eq_zero (magnitude_of_isNegative hx hxsign), Nat.zero_mul]
        | false =>
            have hysign : y.isNegative = true := by simpa [hxsign] using hsign
            rw [ratio_eq_zero (magnitude_of_isNegative hy hysign), Nat.mul_zero]
      rw [hzero, ratio_two, ratio_two]
      exact isNonneg_of_magnitude_eq_zero <|
        magnitude_ofRatio_zero true (Nat.mul_pos (Nat.two_pow_pos _) (Nat.two_pow_pos _))

theorem times_of_isFinite (hx : x.isFinite = true) (hy : y.isFinite = true) :
    x.times y = x.mul y := by
  simp [times, hx, hy]

theorem isNonneg_infinity : (infinity false).isNonneg = true := by decide +kernel

theorem isNaN_nan : nan.isNaN = true := by decide +kernel

theorem isNaN_or_isNonneg_times (hx : x.isNonneg = true) (hy : y.isNonneg = true) :
    (x.times y).isNaN = true ∨ (x.times y).isNonneg = true := by
  unfold times
  split
  · exact .inr (isNonneg_mul hx hy)
  · split
    · exact .inl isNaN_nan
    · rename_i hproper
      simp only [Bool.or_eq_true, not_or, isZero, decide_eq_true_eq] at hproper
      obtain ⟨⟨-, hxzero⟩, hyzero⟩ := hproper
      have hxsign : x.isNegative = false := by
        by_contra hsign
        exact hxzero (magnitude_of_isNegative hx (by simpa using hsign))
      have hysign : y.isNegative = false := by
        by_contra hsign
        exact hyzero (magnitude_of_isNegative hy (by simpa using hsign))
      rw [hxsign, hysign]
      exact .inr isNonneg_infinity

theorem isNonneg_least (hx : x.isNaN = true ∨ x.isNonneg = true) (hy : y.isNonneg = true) :
    (x.least y).isNonneg = true := by
  unfold least
  split
  · exact hy
  · rename_i hnumber
    split
    · exact hx.resolve_left hnumber
    · exact hy

theorem order_least_le (hy : y.isNaN = false) : (x.least y).order ≤ y.order := by
  unfold least
  split
  · exact le_rfl
  · split
    · rename_i hless
      simpa [hy] using hless
    · exact le_rfl

end AgentOperator.Decimal.Binary64
