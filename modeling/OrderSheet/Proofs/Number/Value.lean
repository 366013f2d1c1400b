import OrderSheet.Proofs.Number.Range

/-!
# The value of a decimal number

A decimal number stands for a rational number, and comparing decimals is comparing what they stand
for. The place of the leading digit bounds the magnitude from both sides, and the last place gives a
grid that the number lies on. A number between two neighbours of a grid is not on it.
-/

namespace OrderSheet.Decimal

variable {a b d : Decimal} {e k l : ℤ} {x y : ℚ}

def magnitude (d : Decimal) : ℚ := d.coefficient * 10 ^ d.exponent

def toRat (d : Decimal) : ℚ := if d.negative then -d.magnitude else d.magnitude

theorem zpow_pos_ten (k : ℤ) : (0 : ℚ) < 10 ^ k := zpow_pos (by norm_num) k

theorem zpow_lt_iff : (10 : ℚ) ^ k < 10 ^ l ↔ k < l := zpow_lt_zpow_iff_right₀ (by norm_num)

theorem zpow_le_iff : (10 : ℚ) ^ k ≤ 10 ^ l ↔ k ≤ l := zpow_le_zpow_iff_right₀ (by norm_num)

theorem zpow_pred (k : ℤ) : (10 : ℚ) ^ k = 10 * 10 ^ (k - 1) := by
  rw [← zpow_one_add₀ (by norm_num)]
  congr 1
  omega

theorem magnitude_nonneg (d : Decimal) : 0 ≤ d.magnitude :=
  mul_nonneg (Nat.cast_nonneg _) (zpow_pos_ten _).le

theorem abs_toRat (d : Decimal) : |d.toRat| = d.magnitude := by
  rw [toRat]
  split
  · rw [abs_neg, abs_of_nonneg d.magnitude_nonneg]
  · exact abs_of_nonneg d.magnitude_nonneg

theorem toRat_of_not_negative (h : d.negative = false) : d.toRat = d.magnitude := by
  rw [toRat, h, if_neg Bool.false_ne_true]

theorem toRat_of_negative (h : d.negative = true) : d.toRat = -d.magnitude := by
  rw [toRat, h, if_pos rfl]

@[simp] theorem toRat_neg (d : Decimal) : d.neg.toRat = -d.toRat := by
  obtain ⟨s, n, e⟩ := d
  cases s <;> simp [toRat, neg, magnitude]

theorem isZero_iff : d.isZero = true ↔ d.coefficient = 0 := by rw [isZero, beq_iff_eq]

theorem magnitude_eq_zero_iff : d.magnitude = 0 ↔ d.isZero = true := by
  rw [magnitude, mul_eq_zero_iff_right (zpow_pos_ten _).ne', Nat.cast_eq_zero, isZero_iff]

theorem toRat_eq_zero_iff : d.toRat = 0 ↔ d.isZero = true := by
  rw [← abs_eq_zero, abs_toRat, magnitude_eq_zero_iff]

theorem magnitude_pos (h : d.isZero = false) : 0 < d.magnitude := by
  refine lt_of_le_of_ne d.magnitude_nonneg fun hzero => ?_
  rw [magnitude_eq_zero_iff.mp hzero.symm] at h
  cases h

theorem isNegative_iff : d.isNegative = true ↔ d.toRat < 0 := by
  rw [isNegative, Bool.and_eq_true, Bool.not_eq_true']
  constructor
  · rintro ⟨hsign, hzero⟩
    rw [toRat_of_negative hsign]
    exact neg_lt_zero.mpr (magnitude_pos hzero)
  · intro h
    have hzero : d.isZero = false := by
      by_contra hzero
      rw [toRat_eq_zero_iff.mpr (Bool.eq_true_of_not_eq_false hzero)] at h
      exact lt_irrefl 0 h
    refine ⟨?_, hzero⟩
    by_contra hsign
    rw [toRat_of_not_negative (Bool.eq_false_of_not_eq_true hsign)] at h
    exact not_le_of_gt h d.magnitude_nonneg

theorem toRat_nonneg_iff : 0 ≤ d.toRat ↔ d.isNegative = false := by
  rw [← not_lt, ← isNegative_iff, Bool.not_eq_true]

/-- The number written with the last place `e`. -/
theorem magnitude_eq_scaled (h : e ≤ d.exponent) :
    d.magnitude = (d.coefficient * Nat.pow 10 (d.exponent - e).toNat : ℕ) * (10 : ℚ) ^ e := by
  have hexponent : d.exponent = ((d.exponent - e).toNat : ℤ) + e := by omega
  rw [Nat.pow_eq, Nat.cast_mul, Nat.cast_pow, Nat.cast_ofNat, mul_assoc, ← zpow_natCast,
    ← zpow_add₀ (by norm_num), ← hexponent, magnitude]

theorem coefficient_lt (d : Decimal) : d.coefficient < 10 ^ d.digits.length :=
  (Nat.length_toDigits_le_iff (by decide) d.digits_length_pos).mp (Nat.le_refl _)

theorem pow_le_coefficient (h : d.isZero = false) :
    10 ^ (d.digits.length - 1) ≤ d.coefficient := by
  have hpos := d.digits_length_pos
  by_contra hlt
  rcases Nat.eq_zero_or_pos (d.digits.length - 1) with hone | hmore
  · have hzero : d.isZero = true := isZero_iff.mpr (by simpa [hone] using hlt)
    rw [hzero] at h
    cases h
  · have hle : d.digits.length ≤ d.digits.length - 1 :=
      (Nat.length_toDigits_le_iff (by decide) hmore).mpr (Nat.lt_of_not_le hlt)
    omega

theorem zpow_leading_le (h : d.isZero = false) : (10 : ℚ) ^ d.leading ≤ d.magnitude := by
  have hpos := d.digits_length_pos
  have hleading : d.leading = ((d.digits.length - 1 : ℕ) : ℤ) + d.exponent := by
    rw [leading]
    omega
  rw [hleading, zpow_add₀ (by norm_num), zpow_natCast, magnitude]
  refine mul_le_mul_of_nonneg_right ?_ (zpow_pos_ten _).le
  exact_mod_cast pow_le_coefficient h

theorem magnitude_lt (d : Decimal) : d.magnitude < 10 ^ (d.leading + 1) := by
  have hleading : d.leading + 1 = (d.digits.length : ℤ) + d.exponent := by
    rw [leading]
    omega
  rw [hleading, zpow_add₀ (by norm_num), zpow_natCast, magnitude]
  refine mul_lt_mul_of_pos_right ?_ (zpow_pos_ten _)
  exact_mod_cast d.coefficient_lt

theorem leading_lt_iff (h : d.isZero = false) : d.leading < k ↔ d.magnitude < 10 ^ k := by
  constructor
  · intro hlt
    exact d.magnitude_lt.trans_le (zpow_le_iff.mpr hlt)
  · intro hlt
    exact zpow_lt_iff.mp ((zpow_leading_le h).trans_lt hlt)

theorem coefficient_pos_iff : 0 < d.coefficient ↔ 0 < d.magnitude := by
  rw [magnitude, mul_pos_iff_of_pos_right (zpow_pos_ten _), Nat.cast_pos]

theorem magnitude_lt_of_leading_lt (hb : b.isZero = false) (h : a.leading < b.leading) :
    a.magnitude < b.magnitude :=
  calc a.magnitude < 10 ^ (a.leading + 1) := a.magnitude_lt
    _ ≤ 10 ^ b.leading := zpow_le_iff.mpr h
    _ ≤ b.magnitude := zpow_leading_le hb

theorem compareMagnitude_eq_lt_iff :
    compareMagnitude a b = .lt ↔ a.magnitude < b.magnitude := by
  rw [compareMagnitude]
  split
  · next hzero =>
    rw [compare_lt_iff_lt]
    rw [Bool.or_eq_true] at hzero
    rcases hzero with hzero | hzero
    · rw [isZero_iff.mp hzero, magnitude_eq_zero_iff.mpr hzero]
      exact coefficient_pos_iff
    · rw [isZero_iff.mp hzero, magnitude_eq_zero_iff.mpr hzero]
      exact iff_of_false (Nat.not_lt_zero _) (not_lt_of_ge a.magnitude_nonneg)
  · next hzero =>
    obtain ⟨ha, hb⟩ : a.isZero = false ∧ b.isZero = false := by simpa using hzero
    split
    · -- the same leading place: both numbers are written with the lower last place
      rw [compare_lt_iff_lt, magnitude_eq_scaled (min_le_left a.exponent b.exponent),
        magnitude_eq_scaled (min_le_right a.exponent b.exponent),
        mul_lt_mul_iff_left₀ (zpow_pos_ten _), Nat.cast_lt]
    · next hne =>
      rw [compare_lt_iff_lt]
      constructor
      · exact magnitude_lt_of_leading_lt hb
      · intro hlt
        rcases lt_trichotomy a.leading b.leading with hleading | hleading | hleading
        · exact hleading
        · exact absurd (compare_eq_iff_eq.mpr hleading) hne
        · exact absurd (magnitude_lt_of_leading_lt ha hleading) hlt.not_gt

theorem toRat_of_isNegative (h : d.isNegative = true) : d.toRat = -d.magnitude := by
  rw [isNegative, Bool.and_eq_true] at h
  exact toRat_of_negative h.1

theorem toRat_of_not_isNegative (h : d.isNegative = false) : d.toRat = d.magnitude := by
  rw [← abs_toRat, abs_of_nonneg (toRat_nonneg_iff.mpr h)]

/-- Comparing decimals is comparing the numbers that they stand for. -/
theorem lt_iff : a.lt b = true ↔ a.toRat < b.toRat := by
  rw [lt, beq_iff_eq, Decimal.compare.eq_def]
  cases ha : a.isNegative with
  | false =>
    cases hb : b.isNegative with
    | false =>
      rw [toRat_of_not_isNegative ha, toRat_of_not_isNegative hb]
      exact compareMagnitude_eq_lt_iff
    | true =>
      refine iff_of_false (by simp) (not_lt_of_ge ?_)
      exact (isNegative_iff.mp hb).le.trans (toRat_nonneg_iff.mpr ha)
  | true =>
    cases hb : b.isNegative with
    | false =>
      refine iff_of_true rfl ?_
      exact (isNegative_iff.mp ha).trans_le (toRat_nonneg_iff.mpr hb)
    | true =>
      rw [toRat_of_isNegative ha, toRat_of_isNegative hb, neg_lt_neg_iff]
      exact compareMagnitude_eq_lt_iff

def OnGrid (k : ℤ) (x : ℚ) : Prop := ∃ z : ℤ, x = z * 10 ^ k

namespace OnGrid

theorem mono (h : OnGrid k x) (hle : l ≤ k) : OnGrid l x := by
  obtain ⟨z, rfl⟩ := h
  refine ⟨z * 10 ^ (k - l).toNat, ?_⟩
  have hk : k = ((k - l).toNat : ℤ) + l := by omega
  conv_lhs => rw [hk, zpow_add₀ (by norm_num), zpow_natCast, ← mul_assoc]
  push_cast
  rfl

theorem neg (h : OnGrid k x) : OnGrid k (-x) := by
  obtain ⟨z, rfl⟩ := h
  exact ⟨-z, by push_cast; ring⟩

theorem sub (hx : OnGrid k x) (hy : OnGrid k y) : OnGrid k (x - y) := by
  obtain ⟨z, rfl⟩ := hx
  obtain ⟨w, rfl⟩ := hy
  exact ⟨z - w, by push_cast; ring⟩

theorem eq_zero_of_abs_lt (h : OnGrid k x) (hlt : |x| < 10 ^ k) : x = 0 := by
  obtain ⟨z, rfl⟩ := h
  rw [abs_mul, abs_of_pos (zpow_pos_ten k), mul_lt_iff_lt_one_left (zpow_pos_ten k)] at hlt
  have hz : |z| < 1 := by exact_mod_cast hlt
  rw [Int.abs_lt_one_iff.mp hz, Int.cast_zero, zero_mul]

end OnGrid

theorem onGrid_magnitude (d : Decimal) : OnGrid d.exponent d.magnitude :=
  ⟨d.coefficient, by rw [magnitude, Int.cast_natCast]⟩

theorem onGrid_toRat (d : Decimal) : OnGrid d.exponent d.toRat := by
  rw [toRat]
  split
  · exact d.onGrid_magnitude.neg
  · exact d.onGrid_magnitude

end OrderSheet.Decimal
