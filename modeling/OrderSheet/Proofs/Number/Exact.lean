import OrderSheet.Proofs.Number.Value

/-!
# Exact results

Rounding does not change a number that 28 digits can write. So a product, a sum or a difference that
28 digits can write is computed exactly, whatever digits its terms have: also the number that stands
in for a far smaller term of a sum is only taken when the sum has more digits than that.
-/

namespace OrderSheet.Decimal

variable {a b c d r : Decimal} {k l : ℤ} {x : ℚ} {q places : ℕ}

def Representable (x : ℚ) : Prop :=
  ∃ d : Decimal, d.toRat = x ∧ d.digits.length ≤ precision ∧ d.InRange

theorem toRat_congr (hsign : a.negative = b.negative) (h : a.magnitude = b.magnitude) :
    a.toRat = b.toRat := by
  rw [toRat, toRat, hsign, h]

theorem isZero_congr (h : a.magnitude = b.magnitude) : a.isZero = b.isZero := by
  rw [Bool.eq_iff_iff, ← magnitude_eq_zero_iff, ← magnitude_eq_zero_iff, h]

/-- The place of the leading digit depends on the number only, not on how it is written. -/
theorem leading_congr (ha : a.isZero = false) (h : a.magnitude = b.magnitude) :
    a.leading = b.leading := by
  have hb : b.isZero = false := by rw [← isZero_congr h, ha]
  refine le_antisymm ?_ ?_
  · exact Int.lt_add_one_iff.mp ((leading_lt_iff ha).mpr (h ▸ b.magnitude_lt))
  · exact Int.lt_add_one_iff.mp ((leading_lt_iff hb).mpr (h ▸ a.magnitude_lt))

namespace Representable

theorem abs (h : Representable x) : Representable |x| := by
  obtain ⟨d, rfl, hlength, hrange⟩ := h
  refine ⟨{ d with negative := false }, ?_, hlength, hrange⟩
  rw [abs_toRat]
  exact toRat_of_not_negative rfl

/-- With 28 digits from the place `l` on, nothing stands behind the place `l - 27`. -/
theorem onGrid (h : Representable x) (hle : 10 ^ l ≤ |x|) : OnGrid (l + 1 - precision) x := by
  obtain ⟨d, rfl, hlength, -⟩ := h
  rw [abs_toRat] at hle
  have hleading : l < d.leading + 1 := zpow_lt_iff.mp (hle.trans_lt d.magnitude_lt)
  refine d.onGrid_toRat.mono ?_
  rw [leading] at hleading
  omega

theorem leading_bounds (h : Representable d.toRat) (hne : d.isZero = false) :
    -maxLeading ≤ d.leading ∧ d.leading ≤ maxLeading := by
  obtain ⟨c, hc, -, hrange⟩ := h
  have hmagnitude : d.magnitude = c.magnitude := by rw [← abs_toRat, ← abs_toRat, hc]
  rw [leading_congr hne hmagnitude]
  refine hrange.resolve_left ?_
  rw [← isZero_congr hmagnitude, hne]
  exact Bool.false_ne_true

end Representable

theorem roundHalfEven_mul (q places : ℕ) : roundHalfEven (q * 10 ^ places) places = q := by
  have hpos : 0 < 10 ^ places := Nat.pow_pos (by decide)
  simp only [roundHalfEven, Nat.pow_eq, Nat.mul_div_cancel _ hpos, Nat.mul_mod_left]
  exact if_pos hpos

/-- The coefficient of a number on a grid ends in zeros. -/
theorem exists_coefficient_eq (h : OnGrid k d.magnitude) (hle : d.exponent ≤ k) :
    ∃ q : ℕ, d.coefficient = q * 10 ^ (k - d.exponent).toNat := by
  obtain ⟨z, hz⟩ := h
  have hk : k = ((k - d.exponent).toNat : ℤ) + d.exponent := by omega
  rw [hk, zpow_add₀ (by norm_num), zpow_natCast, ← mul_assoc, magnitude,
    mul_left_inj' (zpow_pos_ten _).ne'] at hz
  have hint : (d.coefficient : ℤ) = z * 10 ^ (k - d.exponent).toNat := by exact_mod_cast hz
  have hdvd : 10 ^ (k - d.exponent).toNat ∣ d.coefficient := by
    refine Int.natCast_dvd_natCast.mp ⟨z, ?_⟩
    rw [hint, mul_comm]
    push_cast
    rfl
  obtain ⟨q, hq⟩ := hdvd
  exact ⟨q, by rw [hq, mul_comm]⟩

/-- Nothing is lost by rounding to the last of 28 digits if nothing stands behind it. -/
theorem magnitude_rounded_eq (hlt : d.exponent < d.least)
    (hleast : d.least = d.leading + 1 - precision) (hgrid : OnGrid d.least d.magnitude) :
    d.rounded.magnitude = d.magnitude := by
  obtain ⟨q, hq⟩ := exists_coefficient_eq hgrid hlt.le
  have hdropped : d.dropped ≤ d.digits.length ∧ d.digits.length = precision + d.dropped := by
    rw [dropped, hleast, leading]
    rw [hleast, leading] at hlt
    omega
  have hkept : d.kept = q := by
    rw [kept, if_neg (Nat.not_lt.mpr hdropped.1), hq]
    exact roundHalfEven_mul q d.dropped
  have hfits : q < 10 ^ precision := by
    have hlength := d.coefficient_lt
    rw [hdropped.2, hq, Nat.pow_add] at hlength
    exact Nat.lt_of_mul_lt_mul_right hlength
  -- so there is no carry
  have hrounded : d.rounded = ⟨d.negative, q, d.least⟩ := by
    rw [rounded, hkept, if_neg]
    exact Nat.not_lt.mpr ((Nat.length_toDigits_le_iff (by decide) (by decide)).mpr hfits)
  have hplace : d.least = ((d.least - d.exponent).toNat : ℤ) + d.exponent := by omega
  rw [hrounded, magnitude, magnitude, hq]
  conv_lhs => rw [hplace, zpow_add₀ (by norm_num), zpow_natCast, ← mul_assoc]
  push_cast
  rfl

/-- Rounding does not change a number that 28 digits can write. -/
theorem settle_exact (h : Representable d.toRat) : ∃ r, settle d = .ok r ∧ r.toRat = d.toRat := by
  cases hzero : d.isZero with
  | true =>
    refine ⟨_, if_pos hzero, ?_⟩
    rw [toRat_eq_zero_iff.mpr hzero, toRat_eq_zero_iff]
    exact hzero
  | false =>
    obtain ⟨hlow, hhigh⟩ := h.leading_bounds hzero
    have hleast : d.least = d.leading + 1 - precision := by
      rw [maxLeading] at hlow
      rw [least, leading, precision, minExponent]
      rw [leading] at hlow
      omega
    by_cases hlt : d.exponent < d.least
    · have hgrid : OnGrid d.least d.magnitude := by
        rw [hleast, ← abs_toRat]
        exact h.abs.onGrid (by rw [abs_abs, abs_toRat]; exact zpow_leading_le hzero)
      have hmagnitude := magnitude_rounded_eq hlt hleast hgrid
      refine ⟨_, settle_eq_rounded hzero (Int.not_lt.mpr hhigh) hlt fun hne => ?_,
        toRat_congr d.negative_rounded hmagnitude⟩
      rwa [leading_congr hne hmagnitude]
    · exact ⟨d, settle_of_le hzero (Int.not_lt.mpr hhigh) hlt, rfl⟩

theorem toRat_product (a b : Decimal) :
    (⟨a.negative != b.negative, a.coefficient * b.coefficient, a.exponent + b.exponent⟩ :
      Decimal).toRat = a.toRat * b.toRat := by
  have hmagnitude : ((a.coefficient * b.coefficient : ℕ) : ℚ) * 10 ^ (a.exponent + b.exponent) =
      a.magnitude * b.magnitude := by
    rw [magnitude, magnitude, zpow_add₀ (by norm_num)]
    push_cast
    ring
  rw [toRat, magnitude, hmagnitude, toRat, toRat]
  cases a.negative <;> cases b.negative <;> simp

theorem mul_exact (h : Representable (a.toRat * b.toRat)) :
    ∃ r, a.mul b = .ok r ∧ r.toRat = a.toRat * b.toRat := by
  rw [← toRat_product] at h ⊢
  exact settle_exact h

/-- Terms of different signs leave their difference, with the sign of the larger one. -/
theorem toRat_difference (s : Bool) (m n : ℕ) (e : ℤ) :
    (if m == n then ⟨false, 0, e⟩ else if n < m then ⟨s, m - n, e⟩ else ⟨!s, n - m, e⟩ :
      Decimal).toRat = if s then -((m - n : ℚ) * 10 ^ e) else (m - n : ℚ) * 10 ^ e := by
  split
  · next heq =>
    rw [eq_of_beq heq, sub_self, zero_mul, neg_zero, ite_self]
    exact toRat_eq_zero_iff.mpr rfl
  · split
    · next hlt =>
      rw [toRat, magnitude, Nat.cast_sub hlt.le]
    · next hle =>
      rw [toRat, magnitude, Nat.cast_sub (Nat.le_of_not_lt hle)]
      cases s
      · rw [Bool.not_false, if_pos rfl, if_neg Bool.false_ne_true]
        ring
      · rw [Bool.not_true, if_neg Bool.false_ne_true, if_pos rfl]
        ring

theorem toRat_exactSum (a b : Decimal) : (exactSum a b).toRat = a.toRat + b.toRat := by
  have ha := magnitude_eq_scaled (min_le_left a.exponent b.exponent)
  have hb := magnitude_eq_scaled (min_le_right a.exponent b.exponent)
  simp only [exactSum]
  generalize a.coefficient * Nat.pow 10 _ = m at ha ⊢
  generalize b.coefficient * Nat.pow 10 _ = n at hb ⊢
  by_cases hsign : a.negative = b.negative
  · rw [if_pos (beq_iff_eq.mpr hsign), toRat, magnitude, toRat, ha, toRat, hb, ← hsign]
    push_cast
    split
    · ring
    · ring
  · have hother : b.negative = !a.negative := Bool.eq_not.mpr (Ne.symm hsign)
    rw [if_neg (by simpa using hsign), hother, toRat_difference, toRat, ha, toRat, hb, hother]
    cases a.negative
    · rw [Bool.not_false, if_neg Bool.false_ne_true, if_neg Bool.false_ne_true, if_pos rfl]
      ring
    · rw [Bool.not_true, if_pos rfl, if_pos rfl, if_neg Bool.false_ne_true]
      ring

theorem toRat_sumWithZero (e : ℤ) (b : Decimal) : (sumWithZero e b).toRat = b.toRat := by
  refine toRat_congr rfl (magnitude_eq_scaled ?_).symm
  rw [precision]
  omega

/-- A term of a sum that 28 digits can write is never replaced. -/
theorem nudge_eq (ha : a.isZero = false) (hb : b.isZero = false)
    (h : Representable (a.toRat + b.toRat)) : nudge a b = b := by
  simp only [nudge]
  refine if_neg fun hlt => ?_
  set floor := a.exponent + min (-1) ((a.digits.length : ℤ) - precision - 2) with hfloor
  have hplaces : floor ≤ a.leading - precision - 1 ∧ floor ≤ a.exponent := by
    rw [leading]
    omega
  have hsmall : |b.toRat| < 10 ^ floor := by
    rw [abs_toRat]
    exact (leading_lt_iff hb).mp hlt
  -- the sum begins at most one place behind its larger term
  have hlarge : (10 : ℚ) ^ (a.leading - 1) ≤ |a.toRat + b.toRat| := by
    have hleading := zpow_leading_le ha
    have hten := zpow_pred a.leading
    have hle : (10 : ℚ) ^ floor ≤ 10 ^ (a.leading - 1) := by
      rw [zpow_le_iff]
      rw [precision] at hplaces
      omega
    have htriangle := abs_sub_abs_le_abs_add a.toRat b.toRat
    rw [abs_toRat] at htriangle
    have hpos := zpow_pos_ten (a.leading - 1)
    linarith
  have hgrid : OnGrid floor b.toRat := by
    have hsum : OnGrid floor (a.toRat + b.toRat) := (h.onGrid hlarge).mono (by omega)
    have hterm : OnGrid floor a.toRat := a.onGrid_toRat.mono hplaces.2
    simpa using hsum.sub hterm
  rw [toRat_eq_zero_iff.mp (hgrid.eq_zero_of_abs_lt hsmall)] at hb
  cases hb

theorem Unrounded.toRat_eq (h : Representable (a.toRat + b.toRat)) (hd : Unrounded a b d) :
    d.toRat = a.toRat + b.toRat := by
  cases hd with
  | zeros ha hb =>
    rw [toRat_eq_zero_iff.mpr ha, toRat_eq_zero_iff.mpr hb, add_zero]
    exact toRat_eq_zero_iff.mpr rfl
  | right ha => rw [toRat_sumWithZero, toRat_eq_zero_iff.mpr ha, zero_add]
  | left hb => rw [toRat_sumWithZero, toRat_eq_zero_iff.mpr hb, add_zero]
  | nudgedLeft ha hb => rw [toRat_exactSum, nudge_eq hb ha (by rwa [add_comm])]
  | nudgedRight ha hb => rw [toRat_exactSum, nudge_eq ha hb h]

theorem add_exact (h : Representable (a.toRat + b.toRat)) :
    ∃ r, a.add b = .ok r ∧ r.toRat = a.toRat + b.toRat := by
  obtain ⟨c, hc, hadd⟩ := exists_unrounded a b
  have hvalue := hc.toRat_eq h
  rw [hadd, ← hvalue]
  rw [← hvalue] at h
  exact settle_exact h

theorem sub_exact (h : Representable (a.toRat - b.toRat)) :
    ∃ r, a.sub b = .ok r ∧ r.toRat = a.toRat - b.toRat := by
  rw [sub_eq_add_neg, ← toRat_neg] at h ⊢
  exact add_exact h

theorem abs_exact (h : Representable d.toRat) : ∃ r, d.abs = .ok r ∧ r.toRat = |d.toRat| := by
  have habs : ({ d with negative := false } : Decimal).toRat = |d.toRat| := by
    rw [abs_toRat]
    exact toRat_of_not_negative rfl
  have habs' := h.abs
  rw [← habs] at habs' ⊢
  exact settle_exact habs'

/-- A running sum is exact if 28 digits can write every sum on the way. -/
theorem foldlM_add_exact {ds : List Decimal}
    (h : ∀ ps, ps <+: ds → Representable (a.toRat + (ps.map toRat).sum)) :
    ∃ r, ds.foldlM add a = .ok r ∧ r.toRat = a.toRat + (ds.map toRat).sum := by
  induction ds generalizing a with
  | nil => exact ⟨a, rfl, by simp⟩
  | cons d ds ih =>
    obtain ⟨b, hb, hvalue⟩ := add_exact (a := a) (b := d) (by simpa using h [d] (by simp))
    obtain ⟨r, hr, hsum⟩ := ih (a := b) fun ps hps => by
      simpa [hvalue, add_assoc] using h (d :: ps) (List.cons_prefix_cons.mpr ⟨rfl, hps⟩)
    refine ⟨r, ?_, by rw [hsum, hvalue, List.map_cons, List.sum_cons, add_assoc]⟩
    rw [List.foldlM_cons, hb]
    exact hr

theorem sum_exact {ds : List Decimal}
    (h : ∀ ps, ps <+: ds → Representable (ps.map toRat).sum) :
    ∃ r, sum ds = .ok r ∧ r.toRat = (ds.map toRat).sum := by
  have hzero : zero.toRat = 0 := toRat_eq_zero_iff.mpr rfl
  have hfold : ∃ r, ds.foldlM add zero = .ok r ∧ r.toRat = zero.toRat + (ds.map toRat).sum :=
    foldlM_add_exact (by simpa [hzero] using h)
  simpa [hzero, sum] using hfold

end OrderSheet.Decimal
