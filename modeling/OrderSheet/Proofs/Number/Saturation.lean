import OrderSheet.Proofs.Number.Exact

/-!
# Sums that stay in range

Rounding goes to the nearest number of 28 digits. So a result that passes the largest of these
numbers at some place by less than half a unit of the place is rounded to it or below it, and a
running sum does not move past it as long as its terms are small, however many there are.
-/

namespace OrderSheet.Decimal

variable {a b d r : Decimal} {k : ℤ} {x y : ℚ} {n q places high low : ℕ}

/-- The largest number of 28 digits with its last one at the place `k`. -/
def full (k : ℤ) : ℚ := (10 ^ precision - 1) * 10 ^ k

def largest : ℚ := full (maxLeading + 1 - precision)

theorem full_nonneg (k : ℤ) : 0 ≤ full k := by
  refine mul_nonneg ?_ (zpow_pos_ten k).le
  norm_num [precision]

theorem full_add (k : ℤ) : full k + 10 ^ k = 10 ^ (k + precision) := by
  rw [full, sub_one_mul, sub_add_cancel, zpow_add₀ (by norm_num), zpow_natCast, mul_comm]

theorem full_lt (k : ℤ) : full k < 10 ^ (k + precision) := by
  rw [← full_add]
  exact lt_add_of_pos_right _ (zpow_pos_ten k)

theorem Within.magnitude_lt (h : Within low high d) : d.magnitude < 10 ^ (high : ℤ) := by
  obtain ⟨-, k, hk, hplace⟩ := h
  calc d.magnitude < 10 ^ k * 10 ^ d.exponent := by
        refine mul_lt_mul_of_pos_right ?_ (zpow_pos_ten _)
        exact_mod_cast hk
    _ = 10 ^ ((k : ℤ) + d.exponent) := by rw [zpow_add₀ (by norm_num), zpow_natCast]
    _ ≤ 10 ^ (high : ℤ) := zpow_le_iff.mpr (by omega)

theorem roundHalfEven_le_of_lt (h : 2 * n < (2 * q + 1) * 10 ^ places) :
    roundHalfEven n places ≤ q := by
  have hpos : 0 < 10 ^ places := Nat.pow_pos (by decide)
  have hdivision := Nat.div_add_mod n (10 ^ places)
  by_cases hlt : n / 10 ^ places < q
  · exact (roundHalfEven_le n places).trans hlt
  · -- the quotient is `q`, and what is left of it is less than a half
    have hle : 10 ^ places * q ≤ 10 ^ places * (n / 10 ^ places) :=
      Nat.mul_le_mul_left _ (Nat.le_of_not_lt hlt)
    have hquotient : n / 10 ^ places ≤ q := by
      refine Nat.lt_succ_iff.mp (Nat.div_lt_of_lt_mul ?_)
      nlinarith
    have hhalf : 2 * (n % 10 ^ places) < 10 ^ places := by nlinarith
    simp only [roundHalfEven, Nat.pow_eq]
    rwa [if_pos hhalf]

/-- What is kept of a number is at most `q` if the number is less than half a unit above `q`. -/
theorem kept_le (hlt : d.exponent ≤ d.least)
    (h : d.magnitude < q * 10 ^ d.least + 10 ^ d.least / 2) : d.kept ≤ q := by
  rw [kept]
  split
  · exact Nat.zero_le q
  · refine roundHalfEven_le_of_lt ?_
    have hplace : d.least = (d.dropped : ℤ) + d.exponent := by
      rw [dropped]
      omega
    have hmul : (2 * d.coefficient : ℚ) * 10 ^ d.exponent <
        ((2 * q + 1) * 10 ^ d.dropped) * 10 ^ d.exponent := by
      rw [magnitude] at h
      rw [mul_assoc (2 * (q : ℚ) + 1), ← zpow_natCast, ← zpow_add₀ (by norm_num), ← hplace]
      linarith
    exact_mod_cast lt_of_mul_lt_mul_right hmul (zpow_pos_ten _).le

theorem magnitude_rounded_le (d : Decimal) : d.rounded.magnitude ≤ d.kept * 10 ^ d.least := by
  rw [rounded]
  split
  · rw [magnitude]
    dsimp only
    rw [zpow_add_one₀ (by norm_num), mul_comm _ (10 : ℚ), ← mul_assoc]
    refine mul_le_mul_of_nonneg_right ?_ (zpow_pos_ten _).le
    exact_mod_cast Nat.div_mul_le_self d.kept 10
  · exact le_refl _

/-- A number that can be kept is not above the largest one if it is less than half a unit above
it. -/
theorem magnitude_le_full (hlength : d.digits.length ≤ precision)
    (h : d.magnitude < full k + 10 ^ k / 2) : d.magnitude ≤ full k := by
  have hcoefficient : (d.coefficient : ℚ) ≤ 10 ^ precision - 1 := by
    have hlt : d.coefficient < 10 ^ precision :=
      d.coefficient_lt.trans_le (Nat.pow_le_pow_right (by decide) hlength)
    rw [le_sub_iff_add_le]
    exact_mod_cast hlt
  by_cases hk : k ≤ d.exponent
  · -- the number is on the grid of the place
    obtain ⟨z, hz⟩ := d.onGrid_magnitude.mono hk
    rw [hz, full] at h ⊢
    refine mul_le_mul_of_nonneg_right ?_ (zpow_pos_ten k).le
    have hlt : (z : ℚ) < 10 ^ precision := by
      refine lt_of_mul_lt_mul_right ?_ (zpow_pos_ten k).le
      have hpos := zpow_pos_ten k
      rw [sub_one_mul] at h
      linarith
    rw [le_sub_iff_add_le]
    exact_mod_cast hlt
  · refine mul_le_mul hcoefficient (zpow_le_iff.mpr (Int.le_of_not_le hk)) (zpow_pos_ten _).le ?_
    norm_num [precision]

/-- What is kept of a number is not above the largest number at the place `k`, if the number passes
that by less than half a unit. -/
theorem magnitude_rounded_le_full (hlt : d.exponent < d.least) (hleast : d.least ≤ k)
    (h : d.magnitude < full k + 10 ^ k / 2) : d.rounded.magnitude ≤ full k := by
  refine d.magnitude_rounded_le.trans ?_
  have hpos := zpow_pos_ten d.least
  rcases hleast.eq_or_lt with rfl | hk
  · have hcast : ((10 ^ precision - 1 : ℕ) : ℚ) = 10 ^ precision - 1 := by norm_num [precision]
    have hkept : d.kept ≤ 10 ^ precision - 1 := by
      refine kept_le hlt.le ?_
      rwa [hcast]
    rw [full, ← hcast]
    exact mul_le_mul_of_nonneg_right (by exact_mod_cast hkept) hpos.le
  · -- all that 28 digits can write from a lower place on is far below the bound
    have hkept : d.kept ≤ 10 ^ precision := by
      refine kept_le hlt.le ?_
      have hplace : d.leading + 1 ≤ precision + d.least := by
        rw [leading, least]
        omega
      calc d.magnitude < 10 ^ (d.leading + 1) := d.magnitude_lt
        _ ≤ 10 ^ ((precision : ℤ) + d.least) := zpow_le_iff.mpr hplace
        _ = ((10 ^ precision : ℕ) : ℚ) * 10 ^ d.least := by
            rw [zpow_add₀ (by norm_num), zpow_natCast, Nat.cast_pow, Nat.cast_ofNat]
        _ ≤ _ := le_add_of_nonneg_right (half_pos hpos).le
    have hten : 10 * (10 : ℚ) ^ d.least ≤ 10 ^ k := by
      rw [zpow_pred k, mul_le_mul_iff_right₀ (by norm_num)]
      exact zpow_le_iff.mpr (by omega)
    calc (d.kept : ℚ) * 10 ^ d.least ≤ 10 ^ precision * 10 ^ d.least :=
          mul_le_mul_of_nonneg_right (by exact_mod_cast hkept) hpos.le
      _ ≤ (10 ^ precision - 1) * (10 * 10 ^ d.least) := by
          rw [← mul_assoc]
          refine mul_le_mul_of_nonneg_right ?_ hpos.le
          norm_num [precision]
      _ ≤ full k := mul_le_mul_of_nonneg_left hten (by norm_num [precision])

/-- Rounding does not move a result past the largest number of 28 digits at a place, if the result
passes it by less than half a unit of the place. -/
theorem settle_bounded (hlow : minExponent ≤ k) (hhigh : k + precision ≤ maxLeading + 1)
    (h : d.magnitude < full k + 10 ^ k / 2) : ∃ r, settle d = .ok r ∧ r.magnitude ≤ full k := by
  cases hzero : d.isZero with
  | true =>
    refine ⟨_, if_pos hzero, ?_⟩
    rw [magnitude_eq_zero_iff.mpr]
    · exact full_nonneg k
    · exact hzero
  | false =>
    have hleading : d.leading < k + precision := by
      refine (leading_lt_iff hzero).mpr (h.trans ?_)
      have hpos := zpow_pos_ten k
      have hfull := full_add k
      linarith
    have hrange : ¬ d.leading > maxLeading := by omega
    by_cases hlt : d.exponent < d.least
    · have hbound : d.rounded.magnitude ≤ full k := by
        refine magnitude_rounded_le_full hlt ?_ h
        rw [least]
        rw [leading] at hleading
        omega
      refine ⟨_, settle_eq_rounded hzero hrange hlt fun hne => ?_, hbound⟩
      have hless := (leading_lt_iff hne).mpr (hbound.trans_lt (full_lt k))
      omega
    · refine ⟨d, settle_of_le hzero hrange hlt, magnitude_le_full ?_ h⟩
      rw [least] at hlt
      omega

/-- What stands in for a far smaller term stays far below the sum. -/
theorem magnitude_nudge_le (ha : a.isZero = false) (hlarge : a.magnitude < 10 ^ (k + precision))
    (hb : b.magnitude ≤ x) (hx : 10 ^ (k - 2) ≤ x) : (nudge a b).magnitude ≤ x := by
  simp only [nudge]
  split
  · refine le_trans ?_ hx
    have hleading := (leading_lt_iff ha).mpr hlarge
    rw [magnitude, Nat.cast_one, one_mul, zpow_le_iff]
    rw [leading] at hleading
    dsimp only
    omega
  · exact hb

theorem magnitude_exactSum_le (a b : Decimal) :
    (exactSum a b).magnitude ≤ a.magnitude + b.magnitude := by
  rw [← abs_toRat, ← abs_toRat, ← abs_toRat, toRat_exactSum]
  exact abs_add_le a.toRat b.toRat

theorem magnitude_sumWithZero (e : ℤ) (b : Decimal) :
    (sumWithZero e b).magnitude = b.magnitude := by
  rw [← abs_toRat, toRat_sumWithZero, abs_toRat]

/-- A sum of two numbers that pass the largest one at a place by less than half a unit has a
result. -/
theorem add_bounded (hlow : minExponent ≤ k) (hhigh : k + precision ≤ maxLeading + 1)
    (ha : a.magnitude ≤ x) (hb : b.magnitude ≤ y) (hx : 10 ^ (k - 2) ≤ x) (hy : 10 ^ (k - 2) ≤ y)
    (h : x + y < full k + 10 ^ k / 2) : ∃ r, a.add b = .ok r ∧ r.magnitude ≤ full k := by
  obtain ⟨c, hc, hadd⟩ := exists_unrounded a b
  rw [hadd]
  refine settle_bounded hlow hhigh (lt_of_le_of_lt ?_ h)
  have hfull := full_add k
  have hpos := zpow_pos_ten k
  have hpos' := zpow_pos_ten (k - 2)
  have hnonneg := a.magnitude_nonneg
  have hnonneg' := b.magnitude_nonneg
  cases hc with
  | zeros =>
    rw [magnitude_eq_zero_iff.mpr rfl]
    linarith
  | right =>
    rw [magnitude_sumWithZero]
    linarith
  | left =>
    rw [magnitude_sumWithZero]
    linarith
  | nudgedLeft _ hzero =>
    refine (magnitude_exactSum_le _ _).trans (add_le_add ?_ hb)
    exact magnitude_nudge_le (k := k) hzero (by linarith) ha hx
  | nudgedRight hzero =>
    refine (magnitude_exactSum_le _ _).trans (add_le_add ha ?_)
    exact magnitude_nudge_le (k := k) hzero (by linarith) hb hy

/-- A term that is smaller than a place leaves half a unit of the place free. -/
theorem full_add_lt (k : ℤ) : full k + 10 ^ (k - 1) < full k + 10 ^ k / 2 := by
  have hplace := zpow_pred k
  have hpos := zpow_pos_ten (k - 1)
  linarith

theorem zpow_le_full (k : ℤ) : 10 ^ (k - 2) ≤ full k := by
  have hle : (10 : ℚ) ^ (k - 2) ≤ 10 ^ k := zpow_le_iff.mpr (by omega)
  refine hle.trans ?_
  rw [full]
  exact le_mul_of_one_le_left (zpow_pos_ten k).le (by norm_num [precision])

/-- The size of a difference can be computed if one of the numbers is small against the place of the
other one. -/
theorem difference_bounded (hlow : minExponent ≤ k) (hhigh : k + precision ≤ maxLeading + 1)
    (ha : a.magnitude ≤ 10 ^ (k - 1)) (hb : b.magnitude ≤ full k) :
    ∃ difference size, a.sub b = .ok difference ∧ difference.abs = .ok size := by
  have hneg : b.neg.magnitude ≤ full k := hb
  obtain ⟨difference, hdifference, hbounded⟩ := add_bounded hlow hhigh ha hneg
    (zpow_le_iff.mpr (by omega)) (zpow_le_full k) (by rw [add_comm]; exact full_add_lt k)
  have hhalf := half_pos (zpow_pos_ten k)
  obtain ⟨size, hsize, -⟩ := settle_bounded (d := { difference with negative := false }) hlow hhigh
    (hbounded.trans_lt (lt_add_of_pos_right _ hhalf))
  exact ⟨difference, size, hdifference, hsize⟩

theorem negative_of_settle (h : settle d = .ok r) : r.negative = d.negative := by
  cases hzero : d.isZero with
  | true =>
    rw [settle, if_pos hzero] at h
    cases h
    rfl
  | false =>
    by_cases hleading : d.leading > maxLeading
    · rw [settle, if_neg (by simp [hzero])] at h
      dsimp only at h
      rw [if_pos hleading] at h
      cases h
    · by_cases hlt : d.exponent < d.least
      · rw [settle_of_lt hzero hleading hlt] at h
        split at h
        · cases h
        · exact Except.ok.inj h ▸ d.negative_rounded
      · rw [settle_of_le hzero hleading hlt] at h
        cases h
        rfl

theorem negative_mul (ha : a.negative = false) (hb : b.negative = false) (h : a.mul b = .ok r) :
    r.negative = false := by
  rw [negative_of_settle h, ha, hb]
  rfl

theorem negative_nudge (a b : Decimal) : (nudge a b).negative = b.negative := by
  simp only [nudge]
  split <;> rfl

theorem negative_exactSum (ha : a.negative = false) (hb : b.negative = false) :
    (exactSum a b).negative = false := by
  simp only [exactSum, ha, hb, beq_self_eq_true, if_true]

theorem negative_add (ha : a.negative = false) (hb : b.negative = false) (h : a.add b = .ok r) :
    r.negative = false := by
  obtain ⟨c, hc, hadd⟩ := exists_unrounded a b
  rw [hadd] at h
  rw [negative_of_settle h]
  cases hc with
  | zeros =>
    rw [ha, hb]
    rfl
  | right => exact hb
  | left => exact ha
  | nudgedLeft => exact negative_exactSum ((negative_nudge b a).trans ha) hb
  | nudgedRight => exact negative_exactSum ha ((negative_nudge a b).trans hb)

/-- What every further term keeps holds of a running sum. -/
theorem exists_foldlM_add {P Q : Decimal → Prop} {ds : List Decimal}
    (hstep : ∀ a d, P a → Q d → ∃ b, a.add d = .ok b ∧ P b) (ha : P a) (hds : ∀ d ∈ ds, Q d) :
    ∃ r, ds.foldlM add a = .ok r ∧ P r := by
  induction ds generalizing a with
  | nil => exact ⟨a, rfl, ha⟩
  | cons d ds ih =>
    obtain ⟨b, hadd, hb⟩ := hstep a d ha (hds d (List.mem_cons_self ..))
    obtain ⟨r, hr, hkept⟩ := ih hb fun c hc => hds c (List.mem_cons_of_mem _ hc)
    refine ⟨r, ?_, hkept⟩
    rw [List.foldlM_cons, hadd]
    exact hr

/-- Numbers without a sign that are small against a place have a sum without a sign, however many
they are. -/
theorem sum_bounded {ds : List Decimal} (hlow : minExponent ≤ k)
    (hhigh : k + precision ≤ maxLeading + 1)
    (hds : ∀ d ∈ ds, d.negative = false ∧ d.magnitude ≤ 10 ^ (k - 1)) :
    ∃ r, sum ds = .ok r ∧ r.negative = false ∧ r.magnitude ≤ full k := by
  refine exists_foldlM_add (fun a d ha hd => ?_) ⟨rfl, ?_⟩ hds
  · obtain ⟨b, hb, hbounded⟩ := add_bounded hlow hhigh ha.2 hd.2 (zpow_le_full k)
      (zpow_le_iff.mpr (by omega)) (full_add_lt k)
    exact ⟨b, hb, negative_add ha.1 hd.1 hb, hbounded⟩
  · rw [magnitude_eq_zero_iff.mpr rfl]
    exact full_nonneg k

end OrderSheet.Decimal
