import Mathlib
import OrderSheet.Number.Rounding

/-!
# The range of results

How far a number reaches is given by the places of its digits. A product reaches as far as both
factors together, a sum hardly further than its terms, and rounding adds at most one place. So a
sum of numbers that are not too many and not too large has a result.
-/

namespace OrderSheet.Decimal

/-- No digit stands behind the place `-low`, and the magnitude is below `10 ^ high`. -/
structure Within (low high : Nat) (d : Decimal) : Prop where
  low_le : -(low : Int) ≤ d.exponent
  below : ∃ k : Nat, d.coefficient < 10 ^ k ∧ d.exponent + k ≤ high

/-- A number that is zero, or whose leading digit has a place within the range of exponents. -/
def InRange (d : Decimal) : Prop :=
  d.isZero = true ∨ -maxLeading ≤ d.leading ∧ d.leading ≤ maxLeading

variable {a b d : Decimal} {low high low' high' k n m places : Nat} {s : Bool} {e : Int}

theorem within_zero (low high : Nat) : Within low high zero where
  low_le := Int.neg_nonpos_of_nonneg (Int.natCast_nonneg low)
  below := ⟨0, Nat.one_pos, Int.natCast_nonneg high⟩

theorem Within.mono (h : Within low high d) (hlow : low ≤ low') (hhigh : high ≤ high') :
    Within low' high' d := by
  obtain ⟨hexponent, k, hk, hplace⟩ := h
  exact ⟨by omega, k, hk, by omega⟩

theorem Within.neg (h : Within low high d) : Within low high d.neg := ⟨h.low_le, h.below⟩

theorem digits_length_pos (d : Decimal) : 0 < d.digits.length := Nat.length_toDigits_pos

theorem exponent_le_leading (d : Decimal) : d.exponent ≤ d.leading := by
  have hpos := d.digits_length_pos
  rw [leading]
  omega

theorem Within.leading_lt (h : Within low high d) (hne : d.isZero = false) : d.leading < high := by
  obtain ⟨-, k, hk, hplace⟩ := h
  have hpos : 0 < k := by
    rcases Nat.eq_zero_or_pos k with rfl | hpos
    · exact absurd (Nat.lt_one_iff.mp hk) (by simpa [isZero] using hne)
    · exact hpos
  have hlength : d.digits.length ≤ k := (Nat.length_toDigits_le_iff (by decide) hpos).mpr hk
  rw [leading]
  omega

theorem Within.inRange (h : Within low high d) (hlow : low ≤ 999999) (hhigh : high ≤ 999999) :
    d.InRange := by
  cases hzero : d.isZero with
  | true => exact .inl hzero
  | false =>
    have hlt := h.leading_lt hzero
    have hexponent := h.low_le
    have hle := d.exponent_le_leading
    refine .inr ⟨?_, ?_⟩ <;> rw [maxLeading] <;> omega

theorem roundHalfEven_le (n places : Nat) : roundHalfEven n places ≤ n / 10 ^ places + 1 := by
  simp only [roundHalfEven, Nat.pow_eq]
  split
  · exact Nat.le_succ _
  · split
    · exact Nat.le_refl _
    · split
      · exact Nat.le_succ _
      · exact Nat.le_refl _

theorem roundHalfEven_lt (places : Nat) (h : n < 10 ^ k) :
    roundHalfEven n places < 10 ^ (k - places + 1) := by
  have hquotient : n / 10 ^ places < 10 ^ (k - places) := by
    refine Nat.div_lt_of_lt_mul (Nat.lt_of_lt_of_le h ?_)
    rw [← Nat.pow_add]
    exact Nat.pow_le_pow_right (by decide) (by omega)
  calc roundHalfEven n places ≤ n / 10 ^ places + 1 := roundHalfEven_le n places
    _ ≤ 10 ^ (k - places) := hquotient
    _ < 10 ^ (k - places + 1) := Nat.pow_lt_pow_right (by decide) (Nat.lt_succ_self _)

def least (d : Decimal) : Int := max (d.digits.length + d.exponent - precision) minExponent

def dropped (d : Decimal) : Nat := (d.least - d.exponent).toNat

def kept (d : Decimal) : Nat :=
  if d.dropped > d.digits.length then 0 else roundHalfEven d.coefficient d.dropped

/-- A result rounded to the least place, where a carry may take it one place further. -/
def rounded (d : Decimal) : Decimal :=
  if (Nat.toDigits 10 d.kept).length > precision then ⟨d.negative, d.kept / 10, d.least + 1⟩
  else ⟨d.negative, d.kept, d.least⟩

theorem settle_of_lt (hne : d.isZero = false) (hleading : ¬ d.leading > maxLeading)
    (hlt : d.exponent < d.least) :
    settle d = if !d.rounded.isZero && d.rounded.leading > maxLeading then .error .overflow
      else .ok d.rounded := by
  rw [settle, if_neg (by simp [hne])]
  dsimp only
  rw [if_neg hleading]
  exact if_pos hlt

theorem negative_rounded (d : Decimal) : d.rounded.negative = d.negative := by
  rw [rounded]
  split <;> rfl

/-- A rounded result is kept if it is still in range. -/
theorem settle_eq_rounded (hne : d.isZero = false) (hleading : ¬ d.leading > maxLeading)
    (hlt : d.exponent < d.least)
    (hrange : d.rounded.isZero = false → d.rounded.leading ≤ maxLeading) :
    settle d = .ok d.rounded := by
  rw [settle_of_lt hne hleading hlt, if_neg]
  rw [Bool.and_eq_true, Bool.not_eq_true', decide_eq_true_eq]
  rintro ⟨hrounded, hover⟩
  exact Int.not_lt.mpr (hrange hrounded) hover

theorem settle_of_le (hne : d.isZero = false) (hleading : ¬ d.leading > maxLeading)
    (hle : ¬ d.exponent < d.least) : settle d = .ok d := by
  rw [settle, if_neg (by simp [hne])]
  dsimp only
  rw [if_neg hleading]
  exact if_neg hle

theorem Within.rounded (h : Within low high d) (hlt : d.exponent < d.least)
    (hleast : d.least ≤ high) : Within low (high + 1) d.rounded := by
  obtain ⟨hexponent, k, hk, hplace⟩ := h
  have hdropped : d.least = d.exponent + d.dropped := by rw [dropped]; omega
  have hkept : d.kept < 10 ^ (k - d.dropped + 1) := by
    rw [kept]
    split
    · exact Nat.pow_pos (by decide)
    · exact roundHalfEven_lt _ hk
  rw [Decimal.rounded]
  split
  · refine ⟨?_, k - d.dropped, ?_, ?_⟩
    · change -(low : Int) ≤ d.least + 1
      omega
    · exact Nat.div_lt_of_lt_mul (by rwa [Nat.mul_comm, ← Nat.pow_succ])
    · change d.least + 1 + ((k - d.dropped : Nat) : Int) ≤ _
      omega
  · refine ⟨?_, k - d.dropped + 1, hkept, ?_⟩
    · change -(low : Int) ≤ d.least
      omega
    · change d.least + ((k - d.dropped + 1 : Nat) : Int) ≤ _
      omega

/-- A result that is not too large is kept, at most one place further. -/
theorem settle_within (h : Within low high d) (hhigh : high ≤ 999999) :
    ∃ r, settle d = .ok r ∧ Within low (high + 1) r := by
  have hexponent := h.low_le
  cases hzero : d.isZero with
  | true =>
    refine ⟨_, if_pos hzero, ?_, 0, ?_, ?_⟩
    · change -(low : Int) ≤ min (max d.exponent minExponent) maxLeading
      rw [maxLeading]
      omega
    · exact Nat.lt_one_iff.mpr (by simpa [isZero] using hzero)
    · obtain ⟨-, k, -, hplace⟩ := h
      change min (max d.exponent minExponent) maxLeading + (0 : Nat) ≤ _
      rw [minExponent]
      omega
  | false =>
    have hlt := h.leading_lt hzero
    have hleading : ¬ d.leading > maxLeading := by rw [maxLeading]; omega
    by_cases hleast : d.exponent < d.least
    · have hrounded : Within low (high + 1) d.rounded := by
        refine h.rounded hleast ?_
        rw [leading] at hlt
        rw [least, precision, minExponent]
        omega
      refine ⟨_, settle_eq_rounded hzero hleading hleast fun hne => ?_, hrounded⟩
      have hless := hrounded.leading_lt hne
      rw [maxLeading]
      omega
    · rw [settle_of_le hzero hleading hleast]
      exact ⟨d, rfl, h.mono (Nat.le_refl _) (Nat.le_succ _)⟩

theorem mul_within (ha : Within low high a) (hb : Within low' high' b)
    (hhigh : high + high' ≤ 999999) :
    ∃ r, a.mul b = .ok r ∧ Within (low + low') (high + high' + 1) r := by
  obtain ⟨halow, k, hk, haplace⟩ := ha
  obtain ⟨hblow, k', hk', hbplace⟩ := hb
  refine settle_within ⟨?_, k + k', ?_, ?_⟩ hhigh
  · change -((low + low' : Nat) : Int) ≤ a.exponent + b.exponent
    omega
  · rw [Nat.pow_add]
    exact Nat.mul_lt_mul'' hk hk'
  · change a.exponent + b.exponent + ((k + k' : Nat) : Int) ≤ _
    omega

/-- Digits moved to another place stay where they reach. -/
theorem mul_pow_lt (h : n < 10 ^ k) (m : Nat) : n * Nat.pow 10 m < 10 ^ (k + m) := by
  rw [Nat.pow_eq, Nat.pow_add]
  exact Nat.mul_lt_mul_of_pos_right h (Nat.pow_pos (by decide))

theorem exactSum_within (ha : Within low high a) (hb : Within low high b) :
    Within low (high + 1) (exactSum a b) := by
  obtain ⟨halow, k, hk, haplace⟩ := ha
  obtain ⟨hblow, k', hk', hbplace⟩ := hb
  let e := min a.exponent b.exponent
  have hm := mul_pow_lt hk (a.exponent - e).toNat
  have hn := mul_pow_lt hk' (b.exponent - e).toNat
  -- Both terms at the common place, and a sum of them one place further.
  let places := max (k + (a.exponent - e).toNat) (k' + (b.exponent - e).toNat)
  have hsum : a.coefficient * Nat.pow 10 (a.exponent - e).toNat +
      b.coefficient * Nat.pow 10 (b.exponent - e).toNat < 10 ^ (places + 1) := by
    have hkplaces : 10 ^ (k + (a.exponent - e).toNat) ≤ 10 ^ places :=
      Nat.pow_le_pow_right (by decide) (Nat.le_max_left ..)
    have hk'places : 10 ^ (k' + (b.exponent - e).toNat) ≤ 10 ^ places :=
      Nat.pow_le_pow_right (by decide) (Nat.le_max_right ..)
    rw [Nat.pow_succ]
    omega
  have hexponent : (exactSum a b).exponent = e := by
    simp only [exactSum]
    split
    · rfl
    · split
      · rfl
      · split <;> rfl
  refine ⟨?_, places + 1, Nat.lt_of_le_of_lt ?_ hsum, ?_⟩
  · rw [hexponent]
    omega
  · simp only [exactSum]
    split
    · exact Nat.le_refl _
    · split
      · exact Nat.zero_le _
      · split
        · exact Nat.le_trans (Nat.sub_le ..) (Nat.le_add_right ..)
        · exact Nat.le_trans (Nat.sub_le ..) (Nat.le_add_left ..)
  · rw [hexponent]
    omega

theorem nudge_within (ha : Within low high a) (hb : Within low high b) :
    Within low high (nudge a b) := by
  simp only [nudge]
  split
  · next hlt =>
    obtain ⟨-, k, -, hplace⟩ := ha
    have hlow := hb.low_le
    have hle := b.exponent_le_leading
    have hone : 1 < 10 ^ 1 := by decide
    refine ⟨?_, 1, hone, ?_⟩ <;> dsimp only <;> omega
  · exact hb

theorem sumWithZero_within (he : -(low : Int) ≤ e) (hb : Within low high b) :
    Within low high (sumWithZero e b) := by
  obtain ⟨hlow, k, hk, hplace⟩ := hb
  refine ⟨?_, _, mul_pow_lt hk _, ?_⟩ <;> simp only [sumWithZero, precision] <;> omega

/-- What a sum is before it is rounded: a number beside zero takes another exponent at most, and of
two other numbers the one with the higher exponent decides how the other one counts. -/
inductive Unrounded (a b : Decimal) : Decimal → Prop where
  | zeros (ha : a.isZero = true) (hb : b.isZero = true) :
    Unrounded a b ⟨a.negative && b.negative, 0, min a.exponent b.exponent⟩
  | right (ha : a.isZero = true) : Unrounded a b (sumWithZero a.exponent b)
  | left (hb : b.isZero = true) : Unrounded a b (sumWithZero b.exponent a)
  | nudgedLeft (ha : a.isZero = false) (hb : b.isZero = false) :
    Unrounded a b (exactSum (nudge b a) b)
  | nudgedRight (ha : a.isZero = false) (hb : b.isZero = false) :
    Unrounded a b (exactSum a (nudge a b))

theorem exists_unrounded (a b : Decimal) : ∃ c, Unrounded a b c ∧ a.add b = settle c := by
  rw [add]
  cases ha : a.isZero with
  | true =>
    cases hb : b.isZero with
    | true => exact ⟨_, .zeros ha hb, rfl⟩
    | false => exact ⟨_, .right ha, rfl⟩
  | false =>
    cases hb : b.isZero with
    | true => exact ⟨_, .left hb, rfl⟩
    | false =>
      by_cases hlt : a.exponent < b.exponent
      · exact ⟨_, .nudgedLeft ha hb, congrArg settle (if_pos hlt)⟩
      · exact ⟨_, .nudgedRight ha hb, congrArg settle (if_neg hlt)⟩

theorem Unrounded.within (ha : Within low high a) (hb : Within low high b)
    (h : Unrounded a b d) : Within low (high + 1) d := by
  have hterm {c : Decimal} (hc : Within low high c) : Within low (high + 1) c :=
    hc.mono (Nat.le_refl _) (Nat.le_succ _)
  cases h with
  | zeros =>
    obtain ⟨halow, k, -, hplace⟩ := ha
    have hblow := hb.low_le
    refine ⟨?_, 0, Nat.one_pos, ?_⟩ <;> dsimp only <;> omega
  | right => exact hterm (sumWithZero_within ha.low_le hb)
  | left => exact hterm (sumWithZero_within hb.low_le ha)
  | nudgedLeft => exact exactSum_within (nudge_within hb ha) hb
  | nudgedRight => exact exactSum_within ha (nudge_within ha hb)

theorem add_within (ha : Within low high a) (hb : Within low high b) (hhigh : high < 999999) :
    ∃ r, a.add b = .ok r ∧ Within low (high + 2) r := by
  obtain ⟨c, hc, hadd⟩ := exists_unrounded a b
  rw [hadd]
  exact settle_within (hc.within ha hb) hhigh

theorem sub_within (ha : Within low high a) (hb : Within low high b) (hhigh : high < 999999) :
    ∃ r, a.sub b = .ok r ∧ Within low (high + 2) r :=
  add_within ha hb.neg hhigh

theorem abs_within (h : Within low high d) (hhigh : high ≤ 999999) :
    ∃ r, d.abs = .ok r ∧ Within low (high + 1) r :=
  settle_within ⟨h.low_le, h.below⟩ hhigh

/-- Every further term takes a sum at most two places further. -/
theorem foldlM_add_within {ds : List Decimal} (hds : ∀ d ∈ ds, Within low high d)
    (ha : Within low high' a) (hle : high ≤ high') (hroom : high' + 2 * ds.length ≤ 999999) :
    ∃ r, ds.foldlM add a = .ok r ∧ Within low (high' + 2 * ds.length) r := by
  induction ds generalizing a high' with
  | nil => exact ⟨a, rfl, ha⟩
  | cons d ds ih =>
    rw [List.length_cons] at hroom
    have hd : Within low high' d := (hds d (List.mem_cons_self ..)).mono (Nat.le_refl _) hle
    obtain ⟨b, hb, hbwithin⟩ := add_within ha hd (by omega)
    obtain ⟨r, hr, hwithin⟩ := ih (fun d hd => hds d (List.mem_cons_of_mem _ hd)) hbwithin
      (by omega) (by omega)
    refine ⟨r, ?_, hwithin.mono (Nat.le_refl _) (by rw [List.length_cons]; omega)⟩
    rw [List.foldlM_cons, hb]
    exact hr

theorem sum_within {ds : List Decimal} (hds : ∀ d ∈ ds, Within low high d)
    (hroom : high + 2 * ds.length ≤ 999999) :
    ∃ r, sum ds = .ok r ∧ Within low (high + 2 * ds.length) r :=
  foldlM_add_within hds (within_zero low high) (Nat.le_refl _) hroom

end OrderSheet.Decimal
