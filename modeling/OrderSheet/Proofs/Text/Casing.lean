import Mathlib
import OrderSheet.Text.Fold

/-!
# Letters without regard to case

Two letters agree regardless of case if they have the same small letter, or if their small letters
share a capital. This is coarser than having the same small letter, and for the letters of the
ASCII range it comes to the same. In lower case nearly every letter is its small letter.
-/

namespace OrderSheet.Text

def Alike (a b : Char) : Prop :=
  smallCode a.toNat = smallCode b.toNat ∨
    ∃ variants ∈ smallVariants, smallCode a.toNat ∈ variants ∧ smallCode b.toNat ∈ variants

instance (a b : Char) : Decidable (Alike a b) := inferInstanceAs (Decidable (_ ∨ _))

/-- The long s and the small s have different small letters, but the same capital. -/
example : Alike 'ſ' 's' ∧ smallCode 'ſ'.toNat ≠ smallCode 's'.toNat := by decide

variable {m n : Nat} {a b c : Char} {variants others : List Nat}

/-- No small letter has two lists of variants. -/
theorem variants_disjoint (h : variants ∈ smallVariants) (hothers : others ∈ smallVariants)
    (hn : n ∈ variants) (hn' : n ∈ others) : variants = others := by
  have hdisjoint : ∀ l ∈ smallVariants, ∀ l' ∈ smallVariants, ∀ n ∈ l, n ∈ l' → l = l' := by
    decide
  exact hdisjoint variants h others hothers n hn hn'

theorem variantsOf_eq (h : variants ∈ smallVariants) (hn : n ∈ variants) :
    variantsOf n = variants := by
  rw [variantsOf]
  cases hfind : smallVariants.find? (·.contains n) with
  | none =>
    rw [List.find?_eq_none] at hfind
    exact absurd (List.contains_iff_mem.mpr hn) (hfind variants h)
  | some l =>
    have hmem : n ∈ l := by simpa using List.find?_some hfind
    exact variants_disjoint (List.mem_of_find?_eq_some hfind) h hmem hn

theorem variantsOf_of_not_mem (h : ∀ variants ∈ smallVariants, n ∉ variants) :
    variantsOf n = [n] := by
  rw [variantsOf, List.find?_eq_none.mpr fun l hl => by simpa using h l hl]
  rfl

/-- Folding picks one letter from each list of variants. -/
theorem foldCode_eq (n : Nat) :
    (∃ variants ∈ smallVariants, smallCode n ∈ variants ∧ foldCode n ∈ variants ∧
      foldCode n = variants.headD 0) ∨
    (∀ variants ∈ smallVariants, smallCode n ∉ variants) ∧ foldCode n = smallCode n := by
  by_cases h : ∃ variants ∈ smallVariants, smallCode n ∈ variants
  · obtain ⟨variants, hvariants, hn⟩ := h
    refine .inl ⟨variants, hvariants, hn, ?_⟩
    rw [foldCode, variantsOf_eq hvariants hn]
    cases variants with
    | nil => cases hn
    | cons v vs => exact ⟨List.mem_cons_self, rfl⟩
  · push Not at h
    refine .inr ⟨h, ?_⟩
    rw [foldCode, variantsOf_of_not_mem h]
    rfl

theorem foldCode_eq_iff : foldCode m = foldCode n ↔ smallCode m = smallCode n ∨
    ∃ variants ∈ smallVariants, smallCode m ∈ variants ∧ smallCode n ∈ variants := by
  constructor
  · intro h
    rcases foldCode_eq m with ⟨l, hl, hm, hfold, -⟩ | ⟨hm, hfold⟩ <;>
      rcases foldCode_eq n with ⟨l', hl', hn, hfold', -⟩ | ⟨hn, hfold'⟩
    · rw [h] at hfold
      obtain rfl := variants_disjoint hl hl' hfold hfold'
      exact .inr ⟨l, hl, hm, hn⟩
    · rw [h, hfold'] at hfold
      exact absurd hfold (hn l hl)
    · rw [← h, hfold] at hfold'
      exact absurd hfold' (hm l' hl')
    · exact .inl (by rw [← hfold, ← hfold', h])
  · rintro (h | ⟨l, hl, hm, hn⟩)
    · rw [foldCode, foldCode, h]
    · rw [foldCode, foldCode, variantsOf_eq hl hm, variantsOf_eq hl hn]
      cases l with
      | nil => cases hm
      | cons v vs => rfl

/-- The first run of capitals is that of the ASCII range. -/
theorem smallCode_eq (n : Nat) : smallCode n =
    if 65 ≤ n ∧ n ≤ 90 then n + 32
    else match capitals.tail.find? (fun r => n ≤ r.last && r.has n) with
      | some r => r.small n
      | none => n := by
  have hcapitals : capitals = ⟨65, 90, 1, 32⟩ :: capitals.tail := rfl
  rw [smallCode, hcapitals, List.find?_cons]
  by_cases hn : 65 ≤ n ∧ n ≤ 90
  · have hrun : (decide (n ≤ 90) && CapitalRun.has ⟨65, 90, 1, 32⟩ n) = true := by
      simp [CapitalRun.has, hn, Nat.mod_one]
    rw [if_pos hn, hrun]
    rfl
  · have hrun : (decide (n ≤ 90) && CapitalRun.has ⟨65, 90, 1, 32⟩ n) = false := by
      simp only [CapitalRun.has, Bool.and_eq_false_iff, decide_eq_false_iff_not]
      omega
    rw [if_neg hn, hrun]
    rfl

theorem smallCode_of_ascii (h : n < 128) :
    smallCode n = if 65 ≤ n ∧ n ≤ 90 then n + 32 else n := by
  have hothers : ∀ r ∈ capitals.tail, 128 ≤ r.first := by decide +kernel
  have hnone : capitals.tail.find? (fun r => n ≤ r.last && r.has n) = none := by
    refine List.find?_eq_none.mpr fun r hr => ?_
    have := hothers r hr
    simp only [CapitalRun.has, Bool.and_eq_true, decide_eq_true_eq, not_and]
    omega
  rw [smallCode_eq, hnone]

/-- The shortcut for the ASCII range makes no difference. -/
theorem fold_eq_foldCode (c : Char) : fold c = foldCode c.toNat := by
  have hfirst : ∀ n < 128, (variantsOf n).headD n = n := by decide +kernel
  have hcapital : ('A' ≤ c && c ≤ 'Z') = true ↔ 65 ≤ c.toNat ∧ c.toNat ≤ 90 := by
    rw [Bool.and_eq_true, decide_eq_true_eq, decide_eq_true_eq]
    exact Iff.rfl
  rw [fold]
  split
  · next h =>
    have hsmall : smallCode c.toNat < 128 := by
      rw [smallCode_of_ascii h]
      split <;> omega
    rw [foldCode, hfirst _ hsmall, smallCode_of_ascii h]
    simp only [hcapital]
  · rfl

theorem fold_eq_fold_iff : fold a = fold b ↔ Alike a b := by
  rw [fold_eq_foldCode, fold_eq_foldCode, foldCode_eq_iff, Alike]

theorem toLower_of_not_ascii (h : 128 ≤ c.toNat) : c.toLower = c := by
  rw [Char.toLower, dif_neg]
  rintro ⟨-, hle⟩
  have hle : c.toNat ≤ 90 := hle
  omega

/-- Capitals of the ASCII range agree with their small letters. -/
theorem fold_toLower (c : Char) : fold c.toLower = fold c := by
  have hascii : ∀ n < 128, fold (Char.ofNat n).toLower = fold (Char.ofNat n) := by decide +kernel
  by_cases h : c.toNat < 128
  · simpa only [Char.ofNat_toNat] using hascii c.toNat h
  · rw [toLower_of_not_ascii (Nat.le_of_not_lt h)]

theorem map_fold_eq_iff {cs ds : List Char} :
    cs.map fold = ds.map fold ↔ List.Forall₂ Alike cs ds := by
  rw [← List.forall₂_eq_eq_eq, List.forall₂_map_left_iff, List.forall₂_map_right_iff]
  simp only [fold_eq_fold_iff]

/-- A folded text stands in another one where a part agrees with it, character by character. -/
theorem map_fold_infix_iff {cs ds : List Char} : cs.map fold <:+: ds.map fold ↔
    ∃ part, part <:+: ds ∧ List.Forall₂ Alike cs part := by
  simp only [List.infix_map_iff, map_fold_eq_iff]

/-- The ways to write a letter in lower case. The capital I with a dot is followed by the dot then,
and the capital sigma has a small letter of its own for the end of a word. -/
def lowerForms (c : Char) : List (List Nat) :=
  if c.toNat = 304 then [[105, 775]]
  else if c.toNat = 931 then [[963], [962]]
  else [[smallCode c.toNat]]

inductive Lowered : List Char → List Nat → Prop where
  | nil : Lowered [] []
  | cons {c : Char} {cs : List Char} {form ns : List Nat} (hform : form ∈ lowerForms c)
    (h : Lowered cs ns) : Lowered (c :: cs) (form ++ ns)

theorem toNat_toLower_of_ascii (h : c.toNat < 128) : c.toLower.toNat = smallCode c.toNat := by
  have hascii : ∀ n < 128, (Char.ofNat n).toLower.toNat =
      if 65 ≤ n ∧ n ≤ 90 then n + 32 else n := by decide +kernel
  rw [smallCode_of_ascii h, ← hascii c.toNat h, Char.ofNat_toNat]

/-- Only two letters have a small letter in the ASCII range without being in it themselves: the
capital I with a dot and the unit kelvin. -/
theorem not_ascii_smallCode (h : 128 ≤ n) (hdot : n ≠ 304) (hkelvin : n ≠ 8490) :
    128 ≤ smallCode n := by
  have hruns : ∀ r ∈ capitals.tail,
      128 ≤ r.first + r.shift ∨ r.first = r.last ∧ (r.first = 304 ∨ r.first = 8490) := by
    decide +kernel
  rw [smallCode_eq, if_neg (by omega)]
  cases hfind : capitals.tail.find? (fun r => n ≤ r.last && r.has n) with
  | none => exact h
  | some r =>
    have hhas := List.find?_some hfind
    have hr := hruns r (List.mem_of_find?_eq_some hfind)
    simp only [CapitalRun.has, Bool.and_eq_true, decide_eq_true_eq] at hhas
    simp only [CapitalRun.small]
    omega

theorem lowerForms_of_ascii (h : c.toNat < 128) : lowerForms c = [[c.toLower.toNat]] := by
  rw [lowerForms, if_neg (by omega), if_neg (by omega), toNat_toLower_of_ascii h]

theorem eq_of_mem_lowerForms {form : List Nat} (h : form ∈ lowerForms c)
    (hplain : ∀ n ∈ form, n < 128 ∧ n ≠ 107) : form = [c.toLower.toNat] := by
  by_cases hascii : c.toNat < 128
  · rw [lowerForms_of_ascii hascii] at h
    exact List.mem_singleton.mp h
  · exfalso
    rw [lowerForms] at h
    split_ifs at h with hdot hsigma
    · obtain rfl := List.mem_singleton.mp h
      exact absurd (hplain 775 (by simp)).1 (by decide)
    · have hletter : form = [963] ∨ form = [962] := by simpa using h
      rcases hletter with rfl | rfl
      · exact absurd (hplain 963 (by simp)).1 (by decide)
      · exact absurd (hplain 962 (by simp)).1 (by decide)
    · obtain rfl := List.mem_singleton.mp h
      obtain ⟨hsmall, hk⟩ := hplain _ (List.mem_singleton_self _)
      have hkelvin : c.toNat ≠ 8490 := fun heq => hk (by rw [heq]; decide +kernel)
      exact absurd (not_ascii_smallCode (Nat.le_of_not_lt hascii) hdot hkelvin) (by omega)

/-- For an ASCII text the capitals of the ASCII range are all there is to lower case, unless it has
a k, which is the small letter of the unit kelvin as well. -/
theorem lowered_iff {cs : List Char} {ns : List Nat} (h : ∀ n ∈ ns, n < 128 ∧ n ≠ 107) :
    Lowered cs ns ↔ cs.map (·.toLower.toNat) = ns := by
  induction cs generalizing ns with
  | nil =>
    constructor
    · rintro ⟨⟩
      rfl
    · rintro rfl
      exact .nil
  | cons c cs ih =>
    constructor
    · intro hlow
      cases hlow with
      | @cons _ _ form ns hform hlow =>
        have hhead := eq_of_mem_lowerForms hform fun n hn => h n (List.mem_append_left _ hn)
        have hrest := (ih fun n hn => h n (List.mem_append_right _ hn)).mp hlow
        rw [List.map_cons, hrest, hhead, List.singleton_append]
    · rintro rfl
      obtain ⟨hhead, hrest⟩ := List.forall_mem_cons.mp h
      have hsmall : c.toLower.toNat < 128 := hhead.1
      have hascii : c.toNat < 128 := by
        by_contra hnot
        rw [toLower_of_not_ascii (Nat.le_of_not_lt hnot)] at hsmall
        exact hnot hsmall
      have hform : [c.toLower.toNat] ∈ lowerForms c := by simp [lowerForms_of_ascii hascii]
      exact .cons hform ((ih hrest).mpr rfl)

end OrderSheet.Text
