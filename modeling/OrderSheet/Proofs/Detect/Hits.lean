import Mathlib
import OrderSheet.Detect

/-!
# Keywords in a document

A keyword is found where its characters stand one after the other, regardless of case. A comma
agrees with no other character, so that only a document with a comma has a keyword with one.
-/

namespace OrderSheet

namespace Text

theorem lt_smallCode {n : Nat} (h : 44 < n) : 44 < smallCode n := by
  have hcapitals : ∀ r ∈ capitals, 44 < (r.first : Int) + r.shift := by decide +kernel
  unfold smallCode
  split
  · rename_i r hr
    have hbound := hcapitals r (List.mem_of_find?_eq_some hr)
    have hhas := List.find?_some hr
    simp only [CapitalRun.has, Bool.and_eq_true, decide_eq_true_eq] at hhas
    rw [CapitalRun.small]
    omega
  · exact h

theorem lt_foldCode {n : Nat} (h : 44 < n) : 44 < foldCode n := by
  have hvariants : ∀ l ∈ smallVariants, ∀ m ∈ l, 44 < m := by decide
  rw [foldCode, variantsOf]
  cases hfind : smallVariants.find? (·.contains (smallCode n)) with
  | none => exact lt_smallCode h
  | some l =>
    cases l with
    | nil => exact lt_smallCode h
    | cons m l => exact hvariants _ (List.mem_of_find?_eq_some hfind) m (by simp)

/-- A comma agrees with nothing but itself. -/
theorem fold_eq_comma_iff {c : Char} : fold c = ','.toNat ↔ c = ',' := by
  constructor
  · intro h
    rw [fold] at h
    split at h
    · split at h
      · rename_i hcapital
        simp only [Bool.and_eq_true, decide_eq_true_eq] at hcapital
        have hlow : 65 ≤ c.toNat := hcapital.1
        have hcomma : c.toNat + 32 = 44 := h
        omega
      · exact Char.toNat_inj.mp h
    · have hlt := lt_foldCode (n := c.toNat) (by omega)
      rw [h] at hlt
      exact absurd hlt (by decide)
  · rintro rfl
    rfl

end Text

namespace Detect

variable {text k e : String} {ks ls : List String}

theorem occurs_iff {part ns : List Nat} : occurs part ns = true ↔ part <:+: ns := by
  induction ns with
  | nil => simp [occurs]
  | cons n ns ih => rw [occurs, Bool.or_eq_true, ih, List.isPrefixOf_iff_prefix, List.infix_cons_iff]

def found (text k : String) : Bool := !k.isEmpty && occurs (folded k) (folded text)

theorem hits_eq_countP (text : String) (ks : List String) : hits text ks = ks.countP (found text) :=
  rfl

theorem found_iff : found text k = true ↔ k.isEmpty = false ∧ folded k <:+: folded text := by
  rw [found, Bool.and_eq_true, Bool.not_eq_true', occurs_iff]

theorem found_self (h : k.isEmpty = false) : found k k = true := found_iff.mpr ⟨h, List.infix_rfl⟩

/-- A keyword that only one of two lists has makes a difference, if the other list has no hit that
this one lacks. -/
theorem hits_lt (hks : ks.Nodup) (hsub : ∀ k ∈ ks, found text k = true → k ∈ ls) (he : e ∈ ls)
    (hnot : e ∉ ks) (hfound : found text e = true) : hits text ks < hits text ls := by
  have hnodup : (e :: ks.filter (found text)).Nodup :=
    List.nodup_cons.mpr ⟨fun h => hnot (List.mem_filter.mp h).1, hks.filter _⟩
  have hsubset : e :: ks.filter (found text) ⊆ ls.filter (found text) := by
    intro k hk
    rcases List.mem_cons.mp hk with rfl | hk
    · exact List.mem_filter.mpr ⟨he, hfound⟩
    · obtain ⟨hk, hhit⟩ := List.mem_filter.mp hk
      exact List.mem_filter.mpr ⟨hsub k hk hhit, hhit⟩
  rw [hits_eq_countP, hits_eq_countP, List.countP_eq_length_filter, List.countP_eq_length_filter]
  exact (List.subperm_of_subset hnodup hsubset).length_le

theorem comma_mem_of_found (h : found text k = true) (hk : ',' ∈ k.toList) : ',' ∈ text.toList := by
  have hfold : Text.fold ',' ∈ folded text :=
    (found_iff.mp h).2.subset (List.mem_map_of_mem hk)
  obtain ⟨c, hc, heq⟩ := List.mem_map.mp hfold
  rwa [Text.fold_eq_comma_iff.mp heq] at hc

end Detect

end OrderSheet
