import OrderSheet.Number.Amount
import OrderSheet.Proofs.Number.Range

/-!
# The size of an amount

Reading an amount only takes parts of its text, so that the amount has no more places, on either
side of the point, than the text has characters.
-/

namespace OrderSheet

theorem Text.digitsValue_lt (cs : List Char) : digitsValue cs < 10 ^ cs.length := by
  have hfrom (n : Nat) : cs.foldl (fun n c => 10 * n + (digitValue? c).getD 0) n <
      (n + 1) * 10 ^ cs.length := by
    induction cs generalizing n with
    | nil => simp
    | cons c cs ih =>
      have hdigit : (digitValue? c).getD 0 < 10 := by
        cases hc : digitValue? c with
        | none => decide
        | some v => exact digitValue?_lt hc
      rw [List.foldl_cons, List.length_cons, Nat.pow_succ, Nat.mul_comm (10 ^ _) 10,
        ← Nat.mul_assoc]
      exact Nat.lt_of_lt_of_le (ih _) (Nat.mul_le_mul_right _ (by omega))
  simpa [digitsValue] using hfrom 0

theorem Decimal.isSuffix_readSign (cs : List Char) : (readSign cs).2 <:+ cs := by
  rw [readSign.eq_def]
  split
  · exact List.suffix_cons ..
  · exact List.suffix_cons ..
  · exact List.suffix_rfl

namespace Amount

variable {f : Format} {mark cs ds rest whole : List Char} {found : List Division} {size fuel : Nat}
  {p : Division}

theorem isSuffix_of_afterMark? (h : afterMark? mark cs = some rest) : rest <:+ cs := by
  fun_induction afterMark? mark cs with
  | case1 cs => exact Option.some.inj h ▸ List.suffix_rfl
  | case2 => cases h
  | case3 m mark c cs _ ih => exact (ih h).trans (List.suffix_cons ..)
  | case4 => cases h

theorem isSuffix_of_fraction? (h : fraction? mark cs = some ds) : ds <:+ cs := by
  have hempty {b : Bool} (h : (if b then some [] else none) = some ds) : ds <:+ cs := by
    obtain ⟨-, h⟩ := Option.ite_none_right_eq_some.mp h
    exact Option.some.inj h ▸ List.nil_suffix
  rw [fraction?] at h
  split at h
  · next hafter =>
    split at h
    · exact Option.some.inj h ▸ isSuffix_of_afterMark? hafter
    · exact hempty h
  · exact hempty h

theorem isSuffix_of_afterGroup? (h : afterGroup? mark cs = some rest) : rest <:+ cs := by
  rw [afterGroup?] at h
  split at h
  · next a b c tail hafter =>
    obtain ⟨-, h⟩ := Option.ite_none_right_eq_some.mp h
    have htail : rest <:+ a :: b :: c :: tail := ⟨[a, b, c], by rw [← Option.some.inj h]; rfl⟩
    exact htail.trans (isSuffix_of_afterMark? hafter)
  · cases h

theorem isSuffix_of_mem_groupDivisions (hfound : ∀ p ∈ found, p.2 <:+ whole)
    (hcs : cs <:+ whole) : ∀ p ∈ groupDivisions mark fuel size found cs, p.2 <:+ whole := by
  induction fuel generalizing size found cs with
  | zero => exact hfound
  | succ fuel ih =>
    rw [groupDivisions]
    cases hgroup : afterGroup? mark cs with
    | none => exact hfound
    | some rest =>
      have hrest : rest <:+ whole := (isSuffix_of_afterGroup? hgroup).trans hcs
      exact ih (List.forall_mem_cons.mpr ⟨hrest, hfound⟩) hrest

theorem isSuffix_of_mem_groupedFrom (h : p ∈ groupedFrom mark cs size) : p.2 <:+ cs := by
  simp only [groupedFrom] at h
  split at h
  · exact isSuffix_of_mem_groupDivisions (by simp) (List.drop_suffix ..) p h
  · cases h

theorem isSuffix_of_mem_plainDivisions (hfound : ∀ p ∈ found, p.2 <:+ whole)
    (hcs : cs <:+ whole) : ∀ p ∈ plainDivisions size found cs, p.2 <:+ whole := by
  induction cs generalizing size found with
  | nil => exact hfound
  | cons c cs ih =>
    have hrest : cs <:+ whole := (List.suffix_cons c cs).trans hcs
    rw [plainDivisions]
    split
    · exact ih (List.forall_mem_cons.mpr ⟨hrest, hfound⟩) hrest
    · exact hfound

theorem isSuffix_of_mem_divisions (h : p ∈ divisions f cs) : p.2 <:+ cs := by
  simp only [divisions, List.mem_append] at h
  rcases h with ((h | h) | h) | h
  · exact isSuffix_of_mem_groupedFrom h
  · exact isSuffix_of_mem_groupedFrom h
  · exact isSuffix_of_mem_groupedFrom h
  · exact isSuffix_of_mem_plainDivisions (by simp) List.suffix_rfl p h

theorem dropMark_sublist (mark : List Char) (skip : Nat) (cs : List Char) :
    (dropMark mark skip cs).Sublist cs := by
  fun_induction dropMark mark skip cs with
  | case1 => exact List.Sublist.refl []
  | case2 c cs n ih => exact ih.cons c
  | case3 c cs _ ih => exact ih.cons c
  | case4 c cs _ ih => exact ih.cons_cons c

theorem value?_within {negative : Bool} {d : Decimal} (hp : p.2 <:+ cs)
    (h : p.value? f negative cs = some (some d)) : d.Within cs.length cs.length := by
  obtain ⟨fraction, hfraction, hvalue⟩ := Option.map_eq_some_iff.mp h
  obtain ⟨-, hd⟩ := Option.ite_none_left_eq_some.mp hvalue
  obtain rfl := Option.some.inj hd
  have hlow := ((isSuffix_of_fraction? hfraction).trans hp).length_le
  have hhigh :=
    ((dropMark_sublist f.thousands.toList 0 _).trans (List.take_sublist p.1 cs)).length_le
  refine ⟨?_, _, Text.digitsValue_lt _, ?_⟩
  · dsimp only
    omega
  · rw [List.length_append]
    dsimp only
    omega

/-- An amount has no more places than its text has characters. -/
theorem read?_within {d : Decimal} (h : read? f cs = some d) : d.Within cs.length cs.length := by
  rw [read?] at h
  obtain ⟨p, hp, hvalue⟩ := List.exists_of_findSome?_eq_some (Option.join_eq_some_iff.mp h)
  have hlength : (Decimal.readSign (cs.filter (!isIgnored ·))).2.length ≤ cs.length :=
    Nat.le_trans (Decimal.isSuffix_readSign _).length_le (List.length_filter_le ..)
  exact (value?_within (isSuffix_of_mem_divisions hp) hvalue).mono hlength hlength

end Amount

end OrderSheet
