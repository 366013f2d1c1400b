import Mathlib
import OrderSheet.Text.Blank

/-!
# Parts of a text

A text is split at each separator, so that no part has one and a separator always stands between
the parts of what is in front of it and the parts of what is behind it.
-/

namespace OrderSheet.Text

variable {sep c : Char} {cs part : List Char}

theorem splitOnChar_eq_splitOnP (sep : Char) (cs : List Char) :
    splitOnChar sep cs = cs.splitOnP (· == sep) := by
  induction cs with
  | nil => rfl
  | cons c cs ih =>
    rw [List.splitOnP_cons_eq_if_modifyHead, ← ih, splitOnChar, List.foldr_cons, ← splitOnChar]
    cases hparts : splitOnChar sep cs with
    | nil => exact absurd (ih.symm.trans hparts) (List.splitOnP_ne_nil _ _)
    | cons p ps => rfl

theorem splitOnChar_of_not_mem (h : sep ∉ cs) : splitOnChar sep cs = [cs] := by
  rw [splitOnChar_eq_splitOnP]
  exact List.splitOnP_eq_singleton fun c hc => beq_false_of_ne fun heq => h (heq ▸ hc)

theorem splitOnChar_append (sep : Char) (cs ds : List Char) :
    splitOnChar sep (cs ++ sep :: ds) = splitOnChar sep cs ++ splitOnChar sep ds := by
  simp only [splitOnChar_eq_splitOnP]
  exact List.splitOnP_append_cons cs ds (beq_self_eq_true sep)

theorem splitOnChar_cons (h : c ≠ sep) (cs : List Char) :
    splitOnChar sep (c :: cs) = (splitOnChar sep cs).modifyHead (c :: ·) := by
  simp only [splitOnChar_eq_splitOnP]
  rw [List.splitOnP_cons_eq_if_modifyHead, if_neg (by simpa using h)]

theorem not_mem_of_mem_splitOnChar (h : part ∈ splitOnChar sep cs) : sep ∉ part := by
  induction cs generalizing part with
  | nil =>
    obtain rfl := List.mem_singleton.mp h
    exact List.not_mem_nil
  | cons c cs ih =>
    by_cases hc : c = sep
    · rw [hc, ← List.nil_append (sep :: cs), splitOnChar_append] at h
      rcases List.mem_append.mp h with h | h
      · obtain rfl := List.mem_singleton.mp h
        exact List.not_mem_nil
      · exact ih h
    · rw [splitOnChar_cons hc] at h
      cases hparts : splitOnChar sep cs with
      | nil =>
        rw [hparts] at h
        cases h
      | cons p ps =>
        rw [hparts] at h ih
        rcases List.mem_cons.mp h with rfl | h
        · rw [List.mem_cons, not_or]
          exact ⟨Ne.symm hc, ih (List.mem_cons_self ..)⟩
        · exact ih (List.mem_cons_of_mem _ h)

end OrderSheet.Text
