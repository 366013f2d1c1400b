import Mathlib
import OrderSheet.Extract.Table

/-!
# The rows of a table, described as a whole

A document is gone through line by line, but its rows are what is left of the list of its lines once
the lines up to the start marker, those from the end marker on, the separators and the lines of
excessive length are taken away, one after the other.
-/

namespace OrderSheet

theorem Text.hasPart_iff {part cs : List Char} : hasPart part cs = true ↔ part <:+: cs := by
  induction cs with
  | nil => simp [hasPart]
  | cons c cs ih =>
    rw [hasPart, Bool.or_eq_true, ih, List.isPrefixOf_iff_prefix, List.infix_cons_iff]

namespace Table

variable {startMarker endMarker : List Char} {ls : List Line} {l : Line}

/-- The lines behind the first one that contains the start marker; all of them if it is empty. -/
def behindStart (startMarker : List Char) (ls : List Line) : List Line :=
  if startMarker = [] then ls else (ls.dropWhile fun l => ¬ startMarker <:+: l.text).tail

/-- The lines in front of the first one that contains the end marker; all of them if it is empty. -/
def beforeEnd (endMarker : List Char) (ls : List Line) : List Line :=
  if endMarker = [] then ls else ls.takeWhile fun l => ¬ endMarker <:+: l.text

def between (startMarker endMarker : List Char) (ls : List Line) : List Line :=
  beforeEnd endMarker (behindStart startMarker ls)

theorem contains_iff {marker : List Char} : l.contains marker = true ↔ marker <:+: l.text :=
  Text.hasPart_iff

theorem beforeEnd_cons_of_ends (hne : endMarker ≠ []) (hl : endMarker <:+: l.text)
    (ls : List Line) : beforeEnd endMarker (l :: ls) = [] := by
  rw [beforeEnd, if_neg hne, List.takeWhile_cons_of_neg (by simpa using hl)]

theorem beforeEnd_cons_of_not (h : ¬ (endMarker ≠ [] ∧ endMarker <:+: l.text))
    (ls : List Line) : beforeEnd endMarker (l :: ls) = l :: beforeEnd endMarker ls := by
  by_cases hempty : endMarker = []
  · rw [beforeEnd, beforeEnd, if_pos hempty, if_pos hempty]
  · have hl : ¬ endMarker <:+: l.text := fun hl => h ⟨hempty, hl⟩
    rw [beforeEnd, beforeEnd, if_neg hempty, if_neg hempty,
      List.takeWhile_cons_of_pos (by simpa using hl)]

/-- In the table, the rows are the lines in front of the end marker that are no separators. -/
theorem rowsFrom_inside (startMarker endMarker : List Char) (found ls : List Line) :
    rowsFrom startMarker endMarker true found ls =
      found.reverse ++ (beforeEnd endMarker ls).filter fun l => !l.isSeparator := by
  induction ls generalizing found with
  | nil => simp [rowsFrom, beforeEnd]
  | cons l ls ih =>
    rw [rowsFrom, if_neg (by simp)]
    have hcond : (!endMarker.isEmpty && l.contains endMarker) = true ↔
        endMarker ≠ [] ∧ endMarker <:+: l.text := by simp [contains_iff]
    by_cases hend : endMarker ≠ [] ∧ endMarker <:+: l.text
    · rw [if_pos (hcond.mpr hend), beforeEnd_cons_of_ends hend.1 hend.2, List.filter_nil,
        List.append_nil]
    · rw [if_neg (hcond.not.mpr hend), beforeEnd_cons_of_not hend]
      by_cases hl : l.isSeparator = true
      · rw [if_pos hl, ih, List.filter_cons_of_neg (by simp [hl])]
      · rw [if_neg hl, ih, List.filter_cons_of_pos (by simpa using hl), List.reverse_cons,
          List.append_assoc, List.singleton_append]

/-- In front of the table, lines are passed over up to the first one with the start marker. -/
theorem rowsFrom_outside (startMarker endMarker : List Char) (found ls : List Line) :
    rowsFrom startMarker endMarker false found ls = rowsFrom startMarker endMarker true found
      (ls.dropWhile fun l => ¬ startMarker <:+: l.text).tail := by
  induction ls with
  | nil => rfl
  | cons l ls ih =>
    rw [rowsFrom, if_pos Bool.not_false]
    by_cases hl : startMarker <:+: l.text
    · rw [contains_iff.mpr hl, List.dropWhile_cons_of_neg (by simpa using hl), List.tail_cons]
    · rw [Bool.eq_false_iff.mpr (contains_iff.not.mpr hl), ih,
        List.dropWhile_cons_of_pos (by simpa using hl)]

theorem rows_eq (document startMarker endMarker : String) :
    rows document startMarker endMarker =
      (between startMarker.toList endMarker.toList (lines document.toList)).filter
        fun l => !l.isSeparator := by
  rw [rows, between, behindStart]
  by_cases hempty : startMarker = ""
  · rw [String.isEmpty_iff.mpr hempty, rowsFrom_inside, if_pos (by simpa using hempty)]
    rfl
  · rw [Bool.eq_false_iff.mpr (String.isEmpty_iff.not.mpr hempty), rowsFrom_outside,
      rowsFrom_inside, if_neg (by simpa using hempty)]
    rfl

theorem between_sublist (startMarker endMarker : List Char) (ls : List Line) :
    (between startMarker endMarker ls).Sublist ls := by
  have hbody : (behindStart startMarker ls).Sublist ls := by
    rw [behindStart]
    split
    · exact List.Sublist.refl ls
    · exact (List.tail_sublist _).trans (List.dropWhile_sublist _)
  rw [between, beforeEnd]
  split
  · exact hbody
  · exact (List.takeWhile_sublist _).trans hbody

theorem rows_sublist (document startMarker endMarker : String) :
    (rows document startMarker endMarker).Sublist (lines document.toList) := by
  rw [rows_eq]
  exact List.filter_sublist.trans (between_sublist ..)

theorem lines_eq (document : List Char) : lines document =
    (((Text.splitLines document).map Text.strip).zipIdx 1).map fun l => ⟨l.2, l.1⟩ := by
  simp [lines, List.zipIdx_map, List.zipIdx_succ, Function.comp_def]

theorem isSeparator_iff :
    l.isSeparator = true ↔ ∀ c ∈ l.text, Text.isBlank c = true ∨ c = '-' := by
  rw [Line.isSeparator, List.all_eq_true]
  simp

/-- The lines that a pattern is tried on, found one by one, are what remains of the trimmed lines of
the document with their positions: those behind the first line with the start marker and in front of
the next one with the end marker, without the lines made of whitespace and hyphens and without those
of more than 2000 characters. -/
theorem candidates_rows_eq (document startMarker endMarker : String) :
    let numbered : List Line :=
      (((Text.splitLines document.toList).map Text.strip).zipIdx 1).map fun l => ⟨l.2, l.1⟩
    let behind := if startMarker.toList = [] then numbered
      else (numbered.dropWhile fun l => ¬ startMarker.toList <:+: l.text).tail
    let table := if endMarker.toList = [] then behind
      else behind.takeWhile fun l => ¬ endMarker.toList <:+: l.text
    candidates (rows document startMarker endMarker) =
      (table.filter fun l => ¬ ∀ c ∈ l.text, Text.isBlank c = true ∨ c = '-').filter
        fun l => l.text.length ≤ 2000 := by
  have hseparator : (fun l : Line => !l.isSeparator) =
      fun l => decide (¬ ∀ c ∈ l.text, Text.isBlank c = true ∨ c = '-') := by
    funext l
    rw [Bool.eq_iff_iff, decide_eq_true_iff, ← isSeparator_iff, Bool.not_eq_true',
      Bool.not_eq_true]
  have hshort : (fun l : Line => !l.isOversized) = fun l => decide (l.text.length ≤ 2000) := by
    funext l
    rw [Line.isOversized, ← decide_not]
    exact decide_eq_decide.mpr Nat.not_lt
  rw [candidates, rows_eq, lines_eq, hseparator, hshort]
  rfl

end Table

end OrderSheet
