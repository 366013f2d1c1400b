import Mathlib
import OrderSheet.Proofs.Yaml.Writing

/-!
# What a text comes back as

A written text comes back as it was, unless it contains a next line character and is written in
single quotes: there that character reads as any other line break.
-/

namespace OrderSheet.Yaml

open Scan (breakRead foldedBreak)

variable {cs part : List Char}

def nextLine : Char := '\x85'

theorem breakRead_ne (c : Char) : breakRead c ≠ nextLine := by
  unfold breakRead
  split
  · rintro rfl
    simp [nextLine] at *
  · decide

theorem breakRead_of_ne {c : Char} (h : isLineEnd c = true) (hc : c ≠ nextLine) :
    breakRead c = c := by
  have hcases : c = '\n' ∨ c = '\x85' ∨ c = '\u2028' ∨ c = '\u2029' := by
    simpa [isLineEnd, or_assoc] using h
  rcases hcases with rfl | rfl | rfl | rfl
  · rfl
  · exact absurd rfl hc
  · rfl
  · rfl

theorem rereadPart_of_not_break (h : ∀ c ∈ part.head?, isLineEnd c = false) :
    rereadPart part = part := by
  cases part with
  | nil => rfl
  | cons c cs =>
    have hc : isLineEnd c = false := h c rfl
    have hfeed : (c == '\n') = false := by
      simp only [isLineEnd, Bool.or_eq_false_iff] at hc
      exact hc.1.1.1
    rw [rereadPart, hfeed, hc, if_neg (by simp), if_neg (by simp)]

/-- Line breaks without next line characters stay as they are. -/
theorem rereadPart_of_breaks (h : ∀ c ∈ part, isLineEnd c = true) (hpart : nextLine ∉ part) :
    rereadPart part = part := by
  have hmap : part.map breakRead = part := by
    conv_rhs => rw [← List.map_id part]
    refine List.map_congr_left fun c hc => ?_
    exact breakRead_of_ne (h c hc) fun heq => hpart (heq ▸ hc)
  cases part with
  | nil => rfl
  | cons c cs =>
    rw [List.map_cons, List.cons.injEq] at hmap
    by_cases hfeed : c = '\n'
    · rw [rereadPart, if_pos (by simpa using hfeed), List.map_cons, hmap.1, hmap.2, hfeed]
      rfl
    · rw [rereadPart, if_neg (by simpa using hfeed), if_pos (h c (by simp)), hmap.1, hmap.2,
        foldedBreak, if_pos (by simpa using hfeed)]

theorem nextLine_not_mem_breaks {b : Char} {bs : List Char} (hb : b ≠ nextLine)
    (hbs : nextLine ∉ bs) : nextLine ∉ foldedBreak b bs := by
  unfold foldedBreak
  split
  · simpa using ⟨hb.symm, hbs⟩
  · split
    · decide
    · exact hbs

theorem nextLine_not_mem_map (bs : List Char) : nextLine ∉ bs.map breakRead := by
  intro h
  obtain ⟨c, -, hc⟩ := List.mem_map.mp h
  exact breakRead_ne c hc

/-- Behind single quotes no next line character is left. -/
theorem nextLine_not_mem_rereadPart (h : (∀ c ∈ part, isLineEnd c = true) ∨ nextLine ∉ part) :
    nextLine ∉ rereadPart part := by
  cases part with
  | nil => simp [rereadPart]
  | cons c cs =>
    rw [rereadPart]
    split
    · rename_i hc
      exact nextLine_not_mem_breaks (by rw [eq_of_beq hc]; decide) (nextLine_not_mem_map _)
    · split
      · exact nextLine_not_mem_breaks (breakRead_ne c) (nextLine_not_mem_map _)
      · rename_i hc
        rcases h with h | h
        · exact absurd (h c (by simp)) hc
        · exact h

theorem length_rereadPart_le (part : List Char) : (rereadPart part).length ≤ part.length := by
  cases part with
  | nil => rfl
  | cons c cs =>
    rw [rereadPart]
    split
    · rename_i hc
      rw [foldedBreak, if_neg (by simpa using hc), if_neg (by simp), List.length_map]
    · split
      · unfold foldedBreak
        split
        · simp
        · split
          · simp
          · simp
      · rfl

theorem not_break_of_kind {k : Nat} (hkind : ∀ c ∈ part, Pen.kind c = k) (hk : k ≠ 1) :
    ∀ c ∈ part, isLineEnd c = false := by
  intro c hc
  by_contra hend
  exact hk ((hkind c hc).symm.trans (kind_eq_one.mpr (by simpa using hend)))

theorem flatMap_rereadPart {ps : List (List Char)} (h : Runs ps) (hps : nextLine ∉ ps.flatten) :
    ps.flatMap rereadPart = ps.flatten := by
  induction h with
  | nil => rfl
  | @cons k part ps hpart hkind _ _ ih =>
    rw [List.flatten_cons, List.mem_append, not_or] at hps
    rw [List.flatMap_cons, ih hps.2, List.flatten_cons]
    by_cases hk : k = 1
    · rw [rereadPart_of_breaks (fun c hc => kind_eq_one.mp (hk ▸ hkind c hc)) hps.1]
    · rw [rereadPart_of_not_break fun c hc =>
        not_break_of_kind hkind hk c (List.mem_of_mem_head? hc)]

theorem nextLine_not_mem_flatMap {ps : List (List Char)} (h : Runs ps) :
    nextLine ∉ ps.flatMap rereadPart := by
  induction h with
  | nil => simp
  | @cons k part ps hpart hkind _ _ ih =>
    rw [List.flatMap_cons, List.mem_append, not_or]
    refine ⟨nextLine_not_mem_rereadPart ?_, ih⟩
    by_cases hk : k = 1
    · exact .inl fun c hc => kind_eq_one.mp (hk ▸ hkind c hc)
    · exact .inr fun hmem => absurd (not_break_of_kind hkind hk _ hmem) (by decide)

/-- A text without next line characters comes back as it was. -/
theorem reread_of_not_mem (h : nextLine ∉ cs) : reread cs = cs := by
  unfold reread
  split
  · rw [flatMap_rereadPart (runs_parts cs) (by rwa [flatten_parts]), flatten_parts]
  · rfl
  · rfl

theorem nextLine_not_mem_reread (h : styleOf cs ≠ .double) : nextLine ∉ reread cs := by
  unfold reread
  split
  · exact nextLine_not_mem_flatMap (runs_parts cs)
  · rename_i hstyle
    intro hmem
    have hgap := (plainText_of_style hstyle).1.gaps nextLine hmem (by decide)
    exact absurd hgap (by decide)
  · rename_i hstyle
    exact absurd hstyle h

/-- A text comes back as it was just when no next line character is written in single quotes. -/
theorem reread_eq_iff : reread cs = cs ↔ (nextLine ∈ cs → styleOf cs = .double) := by
  constructor
  · intro h hmem
    by_contra hstyle
    rw [← h] at hmem
    exact nextLine_not_mem_reread hstyle hmem
  · intro h
    by_cases hmem : nextLine ∈ cs
    · rw [reread, h hmem]
    · exact reread_of_not_mem hmem

theorem length_flatMap_rereadPart_le (ps : List (List Char)) :
    (ps.flatMap rereadPart).length ≤ ps.flatten.length := by
  induction ps with
  | nil => rfl
  | cons part ps ih =>
    have hpart := length_rereadPart_le part
    rw [List.flatMap_cons, List.flatten_cons, List.length_append, List.length_append]
    omega

theorem length_reread_le (cs : List Char) : (reread cs).length ≤ cs.length := by
  unfold reread
  split
  · have h := length_flatMap_rereadPart_le (Pen.parts cs)
    rwa [flatten_parts] at h
  · rfl
  · rfl

end OrderSheet.Yaml
