import OrderSheet.Proofs.Layout.Grammar
import OrderSheet.Proofs.Text.Words

/-!
# Division of a line

Every column but a text holds one word, so that the divisions of a line by a layout with at most
one text column differ in the whitespace around that text only.
-/

namespace OrderSheet

open Text

namespace ColumnKind

theorem word_of_admits {k : ColumnKind} {f : List Char} (hk : k ≠ text) (h : k.Admits f) :
    Word f := by
  have hamount (h : number.Admits f) : Word f := by
    obtain ⟨d, ds, rfl, hd, hds⟩ := h
    refine ⟨nofun, fun c hc => ?_⟩
    rcases List.mem_cons.mp hc with rfl | hc
    · exact isBlank_of_isDigit hd
    · rcases hds c hc with hdigit | rfl | rfl
      · exact isBlank_of_isDigit hdigit
      · rfl
      · rfl
  cases k with
  | text => exact absurd rfl hk
  | number | price => exact hamount h
  | code | ignored => exact h

end ColumnKind

namespace Layout

variable {columns : List Column} {line line' x : List Char} {fs gs : List (List Char)}

theorem count_eq_zero_iff {k : ColumnKind} : count k columns = 0 ↔ ∀ c ∈ columns, c.kind ≠ k := by
  simp [count]

namespace Splits

/-- Without a text column, the texts of a division are the words of the line. -/
theorem words_eq (h : Splits columns line fs) (htext : count .text columns = 0) :
    words line = fs := by
  rw [count_eq_zero_iff] at htext
  induction h with
  | last hf => exact (ColumnKind.word_of_admits (htext _ (by simp)) hf).words_eq
  | cons hf hgap _ ih =>
    rw [words_append_gap hgap.1 hgap.2, ih fun c hc => htext c (List.mem_cons_of_mem _ hc),
      (ColumnKind.word_of_admits (htext _ (by simp)) hf).words_eq]
    rfl

/-- The line of a division whose first column is no text begins with a word. -/
theorem exists_eq_cons (h : Splits columns line fs) (htext : count .text columns = 0) :
    ∃ c cs, line = c :: cs ∧ isBlank c = false := by
  rw [count_eq_zero_iff] at htext
  cases h with
  | last hf =>
    obtain ⟨hne, hf⟩ := ColumnKind.word_of_admits (htext _ (by simp)) hf
    obtain ⟨c, cs, rfl⟩ := List.exists_cons_of_ne_nil hne
    exact ⟨c, cs, rfl, hf c (by simp)⟩
  | cons hf hgap h =>
    obtain ⟨hne, hf⟩ := ColumnKind.word_of_admits (htext _ (by simp)) hf
    obtain ⟨c, cs, rfl⟩ := List.exists_cons_of_ne_nil hne
    exact ⟨c, _, rfl, hf c (by simp)⟩

/-- Without a text column, a line and a longer one with the same end cannot both be divided. -/
theorem eq_nil_of_append (htext : count .text columns = 0) (h : Splits columns line fs)
    (h' : Splits columns (x ++ line) gs) (hx : ∀ c ∈ x.getLast?, isBlank c = true) : x = [] := by
  obtain rfl | ⟨y, b, rfl⟩ := List.eq_nil_or_concat' x
  · rfl
  have hb : isBlank b = true := hx b (by simp)
  have hwords : words y ++ fs = gs := by
    rw [← h.words_eq htext, ← h'.words_eq htext, List.append_assoc, List.singleton_append,
      words_append_blank hb]
  have hy : words y = [] := by
    have hlen := congrArg List.length hwords
    rw [List.length_append, h.length_eq, h'.length_eq] at hlen
    exact List.length_eq_zero_iff.mp (by omega)
  obtain ⟨c, cs, hcons, hc⟩ := h'.exists_eq_cons htext
  cases y with
  | nil =>
    obtain rfl : b = c := (List.cons.inj hcons).1
    rw [hb] at hc
    cases hc
  | cons d y =>
    obtain rfl : d = c := (List.cons.inj hcons).1
    exact absurd hy (words_cons_ne_nil hc y)

/-- Behind a text column, two divisions of a line begin at the same place. -/
theorem tail_unique (htext : count .text columns = 0) {a b : List Char}
    (h : Splits columns line fs) (h' : Splits columns line' gs)
    (ha : ∀ c ∈ a.getLast?, isBlank c = true) (hb : ∀ c ∈ b.getLast?, isBlank c = true)
    (heq : a ++ line = b ++ line') : a = b ∧ line = line' := by
  rcases List.append_eq_append_iff.mp heq with ⟨x, rfl, rfl⟩ | ⟨x, rfl, rfl⟩
  · obtain rfl : x = [] := eq_nil_of_append htext h' h fun c hc =>
      hb c (List.mem_getLast?_append_of_mem_getLast? hc)
    simp
  · obtain rfl : x = [] := eq_nil_of_append htext h h' fun c hc =>
      ha c (List.mem_getLast?_append_of_mem_getLast? hc)
    simp

theorem isBlank_getLast?_stripLeft {f gap : List Char} (hgap : Gap gap) :
    ∀ c ∈ (stripLeft (f ++ gap)).getLast?, isBlank c = true := by
  intro c hc
  rw [stripLeft, List.dropWhile_append] at hc
  split at hc
  · exact hgap.2 c ((List.dropWhile_sublist _).subset (List.mem_of_mem_getLast? hc))
  · rw [List.getLast?_append_of_ne_nil _ hgap.1] at hc
    exact hgap.2 c (List.mem_of_mem_getLast? hc)

/-- Two divisions of a line agree up to the whitespace around the text column. -/
theorem strip_unique (htext : count .text columns ≤ 1) (h : Splits columns line fs)
    (h' : Splits columns line' gs) (heq : stripLeft line = stripLeft line') :
    fs.map strip = gs.map strip := by
  induction h generalizing line' gs with
  | last hf =>
    cases h' with
    | last hg => simp [strip, heq]
    | cons _ _ h => exact absurd rfl h.columns_ne_nil
  | @cons c cs f gap line fs hf hgap h ih =>
    cases h' with
    | last => exact absurd rfl h.columns_ne_nil
    | @cons _ _ g gap' line' gs hg hgap' h' =>
      rw [count_cons] at htext
      by_cases hc : c.kind = .text
      · -- the words behind the text fix where it ends
        have hrest : count .text cs = 0 := by
          rw [if_pos hc] at htext
          omega
        obtain ⟨d, ds, rfl, hd⟩ := h.exists_eq_cons hrest
        obtain ⟨e, es, rfl, he⟩ := h'.exists_eq_cons hrest
        rw [← List.append_assoc, ← List.append_assoc, stripLeft_append_cons hd,
          stripLeft_append_cons he] at heq
        obtain ⟨hleft, hright⟩ := tail_unique hrest h h' (isBlank_getLast?_stripLeft hgap)
          (isBlank_getLast?_stripLeft hgap') heq
        have hstrip : strip f = strip g := by
          rw [← strip_append_of_blank hgap.2 f, ← strip_append_of_blank hgap'.2 g, strip, hleft,
            strip]
        rw [List.map_cons, List.map_cons, hstrip, ih (by omega) h' (by rw [hright])]
      · have hf := ColumnKind.word_of_admits hc hf
        have hg := ColumnKind.word_of_admits hc hg
        obtain ⟨hne, hblank⟩ := hgap
        obtain ⟨hne', hblank'⟩ := hgap'
        obtain ⟨b, bs, rfl⟩ := List.exists_cons_of_ne_nil hne
        obtain ⟨d, ds, rfl⟩ := List.exists_cons_of_ne_nil hne'
        rw [hf.stripLeft_append, hg.stripLeft_append] at heq
        obtain ⟨rfl, hrest⟩ := hf.append_cons_inj hg (hblank b (by simp)) (hblank' d (by simp)) heq
        have hline : stripLeft line = stripLeft line' := calc
          stripLeft line = stripLeft (b :: bs ++ line) := (stripLeft_append_of_blank hblank _).symm
          _ = stripLeft (d :: ds ++ line') := congrArg stripLeft hrest
          _ = stripLeft line' := stripLeft_append_of_blank hblank' _
        rw [List.map_cons, List.map_cons, ih (by simpa [hc] using htext) h' hline]

end Splits

end Layout

end OrderSheet
