import Mathlib
import OrderSheet.Proofs.Yaml.Quoted

/-!
# Writing texts

The pen writes a text as one of its spellings. The parts of a text alternate in kind, which is
what keeps apart the spaces and the line breaks that are read differently next to each other.
-/

namespace OrderSheet.Yaml

open Scan (foldedBreak breakRead ne_of_not_isGap)

/-- Parts of one kind each, where neighbours differ in kind. -/
inductive Runs : List (List Char) → Prop
  | nil : Runs []
  | cons {k : Nat} {part : List Char} {ps : List (List Char)} : part ≠ [] →
      (∀ c ∈ part, Pen.kind c = k) → (∀ c ∈ ps.flatten.head?, Pen.kind c ≠ k) → Runs ps →
      Runs (part :: ps)

theorem kind_of_isChain {c : Char} {part : List Char}
    (h : (c :: part).IsChain fun a b => (Pen.kind a == Pen.kind b) = true) :
    ∀ d ∈ c :: part, Pen.kind d = Pen.kind c := by
  induction part generalizing c with
  | nil => simp
  | cons e part ih =>
    rw [List.isChain_cons_cons] at h
    have hkind : Pen.kind c = Pen.kind e := by simpa using h.1
    intro d hd
    rcases List.mem_cons.mp hd with rfl | hd
    · rfl
    · rw [ih h.2 d hd, hkind]

theorem runs_of_isChain {ps : List (List Char)} (hnil : [] ∉ ps)
    (hpart : ∀ part ∈ ps, part.IsChain fun a b => (Pen.kind a == Pen.kind b) = true)
    (hps : ps.IsChain fun a b =>
      ∃ ha hb, (Pen.kind (a.getLast ha) == Pen.kind (b.head hb)) = false) :
    Runs ps := by
  induction ps with
  | nil => exact .nil
  | cons part ps ih =>
    rw [List.mem_cons, not_or] at hnil
    rw [List.isChain_cons] at hps
    obtain ⟨c, part, rfl⟩ := List.exists_cons_of_ne_nil (Ne.symm hnil.1)
    have hkind := kind_of_isChain (hpart (c :: part) (by simp))
    refine .cons (by simp) hkind (fun d hd => ?_)
      (ih hnil.2 (fun part hp => hpart part (by simp [hp])) hps.2)
    cases ps with
    | nil => simp at hd
    | cons next ps =>
      obtain ⟨ha, hb, hne⟩ := hps.1 next rfl
      obtain ⟨e, next, rfl⟩ := List.exists_cons_of_ne_nil hb
      have hed : e = d := by simpa using hd
      rw [hkind _ (List.getLast_mem ha), beq_eq_false_iff_ne] at hne
      exact hed ▸ Ne.symm hne

theorem runs_parts (cs : List Char) : Runs (Pen.parts cs) :=
  runs_of_isChain (List.nil_notMem_splitBy _ _) (fun _ => List.isChain_of_mem_splitBy)
    (List.isChain_getLast_head_splitBy (fun a b => Pen.kind a == Pen.kind b) cs)

theorem flatten_parts (cs : List Char) : (Pen.parts cs).flatten = cs :=
  List.flatten_splitBy _ _

theorem kind_eq_zero {c : Char} : Pen.kind c = 0 ↔ c = ' ' := by
  by_cases hc : c = ' '
  · subst hc
    decide
  · unfold Pen.kind
    split
    · simp_all
    · split <;> simp_all

theorem kind_eq_one {c : Char} : Pen.kind c = 1 ↔ isLineEnd c = true := by
  by_cases hc : c = ' '
  · subst hc
    decide
  · unfold Pen.kind
    split <;> simp_all

theorem kind_le (c : Char) : Pen.kind c ≤ 2 := by
  unfold Pen.kind
  split
  · omega
  · split <;> omega

theorem eq_replicate_of_kind {part : List Char} (hne : part ≠ [])
    (h : ∀ c ∈ part, Pen.kind c = 0) : ∃ n, part = List.replicate (n + 1) ' ' := by
  refine ⟨part.length - 1, List.eq_replicate_iff.mpr ⟨?_, fun c hc => kind_eq_zero.mp (h c hc)⟩⟩
  have := List.length_pos_iff.mpr hne
  omega

theorem anyNeighbours_eq_false {p : Char → Char → Bool} {cs : List Char} :
    anyNeighbours p cs = false ↔ cs.IsChain fun a b => p a b = false := by
  induction cs with
  | nil => simp [anyNeighbours]
  | cons c cs ih =>
    cases cs with
    | nil => simp [anyNeighbours]
    | cons d cs =>
      rw [List.isChain_cons_cons, ← ih]
      simp [anyNeighbours]

namespace Pen

variable {p : Pen}

def Closed (p : Pen) : Prop := p.spaced = false ∧ p.indenting = false

theorem breakLine_toColumn (column : Nat) (c : Char) (p : Pen) :
    (p.breakLine c).toColumn column =
      ⟨List.replicate column ' ' ++ c :: p.written, column, true, true⟩ := by
  cases column with
  | zero => rfl
  | succ n => simp [breakLine, toColumn, put]

theorem toColumn_of_lt (column : Nat) (h : p.indenting = false ∨ column < p.column) :
    p.toColumn column = ⟨(lineStart column).reverse ++ p.written, column, true, true⟩ := by
  have hline : p.toColumn column = (p.breakLine '\n').toColumn column := by
    have hbreak : (!p.indenting || column < p.column ||
        (p.column == column && !p.spaced)) = true := by
      rcases h with h | h <;> simp [h]
    have hsame : ¬ (!(p.breakLine '\n').indenting || column < (p.breakLine '\n').column ||
        ((p.breakLine '\n').column == column && !(p.breakLine '\n').spaced)) = true := by
      simp [breakLine]
    unfold toColumn
    rw [if_pos hbreak, if_neg hsame]
  rw [hline, breakLine_toColumn]
  simp [lineStart]

theorem foldAt_written (column : Nat) (hp : p.indenting = false) :
    (p.foldAt column).written = (lineStart column).reverse ++ p.written := by
  rw [foldAt, toColumn_of_lt column (.inl hp)]

@[simp]
theorem put_nil (p : Pen) : p.put [] = p := rfl

theorem put_append (cs ds : List Char) (p : Pen) : p.put (cs ++ ds) = (p.put cs).put ds := by
  simp [put, Nat.add_assoc]

def Spells (spelling : List Char → List Char → Prop) (cs : List Char) (p q : Pen) : Prop :=
  ∃ xs, spelling cs xs ∧ q.written = xs.reverse ++ p.written

variable {spelling : List Char → List Char → Prop} {cs ds : List Char} {p' q : Pen}

theorem Spells.step (ys : List Char) (h : Spells spelling cs p' q)
    (hwritten : p'.written = ys.reverse ++ p.written)
    (hspelling : ∀ xs, spelling cs xs → spelling ds (ys ++ xs)) : Spells spelling ds p q := by
  obtain ⟨xs, hxs, hrest⟩ := h
  exact ⟨ys ++ xs, hspelling xs hxs, by simp [hrest, hwritten]⟩

theorem Spells.behind {ys : List Char} (h : Spells spelling cs (p.put ys) q)
    (hspelling : ∀ xs, spelling cs xs → spelling ds (ys ++ xs)) : Spells spelling ds p q :=
  h.step ys rfl hspelling

end Pen

/-- Texts that can be written plainly, whatever kind of value they stand for. -/
structure PlainText (cs : List Char) : Prop where
  writable : ∀ c ∈ cs, isWritable c = true
  gaps : ∀ c ∈ cs, isGap c = true → c = ' '
  chain : cs.IsChain fun a b => ((b == '#' && isGap a) || (a == ':' && isGap b)) = false
  last : ∀ c ∈ cs.getLast?, c ≠ ' ' ∧ c ≠ ':'

theorem PlainText.of_append {cs ds : List Char} (h : PlainText (cs ++ ds)) : PlainText ds := by
  refine ⟨fun c hc => h.writable c (by simp [hc]), fun c hc => h.gaps c (by simp [hc]),
    h.chain.right_of_append, fun c hc => h.last c ?_⟩
  rw [List.getLast?_append, hc]
  rfl

theorem PlainSpelling.word {column : Nat} {w cs xs : List Char} (hw : w ≠ [])
    (hgaps : ∀ c ∈ w, isGap c = false) (ht : PlainText (w ++ cs))
    (h : cs = [] ∧ xs = [] ∨ PlainSpelling column cs xs) :
    PlainSpelling column (w ++ cs) (w ++ xs) := by
  induction w with
  | nil => exact absurd rfl hw
  | cons c w ih =>
    have hc : isGap c = false := hgaps c (by simp)
    have hwritable := ht.writable c (by simp)
    cases w with
    | nil =>
      rcases h with ⟨rfl, rfl⟩ | h
      · exact .last hwritable hc (ht.last c rfl).2
      · cases cs with
        | nil => cases h
        | cons d cs =>
          refine .char hwritable hc (fun heq => ?_) h
          have hchain := (List.isChain_cons_cons.mp ht.chain).1
          simpa [heq] using (Bool.or_eq_false_iff.mp hchain).2
    | cons d w =>
      have hd : isGap d = false := hgaps d (by simp)
      exact .char hwritable hc (fun _ => hd) (ih (by simp) (fun e he => hgaps e (by simp [he]))
        (show PlainText ([c] ++ (d :: w ++ cs)) from ht).of_append)

/-- Behind spaces a plain text goes on, and not with a comment. -/
theorem PlainText.after_spaces {n : Nat} {cs : List Char}
    (ht : PlainText (List.replicate (n + 1) ' ' ++ cs))
    (hnext : ∀ c ∈ cs.head?, Pen.kind c ≠ 0) :
    ∃ d ds, cs = d :: ds ∧ d ≠ ' ' ∧ d ≠ '#' := by
  cases cs with
  | nil => exact absurd rfl (ht.last ' ' (by simp [List.getLast?_replicate])).1
  | cons d ds =>
    refine ⟨d, ds, rfl, fun hspace => hnext d rfl (kind_eq_zero.mpr hspace), ?_⟩
    have hchain := (List.isChain_append.mp ht.chain).2.2 ' '
      (by simp [List.getLast?_replicate]) d rfl
    rintro rfl
    exact absurd hchain (by decide)

namespace Pen

variable {column : Nat} {p : Pen} {ps : List (List Char)}

theorem plainParts_cons (column : Nat) (p : Pen) (part : List Char) (ps : List (List Char)) :
    plainParts column p (part :: ps) =
      plainParts column (if part == [' '] && lineWidth < p.column then p.foldAt column
        else p.put part) ps := rfl

theorem plainParts_word {part : List Char} (hpart : ' ' ∉ part) :
    plainParts column p (part :: ps) = plainParts column (p.put part) ps := by
  have hspace : part ≠ [' '] := by
    rintro rfl
    simp at hpart
  simp [plainParts_cons, hspace]

theorem plainParts_spaces (n : Nat) :
    plainParts column p (List.replicate (n + 1) ' ' :: ps) =
      plainParts column (if n = 0 ∧ lineWidth < p.column then p.foldAt column
        else p.put (List.replicate (n + 1) ' ')) ps := by
  cases n with
  | zero => simp [plainParts_cons]
  | succ n => simp [plainParts_cons, List.replicate_succ]

theorem plainParts_closed (hp : p.Closed) : (plainParts column p ps).Closed := by
  induction ps generalizing p with
  | nil => exact hp
  | cons part ps ih =>
    rw [plainParts_cons]
    split
    · exact ih ⟨rfl, rfl⟩
    · exact ih hp

theorem plainParts_spells (p : Pen) (h : Runs ps) (hne : ps ≠ []) (ht : PlainText ps.flatten)
    (hp : p.indenting = false) :
    Spells (PlainSpelling column) ps.flatten p (plainParts column p ps) := by
  induction h generalizing p with
  | nil => exact absurd rfl hne
  | @cons k part ps hpart hkind hnext hps ih =>
    rw [List.flatten_cons] at ht ⊢
    by_cases hk : k = 0
    · subst hk
      obtain ⟨n, rfl⟩ := eq_replicate_of_kind hpart hkind
      obtain ⟨d, ds, hrest, hd, hcomment⟩ := ht.after_spaces hnext
      have hps : ps ≠ [] := by
        rintro rfl
        simp at hrest
      rw [hrest] at ht ih ⊢
      rw [plainParts_spaces]
      split
      · rename_i hfold
        obtain ⟨rfl, -⟩ := hfold
        exact (ih (p.foldAt column) hps ht.of_append rfl).step (lineStart column) (foldAt_written column hp)
          fun _ hxs => .fold hd hcomment hxs
      · exact (ih (p.put _) hps ht.of_append hp).behind fun _ hxs => .spaces hd hcomment hxs
    · have hgaps : ∀ c ∈ part, isGap c = false := by
        intro c hc
        by_contra hgap
        have hspace := ht.gaps c (by simp [hc]) (by simpa using hgap)
        exact hk ((hkind c hc).symm.trans (kind_eq_zero.mpr hspace))
      rw [plainParts_word fun hspace => absurd (hgaps ' ' hspace) (by decide)]
      by_cases hps : ps = []
      · subst hps
        exact ⟨part ++ [], .word hpart hgaps ht (.inl ⟨rfl, rfl⟩), by simp [plainParts, put]⟩
      · exact (ih (p.put _) hps ht.of_append hp).behind fun _ hxs => .word hpart hgaps ht (.inr hxs)

end Pen

structure SingleText (cs : List Char) : Prop where
  writable : ∀ c ∈ cs, isWritable c = true
  chain : cs.IsChain fun a b => ((a == ' ' && isLineEnd b) || (isLineEnd a && b == ' ')) = false

theorem SingleText.of_append {cs ds : List Char} (h : SingleText (cs ++ ds)) : SingleText ds :=
  ⟨fun c hc => h.writable c (by simp [hc]), h.chain.right_of_append⟩

theorem gap_of_writable {c : Char} (h : isWritable c = true) (hgap : isGap c = true) :
    c = ' ' ∨ isLineEnd c = true := by
  rcases gap_cases hgap with rfl | rfl | rfl | rfl | rfl | rfl | rfl | rfl
  · exact .inr (by decide)
  · exact absurd h (by decide)
  · exact .inr (by decide)
  · exact .inr (by decide)
  · exact .inr (by decide)
  · exact absurd h (by decide)
  · exact .inl rfl
  · exact absurd h (by decide)

theorem not_isGap_of_kind {c : Char} (h : isWritable c = true) (hkind : Pen.kind c = 2) :
    isGap c = false := by
  by_contra hgap
  rcases gap_of_writable h (by simpa using hgap) with hc | hc
  · rw [kind_eq_zero.mpr hc] at hkind
    omega
  · rw [kind_eq_one.mpr hc] at hkind
    omega

def doubled (c : Char) : List Char := if c == '\'' then ['\'', '\''] else [c]

theorem SingleSpelling.word {column : Nat} {w cs xs : List Char}
    (hw : ∀ c ∈ w, isWritable c = true ∧ isGap c = false) (h : SingleSpelling column cs xs) :
    SingleSpelling column (w ++ cs) (w.flatMap doubled ++ xs) := by
  induction w with
  | nil => exact h
  | cons c w ih =>
    have hrest := ih fun d hd => hw d (by simp [hd])
    rw [List.flatMap_cons, List.append_assoc]
    by_cases hc : c = '\''
    · subst hc
      exact .quote hrest
    · have hdoubled : doubled c = [c] := by simp [doubled, hc]
      rw [hdoubled]
      exact .char (hw c (by simp)).1 (hw c (by simp)).2 hc hrest

theorem SingleSpelling.spaces {column : Nat} {cs xs : List Char} (n : Nat)
    (hxs : ∀ c ∈ xs.head?, isGap c = false) (h : SingleSpelling column cs xs) :
    SingleSpelling column (List.replicate n ' ' ++ cs) (List.replicate n ' ' ++ xs) := by
  induction n with
  | zero => exact h
  | succ n ih =>
    refine .space (fun c hc => ?_) ih
    cases n with
    | zero => exact Scan.not_isBreak_of_not_isGap (hxs c hc)
    | succ n =>
      obtain rfl : ' ' = c := by simpa [List.replicate_succ] using hc
      decide

theorem Pen.breakLines_written (column : Nat) (p : Pen) {bs : List Char} (hbs : bs ≠ []) :
    ((bs.foldl (fun p c => p.breakLine c) p).toColumn column).written =
      (bs ++ List.replicate column ' ').reverse ++ p.written := by
  have hlines : ∀ (cs : List Char) (p : Pen),
      (cs.foldl (fun p c => p.breakLine c) p).written = cs.reverse ++ p.written := by
    intro cs
    induction cs with
    | nil => simp
    | cons c cs ih =>
      intro p
      rw [List.foldl_cons, ih]
      simp [breakLine]
  rw [← List.dropLast_append_getLast hbs, List.foldl_append, List.foldl_cons, List.foldl_nil,
    breakLine_toColumn, hlines]
  simp

theorem not_isLineEnd_of_not_isGap {c : Char} (hc : isGap c = false) : isLineEnd c = false := by
  by_contra h
  have hbreak := (isBreak_of_isLineEnd (by simpa using h)).1
  exact absurd (Scan.isGap_of_isBreak hbreak) (by simp [hc])

theorem rereadPart_of_word {c : Char} {w : List Char} (hc : isGap c = false) :
    rereadPart (c :: w) = c :: w := by
  have hfeed : (c == '\n') = false := by
    simpa using ne_of_not_isGap hc (by decide : isGap '\n' = true)
  simp [rereadPart, hfeed, not_isLineEnd_of_not_isGap hc]

theorem rereadPart_of_spaces (n : Nat) :
    rereadPart (List.replicate (n + 1) ' ') = List.replicate (n + 1) ' ' := by
  rw [List.replicate_succ]
  rfl

theorem head_reread {ps : List (List Char)} (h : Runs ps)
    (hps : ∀ c ∈ ps.flatten.head?, isGap c = false) :
    ∀ c ∈ (ps.flatMap rereadPart).head?, isGap c = false := by
  cases h with
  | nil => simp
  | cons hpart =>
    obtain ⟨c, w, rfl⟩ := List.exists_cons_of_ne_nil hpart
    have hc : isGap c = false := hps c rfl
    rw [List.flatMap_cons, rereadPart_of_word hc]
    simpa using hc

theorem Pen.singleParts_word {column : Nat} { first : Bool} {p : Pen} {c : Char} {w : List Char}
    (hc : isGap c = false) (ps : List (List Char)) :
    singleParts column first p ((c :: w) :: ps) =
      singleParts column false (p.put ((c :: w).flatMap doubled)) ps := by
  have hspace : c ≠ ' ' := ne_of_not_isGap hc (by decide)
  rw [singleParts, if_neg (by simp [not_isLineEnd_of_not_isGap hc])]
  · rfl
  · exact fun heq _ => hspace heq

theorem Pen.singleParts_breaks {column : Nat} { first : Bool} {p : Pen} {c : Char} {w : List Char}
    (hc : isLineEnd c = true) (ps : List (List Char)) :
    singleParts column first p ((c :: w) :: ps) =
      singleParts column false
        (((c :: w).foldl (fun p c => p.breakLine c)
          (if c == '\n' then p.breakLine c else p)).toColumn column) ps := by
  have hspace : c ≠ ' ' := by
    rintro rfl
    exact absurd hc (by decide)
  rw [singleParts, if_pos hc]
  · by_cases hfeed : c = '\n'
    · subst hfeed
      rfl
    · simp [hfeed]
  · exact fun heq _ => hspace heq

/-- Spaces are written as they are, except that a single one may be written as a new line. -/
theorem Pen.singleParts_spaces {column : Nat} { first : Bool} {p : Pen} (n : Nat)
    (ps : List (List Char)) :
    singleParts column first p (List.replicate (n + 1) ' ' :: ps) =
      singleParts column false
        (if n = 0 ∧ lineWidth < p.column ∧ first = false ∧ ps ≠ [] then p.toColumn column
          else p.put (List.replicate (n + 1) ' ')) ps := by
  have hflat : (List.replicate (n + 1) ' ').flatMap doubled = List.replicate (n + 1) ' ' := by
    induction n with
    | zero => rfl
    | succ n ih => rw [List.replicate_succ, List.flatMap_cons, ih]; rfl
  cases n with
  | zero =>
    rw [List.replicate_succ, List.replicate_zero, singleParts]
    simp [and_assoc]
  | succ n =>
    rw [if_neg (by simp), List.replicate_succ, singleParts, if_neg (by decide)]
    · rw [List.replicate_succ] at hflat
      exact congrArg (fun cs => singleParts column false (p.put cs) ps) hflat
    · simp

/-- What follows spaces or line breaks is a word, or nothing. -/
theorem SingleText.word_after {k : Nat} {part rest : List Char} (ht : SingleText (part ++ rest))
    (hpart : part ≠ []) (hkind : ∀ c ∈ part, Pen.kind c = k)
    (hnext : ∀ c ∈ rest.head?, Pen.kind c ≠ k) (hk : k ≠ 2) :
    ∀ d ∈ rest.head?, isGap d = false := by
  intro d hd
  have hwritable := ht.of_append.writable d (List.mem_of_mem_head? hd)
  have hchain := (List.isChain_append.mp ht.chain).2.2 _ (List.getLast_mem_getLast? hpart) d hd
  have hlast := hkind _ (List.getLast_mem hpart)
  have hkd := hnext d hd
  have hle := kind_le (part.getLast hpart)
  have hled := kind_le d
  refine not_isGap_of_kind hwritable ?_
  by_cases hk0 : k = 0
  · have hend : Pen.kind d ≠ 1 := fun h => by
      simp [kind_eq_zero.mp (hlast.trans hk0), kind_eq_one.mp h] at hchain
    omega
  · have hspace : Pen.kind d ≠ 0 := fun h => by
      simp [kind_eq_one.mp (hlast.trans (by omega)), kind_eq_zero.mp h] at hchain
    omega

theorem isGap_breakRead (c : Char) : isGap (breakRead c) = true := by
  unfold breakRead
  split
  · rename_i hc
    have hseparator : c = '\u2028' ∨ c = '\u2029' := by simpa using hc
    rcases hseparator with rfl | rfl <;> decide
  · decide

theorem foldedBreak_eq_cons (b : Char) (bs : List Char) :
    ∃ c cs, foldedBreak (breakRead b) (bs.map breakRead) = c :: cs ∧ isGap c = true := by
  unfold foldedBreak
  split
  · exact ⟨_, _, rfl, isGap_breakRead b⟩
  · cases bs with
    | nil => exact ⟨' ', [], rfl, by decide⟩
    | cons c bs => exact ⟨_, _, rfl, isGap_breakRead c⟩

/-- What is written begins with a gap only if the text does. -/
theorem SingleSpelling.head_gap {column : Nat} {cs xs : List Char}
    (h : SingleSpelling column cs xs) (hcs : ∀ c ∈ cs.head?, isGap c = false) :
    ∀ c ∈ xs.head?, isGap c = false := by
  cases h with
  | nil => exact hcs
  | char _ hc => simpa using hc
  | quote => simpa using (by decide : isGap '\'' = false)
  | space => exact absurd (hcs ' ' rfl) (by decide)
  | @breaks b bs =>
    obtain ⟨c, more, hfolded, hgap⟩ := foldedBreak_eq_cons b bs
    exact absurd (hcs c (by simp [hfolded])) (by simp [hgap])

/-- Line breaks are written as they are, behind one line break more if they begin with a line
feed. -/
theorem SingleSpelling.lineEnds {column : Nat} {c : Char} {w cs xs : List Char}
    (hends : ∀ d ∈ c :: w, isLineEnd d = true) (hxs : ∀ d ∈ xs.head?, isGap d = false)
    (h : SingleSpelling column cs xs) :
    SingleSpelling column (rereadPart (c :: w) ++ cs)
      ((if c == '\n' then ['\n'] else []) ++ c :: w ++ List.replicate column ' ' ++ xs) := by
  have hc := hends c (by simp)
  by_cases hfeed : c = '\n'
  · subst hfeed
    exact .breaks hc hends hxs h
  · have hread : rereadPart (c :: w) = foldedBreak (breakRead c) (w.map breakRead) := by
      simp [rereadPart, hfeed, hc]
    simpa [hread, hfeed] using
      SingleSpelling.breaks hc (fun d hd => hends d (by simp [hd])) hxs h

theorem Pen.singleParts_spells {column : Nat} ( first : Bool) (p : Pen) {ps : List (List Char)}
    (h : Runs ps) (ht : SingleText ps.flatten) (hcolumn : column ≤ lineWidth) :
    Spells (SingleSpelling column) (ps.flatMap rereadPart) p (singleParts column first p ps) := by
  induction h generalizing first p with
  | nil => exact ⟨[], .nil, rfl⟩
  | @cons k part ps hpart hkind hnext hps ih =>
    rw [List.flatten_cons] at ht
    rw [List.flatMap_cons]
    have ih := fun p => ih false p ht.of_append
    by_cases hk2 : k = 2
    · have hgaps : ∀ d ∈ part, isWritable d = true ∧ isGap d = false := by
        intro d hd
        have hwritable := ht.writable d (List.mem_append_left _ hd)
        exact ⟨hwritable, not_isGap_of_kind hwritable ((hkind d hd).trans hk2)⟩
      obtain ⟨c, w, rfl⟩ := List.exists_cons_of_ne_nil hpart
      have hc := (hgaps c (by simp)).2
      rw [singleParts_word hc, rereadPart_of_word hc]
      exact (ih _).behind fun _ hxs => hxs.word hgaps
    -- What is written behind spaces and line breaks begins with a word.
    · have hafter : ∀ xs, SingleSpelling column (ps.flatMap rereadPart) xs →
          ∀ d ∈ xs.head?, isGap d = false := fun xs hxs =>
        hxs.head_gap (head_reread hps (ht.word_after hpart hkind hnext hk2))
      by_cases hk0 : k = 0
      · subst hk0
        obtain ⟨n, rfl⟩ := eq_replicate_of_kind hpart hkind
        rw [singleParts_spaces, rereadPart_of_spaces]
        split
        · rename_i hfold
          obtain ⟨rfl, hwide, -, -⟩ := hfold
          have hline := toColumn_of_lt (p := p) column (.inr (by omega))
          exact (ih _).step (lineStart column) (by rw [hline]) fun xs hxs =>
            @SingleSpelling.breaks column '\n' [] _ xs (by decide) (by simp) (hafter xs hxs) hxs
        · exact (ih _).behind fun xs hxs => hxs.spaces (n + 1) (hafter xs hxs)
      · have hends : ∀ d ∈ part, isLineEnd d = true := fun d hd => by
          have hle := kind_le d
          have hd := hkind d hd
          exact kind_eq_one.mp (by omega)
        obtain ⟨c, w, rfl⟩ := List.exists_cons_of_ne_nil hpart
        rw [singleParts_breaks (hends c (by simp))]
        refine (ih _).step _ ?_ fun xs hxs => hxs.lineEnds hends (hafter xs hxs)
        rw [breakLines_written column _ hpart]
        by_cases hfeed : c = '\n' <;> simp [hfeed, breakLine]

theorem DoubleSpelling.head_space {column : Nat} {cs xs : List Char}
    (h : DoubleSpelling column cs xs) (hxs : xs.head? = some ' ') : cs.head? = some ' ' := by
  cases h with
  | nil => simp at hxs
  | char => simpa using hxs
  | @escape c =>
    obtain ⟨ds, hds⟩ := Scan.escape_eq_cons c
    simp [hds] at hxs
  | split => simp at hxs
  | splitSpace => simp at hxs

namespace Pen

variable {column length pos : Nat} {waiting cs : List Char} {c : Char} {p q : Pen}

theorem doubleFrom_literal (hc : isLiteral c = true) :
    doubleFrom column length waiting pos p (c :: cs) =
        doubleFrom column length (c :: waiting) (pos + 1) p cs ∨
      lineWidth < p.column + waiting.length ∧
        doubleFrom column length waiting pos p (c :: cs) =
          doubleFrom column length [c] (pos + 1)
            ((p.put waiting.reverse).continueLine column (some c)) cs := by
  rw [doubleFrom, if_pos hc]
  split
  · rename_i hfold
    exact .inr ⟨by simpa using (Bool.and_eq_true_iff.mp hfold).2, rfl⟩
  · exact .inl rfl

theorem doubleFrom_space (hwidth : p.column + waiting.length ≤ lineWidth) :
    doubleFrom column length waiting pos p (' ' :: cs) =
      doubleFrom column length (' ' :: waiting) (pos + 1) p cs :=
  (doubleFrom_literal (by simp [isLiteral, String.contains_char_eq])).resolve_right
    fun h => absurd h.1 (by omega)

theorem doubleFrom_escape (hc : isLiteral c = false) :
    doubleFrom column length waiting pos p (c :: cs) =
        doubleFrom column length [] (pos + 1) ((p.put waiting.reverse).put (escape c)) cs ∨
      doubleFrom column length waiting pos p (c :: cs) =
        doubleFrom column length [] (pos + 1)
          (((p.put waiting.reverse).put (escape c)).continueLine column cs.head?) cs := by
  rw [doubleFrom, if_neg (by simp [hc])]
  dsimp only
  split
  · exact .inr rfl
  · exact .inl rfl

theorem continueLine_written (column : Nat) (next : Option Char) (hp : p.indenting = false) :
    (p.continueLine column next).written =
        ('\\' :: lineStart column ++ if next = some ' ' then ['\\'] else []).reverse ++ p.written ∧
      (p.continueLine column next).column ≤ column + 1 ∧
      (p.continueLine column next).indenting = false := by
  have hline := toColumn_of_lt (p := p.put ['\\']) column (.inl hp)
  unfold continueLine foldAt
  rw [hline]
  by_cases hnext : next = some ' ' <;> simp [hnext, put]

/-- A space at the beginning of a line is written behind a backslash of its own. -/
theorem Spells.splitSpace (hp : p.indenting = false)
    (h : Spells (DoubleSpelling column) cs ((p.continueLine column (some ' ')).put [' ']) q) :
    Spells (DoubleSpelling column) (' ' :: cs) p q := by
  refine h.step ('\\' :: lineStart column ++ ['\\', ' ']) ?_ fun xs hxs => ?_
  · simp [put, (continueLine_written column (some ' ') hp).1]
  · simpa using DoubleSpelling.splitSpace hxs

theorem Spells.split (hp : p.indenting = false) (hcs : cs.head? ≠ some ' ')
    (h : Spells (DoubleSpelling column) cs (p.continueLine column cs.head?) q) :
    Spells (DoubleSpelling column) cs p q := by
  refine h.step ('\\' :: lineStart column) ?_ fun xs hxs =>
    .split (fun d hd hspace => hcs (hxs.head_space (hspace ▸ hd))) hxs
  simp [(continueLine_written column cs.head? hp).1, hcs]

/-- Behind an escape that ends a line, a space is the beginning of the next line, so that its
step is taken together with that of the escape. -/
theorem doubleFrom_spells (length : Nat) (hcolumn : column < lineWidth) (waiting : List Char)
    (pos : Nat) (p : Pen) (hp : p.indenting = false) : ∀ cs : List Char,
    Spells (DoubleSpelling column) cs (p.put waiting.reverse)
      (doubleFrom column length waiting pos p cs)
  | [] => ⟨[], .nil, rfl⟩
  | c :: cs => by
    by_cases hc : isLiteral c = true
    · rcases doubleFrom_literal hc with heq | ⟨-, heq⟩
      · have hrest := doubleFrom_spells length hcolumn (c :: waiting) (pos + 1) p hp cs
        rw [List.reverse_cons, put_append] at hrest
        exact heq ▸ hrest.behind fun _ hxs => .char hc hxs
      · obtain ⟨-, -, hindent⟩ :=
          continueLine_written (p := p.put waiting.reverse) column (some c) hp
        have hrest := doubleFrom_spells length hcolumn [c] (pos + 1) _ hindent cs
        rw [heq]
        by_cases hspace : c = ' '
        · subst hspace
          exact hrest.splitSpace hp
        · have hline : Spells (DoubleSpelling column) (c :: cs) _ _ :=
            hrest.behind fun _ hxs => .char hc hxs
          exact hline.split hp (by simpa using hspace)
    · have hliteral : isLiteral c = false := by simpa using hc
      have hrest : Spells (DoubleSpelling column) cs ((p.put waiting.reverse).put (escape c))
          (doubleFrom column length waiting pos p (c :: cs)) := by
        rcases doubleFrom_escape hliteral with heq | heq
        · exact heq ▸ doubleFrom_spells length hcolumn [] (pos + 1) ((p.put _).put _) hp cs
        · obtain ⟨-, hplace, hindent⟩ :=
            continueLine_written (p := (p.put waiting.reverse).put (escape c)) column cs.head? hp
          rw [heq]
          by_cases hspace : cs.head? = some ' '
          · obtain ⟨ds, rfl⟩ : ∃ ds, cs = ' ' :: ds := by
              cases cs with
              | nil => simp at hspace
              | cons d ds => exact ⟨ds, by simpa using hspace⟩
            refine Spells.splitSpace hp ?_
            rw [doubleFrom_space (by simpa using hplace.trans hcolumn)]
            exact doubleFrom_spells length hcolumn [' '] (pos + 1 + 1) _ hindent ds
          · exact (doubleFrom_spells length hcolumn [] (pos + 1) _ hindent cs).split hp hspace
      exact hrest.behind fun _ hxs => .escape hliteral hxs
termination_by cs => cs.length

end Pen

theorem singleText_of_style {cs : List Char} (h : styleOf cs ≠ .double) : SingleText cs := by
  have hdouble : (!cs.all isWritable || hasSpaceAtBreak cs) = false := by
    by_contra hstyle
    rw [styleOf, if_pos (eq_true_of_ne_false hstyle)] at h
    exact h rfl
  obtain ⟨hwritable, hbreak⟩ := Bool.or_eq_false_iff.mp hdouble
  refine ⟨?_, anyNeighbours_eq_false.mp hbreak⟩
  simpa using hwritable

theorem plainText_of_style {cs : List Char} (h : styleOf cs = .plain) :
    PlainText cs ∧ resolve cs = .str ∧ hasLeadingMark cs = false ∧ isSpaced cs = false ∧
      cs ≠ [] := by
  have hsingle : SingleText cs := singleText_of_style (by simp [h])
  have hplain : (cs.isEmpty || isSpaced cs || cs.any isLineEnd || hasLeadingMark cs ||
      hasInnerMark cs || resolve cs != .str) = false := by
    by_contra hstyle
    rw [styleOf] at h
    split at h
    · cases h
    · rw [if_pos (eq_true_of_ne_false hstyle)] at h
      cases h
  simp only [Bool.or_eq_false_iff, bne_eq_false_iff_eq, List.isEmpty_eq_false_iff] at hplain
  obtain ⟨⟨⟨⟨⟨hne, hspaced⟩, hends⟩, hleading⟩, hinner⟩, hresolve⟩ := hplain
  obtain ⟨hchain, hcolon⟩ := Bool.or_eq_false_iff.mp (hasInnerMark.eq_1 cs ▸ hinner)
  refine ⟨⟨hsingle.writable, fun c hc hgap => ?_, anyNeighbours_eq_false.mp hchain,
    fun c hc => ?_⟩, hresolve, hleading, hspaced, hne⟩
  · rcases gap_of_writable (hsingle.writable c hc) hgap with rfl | hend
    · rfl
    · exact absurd hend (by simpa using (List.any_eq_false.mp hends) c hc)
  · constructor
    · rintro rfl
      have hlast : cs.getLast? = some ' ' := hc
      simp [isSpaced, hlast] at hspaced
    · rintro rfl
      cases cs with
      | nil => simp at hc
      | cons d cs =>
        have hlast : (d :: cs).getLast? = some ':' := hc
        cases cs with
        | nil =>
          obtain rfl : d = ':' := by simpa using hlast
          exact absurd hleading (by simp [hasLeadingMark])
        | cons e cs =>
          rw [hlast] at hcolon
          simp at hcolon

theorem Pen.plain_written {column : Nat} {p : Pen} {cs : List Char} (hp : p.spaced = false)
    (ht : PlainText cs) (hne : cs ≠ []) :
    (p.plain column cs).Closed ∧ ∃ xs, PlainSpelling column cs xs ∧
      (p.plain column cs).written = xs.reverse ++ ' ' :: p.written := by
  have hparts : parts cs ≠ [] := List.splitBy_ne_nil.mpr hne
  have hflat := flatten_parts cs
  have hempty : cs.isEmpty = false := by simpa using hne
  rw [plain, hp, hempty, Bool.or_false, if_neg (by simp)]
  refine ⟨plainParts_closed ⟨rfl, rfl⟩, ?_⟩
  rw [← hflat] at ht
  obtain ⟨xs, hxs, hwritten⟩ := plainParts_spells
    { p.put [' '] with spaced := false, indenting := false } (runs_parts cs) hparts ht rfl
  exact ⟨xs, hflat ▸ hxs, hwritten⟩

theorem Pen.mark_quote {p : Pen} (hp : p.spaced = false) (c : Char) :
    p.mark [c] true false = ⟨c :: ' ' :: p.written, p.column + 2, false, false⟩ := by
  simp [mark, put, hp]

theorem Pen.mark_end (p : Pen) (c : Char) :
    p.mark [c] false false = ⟨c :: p.written, p.column + 1, false, false⟩ := by
  simp [mark, put]

theorem Pen.text_written {column : Nat} {p : Pen} (hp : p.spaced = false)
    (hcolumn : column < lineWidth) (cs : List Char) :
    (p.text column cs).Closed ∧ ∃ xs, Spelled column cs xs ∧
      (p.text column cs).written = xs.reverse ++ ' ' :: p.written := by
  unfold text Spelled
  cases hstyle : styleOf cs with
  | plain =>
    obtain ⟨ht, -, -, -, hne⟩ := plainText_of_style hstyle
    exact plain_written hp ht hne
  | single =>
    have ht : SingleText cs := singleText_of_style (by simp [hstyle])
    obtain ⟨xs, hxs, hwritten⟩ := singleParts_spells true
      (p.mark ['\''] true false) (runs_parts cs) ((flatten_parts cs).symm ▸ ht) hcolumn.le
    dsimp only
    rw [single, mark_end]
    refine ⟨⟨rfl, rfl⟩, _, ⟨xs, rfl, ?_⟩, ?_⟩
    · simpa only [reread, hstyle] using hxs
    · rw [hwritten, mark_quote hp]
      simp
  | double =>
    obtain ⟨xs, hxs, hwritten⟩ := doubleFrom_spells cs.length hcolumn [] 0
      (p.mark ['"'] true false) (by simp [mark]) cs
    dsimp only
    rw [double, mark_end]
    refine ⟨⟨rfl, rfl⟩, _, ⟨xs, rfl, hxs⟩, ?_⟩
    rw [hwritten, mark_quote hp]
    simp

theorem Pen.text_name {column : Nat} {p : Pen} {k : List Char} (hp : p.spaced = true)
    (hk : styleOf k = .plain) (hspace : ' ' ∉ k) :
    p.text column k = { p.put k with spaced := false, indenting := false } := by
  obtain ⟨ht, -, -, -, hne⟩ := plainText_of_style hk
  have hkind : ∀ c ∈ k, kind c = 2 := by
    intro c hc
    have hle := kind_le c
    have hzero : kind c ≠ 0 := fun h => hspace (kind_eq_zero.mp h ▸ hc)
    have hone : kind c ≠ 1 := fun h => by
      have hbreak := (isBreak_of_isLineEnd (kind_eq_one.mp h)).1
      have hgap := ht.gaps c hc (Scan.isGap_of_isBreak hbreak)
      exact hspace (hgap ▸ hc)
    omega
  have hparts : parts k = [k] := by
    refine List.splitBy_of_isChain hne (List.Pairwise.isChain ?_)
    refine List.pairwise_of_forall_mem_list fun c hc d hd => ?_
    rw [hkind c hc, hkind d hd]
    rfl
  rw [text, hk]
  dsimp only
  rw [plain, hp, Bool.true_or, if_pos rfl, hparts, plainParts_word hspace]
  rfl

theorem writable_lineStart (column : Nat) : ∀ c ∈ lineStart column, isWritable c = true := by
  intro c hc
  rcases List.mem_cons.mp hc with rfl | hc
  · decide
  · rw [List.eq_of_mem_replicate hc]
    decide

theorem writable_of_isLineEnd {c : Char} (h : isLineEnd c = true) : isWritable c = true := by
  have hc : c = '\n' ∨ c = '\x85' ∨ c = '\u2028' ∨ c = '\u2029' := by
    simpa [isLineEnd, or_assoc] using h
  rcases hc with rfl | rfl | rfl | rfl <;> decide

theorem writable_of_literal {c : Char} (h : Pen.isLiteral c = true) : isWritable c = true := by
  simp only [Pen.isLiteral, String.contains_char_eq, Bool.and_eq_true, Bool.not_eq_true',
    decide_eq_false_iff_not, Bool.or_eq_true, decide_eq_true_eq] at h
  obtain ⟨hmarks, hrange⟩ := h
  have hmark : c ≠ '\ufeff' := by
    rintro rfl
    simp at hmarks
  simp only [isWritable, Bool.or_eq_true, Bool.and_eq_true, decide_eq_true_eq, bne_iff_ne]
  rcases hrange with (hrange | hrange) | hrange
  · exact .inl (.inl (.inr hrange))
  · exact .inr ⟨.inl (.inl hrange), hmark⟩
  · exact .inr ⟨.inl (.inr hrange), hmark⟩

theorem writable_of_isHex {c : Char} (h : isHex c = true) : isWritable c = true := by
  have hc : 48 ≤ c.toNat ∧ c.toNat ≤ 102 := by
    simp only [isHex, Char.isDigit, Bool.or_eq_true, Bool.and_eq_true, decide_eq_true_eq,
      Char.le_def, UInt32.le_iff_toNat_le] at h
    have h0 : '0'.val.toNat = 48 ∧ '9'.val.toNat = 57 ∧ 'a'.val.toNat = 97 ∧
        'f'.val.toNat = 102 ∧ 'A'.val.toNat = 65 ∧ 'F'.val.toNat = 70 := by decide
    have hval : c.toNat = c.val.toNat := rfl
    omega
  simp only [isWritable, Bool.or_eq_true, Bool.and_eq_true, decide_eq_true_eq]
  omega

theorem writable_escape (c : Char) : ∀ d ∈ Pen.escape c, isWritable d = true := by
  have hcode : ∀ (l : Char) (width : Nat), isWritable l = true → 0 < width →
      c.toNat < 16 ^ width → ∀ d ∈ '\\' :: l :: Pen.upperHex width c.toNat,
        isWritable d = true := by
    intro l width hl hw hc d hd
    have hall := (upperHex_spec width c.toNat hw hc).2.1
    rcases List.mem_cons.mp hd with rfl | hd
    · decide
    · rcases List.mem_cons.mp hd with rfl | hd
      · exact hl
      · exact writable_of_isHex (List.all_eq_true.mp hall d hd)
  have hvalid : c.toNat < 0xd800 ∨ 0xdfff < c.toNat ∧ c.toNat < 0x110000 := c.valid
  unfold Pen.escape
  split
  · rename_i e l hfind
    have hmem := List.mem_of_find?_eq_some hfind
    have hl : ∀ e ∈ Pen.escapeLetters, isWritable e.2 = true := by decide
    intro d hd
    rcases List.mem_cons.mp hd with rfl | hd
    · decide
    · obtain rfl : d = l := by simpa using hd
      exact hl _ hmem
  · dsimp only
    split
    · exact hcode 'x' 2 (by decide) (by omega) (by omega)
    · split
      · exact hcode 'u' 4 (by decide) (by omega) (by omega)
      · exact hcode 'U' 8 (by decide) (by omega) (by omega)

theorem PlainSpelling.writable {column : Nat} {cs xs : List Char}
    (h : PlainSpelling column cs xs) : ∀ c ∈ xs, isWritable c = true := by
  induction h with
  | last hc => simpa using hc
  | char hc _ _ _ ih => simpa using ⟨hc, ih⟩
  | spaces _ _ _ ih =>
    intro c hc
    rcases List.mem_append.mp hc with hc | hc
    · rw [List.eq_of_mem_replicate hc]
      decide
    · exact ih c hc
  | fold _ _ _ ih =>
    intro c hc
    rcases List.mem_append.mp hc with hc | hc
    · exact writable_lineStart column c hc
    · exact ih c hc

theorem SingleSpelling.writable {column : Nat} {cs xs : List Char}
    (h : SingleSpelling column cs xs) : ∀ c ∈ xs, isWritable c = true := by
  induction h with
  | nil => simp
  | char hc _ _ _ ih => simpa using ⟨hc, ih⟩
  | quote _ ih => simpa using ⟨by decide, ih⟩
  | space _ _ ih => simpa using ⟨by decide, ih⟩
  | breaks hb hbs _ _ ih =>
    intro c hc
    simp only [List.cons_append, List.append_assoc, List.mem_cons, List.mem_append] at hc
    rcases hc with rfl | hc | hc | hc
    · exact writable_of_isLineEnd hb
    · exact writable_of_isLineEnd (hbs c hc)
    · rw [List.eq_of_mem_replicate hc]
      decide
    · exact ih c hc

theorem DoubleSpelling.writable {column : Nat} {cs xs : List Char}
    (h : DoubleSpelling column cs xs) : ∀ c ∈ xs, isWritable c = true := by
  induction h with
  | nil => simp
  | char hc _ ih => simpa using ⟨writable_of_literal hc, ih⟩
  | @escape c _ _ _ _ ih =>
    intro d hd
    rcases List.mem_append.mp hd with hd | hd
    · exact writable_escape c d hd
    · exact ih d hd
  | split _ _ ih =>
    intro c hc
    simp only [List.cons_append, List.mem_cons, List.mem_append] at hc
    rcases hc with rfl | hc | hc
    · decide
    · exact writable_lineStart column c hc
    · exact ih c hc
  | splitSpace _ ih =>
    intro c hc
    simp only [List.cons_append, List.mem_cons, List.mem_append] at hc
    rcases hc with rfl | hc | rfl | rfl | hc
    · decide
    · exact writable_lineStart column c hc
    · decide
    · decide
    · exact ih c hc

theorem Spelled.writable {column : Nat} {cs xs : List Char} (h : Spelled column cs xs) :
    ∀ c ∈ xs, isWritable c = true := by
  unfold Spelled at h
  split at h
  · exact h.writable
  · obtain ⟨ys, rfl, hys⟩ := h
    simpa [or_imp, forall_and] using ⟨by decide, hys.writable, by decide⟩
  · obtain ⟨ys, rfl, hys⟩ := h
    simpa [or_imp, forall_and] using ⟨by decide, hys.writable, by decide⟩

end OrderSheet.Yaml
