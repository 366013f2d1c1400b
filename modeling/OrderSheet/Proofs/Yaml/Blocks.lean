import Mathlib
import OrderSheet.Proofs.Yaml.Values

/-!
# The tokens of a written document

A document is read as the tokens of the block that it was written from. The writer puts the
entries of a block in lines of their own, and each of them reads as its own tokens.
-/

namespace OrderSheet.Yaml

open Scan

variable {column : Nat} {p : Pen} {cs xs : List Char}

namespace Block

mutual

def tokens : Block → List Token
  | .text cs => [.scalar (reread cs) (styleOf cs == .plain) true]
  | .bare cs => [.scalar cs true true]
  | .sequence [] => [.openSequence, .closeSequence]
  | .mapping [] => [.openMapping, .closeMapping]
  | .sequence items => itemTokens items
  | .mapping entries => .blockMapping :: entryTokens entries ++ [.blockEnd]

def itemTokens : List Block → List Token
  | [] => []
  | b :: bs => .entry :: tokens b ++ itemTokens bs

def entryTokens : List (List Char × Block) → List Token
  | [] => []
  | (k, b) :: es => .key :: .scalar k true true :: .value :: tokens b ++ entryTokens es

end

mutual

/-- Blocks that can be written under a key at a column so that they read as intended. -/
def Readable (column : Nat) : Block → Prop
  | .text _ => column + 2 < Pen.lineWidth
  | .bare cs => BareText cs
  | .sequence items => column + 2 < Pen.lineWidth ∧ ∀ b ∈ items, ∃ cs, b = .text cs
  | .mapping entries => ReadableEntries (column + 2) entries

def ReadableEntries (column : Nat) : List (List Char × Block) → Prop
  | [] => True
  | (k, b) :: es =>
    (IsName k ∧ styleOf k = .plain) ∧ Readable column b ∧ ReadableEntries column es

end

end Block

structure Pen.Adds (p q : Pen) (xs : List Char) : Prop where
  closed : q.Closed
  written : q.written = xs.reverse ++ p.written
  writable : ∀ c ∈ xs, isWritable c = true

theorem Pen.Adds.trans {q r : Pen} {ys : List Char} (h : Pen.Adds p q xs) (h' : Pen.Adds q r ys) :
    Pen.Adds p r (xs ++ ys) := by
  refine ⟨h'.closed, ?_, fun c hc => ?_⟩
  · rw [h'.written, h.written, List.reverse_append, List.append_assoc]
  · rcases List.mem_append.mp hc with hc | hc
    · exact h.writable c hc
    · exact h'.writable c hc

theorem Pen.Closed.toColumn (h : p.Closed) (column : Nat) :
    p.toColumn column = ⟨(lineStart column).reverse ++ p.written, column, true, true⟩ :=
  toColumn_of_lt column (.inl h.2)

theorem Pen.Adds.of_line {q : Pen} (h : Pen.Adds (p.toColumn column) q xs) (hp : p.Closed) :
    Pen.Adds p q (lineStart column ++ xs) := by
  refine ⟨h.closed, ?_, fun c hc => ?_⟩
  · rw [h.written, hp.toColumn]
    simp
  · rcases List.mem_append.mp hc with hc | hc
    · exact writable_lineStart column c hc
    · exact h.writable c hc

theorem Pen.text_adds (hp : p.spaced = false) (hcolumn : column + 2 < lineWidth) (cs : List Char) :
    ∃ xs, Spelled (column + 2) cs xs ∧ Pen.Adds p (p.text (column + 2) cs) (' ' :: xs) := by
  obtain ⟨hclosed, xs, hxs, hwritten⟩ := text_written hp hcolumn cs
  refine ⟨xs, hxs, hclosed, by simpa using hwritten, ?_⟩
  simpa using ⟨by decide, hxs.writable⟩

theorem Pen.plain_adds (column : Nat) (hp : p.spaced = false) (hcs : BareText cs) :
    ∃ xs, PlainSpelling (column + 2) cs xs ∧ Pen.Adds p (p.plain (column + 2) cs) (' ' :: xs) := by
  obtain ⟨hclosed, xs, hxs, hwritten⟩ := plain_written hp hcs.toPlainText hcs.nonempty
  refine ⟨xs, hxs, hclosed, by simpa using hwritten, ?_⟩
  simpa using ⟨by decide, hxs.writable⟩

theorem Pen.brackets_adds (hp : p.spaced = false) (a b : Char) (ha : isWritable a = true)
    (hb : isWritable b = true) :
    Pen.Adds p ((p.mark [a] true false).put [b]) [' ', a, b] := by
  rw [mark_quote hp]
  exact ⟨⟨rfl, rfl⟩, rfl, by simpa using ⟨by decide, ha, hb⟩⟩

theorem Pen.key_adds {k : List Char} (hk : IsName k) (hstyle : styleOf k = .plain)
    (hp : (p.toColumn column).spaced = true) :
    Pen.Adds (p.toColumn column)
      (((p.toColumn column).text (column + 2) k).mark [':'] false false) (k ++ [':']) := by
  have hspace : ' ' ∉ k := fun h => absurd (hk.letters ' ' h) (by decide)
  have hwritable := (plainText_of_style hstyle).1.writable
  rw [text_name hp hstyle hspace, mark_end]
  refine ⟨⟨rfl, rfl⟩, by simp [put], fun c hc => ?_⟩
  rcases List.mem_append.mp hc with hc | hc
  · exact hwritable c hc
  · obtain rfl := List.mem_singleton.mp hc
    decide

theorem begins_name {k : List Char} (h : IsName k) (xs : List Char) : Begins (k ++ xs) := by
  obtain ⟨c, k, rfl⟩ := List.exists_cons_of_ne_nil h.nonempty
  have hc := h.letters c (by simp)
  exact ⟨c, _, rfl, not_isGap_of_letter hc, ne_of_letter hc (by decide)⟩

theorem ReadsLines.mono {least least' : Int} {ts : List Token} (h : ReadsLines least column xs ts)
    (hle : least ≤ least') : ReadsLines least' column xs ts :=
  fun _ _ _ _ hs hleast => h hs (hle.trans hleast)

theorem Pen.item_adds (hp : p.Closed) (hcolumn : column + 2 < lineWidth) (cs : List Char) :
    ∃ xs, Spelled (column + 2) cs xs ∧
      Pen.Adds p (((p.toColumn column).mark ['-'] true true).text (column + 2) cs)
        (lineStart column ++ '-' :: ' ' :: xs) := by
  have hspaced : (p.toColumn column).spaced = true := by rw [hp.toColumn]
  have hdash : ((p.toColumn column).mark ['-'] true true).spaced = false ∧
      ((p.toColumn column).mark ['-'] true true).written = '-' :: (p.toColumn column).written := by
    simp [mark, hspaced, put]
  obtain ⟨xs, hxs, hadds⟩ := text_adds hdash.1 hcolumn cs
  have hitem : Pen.Adds (p.toColumn column)
      (((p.toColumn column).mark ['-'] true true).text (column + 2) cs) ('-' :: ' ' :: xs) := by
    refine ⟨hadds.closed, ?_, ?_⟩
    · rw [hadds.written, hdash.2]
      simp
    · simpa using ⟨by decide, by simpa using hadds.writable⟩
  exact ⟨xs, hxs, hitem.of_line hp⟩

/-- The items of a sequence, from the first dash on. -/
theorem items_reads {items : List Block} (hcolumn : column + 2 < Pen.lineWidth)
    (hitems : ∀ b ∈ items, ∃ cs, b = .text cs) (hne : items ≠ []) (hp : p.Closed) :
    ∃ xs, Pen.Adds p (p.blockItems column items) (lineStart column ++ xs) ∧ Begins xs ∧
      ReadsLines column column xs (Block.itemTokens items) := by
  induction items generalizing p with
  | nil => exact absurd rfl hne
  | cons b bs ih =>
    obtain ⟨cs, rfl⟩ := hitems b (by simp)
    obtain ⟨xs, hxs, hadds⟩ := Pen.item_adds hp hcolumn cs
    have hbegins (ys : List Char) : Begins ('-' :: ' ' :: xs ++ ys) := ⟨'-', _, rfl, by decide⟩
    have hitem := ReadsLines.item hxs
    by_cases hbs : bs = []
    · subst hbs
      exact ⟨_, hadds, by simpa using hbegins [], hitem⟩
    · obtain ⟨ys, hadds', hys, hrest⟩ := ih (fun b hb => hitems b (by simp [hb])) hbs hadds.closed
      refine ⟨'-' :: ' ' :: xs ++ (lineStart column ++ ys), ?_, hbegins _, ?_⟩
      · have h := hadds.trans hadds'
        rw [List.append_assoc] at h
        exact h
      · have h := hitem.append hrest hys
        rw [List.append_assoc] at h
        exact h

mutual

theorem block_reads (b : Block) {column : Nat} {p : Pen} (hb : b.Readable column)
    (hp : p.Closed) :
    ∃ c xs, Pen.Adds p (p.block column true b) (c :: xs) ∧ isGap c = true ∧
      Reads column (c :: xs) b.tokens :=
  match b with
  | .text cs => by
    rw [Block.Readable] at hb
    obtain ⟨xs, hxs, hadds⟩ := Pen.text_adds hp.1 hb cs
    rw [Pen.block, Block.tokens]
    exact ⟨' ', xs, hadds, by decide, .text hxs⟩
  | .bare cs => by
    rw [Block.Readable] at hb
    obtain ⟨xs, hxs, hadds⟩ := Pen.plain_adds column hp.1 hb
    rw [Pen.block, Block.tokens]
    exact ⟨' ', xs, hadds, by decide, .bare hb hxs⟩
  | .sequence [] => by
    rw [Pen.block, Block.tokens]
    exact ⟨' ', ['[', ']'], Pen.brackets_adds hp.1 '[' ']' (by decide) (by decide), by decide,
      .brackets (by decide) (by decide) (by decide) (fun _ _ => rfl) (fun _ _ => rfl)⟩
  | .mapping [] => by
    rw [Pen.block, Block.tokens]
    exact ⟨' ', ['\x7b', '\x7d'], Pen.brackets_adds hp.1 '\x7b' '\x7d' (by decide) (by decide),
      by decide, .brackets (by decide) (by decide) (by decide) (fun _ _ => rfl) (fun _ _ => rfl)⟩
  | .sequence (b :: bs) => by
    rw [Block.Readable] at hb
    obtain ⟨xs, hadds, hxs, hitems⟩ := items_reads hb.1 hb.2 (by simp) hp
    have hcolumn : (if true && !p.indenting then column else column + 2) = column := by
      rw [hp.2]
      rfl
    rw [Pen.block, Block.tokens, hcolumn]
    · exact ⟨'\n', _, hadds, by decide, .items hitems hxs⟩
    · simp
    · simp
  | .mapping (e :: es) => by
    rw [Block.Readable] at hb
    have hspaced : (p.toColumn (column + 2)).spaced = true := by rw [hp.toColumn]
    obtain ⟨xs, hadds, hxs, hentries⟩ := entries_reads (e :: es) (by simp) hb hspaced
    rw [Pen.block, Block.tokens]
    · exact ⟨'\n', _, hadds.of_line hp, by decide, .mapping hentries hxs (by omega)⟩
    · simp
    · simp

/-- The entries of a mapping, from the first key on. -/
theorem entries_reads (es : List (List Char × Block)) {column : Nat} {p : Pen} (hne : es ≠ [])
    (hes : Block.ReadableEntries column es) (hp : (p.toColumn column).spaced = true) :
    ∃ xs, Pen.Adds (p.toColumn column) (p.blockEntries column es) xs ∧ Begins xs ∧
      ReadsLines (-1) column xs (Block.entryTokens es) :=
  match es with
  | [] => absurd rfl hne
  | (k, b) :: es => by
    rw [Block.ReadableEntries] at hes
    obtain ⟨⟨hk, hstyle⟩, hb, hes⟩ := hes
    have hkey := Pen.key_adds hk hstyle hp
    obtain ⟨c, xs, hadds, hc, hreads⟩ := block_reads b hb hkey.closed
    have hentry := ReadsLines.entry (-1) hk ⟨c, xs, rfl, hc⟩ hreads
    have hfirst := hkey.trans hadds
    rw [List.append_assoc, List.singleton_append] at hfirst
    rw [Pen.blockEntries, Block.entryTokens]
    by_cases hempty : es = []
    · subst hempty
      rw [Pen.blockEntries, Block.entryTokens, List.append_nil]
      exact ⟨_, hfirst, begins_name hk _, hentry⟩
    · have hspaced : ((((p.toColumn column).text (column + 2) k).mark [':'] false false).block
          column true b |>.toColumn column).spaced = true := by rw [hadds.closed.toColumn]
      obtain ⟨ys, hadds', hys, hrest⟩ := entries_reads es hempty hes hspaced
      have hall := hfirst.trans (hadds'.of_line hadds.closed)
      have hlines := hentry.append (hrest.mono (by omega)) hys
      rw [List.append_assoc] at hlines
      exact ⟨_, hall, by rw [List.append_assoc]; exact begins_name hk _, hlines⟩

end

theorem isAllowed_of_writable {c : Char} (h : isWritable c = true) : isAllowed c = true := by
  simp only [isWritable, isAllowed, Bool.or_eq_true, Bool.and_eq_true, decide_eq_true_eq,
    beq_iff_eq] at h ⊢
  rcases h with ((rfl | h) | rfl) | h
  · decide
  · omega
  · decide
  · omega

theorem unifyBreaks_of_writable {cs : List Char} (h : ∀ c ∈ cs, isWritable c = true) :
    unifyBreaks cs = cs := by
  induction cs with
  | nil => rfl
  | cons c cs ih =>
    have hc : c ≠ '\r' := by
      rintro rfl
      exact absurd (h '\r' (by simp)) (by decide)
    rw [unifyBreaks, ih fun d hd => h d (by simp [hd])]
    · exact fun _ heq => absurd heq hc
    · exact hc

theorem nextToken_end (room : Nat) (ts : List Token) {s : Source} (hflow : s.flow = 0)
    (hindent : s.indent = -1) (hs : s.ahead = []) :
    nextToken room ((s.opened 0).later 0 true [] ts) =
      .ok (false, s.later 0 true [] (ts ++ [.blockEnd] ++ [.streamEnd])) := by
  have hahead : ((s.opened 0).later 0 true [] ts).ahead = [] := hs
  have hplace : ((s.opened 0).later 0 true [] ts).indent ≤
      ((s.opened 0).later 0 true [] ts).column := Int.natCast_nonneg _
  have hunwind : unwindTo (-1) ((s.opened 0).later 0 true [] ts) =
      .ok ((), s.later 0 true [] (ts ++ [.blockEnd])) := by
    have hopened : (s.opened 0).later 0 true [] ts = (s.later 0 true [] ts).opened 0 := rfl
    rw [unwindTo, bind_of_eq (get_apply _), hopened,
      unwind_opened (by simpa [Source.later] using hflow) (by omega),
      bind_of_eq (emit_later _ _ _ _ _ _), unwind_of_le]
    exact hindent.le
  have hdrop : dropKey (s.later 0 true [] (ts ++ [.blockEnd])) =
      .ok ((), s.later 0 true [] (ts ++ [.blockEnd])) := rfl
  have hempty : ((s.opened 0).later 0 true [] ts).ahead.isEmpty = true := by simp [hahead]
  rw [nextToken_here (by simp [hahead, Starts]) (by simp [Source.later]) hplace, tokenHere,
    bind_of_eq (get_apply _), if_pos hempty, bind_of_eq hunwind, bind_of_eq hdrop,
    bind_of_eq (emit_later _ _ _ _ _ _)]
  rfl

/-- A document in front of the line feed that ends it. -/
theorem tokensFrom_document {ts : List Token} (hlines : ReadsLines (-1) 0 xs ts) :
    tokensFrom (xs ++ lineStart 0).length ((xs ++ lineStart 0).length + 2)
      (Source.start (xs ++ lineStart 0)) =
      ⟨.blockMapping :: ts ++ [.blockEnd] ++ [.streamEnd], .malformed⟩ := by
  generalize htext : xs ++ lineStart 0 = text
  have hentry : AtEntry text.length 0 (Source.start text) :=
    ⟨rfl, rfl, by simp [Source.start], rfl, rfl, le_rfl⟩
  have hahead : (Source.start text).ahead = xs ++ (lineStart 0 ++ []) := by
    rw [List.append_nil]
    exact htext.symm
  have hleads := hlines hentry le_rfl hahead (by simp [Starts]) le_rfl
  have hopens : inMapping (Source.start text) =
    ((Source.start text).opened 0).later 0 true [] [.blockMapping] := rfl
  rw [hopens, later_later, Nat.zero_add] at hleads
  obtain ⟨m, hm, hread⟩ := hleads
  have hm' : m ≤ text.length := (Nat.le_add_right _ _).trans hm
  have hend : (stepBy (xs.length + (1 + 0)) (Source.start text)).ahead = [] := by
    rw [ahead_stepBy, List.drop_eq_nil_iff]
    simp [Source.start, ← htext, lineStart]
  have hlast := @nextToken_end text.length ([.blockMapping] ++ ts)
    ((Source.start text).later (xs.length + (1 + 0)) true [] []) rfl rfl hend
  rw [← later_opened, later_later, later_later, Nat.add_zero, List.nil_append] at hlast
  have hfuel : text.length + 2 = (text.length + 1 - m) + m + 1 := by omega
  rw [hfuel, (hread (by rw [hlast]; rfl)).2, tokensFrom, hlast]
  simp [Source.later, Source.start]

theorem tokens_print {entries : List (List Char × Block)} (hne : entries ≠ [])
    (h : Block.ReadableEntries 0 entries) :
    tokens (print entries).toList =
      ⟨(Block.mapping entries).tokens ++ [.streamEnd], .malformed⟩ := by
  obtain ⟨xs, hadds, hxs, hlines⟩ := entries_reads (p := Pen.start) entries hne h rfl
  have hempty : entries.isEmpty = false := by simpa using hne
  have hprint : (print entries).toList = xs ++ lineStart 0 := by
    have hclosed : Pen.Closed { Pen.start.blockEntries 0 entries with indenting := false } :=
      ⟨hadds.closed.1, rfl⟩
    have hstart : (Pen.start.toColumn 0).written = [] := rfl
    rw [print, hempty, if_neg (by simp), String.toList_ofList, hclosed.toColumn]
    dsimp only
    rw [hadds.written, hstart]
    simp
  have hwritable : ∀ c ∈ xs ++ lineStart 0, isWritable c = true := by
    intro c hc
    rcases List.mem_append.mp hc with hc | hc
    · exact hadds.writable c hc
    · exact writable_lineStart 0 c hc
  have hallowed : (!(xs ++ lineStart 0).all isAllowed) = false := by
    rw [List.all_eq_true.mpr fun c hc => isAllowed_of_writable (hwritable c hc), Bool.not_true]
  have hmark : ((xs ++ lineStart 0).head? == some '\ufeff') = false := by
    rw [beq_eq_false_iff_ne]
    intro hhead
    exact absurd (hwritable _ (List.mem_of_mem_head? hhead)) (by decide)
  rw [tokens, hprint, unifyBreaks_of_writable hwritable]
  dsimp only
  rw [hallowed, hmark, if_neg (by simp), if_neg (by simp), tokensFrom_document hlines,
    Block.tokens.eq_6]
  exact hne

end OrderSheet.Yaml
