import Mathlib
import OrderSheet.Proofs.Yaml.Escape
import OrderSheet.Proofs.Yaml.Spelling

/-!
# Reading quoted texts

The reader of quoted texts goes from gap to gap. Seen as a whole, it takes one character, escape
or gap after the other and adds what it stands for, and so it reads back every spelling of a text.
-/

namespace OrderSheet.Yaml

namespace Scan

variable {room : Nat} {double : Bool} {s : Source} {a b : Part}

theorem Part.push_nil (a : Part) : a.push [] = a := rfl

theorem Part.push_push (a : Part) (xs ys : List Char) :
    (a.push xs).push ys = a.push (xs ++ ys) := by
  simp [Part.push, pushAll, List.reverseAux_eq]

def quotedRest (room : Nat) (double : Bool) (fw ff : Nat) (a : Part) : Scan Part := do
  quotedFrom room double ff (← quotedWord room double fw a)

/-- The rest of a quoted text from `s` on makes `b` out of `a` and is `n` characters long. -/
def QuotedReads (room : Nat) (double : Bool) (a : Part) (s : Source) (b : Part) (n : Nat) : Prop :=
  s.ahead.length ≤ room → ∀ fw ff, s.ahead.length < fw → s.ahead.length < ff →
    quotedRest room double fw ff a s = .ok (b, stepBy n s)

def isQuoteMark (c : Char) : Bool := isGap c || c == '\'' || c == '"' || c == '\\'

theorem quotedWord_of_mark {c : Char} {cs : List Char} (h : s.ahead = c :: cs)
    (hc : isQuoteMark c = true) (fuel : Nat) (a : Part) :
    quotedWord room double (fuel + 1) a s =
      (if !double && c == '\'' && cs.headD endMark == '\'' then
        quotedWord room double fuel (a.push ['\'']) (stepBy 2 s)
      else if (double && c == '\'') || (!double && (c == '"' || c == '\\')) then
        quotedWord room double fuel (a.push [c]) (step s)
      else if double && c == '\\' then
        (escapedPart room a s).bind fun r => quotedWord room double fuel r.1 r.2
      else .ok (a, s)) := by
  have hspan : s.ahead.takeWhile (fun c => !(isGap c || c == '\'' || c == '"' || c == '\\')) =
      [] := by
    rw [h]
    exact List.takeWhile_cons_of_neg (by rw [← isQuoteMark, hc]; decide)
  have hnext : s.ahead.getD 1 endMark = cs.headD endMark := by
    rw [h]
    cases cs <;> rfl
  rw [quotedWord, bind_of_eq (span_apply _ s), hspan]
  simp only [List.length_nil, stepBy, Part.push_nil]
  rw [bind_of_eq (peek_of_cons h), bind_of_eq (peekAt_apply 1 s), hnext]
  split
  · rfl
  · split
    · rfl
    · split <;> rfl

theorem quotedWord_of_ordinary {c : Char} {cs : List Char} (h : s.ahead = c :: cs)
    (hc : isQuoteMark c = false) (fuel : Nat) (a : Part) :
    quotedWord room double (fuel + 1) a s =
      quotedWord room double (fuel + 1) (a.push [c]) (step s) := by
  have hspan : s.ahead.takeWhile (fun c => !(isGap c || c == '\'' || c == '"' || c == '\\')) =
      c :: (step s).ahead.takeWhile
        (fun c => !(isGap c || c == '\'' || c == '"' || c == '\\')) := by
    rw [(step_keeps s).2.2.2.2.2.2.2, h]
    exact List.takeWhile_cons_of_pos (by rw [← isQuoteMark, hc]; decide)
  rw [quotedWord, bind_of_eq (span_apply _ s), hspan, quotedWord,
    bind_of_eq (span_apply _ (step s)), Part.push_push a [c]]
  rfl

theorem length_stepBy_le (m : Nat) (s : Source) :
    (stepBy m s).ahead.length ≤ s.ahead.length := by
  simp

theorem length_stepBy_lt {c : Char} {cs : List Char} {m : Nat} (hs : s.ahead = c :: cs)
    (hm : 0 < m) : (stepBy m s).ahead.length < s.ahead.length := by
  rw [ahead_stepBy, List.length_drop, hs, List.length_cons]
  omega

theorem QuotedReads.of_word {m n : Nat} {c : Part}
    (hword : ∀ fuel, s.ahead.length < fuel → ∃ fuel', (stepBy m s).ahead.length < fuel' ∧
      quotedWord room double fuel a s = quotedWord room double fuel' b (stepBy m s))
    (h : QuotedReads room double b (stepBy m s) c n) :
    QuotedReads room double a s c (m + n) := by
  intro hroom fw ff hfw hff
  have hlength := length_stepBy_le m s
  obtain ⟨fw', hfw', hw⟩ := hword fw hfw
  rw [quotedRest, bind_apply, hw, stepBy_add, ← bind_apply]
  exact h (by omega) fw' ff hfw' (by omega)

theorem QuotedReads.ordinary {c : Char} {cs : List Char} {n : Nat} (hs : s.ahead = c :: cs)
    (hc : isQuoteMark c = false) (h : QuotedReads room double (a.push [c]) (stepBy 1 s) b n) :
    QuotedReads room double a s b (1 + n) := by
  refine h.of_word fun fuel hfuel => ⟨fuel, ?_, ?_⟩
  · rw [ahead_stepBy, List.length_drop]
    omega
  · obtain ⟨fuel, rfl⟩ : ∃ k, fuel = k + 1 := ⟨fuel - 1, by omega⟩
    exact quotedWord_of_ordinary hs hc fuel a

/-- A quote of the other kind, or a backslash in single quotes. -/
theorem QuotedReads.otherQuote {c : Char} {cs : List Char} {n : Nat} (hs : s.ahead = c :: cs)
    (hc : double = true ∧ c = '\'' ∨ double = false ∧ (c = '"' ∨ c = '\\'))
    (h : QuotedReads room double (a.push [c]) (stepBy 1 s) b n) :
    QuotedReads room double a s b (1 + n) := by
  have hlength := length_stepBy_lt hs Nat.one_pos
  refine h.of_word fun fuel hfuel => ⟨fuel - 1, by omega, ?_⟩
  obtain ⟨fuel, rfl⟩ : ∃ k, fuel = k + 1 := ⟨fuel - 1, by omega⟩
  rcases hc with ⟨rfl, rfl⟩ | ⟨rfl, rfl | rfl⟩ <;>
    rw [quotedWord_of_mark hs (by decide), if_neg (by simp), if_pos (by simp)] <;> rfl

theorem QuotedReads.doubled {cs : List Char} {n : Nat} (hs : s.ahead = '\'' :: '\'' :: cs)
    (h : QuotedReads room false (a.push ['\'']) (stepBy 2 s) b n) :
    QuotedReads room false a s b (2 + n) := by
  have hlength := length_stepBy_lt hs Nat.two_pos
  refine h.of_word fun fuel hfuel => ⟨fuel - 1, by omega, ?_⟩
  obtain ⟨fuel, rfl⟩ : ∃ k, fuel = k + 1 := ⟨fuel - 1, by omega⟩
  rw [quotedWord_of_mark hs (by decide), if_pos (by rfl)]
  rfl

theorem QuotedReads.escaped {cs : List Char} {m n : Nat} {c : Part} (hs : s.ahead = '\\' :: cs)
    (hm : 0 < m) (hescape : escapedPart room a s = .ok (b, stepBy m s))
    (h : QuotedReads room true b (stepBy m s) c n) :
    QuotedReads room true a s c (m + n) := by
  have hlength := length_stepBy_lt hs hm
  refine h.of_word fun fuel hfuel => ⟨fuel - 1, by omega, ?_⟩
  obtain ⟨fuel, rfl⟩ : ∃ k, fuel = k + 1 := ⟨fuel - 1, by omega⟩
  rw [quotedWord_of_mark hs (by decide), if_neg (by simp), if_neg (by simp), if_pos (by simp),
    hescape]
  rfl

def closing (double : Bool) : Char := if double then '"' else '\''

theorem isQuoteMark_closing (double : Bool) : isQuoteMark (closing double) = true := by
  cases double <;> decide

theorem quotedWord_of_end {c : Char} {cs : List Char} (hs : s.ahead = c :: cs)
    (hc : c = closing double ∧ (double = false → cs.head? ≠ some '\'') ∨ isGap c = true)
    (fuel : Nat) (a : Part) : quotedWord room double (fuel + 1) a s = .ok (a, s) := by
  rcases hc with ⟨rfl, hnext⟩ | hgap
  · rw [quotedWord_of_mark hs (isQuoteMark_closing double)]
    cases double
    · have : (cs.headD endMark == '\'') = false := by
        cases cs with
        | nil => rfl
        | cons d cs => simpa using hnext
      rw [this]
      rfl
    · rfl
  · have hne : c ≠ '\'' ∧ c ≠ '"' ∧ c ≠ '\\' := by
      refine ⟨?_, ?_, ?_⟩ <;> rintro rfl <;> exact absurd hgap (by decide)
    rw [quotedWord_of_mark hs (by simp [isQuoteMark, hgap])]
    simp [hne]

theorem QuotedReads.close {cs : List Char} (hs : s.ahead = closing double :: cs)
    (hnext : double = false → cs.head? ≠ some '\'') : QuotedReads room double a s a 1 := by
  intro hroom fw ff hfw hff
  obtain ⟨fw, rfl⟩ : ∃ k, fw = k + 1 := ⟨fw - 1, by omega⟩
  obtain ⟨ff, rfl⟩ : ∃ k, ff = k + 1 := ⟨ff - 1, by omega⟩
  rw [quotedRest, bind_of_eq (quotedWord_of_end hs (.inl ⟨rfl, hnext⟩) fw a), quotedFrom,
    bind_of_eq (peek_of_cons hs), if_pos (by cases double <;> rfl)]
  rfl

theorem isGap_of_isBreak {c : Char} (h : isBreak c = true) : isGap c = true := by
  simp [isGap, isBreakOrEnd, h]

theorem not_isBreak_of_not_isGap {c : Char} (h : isGap c = false) : isBreak c = false := by
  by_contra hbreak
  exact absurd (isGap_of_isBreak (by simpa using hbreak)) (by simp [h])

theorem ne_of_not_isGap {c d : Char} (h : isGap c = false) (hd : isGap d = true) : c ≠ d := by
  rintro rfl
  simp [h] at hd

theorem quotedRest_of_gap {c : Char} {cs gap : List Char} {m : Nat} (hs : s.ahead = c :: cs)
    (hc : isGap c = true) (hgap : quotedGap room s = .ok (gap, stepBy m s)) (fw ff : Nat) :
    quotedRest room double (fw + 1) (ff + 1) a s =
      quotedRest room double (room + 1) ff (a.push gap) (stepBy m s) := by
  have hclose : (c == closing double) = false := by
    cases double <;> simpa using (ne_of_not_isGap (by decide) hc).symm
  rw [quotedRest, bind_of_eq (quotedWord_of_end hs (.inr hc) fw a), quotedFrom,
    bind_of_eq (peek_of_cons hs), ← closing, if_neg (by simp [hclose]), bind_of_eq hgap]
  rfl

theorem QuotedReads.gap {c : Char} {cs gap : List Char} {m n : Nat} (hs : s.ahead = c :: cs)
    (hc : isGap c = true) (hm : 0 < m) (hgap : quotedGap room s = .ok (gap, stepBy m s))
    (h : QuotedReads room double (a.push gap) (stepBy m s) b n) :
    QuotedReads room double a s b (m + n) := by
  intro hroom fw ff hfw hff
  obtain ⟨fw, rfl⟩ : ∃ k, fw = k + 1 := ⟨fw - 1, by omega⟩
  obtain ⟨ff, rfl⟩ : ∃ k, ff = k + 1 := ⟨ff - 1, by omega⟩
  have hlength := length_stepBy_lt hs hm
  rw [quotedRest_of_gap hs hc hgap, stepBy_add]
  exact h (by omega) (room + 1) ff (by omega) (by omega)

def Firm (cs : List Char) : Prop :=
  ∃ n c rest, cs = List.replicate n ' ' ++ c :: rest ∧ isGap c = false

theorem Firm.cons {c : Char} {cs : List Char} (hc : isGap c = false) : Firm (c :: cs) :=
  ⟨0, c, cs, rfl, hc⟩

theorem Firm.space {cs : List Char} (h : Firm cs) : Firm (' ' :: cs) := by
  obtain ⟨n, c, rest, rfl, hc⟩ := h
  exact ⟨n + 1, c, rest, rfl, hc⟩

theorem takeWhile_blanks_of_isBreak {c : Char} {cs : List Char} (hc : isBreak c = true) :
    (c :: cs).takeWhile (fun c => c == ' ' || c == '\t') = [] := by
  have hne : c ≠ ' ' ∧ c ≠ '\t' := by
    constructor <;> rintro rfl <;> exact absurd hc (by decide)
  simp [hne]

theorem takeWhile_blanks_replicate {n : Nat} {cs : List Char}
    (hcs : ∀ c ∈ cs.head?, isGap c = false) :
    (List.replicate n ' ' ++ cs).takeWhile (fun c => c == ' ' || c == '\t') =
      List.replicate n ' ' := by
  rw [List.takeWhile_append_of_pos (by simp)]
  cases cs with
  | nil => simp
  | cons c cs =>
    have hc : isGap c = false := hcs c rfl
    simp [ne_of_not_isGap hc (by decide : isGap ' ' = true),
      ne_of_not_isGap hc (by decide : isGap '\t' = true)]

theorem quotedGap_spaces {n : Nat} {c : Char} {cs : List Char}
    (hs : s.ahead = List.replicate n ' ' ++ c :: cs) (hc : isGap c = false) :
    quotedGap room s = .ok (List.replicate n ' ', stepBy n s) := by
  have hend : c ≠ endMark := ne_of_not_isGap hc (by decide)
  have hahead : (stepBy n s).ahead = c :: cs := by
    rw [ahead_stepBy, hs, List.drop_left' (by simp)]
  rw [quotedGap, bind_of_eq (span_apply _ s), hs, takeWhile_blanks_replicate (by simpa using hc),
    List.length_replicate, bind_of_eq (peek_of_cons hahead), bne_iff_ne.mpr hend, bind_of_eq (require_true _),
    bind_of_eq (lineBreak_none (by rw [hahead]; simpa using not_isBreak_of_not_isGap hc))]
  rfl

theorem QuotedReads.space {cs : List Char} {n : Nat} (hs : s.ahead = ' ' :: cs) (hcs : Firm cs)
    (h : QuotedReads room double (a.push [' ']) (stepBy 1 s) b n) :
    QuotedReads room double a s b (1 + n) := by
  obtain ⟨k, c, rest, rfl, hc⟩ := hcs
  have hrun : s.ahead = List.replicate (k + 1) ' ' ++ c :: rest := hs
  cases k with
  | zero => exact h.gap hs (by decide) (by omega) (quotedGap_spaces hrun hc)
  | succ k =>
    -- the reader takes all of the spaces at once, here and behind the first one
    intro hroom fw ff hfw hff
    obtain ⟨fw, rfl⟩ : ∃ k, fw = k + 1 := ⟨fw - 1, by omega⟩
    obtain ⟨ff, rfl⟩ : ∃ k, ff = k + 1 := ⟨ff - 1, by omega⟩
    have hahead : (stepBy 1 s).ahead = List.replicate (k + 1) ' ' ++ c :: rest := by
      rw [ahead_stepBy, hs]
      rfl
    have hlength := length_stepBy_lt hs Nat.one_pos
    have hrest := h (by omega) (fw + 1) (ff + 1) (by omega) (by omega)
    rw [quotedRest_of_gap hahead (by decide) (quotedGap_spaces hahead hc), Part.push_push,
      ← stepBy_add] at hrest
    rw [quotedRest_of_gap hs (by decide) (quotedGap_spaces hrun hc), stepBy_add 1 n, ← hrest,
      Nat.add_comm 1 (k + 1)]
    rfl

theorem not_boundary_of_isBreak {c : Char} (h : isBreak c = true) : c ≠ '-' ∧ c ≠ '.' := by
  constructor <;> rintro rfl <;> exact absurd h (by decide)

theorem quotedBreaks_apply {n : Nat} {bs cs found : List Char} {fuel : Nat}
    (hs : s.ahead = bs ++ List.replicate n ' ' ++ cs)
    (hbs : ∀ c ∈ bs, isBreak c = true ∧ c ≠ '\r') (hn : 0 < n)
    (hcs : ∀ c ∈ cs.head?, isGap c = false) (hfuel : bs.length < fuel) :
    quotedBreaks fuel found s =
      .ok (found.reverse ++ bs.map breakRead, stepBy (bs.length + n) s) := by
  induction bs generalizing s found fuel with
  | nil =>
    obtain ⟨fuel, rfl⟩ : ∃ k, fuel = k + 1 := ⟨fuel - 1, by simp at hfuel; omega⟩
    obtain ⟨n, rfl⟩ : ∃ k, n = k + 1 := ⟨n - 1, by omega⟩
    rw [List.nil_append] at hs
    have hboundary : atDocumentBoundary s = .ok (false, s) := by
      apply atDocumentBoundary_false
      simp [hs, List.replicate_succ]
    have hahead : (stepBy (n + 1) s).ahead = cs := by
      rw [ahead_stepBy, hs, List.drop_left' (by simp)]
    rw [quotedBreaks, bind_of_eq hboundary, Bool.not_false, bind_of_eq (require_true s),
      bind_of_eq (span_apply _ s), hs, takeWhile_blanks_replicate hcs, List.length_replicate,
      bind_of_eq (lineBreak_none fun c hc => ?_)]
    · simp [pure_apply]
    · rw [hahead] at hc
      exact not_isBreak_of_not_isGap (hcs c hc)
  | cons c bs ih =>
    obtain ⟨fuel, rfl⟩ : ∃ k, fuel = k + 1 := ⟨fuel - 1, by omega⟩
    have hc := hbs c (by simp)
    have hboundary : atDocumentBoundary s = .ok (false, s) := by
      apply atDocumentBoundary_false
      simpa [hs] using not_boundary_of_isBreak hc.1
    have hahead : (stepBy 1 s).ahead = bs ++ List.replicate n ' ' ++ cs := by
      rw [ahead_stepBy, hs]
      rfl
    have hs' : s.ahead = c :: (bs ++ List.replicate n ' ' ++ cs) := by simpa using hs
    rw [quotedBreaks, bind_of_eq hboundary, Bool.not_false, bind_of_eq (require_true s),
      bind_of_eq (span_apply _ s), hs', takeWhile_blanks_of_isBreak hc.1, List.length_nil, stepBy,
      bind_of_eq (lineBreak_some hs' hc.1 hc.2)]
    dsimp only
    rw [ih hahead (fun d hd => hbs d (by simp [hd])) (by simp at hfuel; omega),
      List.length_cons, show bs.length + 1 + n = 1 + (bs.length + n) by omega, stepBy_add 1]
    simp

theorem quotedGap_breaks (room : Nat) {n : Nat} {c : Char} {bs cs : List Char}
    (hs : s.ahead = c :: bs ++ List.replicate n ' ' ++ cs)
    (hbs : ∀ d ∈ c :: bs, isBreak d = true ∧ d ≠ '\r') (hn : 0 < n)
    (hcs : ∀ d ∈ cs.head?, isGap d = false) (hroom : bs.length ≤ room) :
    quotedGap room s =
      .ok (foldedBreak (breakRead c) (bs.map breakRead), stepBy (1 + bs.length + n) s) := by
  have hc := hbs c (by simp)
  have hend : c ≠ endMark := by
    rintro rfl
    exact absurd hc.1 (by decide)
  have hahead : (stepBy 1 s).ahead = bs ++ List.replicate n ' ' ++ cs := by
    rw [ahead_stepBy, hs]
    rfl
  have hs' : s.ahead = c :: (bs ++ List.replicate n ' ' ++ cs) := by simpa using hs
  rw [quotedGap, bind_of_eq (span_apply _ s), hs', takeWhile_blanks_of_isBreak hc.1,
    List.length_nil, stepBy, bind_of_eq (peek_of_cons hs'), bne_iff_ne.mpr hend, bind_of_eq (require_true _),
    bind_of_eq (lineBreak_some hs' hc.1 hc.2)]
  dsimp only
  rw [bind_of_eq
      (quotedBreaks_apply hahead (fun d hd => hbs d (by simp [hd])) hn hcs (by omega)),
    Nat.add_assoc, stepBy_add 1]
  rfl

end Scan

open Scan

variable {room column : Nat} {s : Source} {a : Part} {cs xs rest : List Char}

theorem isBreak_of_isLineEnd {c : Char} (h : isLineEnd c = true) :
    isBreak c = true ∧ c ≠ '\r' := by
  have hc : c = '\n' ∨ c = '\x85' ∨ c = '\u2028' ∨ c = '\u2029' := by
    simpa [isLineEnd, or_assoc] using h
  rcases hc with rfl | rfl | rfl | rfl <;> decide

theorem not_isQuoteMark_of_literal {c : Char} (h : Pen.isLiteral c = true) (hspace : c ≠ ' ')
    (hquote : c ≠ '\'') : isQuoteMark c = false := by
  by_contra hmark
  have hc : c = '\n' ∨ c = '\r' ∨ c = '\x85' ∨ c = '\u2028' ∨ c = '\u2029' ∨ c = endMark ∨
      c = '\t' ∨ c = '"' ∨ c = '\\' := by
    simp only [isQuoteMark, isGap, isBreakOrEnd, isBreak, Bool.not_eq_false, Bool.or_eq_true,
      beq_iff_eq] at hmark
    tauto
  rcases hc with rfl | rfl | rfl | rfl | rfl | rfl | rfl | rfl | rfl <;>
    simp [Pen.isLiteral, endMark, String.contains_char_eq] at h

theorem not_isGap_of_literal {c : Char} (h : Pen.isLiteral c = true) (hspace : c ≠ ' ') :
    isGap c = false := by
  by_cases hquote : c = '\''
  · subst hquote
    decide
  · have hmark := not_isQuoteMark_of_literal h hspace hquote
    simp only [isQuoteMark, Bool.or_eq_false_iff] at hmark
    exact hmark.1.1.1

theorem SingleSpelling.firm (h : SingleSpelling column cs xs)
    (hhead : ∀ c ∈ xs.head?, isBreak c = false) (rest : List Char) :
    Firm (xs ++ '\'' :: rest) := by
  induction h with
  | nil => exact Firm.cons (by decide)
  | char _ hc => exact Firm.cons hc
  | quote => exact Firm.cons (by decide)
  | space hxs _ ih => exact (ih hxs).space
  | breaks hb _ _ _ => exact absurd (hhead _ rfl) (by simp [(isBreak_of_isLineEnd hb).1])

theorem DoubleSpelling.firm (h : DoubleSpelling column cs xs) (rest : List Char) :
    Firm (xs ++ '"' :: rest) := by
  induction h with
  | nil => exact Firm.cons (by decide)
  | @char c _ _ hc _ ih =>
    by_cases hspace : c = ' '
    · subst hspace
      exact ih.space
    · exact Firm.cons (not_isGap_of_literal hc hspace)
  | @escape c =>
    obtain ⟨ds, hds⟩ := escape_eq_cons c
    rw [hds]
    exact Firm.cons (by decide)
  | split => exact Firm.cons (by decide)
  | splitSpace => exact Firm.cons (by decide)

theorem ahead_after (ys : List Char) {zs : List Char} {n : Nat} (hs : s.ahead = ys ++ zs)
    (hn : ys.length = n) : (stepBy n s).ahead = zs := by
  rw [← hn]
  exact ahead_stepBy_append hs

theorem SingleSpelling.reads (h : SingleSpelling column cs xs) (hcolumn : 0 < column)
    (hs : s.ahead = xs ++ '\'' :: rest) (hrest : rest.head? ≠ some '\'') :
    QuotedReads room false a s (a.push cs) (xs.length + 1) := by
  induction h generalizing s a with
  | nil => exact QuotedReads.close hs fun _ => hrest
  | @char c cs xs _ hc hquote hspelling ih =>
    have hrec := ih (a := a.push [c]) (ahead_after [c] hs rfl)
    rw [Part.push_push] at hrec
    rw [List.length_cons, show xs.length + 1 + 1 = 1 + (xs.length + 1) by omega]
    by_cases hmark : isQuoteMark c = true
    · refine hrec.otherQuote hs (.inr ⟨rfl, ?_⟩)
      simpa [isQuoteMark, hc, hquote] using hmark
    · exact hrec.ordinary hs (by simpa using hmark)
  | @quote cs xs hspelling ih =>
    have hrec := ih (a := a.push ['\'']) (ahead_after ['\'', '\''] hs rfl)
    rw [Part.push_push] at hrec
    rw [List.length_cons, List.length_cons,
      show xs.length + 1 + 1 + 1 = 2 + (xs.length + 1) by omega]
    exact hrec.doubled hs
  | @space cs xs hhead hspelling ih =>
    have hrec := ih (a := a.push [' ']) (ahead_after [' '] hs rfl)
    rw [Part.push_push] at hrec
    rw [List.length_cons, show xs.length + 1 + 1 = 1 + (xs.length + 1) by omega]
    exact hrec.space hs (hspelling.firm hhead rest)
  | @breaks b bs cs xs hb hbs hhead hspelling ih =>
    have hs' : s.ahead = b :: bs ++ List.replicate column ' ' ++ (xs ++ '\'' :: rest) := by
      simpa using hs
    have hall : ∀ d ∈ b :: bs, isBreak d = true ∧ d ≠ '\r' := by
      simpa using ⟨isBreak_of_isLineEnd hb, fun d hd => isBreak_of_isLineEnd (hbs d hd)⟩
    have hfirm : ∀ d ∈ (xs ++ '\'' :: rest).head?, isGap d = false := by
      cases xs with
      | nil => simp; decide
      | cons d xs => simpa using hhead
    have hahead := ahead_after (n := 1 + bs.length + column) _ hs' (by simp; omega)
    have hrec := ih (a := a.push (foldedBreak (breakRead b) (bs.map breakRead))) hahead
    rw [Part.push_push] at hrec
    intro hroom
    have hlength := congrArg List.length hs'
    simp only [List.length_append, List.length_cons] at hlength
    have hgap := quotedGap_breaks room hs' hall hcolumn hfirm (by omega)
    have hread := hrec.gap hs' (isGap_of_isBreak (hall b (by simp)).1) (by omega) hgap hroom
    rw [show (b :: bs ++ List.replicate column ' ' ++ xs).length + 1 =
      1 + bs.length + column + (xs.length + 1) by simp; omega]
    exact hread

theorem escapedPart_split {n : Nat} (hs : s.ahead = '\\' :: lineStart n ++ cs) (hn : 0 < n)
    (hcs : ∀ c ∈ cs.head?, isGap c = false) :
    escapedPart room a s = .ok (a, stepBy (2 + n) s) := by
  have hahead : (stepBy 1 s).ahead = '\n' :: (List.replicate n ' ' ++ cs) := by
    rw [ahead_stepBy, hs]
    rfl
  have hbreaks : (stepBy 1 (stepBy 1 s)).ahead = [] ++ List.replicate n ' ' ++ cs := by
    rw [ahead_stepBy, hahead]
    rfl
  have hfeed : escapeOf? '\n' = none ∧ escapeWidth? '\n' = none := by decide
  rw [escapedPart, bind_of_eq (forward_apply 1 s), bind_of_eq (peek_of_cons hahead), hfeed.1,
    hfeed.2]
  dsimp only
  rw [bind_of_eq (lineBreak_feed hahead)]
  dsimp only
  rw [bind_of_eq (quotedBreaks_apply hbreaks (by simp) hn hcs (by simp)), ← stepBy_add,
    ← stepBy_add]
  simp [pure_apply, Part.push_nil, ← Nat.add_assoc]

theorem DoubleSpelling.head (h : DoubleSpelling column cs xs) :
    ∀ c ∈ xs.head?, c ≠ ' ' → isGap c = false := by
  cases h with
  | nil => simp
  | char hc => simpa using fun hspace => not_isGap_of_literal hc hspace
  | @escape c =>
    obtain ⟨ds, hds⟩ := escape_eq_cons c
    simpa [hds] using by decide
  | split => simpa using by decide
  | splitSpace => simpa using by decide

theorem DoubleSpelling.reads (h : DoubleSpelling column cs xs) (hcolumn : 0 < column)
    (hs : s.ahead = xs ++ '"' :: rest) :
    QuotedReads room true a s (a.push cs) (xs.length + 1) := by
  induction h generalizing s a with
  | nil => exact QuotedReads.close hs (by simp)
  | @char c cs xs hc hspelling ih =>
    have hrec := ih (a := a.push [c]) (ahead_after [c] hs rfl)
    rw [Part.push_push] at hrec
    rw [List.length_cons, show xs.length + 1 + 1 = 1 + (xs.length + 1) by omega]
    by_cases hspace : c = ' '
    · subst hspace
      exact hrec.space hs (hspelling.firm rest)
    · by_cases hquote : c = '\''
      · exact hrec.otherQuote hs (.inl ⟨rfl, hquote⟩)
      · exact hrec.ordinary hs (not_isQuoteMark_of_literal hc hspace hquote)
  | @escape c cs xs _ hspelling ih =>
    have hs' : s.ahead = Pen.escape c ++ (xs ++ '"' :: rest) := by simpa using hs
    have hrec := ih (a := a.push [c]) (ahead_after _ hs' rfl)
    rw [Part.push_push] at hrec
    obtain ⟨ds, hds⟩ := escape_eq_cons c
    have hpositive : 0 < (Pen.escape c).length := by simp [hds]
    have hhead : s.ahead = '\\' :: (ds ++ (xs ++ '"' :: rest)) := by rw [hs', hds]; rfl
    rw [List.length_append, Nat.add_assoc]
    exact hrec.escaped hhead hpositive (escapedPart_escape hs')
  | @split cs xs hhead hspelling ih =>
    have hs' : s.ahead = '\\' :: lineStart column ++ (xs ++ '"' :: rest) := by simpa using hs
    have hrec := ih (a := a) (ahead_after (n := 2 + column) _ hs' (by simp [lineStart]; omega))
    have hgap : ∀ c ∈ (xs ++ '"' :: rest).head?, isGap c = false := by
      cases xs with
      | nil => simpa using by decide
      | cons c xs => simpa using hspelling.head c rfl (hhead c rfl)
    rw [show ('\\' :: lineStart column ++ xs).length + 1 = 2 + column + (xs.length + 1) by
      simp [lineStart]; omega]
    exact hrec.escaped hs' (by omega) (escapedPart_split hs' hcolumn hgap)
  | @splitSpace cs xs hspelling ih =>
    have hs' : s.ahead = '\\' :: lineStart column ++ '\\' :: ' ' :: (xs ++ '"' :: rest) := by
      simpa using hs
    have hahead := ahead_after (n := 2 + column) _ hs' (by simp [lineStart]; omega)
    have hrec := ih (a := a.push [' '])
      (ahead_after (n := 2) ['\\', ' '] hahead rfl)
    rw [Part.push_push] at hrec
    have hsplit := @escapedPart_split room s a _ _ hs' hcolumn (by simpa using by decide)
    rw [show ('\\' :: lineStart column ++ '\\' :: ' ' :: xs).length + 1 =
      2 + column + (2 + (xs.length + 1)) by simp [lineStart]; omega]
    exact (hrec.escaped hahead (by omega) (escapedPart_letter hahead rfl)).escaped hs' (by omega)
      hsplit

theorem quotedText_of_reads {double : Bool} {n : Nat} (hroom : s.ahead.length ≤ room)
    (h : QuotedReads room double ⟨[], true⟩ (stepBy 1 s) (Part.push ⟨[], true⟩ cs) n) :
    quotedText room double s = .ok (.scalar cs false true, stepBy (1 + n) s) := by
  have hlength : (stepBy 1 s).ahead.length ≤ room := by
    rw [ahead_stepBy, List.length_drop]
    omega
  have hread := h hlength (room + 1) (room + 2) (by omega) (by omega)
  rw [quotedText, bind_of_eq (forward_apply 1 s)]
  rw [quotedRest, bind_apply] at hread
  rw [bind_apply]
  cases hword : quotedWord room double (room + 1) ⟨[], true⟩ (stepBy 1 s) with
  | error fault =>
    rw [hword] at hread
    cases hread
  | ok r =>
    rw [hword] at hread
    rw [ok_bind] at hread ⊢
    rw [bind_of_eq hread, stepBy_add, pure_apply]
    simp [Part.push, pushAll]

theorem SingleSpelling.quotedText (h : SingleSpelling column cs xs) (hcolumn : 0 < column)
    (hs : s.ahead = '\'' :: xs ++ '\'' :: rest) (hrest : rest.head? ≠ some '\'')
    (hroom : s.ahead.length ≤ room) :
    Scan.quotedText room false s = .ok (.scalar cs false true, stepBy (xs.length + 2) s) := by
  have hahead : (stepBy 1 s).ahead = xs ++ '\'' :: rest := ahead_after ['\''] hs rfl
  rw [quotedText_of_reads hroom (h.reads hcolumn hahead hrest),
    show xs.length + 2 = 1 + (xs.length + 1) by omega]

theorem DoubleSpelling.quotedText (h : DoubleSpelling column cs xs) (hcolumn : 0 < column)
    (hs : s.ahead = '"' :: xs ++ '"' :: rest) (hroom : s.ahead.length ≤ room) :
    Scan.quotedText room true s = .ok (.scalar cs false true, stepBy (xs.length + 2) s) := by
  have hahead : (stepBy 1 s).ahead = xs ++ '"' :: rest := ahead_after ['"'] hs rfl
  rw [quotedText_of_reads hroom (h.reads hcolumn hahead),
    show xs.length + 2 = 1 + (xs.length + 1) by omega]

end OrderSheet.Yaml
