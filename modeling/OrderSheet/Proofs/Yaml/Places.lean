import Mathlib
import OrderSheet.Yaml.Scanner

/-!
# Moving through a document

What passing characters does to the place where reading stands, and what the elementary readers
return. A reader that succeeds stands a number of steps further on; nothing but the characters
ahead, the index, the line and the column change on the way.
-/

namespace OrderSheet.Yaml

def Source.allow (b : Bool) (s : Source) : Source := { s with keyAllowed := b }

theorem gap_cases {c : Char} (h : isGap c = true) :
    c = '\n' ∨ c = '\r' ∨ c = '\x85' ∨ c = '\u2028' ∨ c = '\u2029' ∨ c = endMark ∨ c = ' ' ∨
      c = '\t' := by
  simp only [isGap, isBreakOrEnd, isBreak, Bool.or_eq_true, beq_iff_eq] at h
  tauto

theorem not_isGap_of_class {p : Char → Bool} {c : Char} (h : p c = true)
    (hp : ∀ d ∈ ['\n', '\r', '\x85', '\u2028', '\u2029', endMark, ' ', '\t'], p d = false) :
    isGap c = false := by
  by_contra hgap
  have hc := gap_cases (by simpa using hgap)
  have hnone := hp c (by simpa using hc)
  simp [h] at hnone

section

variable {σ α β : Type} {s t : σ}

@[simp] theorem ok_bind (a : α) (f : α → Except Fault β) : (Except.ok a).bind f = f a := rfl

theorem bind_apply (x : StateT σ (Except Fault) α) (f : α → StateT σ (Except Fault) β) (s : σ) :
    (x >>= f) s = (x s).bind fun r => f r.1 r.2 := rfl

theorem pure_apply (a : α) (s : σ) : (pure a : StateT σ (Except Fault) α) s = .ok (a, s) := rfl

theorem get_apply (s : σ) : (get : StateT σ (Except Fault) σ) s = .ok (s, s) := rfl

theorem set_apply (s t : σ) : (set t : StateT σ (Except Fault) Unit) s = .ok ((), t) := rfl

theorem modify_apply (f : σ → σ) (s : σ) :
    (modify f : StateT σ (Except Fault) Unit) s = .ok ((), f s) := rfl

theorem bind_of_eq {x : StateT σ (Except Fault) α} {a : α} (h : x s = .ok (a, t))
    (f : α → StateT σ (Except Fault) β) : (x >>= f) s = f a t := by
  rw [bind_apply, h]
  rfl

end

namespace Scan

variable {s t : Source}

theorem require_true (s : Source) : require true s = .ok ((), s) := rfl

theorem forward_apply (n : Nat) (s : Source) : forward n s = .ok ((), stepBy n s) := rfl

theorem peekAt_apply (n : Nat) (s : Source) :
    peekAt n s = .ok (s.ahead.getD n endMark, s) := rfl

theorem peek_of_cons {c : Char} {cs : List Char} (h : s.ahead = c :: cs) :
    peek s = .ok (c, s) := by
  simp [peek, peekAt, h]

theorem peek_of_nil (h : s.ahead = []) : peek s = .ok (endMark, s) := by
  simp [peek, peekAt, h]

theorem peek_apply (s : Source) : peek s = .ok (s.ahead.headD endMark, s) := by
  cases h : s.ahead with
  | nil => exact peek_of_nil h
  | cons c cs => exact peek_of_cons h

theorem span_apply (p : Char → Bool) (s : Source) :
    span p s = .ok (s.ahead.takeWhile p, stepBy (s.ahead.takeWhile p).length s) := rfl

theorem stepBy_succ (n : Nat) (s : Source) : stepBy (n + 1) s = stepBy n (step s) := rfl

theorem stepBy_add (m n : Nat) (s : Source) : stepBy (m + n) s = stepBy n (stepBy m s) := by
  induction m generalizing s with
  | zero => simp [stepBy]
  | succ m ih =>
    rw [show m + 1 + n = (m + n) + 1 by omega, stepBy_succ, stepBy_succ, ih]

theorem step_keeps (s : Source) :
    (step s).flow = s.flow ∧ (step s).indent = s.indent ∧ (step s).outer = s.outer ∧
      (step s).keyAllowed = s.keyAllowed ∧ (step s).pending = s.pending ∧
      (step s).tokens = s.tokens ∧ (step s).count = s.count ∧ (step s).ahead = s.ahead.drop 1 := by
  unfold step
  cases hs : s.ahead <;> simp [hs]

theorem stepBy_keeps (n : Nat) (s : Source) :
    (stepBy n s).flow = s.flow ∧ (stepBy n s).indent = s.indent ∧
      (stepBy n s).outer = s.outer ∧ (stepBy n s).keyAllowed = s.keyAllowed ∧
      (stepBy n s).pending = s.pending ∧ (stepBy n s).tokens = s.tokens ∧
      (stepBy n s).count = s.count ∧ (stepBy n s).ahead = s.ahead.drop n := by
  induction n generalizing s with
  | zero => simp [stepBy]
  | succ n ih =>
    obtain ⟨h1, h2, h3, h4, h5, h6, h7, h8⟩ := step_keeps s
    obtain ⟨i1, i2, i3, i4, i5, i6, i7, i8⟩ := ih (step s)
    rw [stepBy_succ]
    refine ⟨i1.trans h1, i2.trans h2, i3.trans h3, i4.trans h4, i5.trans h5, i6.trans h6,
      i7.trans h7, ?_⟩
    rw [i8, h8, List.drop_drop, Nat.add_comm]

@[simp] theorem flow_stepBy (n : Nat) (s : Source) : (stepBy n s).flow = s.flow :=
  (stepBy_keeps n s).1

@[simp] theorem indent_stepBy (n : Nat) (s : Source) : (stepBy n s).indent = s.indent :=
  (stepBy_keeps n s).2.1

@[simp] theorem outer_stepBy (n : Nat) (s : Source) : (stepBy n s).outer = s.outer :=
  (stepBy_keeps n s).2.2.1

@[simp] theorem keyAllowed_stepBy (n : Nat) (s : Source) :
    (stepBy n s).keyAllowed = s.keyAllowed :=
  (stepBy_keeps n s).2.2.2.1

@[simp] theorem pending_stepBy (n : Nat) (s : Source) : (stepBy n s).pending = s.pending :=
  (stepBy_keeps n s).2.2.2.2.1

@[simp] theorem tokens_stepBy (n : Nat) (s : Source) : (stepBy n s).tokens = s.tokens :=
  (stepBy_keeps n s).2.2.2.2.2.1

@[simp] theorem count_stepBy (n : Nat) (s : Source) : (stepBy n s).count = s.count :=
  (stepBy_keeps n s).2.2.2.2.2.2.1

@[simp] theorem ahead_stepBy (n : Nat) (s : Source) : (stepBy n s).ahead = s.ahead.drop n :=
  (stepBy_keeps n s).2.2.2.2.2.2.2

/-- Steps do not look at what stays the same on the way. -/
theorem stepBy_update (n : Nat) (s : Source) (flow : Nat) (indent : Int) (outer : List Int)
    (allowed : Bool) (pending : List (Nat × PendingKey)) (tokens : List Token) (count : Nat) :
    stepBy n { s with
        flow := flow, indent := indent, outer := outer, keyAllowed := allowed,
        pending := pending, tokens := tokens, count := count } =
      { stepBy n s with
        flow := flow, indent := indent, outer := outer, keyAllowed := allowed,
        pending := pending, tokens := tokens, count := count } := by
  induction n generalizing s with
  | zero => rfl
  | succ n ih =>
    rw [stepBy_succ, stepBy_succ, ← ih]
    cases hs : s.ahead <;> simp [step, hs]

theorem allow_apply (b : Bool) (s : Source) :
    (modify fun s => { s with keyAllowed := b } : Scan Unit) s = .ok ((), s.allow b) := rfl

@[simp] theorem ahead_allow (b : Bool) (s : Source) : (s.allow b).ahead = s.ahead := rfl

@[simp] theorem flow_allow (b : Bool) (s : Source) : (s.allow b).flow = s.flow := rfl

@[simp] theorem column_allow (b : Bool) (s : Source) : (s.allow b).column = s.column := rfl

@[simp] theorem indent_allow (b : Bool) (s : Source) : (s.allow b).indent = s.indent := rfl

theorem stepBy_allow (n : Nat) (b : Bool) (s : Source) :
    stepBy n (s.allow b) = (stepBy n s).allow b := by
  rw [Source.allow, stepBy_update]
  simp [Source.allow]

theorem ahead_stepBy_append {xs ys : List Char} (h : s.ahead = xs ++ ys) :
    (stepBy xs.length s).ahead = ys := by
  rw [ahead_stepBy, h, List.drop_left]

theorem line_le_stepBy (n : Nat) (s : Source) : s.line ≤ (stepBy n s).line := by
  induction n generalizing s with
  | zero => exact le_rfl
  | succ n ih =>
    have hstep : s.line ≤ (step s).line := by
      unfold step
      cases s.ahead with
      | nil => exact le_rfl
      | cons c cs =>
        simp only
        split <;> omega
    exact hstep.trans (ih (step s))

theorem step_of_feed {cs : List Char} (h : s.ahead = '\n' :: cs) :
    (step s).line = s.line + 1 ∧ (step s).column = 0 := by
  simp [step, h]

theorem line_lt_stepBy {xs ys : List Char} (h : s.ahead = xs ++ '\n' :: ys) (n : Nat) :
    s.line < (stepBy (xs.length + 1 + n) s).line := by
  have hline := (step_of_feed (ahead_stepBy_append h)).1
  rw [stepBy_add, stepBy_add, show stepBy 1 _ = step (stepBy xs.length s) from rfl]
  have hbefore := line_le_stepBy xs.length s
  have hafter := line_le_stepBy n (step (stepBy xs.length s))
  omega

def isInline (c : Char) : Bool := !isBreak c && c != '\ufeff'

theorem step_of_inline {c : Char} {cs : List Char} (h : s.ahead = c :: cs)
    (hc : isInline c = true) :
    (step s).line = s.line ∧ (step s).column = s.column + 1 ∧ (step s).index = s.index + 1 := by
  have hc' := hc
  simp only [isInline, isBreak, Bool.and_eq_true, Bool.not_eq_eq_eq_not, Bool.not_true,
    Bool.or_eq_false_iff, beq_eq_false_iff_ne, bne_iff_ne] at hc'
  obtain ⟨⟨⟨⟨⟨h1, h2⟩, h3⟩, h4⟩, h5⟩, h6⟩ := hc'
  simp [step, h, h1, h2, h3, h4, h5, h6]

theorem stepBy_of_inline {xs ys : List Char} (h : s.ahead = xs ++ ys)
    (hxs : ∀ c ∈ xs, isInline c = true) :
    (stepBy xs.length s).line = s.line ∧ (stepBy xs.length s).column = s.column + xs.length ∧
      (stepBy xs.length s).index = s.index + xs.length := by
  induction xs generalizing s with
  | nil => simp [stepBy]
  | cons c xs ih =>
    obtain ⟨h1, h2, h3⟩ := step_of_inline (s := s) (by simpa using h) (hxs c (by simp))
    have hahead : (step s).ahead = xs ++ ys := by rw [(step_keeps s).2.2.2.2.2.2.2, h]; rfl
    obtain ⟨i1, i2, i3⟩ := ih hahead fun d hd => hxs d (by simp [hd])
    rw [List.length_cons, stepBy_succ, i1, i2, i3, h1, h2, h3]
    omega

theorem column_stepBy_line (xs : List Char) {ys : List Char} {n : Nat}
    (h : s.ahead = xs ++ '\n' :: (List.replicate n ' ' ++ ys)) :
    (stepBy (xs.length + 1 + n) s).column = n := by
  have hfeed := step_of_feed (ahead_stepBy_append h)
  have hahead : (step (stepBy xs.length s)).ahead = List.replicate n ' ' ++ ys := by
    rw [(step_keeps _).2.2.2.2.2.2.2, ahead_stepBy_append h]
    rfl
  have hcolumn := (stepBy_of_inline hahead fun c hc => by
    rw [List.eq_of_mem_replicate hc]
    decide).2.1
  rw [List.length_replicate, hfeed.2] at hcolumn
  rw [stepBy_add, stepBy_add, show stepBy 1 _ = step (stepBy xs.length s) from rfl, hcolumn]
  omega

theorem takeWhile_spaces {n : Nat} {cs : List Char} (h : cs.head? ≠ some ' ') :
    (List.replicate n ' ' ++ cs).takeWhile (· == ' ') = List.replicate n ' ' := by
  rw [List.takeWhile_append_of_pos (by simp)]
  cases cs with
  | nil => simp
  | cons c cs =>
    have hc : c ≠ ' ' := by simpa using h
    simp [hc]

theorem skipSpaces_apply {n : Nat} {cs : List Char} (h : s.ahead = List.replicate n ' ' ++ cs)
    (hcs : cs.head? ≠ some ' ') : skipSpaces s = .ok ((), stepBy n s) := by
  unfold skipSpaces
  rw [bind_of_eq (span_apply _ s), h, takeWhile_spaces hcs, List.length_replicate]
  rfl

theorem lineBreak_none (h : ∀ c ∈ s.ahead.head?, isBreak c = false) :
    lineBreak s = .ok (none, s) := by
  unfold lineBreak
  cases hs : s.ahead with
  | nil => simp [bind_apply, peek_of_nil hs, peekAt, pure_apply, hs, endMark]
  | cons c cs =>
    have hc : isBreak c = false := h c (by simp [hs])
    simp only [isBreak, Bool.or_eq_false_iff, beq_eq_false_iff_ne] at hc
    simp [bind_apply, peek_of_cons hs, peekAt_apply, pure_apply, hc]

def breakRead (c : Char) : Char := if c == '\u2028' || c == '\u2029' then c else '\n'

theorem lineBreak_some {c : Char} {cs : List Char} (h : s.ahead = c :: cs)
    (hc : isBreak c = true) (hr : c ≠ '\r') :
    lineBreak s = .ok (some (breakRead c), stepBy 1 s) := by
  have hc' : c = '\n' ∨ c = '\x85' ∨ c = '\u2028' ∨ c = '\u2029' := by
    simpa [isBreak, hr, or_assoc] using hc
  unfold lineBreak
  rw [bind_of_eq (peek_of_cons h)]
  rcases hc' with rfl | rfl | rfl | rfl <;> rfl

theorem lineBreak_feed {cs : List Char} (h : s.ahead = '\n' :: cs) :
    lineBreak s = .ok (some '\n', stepBy 1 s) :=
  lineBreak_some h rfl (by decide)

theorem atBoundary_false {m : Char} (h : ∀ c ∈ s.ahead.head?, c ≠ m) :
    atBoundary m s = .ok (false, s) := by
  unfold atBoundary
  cases hs : s.ahead with
  | nil => simp
  | cons c cs =>
    have hc : c ≠ m := h c (by simp [hs])
    simp [hc]

theorem atDocumentBoundary_apply (s : Source) : ∃ b, atDocumentBoundary s = .ok (b, s) :=
  ⟨_, rfl⟩

theorem atDocumentBoundary_false (h : ∀ c ∈ s.ahead.head?, c ≠ '-' ∧ c ≠ '.') :
    atDocumentBoundary s = .ok (false, s) := by
  unfold atDocumentBoundary
  rw [bind_of_eq (atBoundary_false fun c hc => (h c hc).1),
    bind_of_eq (atBoundary_false fun c hc => (h c hc).2)]
  rfl

end Scan

end OrderSheet.Yaml
