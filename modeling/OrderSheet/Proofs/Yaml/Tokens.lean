import Mathlib
import OrderSheet.Proofs.Yaml.Plain

/-!
# From place to place

Where reading stands after some characters and tokens, and how one token follows the other. A line
that begins a token can be reached in several states, which all read the same from there on.
-/

namespace OrderSheet.Yaml

def Source.later (s : Source) (n : Nat) (allowed : Bool) (pending : List (Nat × PendingKey))
    (ts : List Token) : Source :=
  ⟨(Scan.stepBy n s).ahead, (Scan.stepBy n s).index, (Scan.stepBy n s).line,
    (Scan.stepBy n s).column, s.flow, s.indent, s.outer, allowed, pending, ts.reverse ++ s.tokens,
    s.count + ts.length⟩

def Source.opened (s : Source) (column : Nat) : Source :=
  { s with indent := column, outer := s.indent :: s.outer }

namespace Scan

variable {room n : Nat} {s t u : Source} {cs : List Char}

theorem stepBy_later (m n : Nat) (s : Source) (allowed : Bool)
    (pending : List (Nat × PendingKey)) (ts : List Token) :
    stepBy m (s.later n allowed pending ts) = s.later (n + m) allowed pending ts := by
  have h := stepBy_update m (stepBy n s) s.flow s.indent s.outer allowed pending
    (ts.reverse ++ s.tokens) (s.count + ts.length)
  rw [Source.later, h, ← stepBy_add]
  rfl

theorem allow_later (n : Nat) (s : Source) (a b : Bool) (pending : List (Nat × PendingKey))
    (ts : List Token) : (s.later n a pending ts).allow b = s.later n b pending ts := rfl

theorem later_zero (s : Source) : s.later 0 s.keyAllowed s.pending [] = s := rfl

theorem later_of_stepBy (n : Nat) (s : Source) :
    s.later n s.keyAllowed s.pending [] = stepBy n s := by
  rw [← later_zero (stepBy n s)]
  simp [Source.later, stepBy]

theorem later_later (m n : Nat) (s : Source) (a b : Bool) (p q : List (Nat × PendingKey))
    (ts us : List Token) :
    (s.later m a p ts).later n b q us = s.later (m + n) b q (ts ++ us) := by
  have h := stepBy_later n m s a p ts
  rw [Source.later, h]
  simp [Source.later, Nat.add_assoc]

theorem emit_later (n : Nat) (s : Source) (a : Bool) (p : List (Nat × PendingKey))
    (ts : List Token) (t : Token) :
    emit t (s.later n a p ts) = .ok ((), s.later n a p (ts ++ [t])) := by
  simp [emit, modify_apply, Source.later, Nat.add_assoc]

/-- Reading from `s` on comes to `t`, if no fault comes next, and takes no more tokens than
characters. -/
def Leads (room : Nat) (s t : Source) : Prop :=
  ∃ n, n + t.ahead.length ≤ s.ahead.length ∧ ((nextToken room t).isOk →
    (nextToken room s).isOk ∧
      ∀ fuel, tokensFrom room (fuel + n + 1) s = tokensFrom room (fuel + 1) t)

theorem Leads.trans (h : Leads room s t) (h' : Leads room t u) : Leads room s u := by
  obtain ⟨m, hm, hread⟩ := h
  obtain ⟨n, hn, hread'⟩ := h'
  refine ⟨n + m, by omega, fun hok => ?_⟩
  obtain ⟨hok, hu⟩ := hread' hok
  obtain ⟨hok, ht⟩ := hread hok
  exact ⟨hok, fun fuel => by rw [← hu fuel, ← ht (fuel + n), Nat.add_assoc fuel n m]⟩

theorem Leads.of_token (h : nextToken room s = .ok (true, t))
    (hlength : t.ahead.length < s.ahead.length) : Leads room s t := by
  refine ⟨1, by omega, fun _ => ⟨by rw [h]; rfl, fun fuel => ?_⟩⟩
  rw [tokensFrom, h]
  rfl

theorem Leads.of_eq (h : nextToken room s = nextToken room t)
    (hlength : t.ahead.length ≤ s.ahead.length) : Leads room s t := by
  refine ⟨0, by omega, fun hok => ⟨h ▸ hok, fun fuel => ?_⟩⟩
  rw [Nat.add_zero, tokensFrom, tokensFrom, h]
  cases hnext : nextToken room t with
  | ok r => rfl
  | error fault =>
    rw [hnext] at hok
    cases hok

def Starts (cs : List Char) : Prop := ∀ c ∈ cs.head?, isGap c = false ∧ c ≠ '#'

theorem toNextToken_spaces (hs : s.ahead = List.replicate n ' ' ++ cs) (hcs : Starts cs)
    (fuel : Nat) : toNextToken (fuel + 1) s = .ok ((), stepBy n s) := by
  have hspace : cs.head? ≠ some ' ' := fun h => absurd (hcs ' ' (by simp [h])).1 (by decide)
  have hahead : (stepBy n s).ahead = cs := ahead_after _ hs (by simp)
  have hcomment : ((stepBy n s).ahead.headD endMark == '#') = false := by
    rw [hahead]
    cases cs with
    | nil => rfl
    | cons c cs => simpa using (hcs c rfl).2
  have hbreak : ∀ c ∈ (stepBy n s).ahead.head?, isBreak c = false := by
    rw [hahead]
    exact fun c hc => not_isBreak_of_not_isGap (hcs c hc).1
  rw [toNextToken, bind_of_eq (skipSpaces_apply hs hspace), bind_of_eq (peek_apply _), hcomment,
    if_neg (by simp)]
  dsimp only
  rw [bind_of_eq (lineBreak_none hbreak)]
  rfl

theorem toNextToken_line (hs : s.ahead = lineStart n ++ cs) (hcs : Starts cs) (hflow : s.flow = 0)
    (fuel : Nat) : toNextToken (fuel + 2) s = .ok ((), (stepBy (1 + n) s).allow true) := by
  have hskip : skipSpaces s = .ok ((), s) :=
    skipSpaces_apply (s := s) (n := 0) hs (by simp)
  have hahead : ((stepBy 1 s).allow true).ahead = List.replicate n ' ' ++ cs := by
    rw [ahead_allow, ahead_stepBy, hs]
    rfl
  rw [toNextToken, bind_of_eq hskip, bind_of_eq (peek_of_cons hs), if_neg (by decide)]
  dsimp only
  rw [bind_of_eq (lineBreak_feed hs)]
  dsimp only
  rw [bind_of_eq (get_apply _), flow_stepBy, hflow, if_pos (beq_self_eq_true 0),
    bind_of_eq (show allowKey true (stepBy 1 s) = .ok ((), (stepBy 1 s).allow true) from rfl),
    toNextToken_spaces hahead hcs, stepBy_allow, ← stepBy_add]

theorem nextToken_congr (h : toNextToken (room + 1) s = toNextToken (room + 1) t) :
    nextToken room s = nextToken room t := by
  rw [nextToken, bind_apply, bind_apply, settle, bind_apply, bind_apply, h]

theorem nextToken_spaces (hs : s.ahead = List.replicate n ' ' ++ cs) (hcs : Starts cs) :
    nextToken room s = nextToken room (stepBy n s) := by
  have hahead : (stepBy n s).ahead = List.replicate 0 ' ' ++ cs := ahead_after _ hs (by simp)
  apply nextToken_congr
  rw [toNextToken_spaces hs hcs, toNextToken_spaces hahead hcs, stepBy]

theorem nextToken_line (hs : s.ahead = lineStart n ++ cs) (hcs : Starts cs) (hflow : s.flow = 0)
    (hroom : 0 < room) : nextToken room s = nextToken room ((stepBy (1 + n) s).allow true) := by
  have hahead : ((stepBy (1 + n) s).allow true).ahead = List.replicate 0 ' ' ++ cs :=
    ahead_after _ hs (by simp [lineStart]; omega)
  obtain ⟨room, rfl⟩ : ∃ k, room = k + 1 := ⟨room - 1, by omega⟩
  apply nextToken_congr
  rw [toNextToken_line hs hcs hflow, toNextToken_spaces hahead hcs, stepBy]

theorem dropStale_old (h : ∀ p ∈ s.pending, p.2.line ≠ s.line ∧ p.2.required = false) :
    dropStale s = .ok ((), s.later 0 s.keyAllowed [] []) := by
  have hrequired : (s.pending.any fun p => isStale s p.2 && p.2.required) = false := by
    rw [List.any_eq_false]
    intro p hp
    simp [(h p hp).2]
  have hfilter : (s.pending.filter fun p => !isStale s p.2) = [] := by
    rw [List.filter_eq_nil_iff]
    intro p hp
    simp [isStale, (h p hp).1]
  rw [dropStale, bind_of_eq (get_apply s), hrequired, Bool.not_false, bind_of_eq (require_true s), hfilter, set_apply]
  rfl

theorem dropStale_fresh
    (h : ∀ p ∈ s.pending, p.2.line = s.line ∧ s.index - p.2.index ≤ keyLimit) :
    dropStale s = .ok ((), s) := by
  have hfresh : ∀ p ∈ s.pending, isStale s p.2 = false := by
    intro p hp
    have hindex : ¬ keyLimit < s.index - p.2.index := by
      have := (h p hp).2
      omega
    simp [isStale, (h p hp).1, hindex]
  have hrequired : (s.pending.any fun p => isStale s p.2 && p.2.required) = false := by
    rw [List.any_eq_false]
    intro p hp
    simp [hfresh p hp]
  have hfilter : (s.pending.filter fun p => !isStale s p.2) = s.pending := by
    rw [List.filter_eq_self]
    intro p hp
    simp [hfresh p hp]
  rw [dropStale, bind_of_eq (get_apply s), hrequired, Bool.not_false, bind_of_eq (require_true s), hfilter, set_apply]

theorem toNextToken_here (hs : Starts s.ahead) : toNextToken (room + 1) s = .ok ((), s) := by
  have h := toNextToken_spaces (s := s) (n := 0) rfl hs room
  rwa [stepBy] at h

theorem nextToken_old (hs : Starts s.ahead)
    (h : ∀ p ∈ s.pending, p.2.line ≠ s.line ∧ p.2.required = false) :
    nextToken room s = nextToken room (s.later 0 s.keyAllowed [] []) := by
  have hs' : Starts (s.later 0 s.keyAllowed [] []).ahead := hs
  have hfresh : dropStale (s.later 0 s.keyAllowed [] []) =
      .ok ((), s.later 0 s.keyAllowed [] []) := dropStale_fresh (by simp [Source.later])
  rw [nextToken, bind_apply, bind_apply, settle, bind_of_eq (toNextToken_here hs),
    bind_of_eq (toNextToken_here hs'), bind_of_eq (dropStale_old h), bind_of_eq hfresh]

theorem unwind_of_le {column : Int} (h : s.indent ≤ column) (fuel : Nat) :
    unwind column fuel s = .ok ((), s) := by
  cases fuel with
  | zero => rfl
  | succ fuel =>
    have hle : ¬ column < s.indent := by omega
    rw [unwind, bind_of_eq (get_apply s), decide_eq_false hle, Bool.and_false, if_neg (by simp)]
    rfl

theorem unwind_opened {column : Int} {c : Nat} (hflow : s.flow = 0) (h : column < c) (fuel : Nat) :
    unwind column (fuel + 1) (s.opened c) = (do
      emit .blockEnd
      unwind column fuel : Scan Unit) s := by
  have hopen : ((s.opened c).flow == 0 && decide (column < (s.opened c).indent)) = true := by
    simpa [Source.opened, hflow] using h
  rw [unwind, bind_of_eq (get_apply _), if_pos hopen, bind_of_eq (set_apply _ _)]
  rfl

theorem nextToken_here (hs : Starts s.ahead)
    (hpending : ∀ p ∈ s.pending, p.2.line = s.line ∧ s.index - p.2.index ≤ keyLimit)
    (hindent : s.indent ≤ s.column) : nextToken room s = tokenHere room s := by
  rw [nextToken, settle, bind_apply, bind_of_eq (toNextToken_here hs),
    bind_of_eq (dropStale_fresh hpending), bind_of_eq (get_apply s), unwindTo,
    bind_of_eq (get_apply s), unwind_of_le hindent]
  rfl

/-- A block ends before a token that is not indented as far as it is. -/
theorem nextToken_close {c : Nat} (ts : List Token) (hflow : s.flow = 0)
    (hs : Starts (stepBy n s).ahead) (hcolumn : (stepBy n s).column < c) :
    nextToken room ((s.opened c).later n true [] ts) =
      nextToken room (s.later n true [] (ts ++ [.blockEnd])) := by
  have hopened : (s.opened c).later n true [] ts = (s.later n true [] ts).opened c := by
    rw [Source.later, Source.opened, stepBy_update]
    rfl
  have hs' : Starts ((s.later n true [] ts).opened c).ahead := hs
  have hs'' : Starts (s.later n true [] (ts ++ [.blockEnd])).ahead := hs
  rw [hopened, nextToken, bind_apply, bind_apply, settle, bind_of_eq (toNextToken_here hs'),
    bind_of_eq (toNextToken_here hs''),
    bind_of_eq (dropStale_fresh (by simp [Source.opened, Source.later])),
    bind_of_eq (dropStale_fresh (by simp [Source.later])), bind_of_eq (get_apply _),
    bind_of_eq (get_apply _), unwindTo, bind_of_eq (get_apply _), unwindTo,
    bind_of_eq (get_apply _), unwind_opened (by simpa [Source.later] using hflow)
      (by simpa [Source.opened, Source.later] using hcolumn), bind_of_eq (emit_later _ _ _ _ _ _)]
  rfl

theorem atBoundary_of_next {c m : Char} (hs : s.ahead = c :: cs)
    (h : c = m → cs.head? ≠ some m) : atBoundary m s = .ok (false, s) := by
  have htake : (s.ahead.take 3 == [m, m, m]) = false := by
    rw [hs, beq_eq_false_iff_ne]
    intro heq
    cases cs with
    | nil => simp at heq
    | cons d cs =>
      simp only [List.take_succ_cons, List.cons.injEq] at heq
      exact h heq.1 (by simp [heq.2.1])
  rw [atBoundary, htake, Bool.false_and]

theorem tokenHere_of_cons {c : Char} (hs : s.ahead = c :: cs)
    (hline : s.column ≠ 0 ∨ c ≠ '%' ∧ c ≠ '.' ∧ (c = '-' → cs.head? ≠ some '-')) :
    tokenHere room s =
      (tokenOf room (s.flow != 0) c (cs.headD endMark) >>= fun _ => pure true) s := by
  have hnext : s.ahead.getD 1 endMark = cs.headD endMark := by
    rw [hs]
    cases cs <;> rfl
  have hempty : s.ahead.isEmpty = false := by simp [hs]
  have hdash : ∃ b, atBoundary '-' s = .ok (b, s) ∧ (s.column == 0 && b) = false := by
    rcases hline with hline | hline
    · exact ⟨_, rfl, by simp [hline]⟩
    · exact ⟨false, atBoundary_of_next hs hline.2.2, by simp⟩
  have hdot : ∃ b, atBoundary '.' s = .ok (b, s) ∧ (s.column == 0 && b) = false := by
    rcases hline with hline | hline
    · exact ⟨_, rfl, by simp [hline]⟩
    · exact ⟨false, atBoundary_of_next hs (fun heq => absurd heq hline.2.1), by simp⟩
  have hpercent : (c == '%' && s.column == 0) = false := by
    rcases hline with hline | hline <;> simp [hline]
  obtain ⟨b, hb, hbcolumn⟩ := hdash
  obtain ⟨d, hd, hdcolumn⟩ := hdot
  rw [tokenHere, bind_of_eq (get_apply s), hempty, if_neg (by simp),
    bind_of_eq (peek_of_cons hs), bind_of_eq (peekAt_apply 1 s), hnext]
  dsimp only
  rw [hpercent, if_neg (by simp), bind_of_eq hb, hbcolumn, if_neg (by simp), bind_of_eq hd,
    hdcolumn, if_neg (by simp)]

theorem tokenOf_plain (room : Nat) {c next : Char} (h : startsPlain false c next = true) :
    tokenOf room false c next = keyLike (plainText room) := by
  simp only [startsPlain, String.contains_char_eq, Bool.or_eq_true, Bool.not_eq_true',
    Bool.or_eq_false_iff, decide_eq_false_iff_not, Bool.and_eq_true, Bool.not_false,
    Bool.true_and, beq_iff_eq] at h
  rcases h with ⟨hgap, hmark⟩ | ⟨hnext, rfl | rfl | rfl⟩
  · have hmarks : ∀ m ∈ "-?:,[]\x7b\x7d#&*!|>'\"%@`".toList, c ≠ m := by
      rintro m hm rfl
      exact hmark hm
    simp at hmarks
    simp [tokenOf, hmarks, startsPlain, hgap, String.contains_char_eq]
  · simp [tokenOf, hnext, startsPlain]
  · simp [tokenOf, hnext, startsPlain]
  · simp [tokenOf, hnext, startsPlain]

def pendingAt (s : Source) : List (Nat × PendingKey) :=
  if s.keyAllowed then [(0, ⟨s.count, s.indent == (s.column : Int), s.index, s.line, s.column⟩)]
  else []

theorem keyLike_apply {x : Scan Token} {tok : Token} (hflow : s.flow = 0)
    (hpending : s.pending = []) (h : x (s.later 0 false (pendingAt s) []) = .ok (tok, t)) :
    keyLike x s = emit tok t := by
  have hsave : (saveKey >>= fun _ => allowKey false) s =
      .ok ((), s.later 0 false (pendingAt s) []) := by
    by_cases hallowed : s.keyAllowed = true
    · rw [saveKey]
      simp [bind_apply, get_apply, hallowed, dropKey, hpending, dropPending, require, pure_apply,
        set_apply, modify_apply, allowKey, Source.later, pendingAt, hflow, stepBy]
    · rw [saveKey]
      simp [bind_apply, get_apply, hallowed, pure_apply, modify_apply, allowKey, Source.later,
        pendingAt, hpending, stepBy]
  have hassoc : keyLike x =
      ((saveKey >>= fun _ => allowKey false) >>= fun _ => x >>= emit) := by
    rw [keyLike, bind_assoc]
  rw [hassoc, bind_of_eq hsave, bind_of_eq h]

theorem blockEntry_apply (hflow : s.flow = 0)
    (hpending : s.pending = []) (hallowed : s.keyAllowed = true)
    (hindent : s.indent = (s.column : Int)) :
    blockEntry s = .ok ((), s.later 1 true [] [.entry]) := by
  have hopen : openBlock s.column s = .ok (false, s) := by
    rw [openBlock, bind_of_eq (get_apply s), if_neg (by omega)]
    rfl
  have hdrop : dropKey (s.allow true) = .ok ((), s.later 0 true [] []) := by
    simp [dropKey, bind_apply, get_apply, Source.allow, hpending, dropPending, require, pure_apply,
      set_apply, Source.later, stepBy]
  rw [blockEntry, bind_of_eq (get_apply s), hflow, if_pos (by simp), hallowed,
    bind_of_eq (require_true s), bind_of_eq hopen, if_neg (by simp)]
  dsimp only
  rw [bind_of_eq (show allowKey true s = .ok ((), s.allow true) from rfl), bind_of_eq hdrop, mark,
    bind_of_eq (forward_apply 1 _), stepBy_later, emit_later]
  rfl

theorem entry_leads (hs : s.ahead = '-' :: ' ' :: cs) (hflow : s.flow = 0)
    (hpending : s.pending = []) (hallowed : s.keyAllowed = true)
    (hindent : s.indent = (s.column : Int)) :
    Leads room s (s.later 1 true [] [.entry]) := by
  have hstarts : Starts s.ahead := by simpa [hs, Starts] using by decide
  refine Leads.of_token ?_ ?_
  · rw [nextToken_here hstarts (by simp [hpending]) (by omega),
      tokenHere_of_cons hs (.inr ⟨by decide, by decide, fun _ => by simp⟩), hflow]
    have hentry : tokenOf room (0 != 0) '-' ((' ' :: cs).headD endMark) = blockEntry := rfl
    rw [hentry, bind_of_eq (blockEntry_apply hflow hpending hallowed hindent)]
    rfl
  · simp [Source.later, hs]

def isNameLetter (c : Char) : Bool := c.isLower || c == '_'

/-- The names of fields, which are short enough for keys. -/
structure IsName (k : List Char) : Prop where
  letters : ∀ c ∈ k, isNameLetter c = true
  nonempty : k ≠ []
  short : k.length ≤ keyLimit

theorem not_isGap_of_letter {c : Char} (h : isNameLetter c = true) : isGap c = false :=
  not_isGap_of_class h (by simp; decide)

theorem ne_of_letter {c d : Char} (h : isNameLetter c = true) (hd : isNameLetter d = false) :
    c ≠ d := by
  rintro rfl
  simp [h] at hd

theorem startsPlain_of_letter {c : Char} (h : isNameLetter c = true) (next : Char) :
    startsPlain false c next = true := by
  have hmark : "-?:,[]\x7b\x7d#&*!|>'\"%@`".contains c = false := by
    rw [String.contains_char_eq, decide_eq_false_iff_not]
    intro hc
    have hnone : "-?:,[]\x7b\x7d#&*!|>'\"%@`".toList.all (fun d => !isNameLetter d) = true := by
      rfl
    exact ne_of_letter h (by simpa using List.all_eq_true.mp hnone c hc) rfl
  rw [startsPlain, not_isGap_of_letter h, hmark]
  rfl

theorem isInline_of_letter {c : Char} (h : isNameLetter c = true) : isInline c = true := by
  have hmark : c ≠ '\ufeff' := ne_of_letter h (by decide)
  simp [isInline, not_isBreak_of_not_isGap (not_isGap_of_letter h), hmark]

theorem plainWord_name {k : List Char} {c : Char} {fuel : Nat} {found : List Char}
    (hk : ∀ d ∈ k, isNameLetter d = true) (hflow : s.flow = 0) (hs : s.ahead = k ++ ':' :: c :: cs)
    (hc : isGap c = true) :
    plainWord room fuel found s =
      .ok (found.reverse ++ k, (stepBy k.length s).allow false) := by
  induction k generalizing s found with
  | nil =>
    rw [plainWord_colon hflow hs hc, List.append_nil]
    rfl
  | cons d k ih =>
    have hd := hk d (by simp)
    have hgoes : GoesOn s.ahead :=
      ⟨d, _, hs, not_isGap_of_letter hd, fun heq => absurd heq (ne_of_letter hd (by decide))⟩
    have hahead : (stepBy 1 s).ahead = k ++ ':' :: c :: cs := ahead_after [d] hs rfl
    rw [plainWord_char hflow hs hgoes,
      ih (fun e he => hk e (by simp [he])) (by simpa using hflow) hahead, ← stepBy_add,
      Nat.add_comm 1, List.reverse_cons, List.length_cons]
    simp

theorem plainText_name {k : List Char} {c : Char} (hk : IsName k) (hflow : s.flow = 0)
    (hs : s.ahead = k ++ ':' :: c :: cs) (hc : isGap c = true) :
    plainText room s = .ok (.scalar k true true, (stepBy k.length s).allow false) := by
  obtain ⟨d, k, rfl⟩ := List.exists_cons_of_ne_nil hk.nonempty
  have hd := hk.letters d (by simp)
  have hgoes : GoesOn s.ahead :=
    ⟨d, _, hs, not_isGap_of_letter hd, fun heq => absurd heq (ne_of_letter hd (by decide))⟩
  have hcomment : s.ahead.head? ≠ some '#' := by
    simpa [hs] using ne_of_letter hd (by decide)
  rw [plainText, bind_apply, plainFrom_word hflow hgoes hcomment,
    plainWord_name hk.letters hflow hs hc]
  rfl

/-- A name at the beginning of a line waits for its colon. -/
theorem name_leads {k : List Char} {c : Char} (hk : IsName k) (hflow : s.flow = 0)
    (hpending : s.pending = []) (hs : s.ahead = k ++ ':' :: c :: cs) (hc : isGap c = true)
    (hindent : s.indent ≤ s.column) :
    Leads room s (s.later k.length false (pendingAt s) [.scalar k true true]) := by
  obtain ⟨d, l, hkd⟩ := List.exists_cons_of_ne_nil hk.nonempty
  have hd := hk.letters d (by simp [hkd])
  have hs' : s.ahead = d :: (l ++ ':' :: c :: cs) := by rw [hs, hkd]; rfl
  have hstarts : Starts s.ahead := by
    simpa [hs', Starts] using ⟨not_isGap_of_letter hd, ne_of_letter hd (by decide)⟩
  refine Leads.of_token ?_ ?_
  · rw [nextToken_here hstarts (by simp [hpending]) hindent,
      tokenHere_of_cons hs' (.inr ⟨ne_of_letter hd (by decide), ne_of_letter hd (by decide),
        fun heq => absurd heq (ne_of_letter hd (by decide))⟩), hflow, bne_self_eq_false,
      tokenOf_plain room (startsPlain_of_letter hd _), bind_apply,
      keyLike_apply hflow hpending (plainText_name hk hflow hs hc), stepBy_later, Nat.zero_add,
      allow_later, emit_later]
    rfl
  · have hlength := congrArg List.length hs
    simp only [List.length_append, List.length_cons] at hlength
    have hpositive := List.length_pos_iff.mpr hk.nonempty
    simp only [Source.later, ahead_stepBy, List.length_drop]
    omega

/-- The state where a key may begin in a mapping, which is opened unless there is one already. -/
def inMapping (s : Source) : Source :=
  if s.indent < (s.column : Int) then
    (s.opened s.column).later 0 s.keyAllowed s.pending [.blockMapping]
  else s

def keyed (s : Source) (k : List Char) : Source :=
  (inMapping s).later (k.length + 1) false [] [.key, .scalar k true true, .value]

theorem stepBy_opened (n c : Nat) (s : Source) :
    stepBy n (s.opened c) = (stepBy n s).opened c := by
  rw [Source.opened, stepBy_update]
  simp [Source.opened]

theorem later_opened (n c : Nat) (s : Source) (a : Bool) (p : List (Nat × PendingKey))
    (ts : List Token) : (s.opened c).later n a p ts = (s.later n a p ts).opened c := by
  rw [Source.later, stepBy_opened]
  rfl

theorem insertIdx_length {α : Type} (xs ys : List α) (x : α) :
    (xs ++ ys).insertIdx xs.length x = xs ++ x :: ys := by
  induction xs with
  | nil => rfl
  | cons y xs ih => simp [List.insertIdx_succ_cons, ih]

theorem insert_before (n : Nat) (s : Source) (a : Bool) (p : List (Nat × PendingKey))
    (ts : List Token) (t : Token) :
    insert s.count t (s.later n a p ts) = .ok ((), s.later n a p (t :: ts)) := by
  have htokens : (s.later n a p ts).tokens.insertIdx ((s.later n a p ts).count - s.count) t =
      (s.later n a p (t :: ts)).tokens := by
    have h := insertIdx_length ts.reverse s.tokens t
    rw [List.length_reverse] at h
    simpa [Source.later] using h
  rw [insert, modify_apply, htokens]
  simp [Source.later, Nat.add_assoc]

theorem openBlock_later_of_lt (n : Nat) (ts : List Token) (h : s.indent < (s.column : Int)) :
    openBlock s.column (s.later n false [] ts) =
      .ok (true, (s.opened s.column).later n false [] ts) := by
  rw [openBlock, bind_of_eq (get_apply _), if_pos (by simpa [Source.later] using h), later_opened]
  rfl

theorem openBlock_later_of_not_lt (n : Nat) (ts : List Token) (h : ¬ s.indent < (s.column : Int)) :
    openBlock s.column (s.later n false [] ts) = .ok (false, s.later n false [] ts) := by
  rw [openBlock, bind_of_eq (get_apply _), if_neg (by simpa [Source.later] using h)]
  rfl

theorem mark_value_later (n : Nat) (s : Source) (ts : List Token) :
    (allowKey false >>= fun _ => mark .value) (s.later n false [] ts) =
      .ok ((), s.later (n + 1) false [] (ts ++ [.value])) := by
  have hallow : allowKey false (s.later n false [] ts) = .ok ((), s.later n false [] ts) := rfl
  rw [bind_of_eq hallow, mark, bind_of_eq (forward_apply 1 _), stepBy_later, emit_later]

/-- At a colon the name that waits for it becomes a key, and the mapping is opened in front of it
if it is the first one. -/
theorem markedValue_apply {k : List Char} (hflow : s.flow = 0) (hallowed : s.keyAllowed = true) :
    markedValue (s.later k.length false (pendingAt s) [.scalar k true true]) =
      .ok ((), keyed s k) := by
  have hfind : (s.later k.length false (pendingAt s) [.scalar k true true]).pending.find?
      (·.1 == (s.later k.length false (pendingAt s) [.scalar k true true]).flow) =
      some (0, ⟨s.count, s.indent == (s.column : Int), s.index, s.line, s.column⟩) := by
    simp [Source.later, pendingAt, hallowed, hflow]
  have hdrop : dropPending (s.later k.length false (pendingAt s) [.scalar k true true]).flow
      (s.later k.length false (pendingAt s) [.scalar k true true]).pending = [] := by
    simp [Source.later, pendingAt, hallowed, dropPending, hflow]
  have hkey := insert_before k.length s false [] [.scalar k true true] .key
  rw [markedValue, bind_of_eq (get_apply _), hfind, hdrop]
  dsimp only
  rw [bind_of_eq (set_apply _ _)]
  refine (bind_of_eq hkey _).trans ?_
  rw [if_pos (by simpa [Source.later] using hflow)]
  by_cases hindent : s.indent < (s.column : Int)
  · have hmapping : insert s.count .blockMapping
        ((s.opened s.column).later k.length false [] [.key, .scalar k true true]) = _ :=
      insert_before k.length (s.opened s.column) false [] _ .blockMapping
    rw [bind_of_eq (openBlock_later_of_lt _ _ hindent), if_pos rfl, bind_of_eq hmapping,
      mark_value_later, keyed, inMapping, if_pos hindent, later_later, Nat.zero_add]
    rfl
  · rw [bind_of_eq (openBlock_later_of_not_lt _ _ hindent), if_neg (by simp), mark_value_later,
      keyed, inMapping, if_neg hindent]
    rfl

theorem key_leads {k : List Char} {c : Char} (hk : IsName k) (hflow : s.flow = 0)
    (hpending : s.pending = []) (hallowed : s.keyAllowed = true)
    (hs : s.ahead = k ++ ':' :: c :: cs) (hc : isGap c = true) (hindent : s.indent ≤ s.column) :
    Leads room s (keyed s k) := by
  refine (name_leads hk hflow hpending hs hc hindent).trans ?_
  have hahead : (s.later k.length false (pendingAt s) [.scalar k true true]).ahead =
      ':' :: c :: cs := ahead_after _ hs rfl
  obtain ⟨hline, hcolumn, hindex⟩ := stepBy_of_inline hs fun d hd =>
    isInline_of_letter (hk.letters d hd)
  have hshort := hk.short
  refine Leads.of_token ?_ ?_
  · rw [nextToken_here (by simpa [hahead, Starts] using by decide) ?_ ?_,
      tokenHere_of_cons hahead (.inr ⟨by decide, by decide, by simp⟩)]
    · have htoken : tokenOf room ((s.later k.length false (pendingAt s)
          [.scalar k true true]).flow != 0) ':' ((c :: cs).headD endMark) = markedValue := by
        have hflow' : (s.later k.length false (pendingAt s) [.scalar k true true]).flow = 0 := hflow
        simp [hflow', tokenOf, hc]
      rw [htoken, bind_of_eq (markedValue_apply hflow hallowed)]
      rfl
    · simp only [pendingAt, hallowed, Source.later, if_true, List.mem_singleton, forall_eq]
      rw [hline, hindex]
      omega
    · simp only [Source.later]
      rw [hcolumn]
      omega
  · have hlater : (keyed s k).ahead = (stepBy (k.length + 1) s).ahead := by
      unfold keyed inMapping
      split
      · rw [later_later, later_opened, Nat.zero_add]
        rfl
      · rfl
    rw [hlater, hahead, stepBy_add, ahead_stepBy, ahead_stepBy_append hs]
    simp

end Scan

end OrderSheet.Yaml
