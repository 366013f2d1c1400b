import Mathlib
import OrderSheet.Proofs.Yaml.Quoted

/-!
# Reading plain texts

A plain text reads back from each of its spellings, up to a colon with a gap behind it or up to a
line that is not indented enough to belong to it.
-/

namespace OrderSheet.Yaml

namespace Scan

variable {room : Nat} {s : Source} {found gap cs : List Char}

def plainWord (room fuel : Nat) (found : List Char) : Scan (List Char) := do
  let s ← get
  let length := plainLength (s.flow != 0) 0 s.ahead
  modify fun s => { s with keyAllowed := false }
  forward length
  let found := pushAll (s.ahead.take length) found
  let gap ← plainGap room
  let t ← get
  if gap.isEmpty || t.ahead.head? == some '#' ||
      (t.flow == 0 && (t.column : Int) < t.indent + 1) then return found.reverse
  else plainFrom room fuel found gap

def GoesOn (cs : List Char) : Prop :=
  ∃ c rest, cs = c :: rest ∧ isGap c = false ∧ (c = ':' → isGap (rest.headD endMark) = false)

theorem plainLength_add (n : Nat) (cs : List Char) :
    plainLength false n cs = n + plainLength false 0 cs := by
  induction cs generalizing n with
  | nil => rfl
  | cons c cs ih =>
    simp only [plainLength, Bool.false_and, Bool.or_false]
    split
    · rfl
    · rw [ih (n + 1), ih (0 + 1)]
      omega

theorem plainLength_of_goesOn {c : Char} (h : GoesOn (c :: cs)) :
    plainLength false 0 (c :: cs) = 1 + plainLength false 0 cs := by
  obtain ⟨d, rest, heq, hgap, hcolon⟩ := h
  obtain ⟨rfl, rfl⟩ := List.cons.inj heq
  have hstop : (isGap c || (c == ':' && isGap (cs.headD endMark))) = false := by
    by_cases hc : c = ':'
    · rw [hgap, hcolon hc, Bool.and_false, Bool.or_false]
    · rw [hgap, beq_eq_false_iff_ne.mpr hc, Bool.false_and, Bool.or_false]
  rw [plainLength]
  simp only [Bool.false_and, Bool.or_false, hstop, Bool.false_eq_true, if_false]
  exact plainLength_add 1 cs

theorem plainLength_of_stop {c : Char}
    (h : isGap c = true ∨ c = ':' ∧ isGap (cs.headD endMark) = true) :
    plainLength false 0 (c :: cs) = 0 := by
  have hstop : (isGap c || (c == ':' && isGap (cs.headD endMark))) = true := by
    rcases h with h | ⟨rfl, h⟩
    · rw [h, Bool.true_or]
    · rw [h, beq_self_eq_true, Bool.and_true, Bool.or_true]
  rw [plainLength]
  simp only [Bool.false_and, Bool.or_false, hstop, if_true]

theorem plainFrom_word {fuel : Nat} (hflow : s.flow = 0) (h : GoesOn s.ahead)
    (hcomment : s.ahead.head? ≠ some '#') :
    plainFrom room (fuel + 1) found gap s = plainWord room fuel (pushAll gap found) s := by
  obtain ⟨c, rest, hs, hgoes⟩ := h
  have hlength : plainLength false 0 s.ahead = 1 + plainLength false 0 rest := by
    rw [hs]
    exact plainLength_of_goesOn ⟨c, rest, rfl, hgoes⟩
  have hc : (c == '#') = false := by simpa [hs] using hcomment
  rw [plainFrom, bind_of_eq (get_apply s), hflow]
  dsimp only
  rw [bind_of_eq (peek_of_cons hs), hc, bne_self_eq_false, hlength, Bool.false_or,
    show (1 + plainLength false 0 rest == 0) = false by rw [beq_eq_false_iff_ne]; omega,
    if_neg (by simp), plainWord, bind_of_eq (get_apply s), hflow, bne_self_eq_false, hlength]

theorem plainWord_char {c : Char} {fuel : Nat} (hflow : s.flow = 0) (hs : s.ahead = c :: cs)
    (h : GoesOn s.ahead) :
    plainWord room fuel found s = plainWord room fuel (c :: found) (stepBy 1 s) := by
  have hahead : (stepBy 1 s).ahead = cs := by
    rw [ahead_stepBy, hs]
    rfl
  have hlength : plainLength false 0 s.ahead = 1 + plainLength false 0 cs := by
    rw [hs] at h ⊢
    exact plainLength_of_goesOn h
  rw [plainWord, bind_of_eq (get_apply s), plainWord, bind_of_eq (get_apply _), flow_stepBy,
    hflow, bne_self_eq_false, hlength, hahead, hs, bind_of_eq (allow_apply _ _),
    bind_of_eq (allow_apply _ _), bind_of_eq (forward_apply _ _),
    bind_of_eq (forward_apply _ _), stepBy_add, stepBy_allow 1, Nat.add_comm 1,
    List.take_succ_cons]
  rfl

theorem plainWord_allow (fuel : Nat) (b : Bool) (s : Source) :
    plainWord room fuel found (s.allow b) = plainWord room fuel found s := rfl

theorem plainBreaks_spaces {n fuel : Nat} (hs : s.ahead = List.replicate n ' ' ++ cs)
    (hcs : ∀ c ∈ cs.head?, isGap c = false) (hfuel : n < fuel) :
    plainBreaks fuel [] s = .ok (some [], stepBy n s) := by
  induction n generalizing s fuel with
  | zero =>
    obtain ⟨fuel, rfl⟩ : ∃ k, fuel = k + 1 := ⟨fuel - 1, by omega⟩
    have hs' : s.ahead = cs := hs
    have hspace : (s.ahead.headD endMark == ' ') = false := by
      rw [hs']
      cases cs with
      | nil => rfl
      | cons c cs => simpa using ne_of_not_isGap (hcs c rfl) (by decide : isGap ' ' = true)
    have hbreak : ∀ c ∈ s.ahead.head?, isBreak c = false := by
      rw [hs']
      exact fun c hc => not_isBreak_of_not_isGap (hcs c hc)
    rw [plainBreaks, bind_of_eq (peek_apply s), hspace, if_neg (by simp),
      bind_of_eq (lineBreak_none hbreak)]
    rfl
  | succ n ih =>
    obtain ⟨fuel, rfl⟩ : ∃ k, fuel = k + 1 := ⟨fuel - 1, by omega⟩
    have hahead : (stepBy 1 s).ahead = List.replicate n ' ' ++ cs := by
      rw [ahead_stepBy, hs]
      rfl
    rw [plainBreaks, bind_of_eq (peek_of_cons hs), if_pos (by rfl),
      bind_of_eq (forward_apply 1 s), ih hahead (by omega), ← stepBy_add, Nat.add_comm]

theorem plainGap_spaces (room : Nat) {n : Nat} (hs : s.ahead = List.replicate n ' ' ++ cs)
    (hcs : ∀ c ∈ cs.head?, isGap c = false) :
    plainGap room s = .ok (List.replicate n ' ', stepBy n s) := by
  have hspace : cs.head? ≠ some ' ' := fun h => absurd (hcs ' ' (by simp [h])) (by decide)
  have hahead : (stepBy n s).ahead = cs := by
    rw [ahead_stepBy, hs, List.drop_left' (by simp)]
  rw [plainGap, bind_of_eq (span_apply _ s), hs, takeWhile_spaces hspace, List.length_replicate,
    bind_of_eq (lineBreak_none fun c hc => ?_)]
  · rfl
  · rw [hahead] at hc
    exact not_isBreak_of_not_isGap (hcs c hc)

/-- A new line gives a gap, or none if it begins with the mark of a document. -/
theorem plainGap_line (room : Nat) {n : Nat} (hs : s.ahead = lineStart n ++ cs)
    (hcs : ∀ c ∈ cs.head?, isGap c = false) (hroom : n < room) :
    plainGap room s = .ok ([' '], (stepBy (1 + n) s).allow true) ∨
      n = 0 ∧ plainGap room s = .ok ([], (stepBy (1 + n) s).allow true) := by
  have hahead : (stepBy 1 s).ahead = List.replicate n ' ' ++ cs := by
    rw [ahead_stepBy, hs]
    rfl
  have hspaces : (lineStart n ++ cs).takeWhile (· == ' ') = [] := rfl
  have hbreaks : plainBreaks room [] ((stepBy 1 s).allow true) =
      .ok (some [], (stepBy (1 + n) s).allow true) := by
    have hahead' : ((stepBy 1 s).allow true).ahead = List.replicate n ' ' ++ cs := hahead
    rw [plainBreaks_spaces hahead' hcs hroom, stepBy_allow, ← stepBy_add]
  obtain ⟨b, hb⟩ := atDocumentBoundary_apply ((stepBy 1 s).allow true)
  have hboundary : atDocumentBoundary { stepBy 1 s with keyAllowed := true } =
      .ok (b, (stepBy 1 s).allow true) := hb
  rw [plainGap, bind_of_eq (span_apply _ s), hs, hspaces, List.length_nil, stepBy,
    bind_of_eq (lineBreak_feed hs)]
  dsimp only
  rw [bind_of_eq (modify_apply _ _), bind_of_eq hboundary]
  cases b with
  | false =>
    left
    rw [if_neg (by simp), bind_of_eq hbreaks]
    rfl
  | true =>
    right
    cases n with
    | zero => exact ⟨rfl, rfl⟩
    | succ n =>
      have hspace : ∀ c ∈ ((stepBy 1 s).allow true).ahead.head?, c ≠ '-' ∧ c ≠ '.' := by
        rw [ahead_allow, hahead]
        simp [List.replicate_succ]
      rw [atDocumentBoundary_false hspace] at hb
      simp at hb

theorem plainWord_of_stop {fuel : Nat} {t : Source} (hflow : s.flow = 0)
    (hstop : plainLength false 0 s.ahead = 0)
    (hgap : plainGap room (s.allow false) = .ok (gap, t)) :
    plainWord room fuel found s =
      if gap.isEmpty || t.ahead.head? == some '#' ||
          (t.flow == 0 && (t.column : Int) < t.indent + 1) then .ok (found.reverse, t)
      else plainFrom room fuel found gap t := by
  rw [plainWord, bind_of_eq (get_apply s), hflow, bne_self_eq_false, hstop,
    bind_of_eq (allow_apply _ _), bind_of_eq (forward_apply 0 _), List.take_zero, stepBy,
    bind_of_eq hgap]
  show (if _ then _ else _ : Scan (List Char)) t = _
  split <;> rfl

theorem plainWord_spaces {n fuel : Nat} {d : Char} (hflow : s.flow = 0)
    (hs : s.ahead = List.replicate (n + 1) ' ' ++ d :: cs) (hd : GoesOn (d :: cs)) (hne : d ≠ '#')
    (hcolumn : s.indent < s.column) :
    plainWord room (fuel + 1) found s =
      plainWord room fuel (pushAll (List.replicate (n + 1) ' ') found) (stepBy (n + 1) s) := by
  obtain ⟨c, rest, heq, hgap, -⟩ := id hd
  obtain ⟨rfl, rfl⟩ := List.cons.inj heq
  have hahead : (stepBy (n + 1) s).ahead = d :: cs := ahead_after _ hs (by simp)
  have hstop : plainLength false 0 s.ahead = 0 := by
    rw [hs]
    exact plainLength_of_stop (.inl (by decide))
  have hspaces := plainGap_spaces room (s := s.allow false) hs
    (by simpa using hgap)
  have hinline := (stepBy_of_inline hs fun c hc => by
    rw [List.eq_of_mem_replicate hc]
    decide).2.1
  rw [List.length_replicate] at hinline
  rw [plainWord_of_stop hflow hstop hspaces, stepBy_allow, if_neg, ← plainWord_allow fuel false]
  · refine plainFrom_word (by simpa using hflow) (by rw [ahead_allow, hahead]; exact hd) ?_
    rw [ahead_allow, hahead]
    simpa using hne
  · simp only [ahead_allow, flow_allow, column_allow, indent_allow, hahead, List.head?_cons,
      flow_stepBy, indent_stepBy, hflow, hinline]
    simp [hne]
    omega

theorem plainWord_fold {n fuel : Nat} {d : Char} (hflow : s.flow = 0)
    (hs : s.ahead = lineStart n ++ d :: cs) (hd : GoesOn (d :: cs)) (hne : d ≠ '#')
    (hcolumn : s.indent < n) (hn : 0 < n) (hroom : n < room) :
    plainWord room (fuel + 1) found s = plainWord room fuel (' ' :: found) (stepBy (1 + n) s) := by
  obtain ⟨c, rest, heq, hgap, -⟩ := id hd
  obtain ⟨rfl, rfl⟩ := List.cons.inj heq
  have hahead : (stepBy (1 + n) s).ahead = d :: cs :=
    ahead_after _ hs (by simp [lineStart]; omega)
  have hstop : plainLength false 0 s.ahead = 0 := by
    rw [hs]
    exact plainLength_of_stop (.inl (by decide))
  have hline := plainGap_line room (s := s.allow false) hs
    (by simpa using hgap) hroom
  have hcolumn' : (stepBy (1 + n) s).column = n := by
    have h := column_stepBy_line (s := s) [] hs
    simpa using h
  rcases hline with hline | ⟨rfl, -⟩
  · rw [stepBy_allow] at hline
    rw [plainWord_of_stop hflow hstop hline, if_neg,
      ← plainWord_allow fuel true (stepBy (1 + n) s)]
    · refine plainFrom_word (by simpa using hflow) ?_ ?_
      · rw [ahead_allow, ahead_allow, hahead]
        exact hd
      · rw [ahead_allow, ahead_allow, hahead]
        simpa using hne
    · simp only [ahead_allow, flow_allow, column_allow, indent_allow, hahead, List.head?_cons,
        flow_stepBy, indent_stepBy, hflow, hcolumn']
      simp [hne]
      omega
  · omega

/-- From `s` on, the next `n` characters of a plain text add `cs` to what has been found. -/
def WordReads (room : Nat) (s : Source) (cs : List Char) (n : Nat) : Prop :=
  ∀ found fuel, n ≤ fuel → ∃ fuel',
    plainWord room fuel found s = plainWord room fuel' (pushAll cs found) (stepBy n s)

theorem WordReads.char {c : Char} {ds : List Char} {n : Nat} (hflow : s.flow = 0)
    (hs : s.ahead = c :: cs) (hgoes : GoesOn s.ahead) (h : WordReads room (stepBy 1 s) ds n) :
    WordReads room s (c :: ds) (1 + n) := by
  intro found fuel hfuel
  obtain ⟨fuel', heq⟩ := h (c :: found) fuel (by omega)
  refine ⟨fuel', ?_⟩
  rw [plainWord_char hflow hs hgoes, heq, stepBy_add]
  rfl

theorem WordReads.spaces {k n : Nat} {d : Char} {ds : List Char} (hflow : s.flow = 0)
    (hs : s.ahead = List.replicate (k + 1) ' ' ++ d :: cs) (hd : GoesOn (d :: cs)) (hne : d ≠ '#')
    (hcolumn : s.indent < s.column) (h : WordReads room (stepBy (k + 1) s) ds n) :
    WordReads room s (List.replicate (k + 1) ' ' ++ ds) (k + 1 + n) := by
  intro found fuel hfuel
  obtain ⟨fuel, rfl⟩ : ∃ j, fuel = j + 1 := ⟨fuel - 1, by omega⟩
  obtain ⟨fuel', heq⟩ := h (pushAll (List.replicate (k + 1) ' ') found) fuel (by omega)
  refine ⟨fuel', ?_⟩
  rw [plainWord_spaces hflow hs hd hne hcolumn, heq, stepBy_add (k + 1)]
  simp [pushAll, List.reverseAux_eq]

theorem WordReads.fold {k n : Nat} {d : Char} {ds : List Char} (hflow : s.flow = 0)
    (hs : s.ahead = lineStart k ++ d :: cs) (hd : GoesOn (d :: cs)) (hne : d ≠ '#')
    (hcolumn : s.indent < k) (hk : 0 < k) (hroom : k < room)
    (h : WordReads room (stepBy (1 + k) s) ds n) : WordReads room s (' ' :: ds) (1 + k + n) := by
  intro found fuel hfuel
  obtain ⟨fuel, rfl⟩ : ∃ j, fuel = j + 1 := ⟨fuel - 1, by omega⟩
  obtain ⟨fuel', heq⟩ := h (' ' :: found) fuel (by omega)
  refine ⟨fuel', ?_⟩
  rw [plainWord_fold hflow hs hd hne hcolumn hk hroom, heq, stepBy_add (1 + k)]
  rfl

theorem plainWord_colon {c : Char} {fuel : Nat} (hflow : s.flow = 0)
    (hs : s.ahead = ':' :: c :: cs) (hc : isGap c = true) :
    plainWord room fuel found s = .ok (found.reverse, s.allow false) := by
  have hstop : plainLength false 0 s.ahead = 0 := by
    rw [hs]
    exact plainLength_of_stop (.inr ⟨rfl, hc⟩)
  have hgap := plainGap_spaces room (s := s.allow false)
    (n := 0) hs (by simp; decide)
  rw [plainWord_of_stop hflow hstop hgap]
  rfl

theorem plainWord_line {n fuel : Nat} (hflow : s.flow = 0) (hs : s.ahead = lineStart n ++ cs)
    (hcs : ∀ c ∈ cs.head?, isGap c = false) (hn : (n : Int) ≤ s.indent) (hroom : n < room) :
    plainWord room fuel found s =
      .ok (found.reverse, (stepBy (1 + n) s).allow true) := by
  have hstop : plainLength false 0 s.ahead = 0 := by
    rw [hs]
    exact plainLength_of_stop (.inl (by decide))
  have hcolumn : (stepBy (1 + n) s).column = n := by
    have h := column_stepBy_line (s := s) [] hs
    simpa using h
  have hline := plainGap_line room (s := s.allow false) hs hcs hroom
  rw [stepBy_allow] at hline
  rcases hline with hline | ⟨-, hline⟩
  · rw [plainWord_of_stop hflow hstop hline, if_pos]
    · rfl
    · simp only [ahead_allow, flow_allow, column_allow, indent_allow, flow_stepBy, indent_stepBy,
        hflow, hcolumn]
      simp
      omega
  · rw [plainWord_of_stop hflow hstop hline]
    rfl

end Scan

open Scan

variable {room column : Nat} {s : Source} {cs xs rest : List Char}

theorem PlainSpelling.head {d : Char} (h : PlainSpelling column (d :: cs) xs) (hd : d ≠ ' ') :
    isGap d = false ∧ ∃ ys, xs = d :: ys := by
  generalize hds : d :: cs = ds at h
  cases h with
  | last _ hgap =>
    obtain ⟨rfl, -⟩ := List.cons.inj hds
    exact ⟨hgap, _, rfl⟩
  | char _ hgap =>
    obtain ⟨rfl, -⟩ := List.cons.inj hds
    exact ⟨hgap, _, rfl⟩
  | spaces => exact absurd (List.cons.inj hds).1 hd
  | fold => exact absurd (List.cons.inj hds).1 hd

theorem PlainSpelling.goesOn {d : Char} (h : PlainSpelling column (d :: cs) xs) (hd : d ≠ ' ')
    (rest : List Char) : GoesOn (xs ++ rest) := by
  generalize hds : d :: cs = ds at h
  cases h with
  | last _ hgap hcolon => exact ⟨_, _, rfl, hgap, fun heq => absurd heq hcolon⟩
  | char _ hgap hcolon hspelling =>
    refine ⟨_, _, rfl, hgap, fun heq => ?_⟩
    obtain ⟨ys, rfl⟩ := (hspelling.head (ne_of_not_isGap (hcolon heq) (by decide))).2
    exact hcolon heq
  | spaces => exact absurd (List.cons.inj hds).1 hd
  | fold => exact absurd (List.cons.inj hds).1 hd

theorem isInline_of_writable {c : Char} (h : isWritable c = true) (hc : isGap c = false) :
    isInline c = true := by
  have hmark : c ≠ '\ufeff' := by
    rintro rfl
    exact absurd h (by decide)
  simp [isInline, not_isBreak_of_not_isGap hc, hmark]

theorem PlainSpelling.reads (h : PlainSpelling column cs xs) (hflow : s.flow = 0)
    (hs : s.ahead = xs ++ rest) (hindent : s.indent < s.column) (hcolumn : s.indent < column)
    (hpositive : 0 < column) (hroom : s.ahead.length ≤ room) :
    WordReads room s cs xs.length := by
  induction h generalizing s with
  | last _ hgap hcolon =>
    exact fun found fuel _ =>
      ⟨fuel, plainWord_char hflow hs (hs ▸ ⟨_, _, rfl, hgap, fun heq => absurd heq hcolon⟩)⟩
  | @char c d cs xs hwritable hgap hcolon hspelling ih =>
    have hgoes : GoesOn s.ahead := by
      rw [hs]
      refine ⟨c, xs ++ rest, rfl, hgap, fun heq => ?_⟩
      obtain ⟨ys, rfl⟩ := (hspelling.head (ne_of_not_isGap (hcolon heq) (by decide))).2
      exact hcolon heq
    have hahead : (stepBy 1 s).ahead = xs ++ rest := ahead_after [c] hs rfl
    have hplace := (stepBy_of_inline (show s.ahead = [c] ++ (xs ++ rest) from hs)
      (by simpa using isInline_of_writable hwritable hgap)).2.1
    rw [List.length_singleton] at hplace
    have hrest := ih (by simpa using hflow) hahead (by rw [indent_stepBy, hplace]; omega)
      (by simpa using hcolumn) ((length_stepBy_le 1 s).trans hroom)
    rw [List.length_cons, Nat.add_comm]
    exact hrest.char hflow hs hgoes
  | @spaces n d cs xs hd hne hspelling ih =>
    obtain ⟨ys, rfl⟩ := (hspelling.head hd).2
    have hs' : s.ahead = List.replicate (n + 1) ' ' ++ d :: (ys ++ rest) := by simpa using hs
    have hahead : (stepBy (n + 1) s).ahead = d :: ys ++ rest := ahead_after _ hs' (by simp)
    have hplace := (stepBy_of_inline hs' fun c hc => by
      rw [List.eq_of_mem_replicate hc]
      decide).2.1
    rw [List.length_replicate] at hplace
    have hrest := ih (by simpa using hflow) hahead (by rw [indent_stepBy, hplace]; omega)
      (by simpa using hcolumn) ((length_stepBy_le (n + 1) s).trans hroom)
    rw [List.length_append, List.length_replicate]
    exact hrest.spaces hflow hs' (hspelling.goesOn hd rest) hne hindent
  | @fold d cs xs hd hne hspelling ih =>
    obtain ⟨ys, rfl⟩ := (hspelling.head hd).2
    have hs' : s.ahead = lineStart column ++ d :: (ys ++ rest) := by simpa using hs
    have hline : (lineStart column).length = 1 + column := by simp [lineStart, Nat.add_comm]
    have hplace : (stepBy (1 + column) s).column = column := by
      simpa using column_stepBy_line (s := s) [] hs'
    have hlength := congrArg List.length hs'
    rw [List.length_append, hline] at hlength
    have hrest := ih (by simpa using hflow) (ahead_after _ hs' hline)
      (by rw [indent_stepBy, hplace]; exact hcolumn) (by simpa using hcolumn)
      ((length_stepBy_le (1 + column) s).trans hroom)
    rw [List.length_append, hline]
    exact hrest.fold hflow hs' (hspelling.goesOn hd rest) hne hcolumn hpositive (by omega)

/-- A plain text whose first character stands behind the indentation of the current block. -/
theorem PlainSpelling.plainText_eq {d : Char} (h : PlainSpelling column (d :: cs) xs)
    (hd : d ≠ ' ') (hcomment : d ≠ '#') (hflow : s.flow = 0) (hs : s.ahead = xs ++ rest)
    (hindent : s.indent < s.column) (hcolumn : s.indent < column) (hpositive : 0 < column)
    (hroom : s.ahead.length ≤ room) :
    ∃ fuel, plainText room s = (do
      return .scalar (← plainWord room fuel (d :: cs).reverse) true true : Scan Token)
        (stepBy xs.length s) := by
  have hgoes : GoesOn s.ahead := hs ▸ h.goesOn hd rest
  obtain ⟨ys, rfl⟩ := (h.head hd).2
  have hlength := congrArg List.length hs
  rw [List.length_append] at hlength
  obtain ⟨fuel, heq⟩ := h.reads hflow hs hindent hcolumn hpositive hroom [] room (by omega)
  refine ⟨fuel, ?_⟩
  rw [plainText, bind_apply, bind_apply, plainFrom_word hflow hgoes (by simpa [hs] using hcomment),
    pushAll, List.reverseAux_nil, heq, pushAll, List.reverseAux_eq, List.append_nil]

theorem PlainSpelling.plainText_line {n : Nat} {d : Char} (h : PlainSpelling column (d :: cs) xs)
    (hd : d ≠ ' ') (hcomment : d ≠ '#') (hflow : s.flow = 0)
    (hs : s.ahead = xs ++ (lineStart n ++ rest)) (hrest : ∀ c ∈ rest.head?, isGap c = false)
    (hn : (n : Int) ≤ s.indent) (hindent : s.indent < s.column) (hcolumn : s.indent < column)
    (hroom : s.ahead.length ≤ room) :
    plainText room s =
      .ok (.scalar (d :: cs) true true, (stepBy (xs.length + (1 + n)) s).allow true) := by
  have hlength := congrArg List.length hs
  obtain ⟨ys, rfl⟩ := (h.head hd).2
  simp only [List.length_append, lineStart, List.length_cons, List.length_replicate] at hlength
  obtain ⟨fuel, heq⟩ := h.plainText_eq hd hcomment hflow hs hindent hcolumn (by omega) hroom
  rw [heq, bind_of_eq (plainWord_line (by simpa using hflow) (ahead_stepBy_append hs) hrest
      (by simpa using hn) (by omega)), List.reverse_reverse, stepBy_add _ (1 + n)]
  rfl

end OrderSheet.Yaml
