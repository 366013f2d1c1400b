import Mathlib
import OrderSheet.Proofs.Yaml.Tokens
import OrderSheet.Proofs.Yaml.Writing

/-!
# The tokens of a written value

What stands behind a key or a dash reads as the tokens of one value, and reading goes on in the
line behind it. Blocks inside a value are closed by a line that begins further left.
-/

namespace OrderSheet.Yaml

open Scan

variable {room column n : Nat} {s : Source} {cs xs rest : List Char}

/-- Texts that can stand as they are behind a key or a dash. -/
structure BareText (cs : List Char) : Prop extends PlainText cs where
  unmarked : hasLeadingMark cs = false
  nonempty : cs ≠ []
  head : cs.head? ≠ some ' '

theorem bareText_of_style (h : styleOf cs = .plain) : BareText cs := by
  obtain ⟨ht, -, hmark, hspaced, hne⟩ := plainText_of_style h
  refine ⟨ht, hmark, hne, fun hhead => ?_⟩
  simp [isSpaced, hhead] at hspaced

theorem hasLeadingMark_cons {d : Char} (h : hasLeadingMark (d :: cs) = false) :
    (∀ m ∈ "#,[]\x7b\x7d&*!|>'\"%@`".toList, d ≠ m) ∧
      (d = '?' ∨ d = ':' ∨ d = '-' → ∃ e ds, cs = e :: ds ∧ isGap e = false) := by
  simp only [hasLeadingMark, String.contains_char_eq, Bool.or_eq_false_iff,
    decide_eq_false_iff_not, Bool.and_eq_false_iff] at h
  refine ⟨?_, fun hd => ?_⟩
  · rintro m hm rfl
    exact h.1.1.1 hm
  · have hgap := h.1.1.2.resolve_left (by rcases hd with rfl | rfl | rfl <;> decide)
    cases cs with
    | nil => simp at hgap
    | cons e ds => exact ⟨e, ds, rfl, by simpa using hgap⟩

theorem PlainSpelling.startsPlain {d : Char} (h : PlainSpelling column (d :: cs) xs) (hd : d ≠ ' ')
    (hmark : hasLeadingMark (d :: cs) = false) (rest : List Char) :
    startsPlain false d ((xs.tail ++ rest).headD endMark) = true := by
  have hgap := (h.head hd).1
  obtain ⟨hmarks, hnext⟩ := hasLeadingMark_cons hmark
  simp only [Scan.startsPlain, String.contains_char_eq]
  by_cases hword : d = '?' ∨ d = ':' ∨ d = '-'
  · obtain ⟨e, ds, rfl, he⟩ := hnext hword
    have hnext : (xs.tail ++ rest).headD endMark = e := by
      generalize hcs : d :: e :: ds = cs at h
      cases h with
      | last => simp at hcs
      | char _ _ _ hspelling =>
        obtain ⟨rfl, rfl, rfl⟩ := by simpa using hcs
        obtain ⟨ys, rfl⟩ := (hspelling.head (ne_of_not_isGap he (by decide))).2
        rfl
      | spaces => exact absurd (List.cons.inj hcs).1 hd
      | fold => exact absurd (List.cons.inj hcs).1 hd
    rw [hnext, he]
    rcases hword with rfl | rfl | rfl <;> simp
  · have hother : ∀ m ∈ "-?:,[]\x7b\x7d#&*!|>'\"%@`".toList, d ≠ m := by
      simp at hmarks hword ⊢
      tauto
    have hnone : d ∉ "-?:,[]\x7b\x7d#&*!|>'\"%@`".toList := fun hm => hother d hm rfl
    rw [hgap, decide_eq_false hnone]
    rfl

/-- A token that may be a key, at a place where the block is not left. -/
theorem keyLike_leads {c : Char} {x : Scan Token} {t : Token} {m : Nat} {a : Bool}
    (hs : s.ahead = c :: cs) (hc : isGap c = false ∧ c ≠ '#') (hflow : s.flow = 0)
    (hpending : s.pending = []) (hindent : 0 ≤ s.indent ∧ s.indent < s.column)
    (htoken : tokenOf room false c (cs.headD endMark) = keyLike x)
    (hx : x (s.later 0 false (pendingAt s) []) = .ok (t, s.later (m + 1) a (pendingAt s) [])) :
    Leads room s (s.later (m + 1) a (pendingAt s) [t]) := by
  have hstarts : Starts s.ahead := by simpa [hs, Starts] using hc
  refine Leads.of_token ?_ ?_
  · rw [nextToken_here hstarts (by simp [hpending]) (by omega),
      tokenHere_of_cons hs (.inl (by omega)), hflow, bne_self_eq_false, htoken, bind_apply,
      keyLike_apply hflow hpending hx, emit_later]
    rfl
  · simp [Source.later, hs]

/-- In the next line nothing waits for a colon any more. -/
theorem line_leads {m : Nat} {ts : List Token} (hs : s.ahead = xs ++ (lineStart n ++ rest))
    (hrest : Starts rest) (hm : m = xs.length + (1 + n)) (hindent : s.indent < s.column) :
    Leads room (s.later m true (pendingAt s) ts) (s.later m true [] ts) := by
  have hline : s.line < (stepBy m s).line := by
    rw [hm, ← Nat.add_assoc]
    exact line_lt_stepBy hs n
  have hahead : (stepBy m s).ahead = rest := by
    have h : s.ahead = (xs ++ lineStart n) ++ rest := by simpa using hs
    exact ahead_after _ h (by simp [lineStart, hm]; omega)
  have hstarts : Starts (s.later m true (pendingAt s) ts).ahead := by
    rw [← hahead] at hrest
    exact hrest
  refine Leads.of_eq (nextToken_old hstarts ?_) le_rfl
  intro p hp
  simp only [Source.later, pendingAt] at hp
  split at hp
  · obtain rfl := List.mem_singleton.mp hp
    have hcolumn : s.indent ≠ s.column := by omega
    exact ⟨hline.ne, beq_eq_false_iff_ne.mpr hcolumn⟩
  · simp at hp

/-- The place behind the mark of a block at a column, where a value is read. -/
structure AtValue (room column : Nat) (s : Source) : Prop where
  flow : s.flow = 0
  pending : s.pending = []
  indent : s.indent = column
  place : column < s.column
  room : s.ahead.length ≤ room

theorem AtValue.space (h : AtValue room column s) (hs : s.ahead = ' ' :: xs) :
    AtValue room column (stepBy 1 s) := by
  have hplace := (step_of_inline hs (by decide)).2.1
  have hcolumn := h.place
  have hroom := h.room
  refine ⟨by simpa using h.flow, by simpa using h.pending, by simpa using h.indent, ?_, ?_⟩
  · change column < (step s).column
    omega
  · simp only [ahead_stepBy, List.length_drop]
    omega

theorem space_leads {t : Source} (hs : s.ahead = ' ' :: xs) (hxs : Starts xs)
    (h : Leads room (stepBy 1 s) t) : Leads room s t := by
  have hspaces : s.ahead = List.replicate 1 ' ' ++ xs := hs
  refine Leads.trans (Leads.of_eq (nextToken_spaces hspaces hxs) ?_) h
  simp [ahead_stepBy]

theorem plain_leads {indented : Nat} (h : PlainSpelling indented cs xs) (hcs : BareText cs)
    (hindented : column < indented) (hv : AtValue room column s)
    (hs : s.ahead = xs ++ (lineStart n ++ rest)) (hrest : Starts rest) (hn : n ≤ column) :
    Leads room s (s.later (xs.length + (1 + n)) true [] [.scalar cs true true]) := by
  obtain ⟨d, ds, rfl⟩ := List.exists_cons_of_ne_nil hcs.nonempty
  have hd : d ≠ ' ' := by simpa using hcs.head
  have hcomment : d ≠ '#' := (hasLeadingMark_cons hcs.unmarked).1 '#' (by decide)
  have hindent := hv.indent
  have hplace := hv.place
  obtain ⟨hgap, ys, rfl⟩ := h.head hd
  have htoken := tokenOf_plain room (h.startsPlain hd hcs.unmarked (lineStart n ++ rest))
  have hread : plainText room (s.later 0 false (pendingAt s) []) = _ :=
    h.plainText_line hd hcomment hv.flow hs (fun c hc => (hrest c hc).1)
      (by simpa [Source.later, hindent] using hn)
      (by simpa [Source.later, hindent, stepBy] using hplace)
      (by simpa [Source.later, hindent] using hindented) hv.room
  have hlength : (d :: ys).length + (1 + n) = ys.length + (1 + n) + 1 := by
    rw [List.length_cons]
    omega
  rw [stepBy_later, allow_later, Nat.zero_add, hlength] at hread
  rw [hlength]
  exact (keyLike_leads hs ⟨hgap, hcomment⟩ hv.flow hv.pending (by omega) htoken hread).trans
    (line_leads hs hrest hlength.symm (by omega))

/-- Between quotes stands a text of one token, and the line ends behind it. -/
theorem quoted_leads {q : Char} {double : Bool} (hv : AtValue room column s)
    (hs : s.ahead = q :: xs ++ q :: (lineStart n ++ rest)) (hrest : Starts rest)
    (hq : isGap q = false ∧ q ≠ '#')
    (htoken : ∀ next, tokenOf room false q next = keyLike (quotedText room double))
    (hread : quotedText room double (s.later 0 false (pendingAt s) []) =
      .ok (.scalar cs false true,
        stepBy (xs.length + 2) (s.later 0 false (pendingAt s) []))) :
    Leads room s (s.later ((q :: xs ++ [q]).length + (1 + n)) true [] [.scalar cs false true]) := by
  have hindent := hv.indent
  have hplace := hv.place
  have hs' : s.ahead = (q :: xs ++ [q]) ++ (lineStart n ++ rest) := by simpa using hs
  have hlength : (q :: xs ++ [q]).length = xs.length + 1 + 1 := by simp
  rw [stepBy_later, Nat.zero_add] at hread
  have hleads := keyLike_leads hs hq hv.flow hv.pending (by omega) (htoken _) hread
  rw [← hlength] at hleads
  have hahead : (s.later (q :: xs ++ [q]).length false (pendingAt s)
      [.scalar cs false true]).ahead = lineStart n ++ rest := ahead_stepBy_append hs'
  have hroom := hv.room
  rw [hs'] at hroom
  simp only [List.length_append, List.length_cons, lineStart] at hroom
  refine (hleads.trans (Leads.of_eq
    (nextToken_line hahead hrest hv.flow (by omega)) ?_)).trans ?_
  · simp
  · rw [stepBy_later, allow_later]
    exact line_leads hs' hrest rfl (by omega)

theorem later_space (m : Nat) (s : Source) (ts : List Token) :
    (stepBy 1 s).later (m + (1 + n)) true [] ts = s.later (m + 1 + (1 + n)) true [] ts := by
  rw [← later_of_stepBy 1 s, later_later, Nat.add_right_comm m, Nat.add_comm _ 1]
  rfl

theorem Spelled.leads (h : Spelled (column + 2) cs xs) (hv : AtValue room column s)
    (hs : s.ahead = ' ' :: xs ++ (lineStart n ++ rest)) (hrest : Starts rest) (hn : n ≤ column) :
    Leads room s (s.later ((' ' :: xs).length + (1 + n)) true []
      [.scalar (reread cs) (styleOf cs == .plain) true]) := by
  have hahead : (stepBy 1 s).ahead = xs ++ (lineStart n ++ rest) := ahead_after [' '] hs rfl
  have hv' := hv.space hs
  have hroom := hv'.room
  rw [List.length_cons, ← later_space]
  unfold Spelled at h
  cases hstyle : styleOf cs with
  | plain =>
    rw [hstyle] at h
    have hcs := bareText_of_style hstyle
    obtain ⟨d, ds, rfl⟩ := List.exists_cons_of_ne_nil hcs.nonempty
    obtain ⟨hgap, ys, rfl⟩ := h.head (by simpa using hcs.head)
    have hcomment := (hasLeadingMark_cons hcs.unmarked).1 '#' (by decide)
    have hreread : reread (d :: ds) = d :: ds := by rw [reread, hstyle]
    rw [hreread]
    exact space_leads hs (by simpa [Starts] using ⟨hgap, hcomment⟩)
      (plain_leads h hcs (by omega) hv' hahead hrest hn)
  | single =>
    rw [hstyle] at h
    obtain ⟨ys, rfl, hys⟩ := h
    have hquote : (stepBy 1 s).ahead = '\'' :: ys ++ '\'' :: (lineStart n ++ rest) := by
      simpa using hahead
    exact space_leads hs (by simpa [Starts] using by decide) (quoted_leads hv' hquote hrest
      (by decide) (fun _ => rfl) (hys.quotedText (by omega) hquote (by simp [lineStart]) hroom))
  | double =>
    rw [hstyle] at h
    obtain ⟨ys, rfl, hys⟩ := h
    have hquote : (stepBy 1 s).ahead = '"' :: ys ++ '"' :: (lineStart n ++ rest) := by
      simpa using hahead
    have hreread : reread cs = cs := by rw [reread, hstyle]
    rw [hreread]
    exact space_leads hs (by simpa [Starts] using by decide) (quoted_leads hv' hquote hrest
      (by decide) (fun _ => rfl) (hys.quotedText (by omega) hquote hroom))

theorem BareText.leads (hcs : BareText cs) (h : PlainSpelling (column + 2) cs xs)
    (hv : AtValue room column s) (hs : s.ahead = ' ' :: xs ++ (lineStart n ++ rest))
    (hrest : Starts rest) (hn : n ≤ column) :
    Leads room s (s.later ((' ' :: xs).length + (1 + n)) true [] [.scalar cs true true]) := by
  have hahead : (stepBy 1 s).ahead = xs ++ (lineStart n ++ rest) := ahead_after [' '] hs rfl
  obtain ⟨d, ds, rfl⟩ := List.exists_cons_of_ne_nil hcs.nonempty
  obtain ⟨hgap, ys, rfl⟩ := h.head (by simpa using hcs.head)
  have hcomment := (hasLeadingMark_cons hcs.unmarked).1 '#' (by decide)
  rw [List.length_cons, ← later_space]
  exact space_leads hs (by simpa [Starts] using ⟨hgap, hcomment⟩)
    (plain_leads h hcs (by omega) (hv.space hs) hahead hrest hn)

def bracketed (s : Source) : Source := { s with flow := s.flow + 1 }

theorem openBracket_apply (t : Token) (hpending : s.pending = [])
    (hallowed : s.keyAllowed = false) :
    openBracket t s = .ok ((), (bracketed s).later 1 true [] [t]) := by
  have hsave : saveKey s = .ok ((), s) := by
    rw [saveKey, bind_of_eq (get_apply s), hallowed, if_neg (by simp)]
    rfl
  have hallow : allowKey true (bracketed s) = .ok ((), (bracketed s).later 0 true [] []) := by
    rw [← hpending]
    rfl
  have hbracket : (modify fun s => { s with flow := s.flow + 1 } : Scan Unit) s =
    .ok ((), bracketed s) := rfl
  rw [openBracket, bind_of_eq hsave, bind_of_eq hbracket, bind_of_eq hallow, mark,
    bind_of_eq (forward_apply 1 _), stepBy_later, emit_later]
  rfl

theorem closeBracket_apply (t : Token) (ts : List Token) :
    closeBracket t ((bracketed s).later n true [] ts) =
      .ok ((), s.later (n + 1) false [] (ts ++ [t])) := by
  have hdrop : dropKey ((bracketed s).later n true [] ts) =
    .ok ((), (bracketed s).later n true [] ts) := rfl
  have hbracket : (modify fun s => { s with flow := s.flow - 1 } : Scan Unit)
      ((bracketed s).later n true [] ts) = .ok ((), s.later n true [] ts) := by
    rw [modify_apply, Source.later, bracketed, stepBy_update]
    rfl
  have hallow : allowKey false (s.later n true [] ts) = .ok ((), s.later n false [] ts) := rfl
  rw [closeBracket, bind_of_eq hdrop, bind_of_eq hbracket, bind_of_eq hallow, mark,
    bind_of_eq (forward_apply 1 _), stepBy_later, emit_later]

theorem brackets_leads {a b : Char} {x y : Token} (hv : AtValue room column s)
    (hallowed : s.keyAllowed = false) (hs : s.ahead = a :: b :: (lineStart n ++ rest))
    (hrest : Starts rest) (ha : isGap a = false ∧ a ≠ '#') (hinline : isInline a = true)
    (hb : isGap b = false ∧ b ≠ '#')
    (hopen : ∀ next, tokenOf room false a next = openBracket x)
    (hclose : ∀ next, tokenOf room true b next = closeBracket y) :
    Leads room s (s.later (2 + (1 + n)) true [] [x, y]) := by
  have hindent := hv.indent
  have hplace := hv.place
  have hstarts : Starts s.ahead := by simpa [hs, Starts] using ha
  have hinner : ((bracketed s).later 1 true [] [x]).ahead = b :: (lineStart n ++ rest) :=
    ahead_after [a] hs rfl
  have hcolumn : ((bracketed s).later 1 true [] [x]).column = s.column + 1 :=
    (step_of_inline (s := bracketed s) hs hinline).2.1
  have hopened : Leads room s ((bracketed s).later 1 true [] [x]) := by
    refine Leads.of_token ?_ (by simp [hinner, hs])
    rw [nextToken_here hstarts (by simp [hv.pending]) (by omega),
      tokenHere_of_cons hs (.inl (by omega)), hv.flow, bne_self_eq_false, hopen,
      bind_of_eq (openBracket_apply x hv.pending hallowed)]
    rfl
  have hline : (s.later 2 false [] [x, y]).ahead = lineStart n ++ rest := ahead_after [a, b] hs rfl
  have hclosed : Leads room ((bracketed s).later 1 true [] [x]) (s.later 2 false [] [x, y]) := by
    have hindent' : ((bracketed s).later 1 true [] [x]).indent = s.indent := rfl
    refine Leads.of_token ?_ (by simp [hinner, hline])
    rw [nextToken_here (by simpa [hinner, Starts] using hb) (by simp [Source.later]) (by omega),
      tokenHere_of_cons hinner (.inl (by omega))]
    have hflow : (((bracketed s).later 1 true [] [x]).flow != 0) = true := by
      simp [Source.later, bracketed]
    rw [hflow, hclose, bind_of_eq (closeBracket_apply y [x])]
    rfl
  refine hopened.trans (hclosed.trans (Leads.of_eq ?_ ?_))
  · have hroom := hv.room
    rw [hs] at hroom
    rw [nextToken_line hline hrest hv.flow (by simp at hroom; omega), stepBy_later, allow_later]
  · simp only [Source.later, ahead_stepBy, List.length_drop]
    omega

/-- Behind a key of a block at a column, some characters read as some tokens, and reading goes on
in the next line, which begins no further right than the block. -/
def Reads (column : Nat) (xs : List Char) (ts : List Token) : Prop :=
  ∀ ⦃room n : Nat⦄ ⦃s : Source⦄ ⦃rest : List Char⦄, AtValue room column s → s.keyAllowed = false →
    s.ahead = xs ++ (lineStart n ++ rest) → Starts rest → n ≤ column →
    Leads room s (s.later (xs.length + (1 + n)) true [] ts)

structure AtEntry (room column : Nat) (s : Source) : Prop where
  flow : s.flow = 0
  pending : s.pending = []
  indent : s.indent ≤ column
  place : s.column = column
  allowed : s.keyAllowed = true
  room : s.ahead.length ≤ room

/-- Some characters read as the tokens of lines of a block at a column, if the current block
begins at `least` or further right. -/
def ReadsLines (least : Int) (column : Nat) (xs : List Char) (ts : List Token) : Prop :=
  ∀ ⦃room n : Nat⦄ ⦃s : Source⦄ ⦃rest : List Char⦄, AtEntry room column s → least ≤ s.indent →
    s.ahead = xs ++ (lineStart n ++ rest) → Starts rest → n ≤ column →
    Leads room s ((inMapping s).later (xs.length + (1 + n)) true [] ts)

def Begins (xs : List Char) : Prop := ∃ c ys, xs = c :: ys ∧ isGap c = false ∧ c ≠ '#'

theorem Begins.starts (h : Begins xs) (rest : List Char) : Starts (xs ++ rest) := by
  obtain ⟨c, ys, rfl, hc⟩ := h
  simpa [Starts] using hc

theorem inMapping_of_eq (h : s.indent = s.column) : inMapping s = s := by
  rw [inMapping, if_neg (by omega)]

theorem ahead_inMapping (s : Source) : (inMapping s).ahead = s.ahead := by
  unfold inMapping
  split <;> rfl

theorem AtEntry.opens (h : AtEntry room column s) :
    (inMapping s).flow = 0 ∧ (inMapping s).indent = column := by
  have hindent := h.indent
  have hplace := h.place
  unfold inMapping
  split
  · exact ⟨h.flow, by rw [← hplace]; rfl⟩
  · exact ⟨h.flow, by omega⟩

theorem place_inMapping (m : Nat) (s : Source) :
    (stepBy m (inMapping s)).column = (stepBy m s).column := by
  unfold inMapping
  split
  · rw [stepBy_later, later_opened]
    simp [Source.later, Source.opened]
  · rfl

theorem AtEntry.next (ts : List Token) (h : AtEntry room column s)
    (hs : s.ahead = xs ++ (lineStart column ++ rest)) :
    AtEntry room column ((inMapping s).later (xs.length + (1 + column)) true [] ts) ∧
      ((inMapping s).later (xs.length + (1 + column)) true [] ts).ahead = rest ∧
      ((inMapping s).later (xs.length + (1 + column)) true [] ts).indent = column := by
  obtain ⟨hflow, hindent⟩ := h.opens
  have hahead : (stepBy (xs.length + (1 + column)) (inMapping s)).ahead = rest := by
    have h : (inMapping s).ahead = (xs ++ lineStart column) ++ rest := by
      rw [ahead_inMapping]
      simpa using hs
    exact ahead_after _ h (by simp [lineStart]; omega)
  have hroom := h.room
  rw [hs] at hroom
  simp only [List.length_append] at hroom
  refine ⟨⟨hflow, rfl, hindent.le, ?_, rfl, ?_⟩, hahead, hindent⟩
  · change (stepBy _ (inMapping s)).column = column
    rw [place_inMapping, ← Nat.add_assoc]
    exact column_stepBy_line xs hs
  · change (stepBy _ (inMapping s)).ahead.length ≤ room
    rw [hahead]
    omega

theorem ReadsLines.append {least : Int} {ys : List Char} {ts us : List Token}
    (h : ReadsLines least column xs ts) (h' : ReadsLines column column ys us) (hys : Begins ys) :
    ReadsLines least column (xs ++ lineStart column ++ ys) (ts ++ us) := by
  intro room n s rest hs hleast hahead hrest hn
  have hahead' : s.ahead = xs ++ (lineStart column ++ (ys ++ (lineStart n ++ rest))) := by
    simpa using hahead
  have hfirst := h hs hleast hahead' (hys.starts _) le_rfl
  obtain ⟨hnext, hnext', hindent⟩ := hs.next ts hahead'
  have hsecond := h' hnext hindent.ge hnext' hrest hn
  rw [inMapping_of_eq (hindent.trans (by rw [hnext.place])), later_later] at hsecond
  have hlength : (xs ++ lineStart column ++ ys).length + (1 + n) =
      xs.length + (1 + column) + (ys.length + (1 + n)) := by
    simp [lineStart]
    omega
  rw [hlength]
  exact hfirst.trans hsecond

theorem AtEntry.value {zs : List Char} (ts : List Token) (a : Bool) (h : AtEntry room column s)
    (hs : s.ahead = zs ++ rest) (hzs : ∀ c ∈ zs, isInline c = true) (hne : zs ≠ []) :
    AtValue room column ((inMapping s).later zs.length a [] ts) ∧
      ((inMapping s).later zs.length a [] ts).ahead = rest := by
  obtain ⟨hflow, hindent⟩ := h.opens
  have hahead : (stepBy zs.length (inMapping s)).ahead = rest := by
    rw [← ahead_inMapping] at hs
    exact ahead_stepBy_append hs
  have hplace := (stepBy_of_inline hs hzs).2.1
  have hlength := List.length_pos_iff.mpr hne
  have hcolumn := h.place
  have hroom := h.room
  rw [hs] at hroom
  simp only [List.length_append] at hroom
  refine ⟨⟨hflow, rfl, hindent, ?_, ?_⟩, hahead⟩
  · change column < (stepBy zs.length (inMapping s)).column
    rw [place_inMapping]
    omega
  · change (stepBy _ (inMapping s)).ahead.length ≤ room
    rw [hahead]
    omega

theorem ReadsLines.entry (least : Int) {k : List Char} {ts : List Token} (hk : IsName k)
    (hxs : ∃ c ys, xs = c :: ys ∧ isGap c = true) (h : Reads column xs ts) :
    ReadsLines least column (k ++ ':' :: xs) (.key :: .scalar k true true :: .value :: ts) := by
  intro room n s rest hs _ hahead hrest hn
  obtain ⟨c, ys, rfl, hc⟩ := hxs
  have hindent := hs.indent
  have hplace := hs.place
  have hahead' : s.ahead = k ++ ':' :: c :: (ys ++ (lineStart n ++ rest)) := by simpa using hahead
  have hkey : Leads room s (keyed s k) :=
    key_leads hk hs.flow hs.pending hs.allowed hahead' hc (by omega)
  have hmark : s.ahead = (k ++ [':']) ++ (c :: ys ++ (lineStart n ++ rest)) := by simpa using hahead
  have hinline : ∀ d ∈ k ++ [':'], isInline d = true := by
    intro d hd
    rcases List.mem_append.mp hd with hd | hd
    · exact isInline_of_letter (hk.letters d hd)
    · obtain rfl := List.mem_singleton.mp hd
      decide
  obtain ⟨hvalue, hvalue'⟩ := hs.value [.key, .scalar k true true, .value] false
    hmark hinline (by simp)
  have hrec := h hvalue rfl hvalue' hrest hn
  have hlength : (k ++ ':' :: c :: ys).length + (1 + n) =
      (k ++ [':']).length + ((c :: ys).length + (1 + n)) := by
    simp
    omega
  rw [later_later, ← hlength] at hrec
  rw [keyed, show k.length + 1 = (k ++ [':']).length by simp] at hkey
  exact hkey.trans hrec

theorem ReadsLines.item (h : Spelled (column + 2) cs xs) :
    ReadsLines column column ('-' :: ' ' :: xs)
      [.entry, .scalar (reread cs) (styleOf cs == .plain) true] := by
  intro room n s rest hs hleast hahead hrest hn
  have hindent : s.indent = s.column := by
    have := hs.indent
    have := hs.place
    omega
  have hentry : Leads room s _ :=
    entry_leads hahead hs.flow hs.pending hs.allowed hindent
  have hmark : s.ahead = ['-'] ++ (' ' :: xs ++ (lineStart n ++ rest)) := hahead
  obtain ⟨hvalue, hvalue'⟩ := hs.value [.entry] true hmark
    (by simpa using by decide) (by simp)
  rw [inMapping_of_eq hindent, List.length_singleton] at hvalue hvalue'
  have hrec := h.leads hvalue hvalue' hrest hn
  rw [later_later, show 1 + ((' ' :: xs).length + (1 + n)) = ('-' :: ' ' :: xs).length + (1 + n) by
    simp; omega] at hrec
  rw [inMapping_of_eq hindent]
  exact hentry.trans hrec

theorem Reads.text (h : Spelled (column + 2) cs xs) :
    Reads column (' ' :: xs) [.scalar (reread cs) (styleOf cs == .plain) true] :=
  fun _ _ _ _ hv _ hs hrest hn => h.leads hv hs hrest hn

theorem Reads.bare (hcs : BareText cs) (h : PlainSpelling (column + 2) cs xs) :
    Reads column (' ' :: xs) [.scalar cs true true] :=
  fun _ _ _ _ hv _ hs hrest hn => hcs.leads h hv hs hrest hn

theorem Reads.brackets {a b : Char} {x y : Token} (ha : isGap a = false ∧ a ≠ '#')
    (hinline : isInline a = true) (hb : isGap b = false ∧ b ≠ '#')
    (hopen : ∀ room next, tokenOf room false a next = openBracket x)
    (hclose : ∀ room next, tokenOf room true b next = closeBracket y) :
    Reads column [' ', a, b] [x, y] := by
  intro room n s rest hv hallowed hs hrest hn
  have hahead : (stepBy 1 s).ahead = a :: b :: (lineStart n ++ rest) := ahead_after [' '] hs rfl
  have hbrackets := brackets_leads (hv.space hs) (by simpa using hallowed) hahead hrest ha hinline
    hb (hopen room) (hclose room)
  rw [later_space] at hbrackets
  exact space_leads hs (by simpa [Starts] using ha) hbrackets

/-- The next line, where the entries of a value begin. -/
theorem AtValue.line {indented : Nat} (h : AtValue room column s)
    (hs : s.ahead = lineStart indented ++ rest) (hrest : Starts rest)
    (hcolumn : column ≤ indented) :
    AtEntry room indented (s.later (1 + indented) true [] []) ∧
      (s.later (1 + indented) true [] []).ahead = rest ∧
      Leads room s (s.later (1 + indented) true [] []) := by
  have hindent := h.indent
  have hroom := h.room
  have hahead : (s.later (1 + indented) true [] []).ahead = rest :=
    ahead_after _ hs (by simp [lineStart]; omega)
  have hplace : (s.later (1 + indented) true [] []).column = indented := by
    have h := column_stepBy_line (s := s) [] hs
    rwa [List.length_nil, Nat.zero_add] at h
  rw [hs] at hroom
  simp only [List.length_append, List.length_cons, lineStart] at hroom
  refine ⟨⟨h.flow, rfl, ?_, hplace, rfl, by rw [hahead]; omega⟩, hahead,
    Leads.of_eq ?_ (by simp [Source.later])⟩
  · change s.indent ≤ indented
    omega
  · rw [nextToken_line hs hrest h.flow (by omega), ← later_of_stepBy, allow_later, h.pending]

theorem later_line {indented : Nat} (s : Source) (ts : List Token) :
    (s.later (1 + indented) true [] []).later (xs.length + (1 + n)) true [] ts =
      s.later ((lineStart indented ++ xs).length + (1 + n)) true [] ts := by
  rw [later_later, List.nil_append]
  congr 1
  simp [lineStart]
  omega

theorem Reads.items {ts : List Token} (h : ReadsLines column column xs ts) (hxs : Begins xs) :
    Reads column (lineStart column ++ xs) ts := by
  intro room n s rest hv hallowed hs hrest hn
  have hs' : s.ahead = lineStart column ++ (xs ++ (lineStart n ++ rest)) := by simpa using hs
  obtain ⟨hentry, hahead, hline⟩ := hv.line hs' (hxs.starts _) le_rfl
  have hlines := h hentry hv.indent.ge hahead hrest hn
  have hindent : (s.later (1 + column) true [] []).indent = column := hv.indent
  rw [inMapping_of_eq (hindent.trans (by rw [hentry.place])), later_line] at hlines
  exact hline.trans hlines

theorem Reads.mapping {indented : Nat} {ts : List Token} (h : ReadsLines (-1) indented xs ts)
    (hxs : Begins xs) (hcolumn : column < indented) :
    Reads column (lineStart indented ++ xs) (.blockMapping :: ts ++ [.blockEnd]) := by
  intro room n s rest hv hallowed hs hrest hn
  have hs' : s.ahead = lineStart indented ++ (xs ++ (lineStart n ++ rest)) := by simpa using hs
  obtain ⟨hentry, hahead, hline⟩ := hv.line hs' (hxs.starts _) hcolumn.le
  have hindent : (s.later (1 + indented) true [] []).indent = column := hv.indent
  have hlines := h hentry (by omega) hahead hrest (by omega)
  have hplace := hentry.place
  have hplace' : (stepBy (xs.length + (1 + n)) (s.later (1 + indented) true [] [])).column = n := by
    rw [← Nat.add_assoc]
    exact column_stepBy_line xs hahead
  have hahead' :
      (stepBy (xs.length + (1 + n)) (s.later (1 + indented) true [] [])).ahead = rest := by
    have h : (s.later (1 + indented) true [] []).ahead = (xs ++ lineStart n) ++ rest := by
      simpa using hahead
    exact ahead_after _ h (by simp [lineStart]; omega)
  have hclose := @nextToken_close room (xs.length + (1 + n)) (s.later (1 + indented) true [] [])
    indented (.blockMapping :: ts) hv.flow (by rw [hahead']; exact hrest) (by omega)
  have hopens : inMapping (s.later (1 + indented) true [] []) =
      ((s.later (1 + indented) true [] []).opened indented).later 0 true [] [.blockMapping] := by
    rw [inMapping, if_pos (by omega), hplace]
    rfl
  rw [hopens, later_later, Nat.zero_add] at hlines
  rw [← later_line]
  refine hline.trans (hlines.trans (Leads.of_eq hclose (Nat.le_of_eq ?_)))
  rw [later_opened]
  rfl

end OrderSheet.Yaml
