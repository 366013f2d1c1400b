import Mathlib
import OrderSheet.Regex.Parser
import OrderSheet.Settings

/-!
# Reading item by item

What the reader of a pattern makes of the tokens at its front: a character, a class, a test of the
position, a repetition of the latest item, a capture group, or the end of the sequence.
-/

namespace OrderSheet.Regex

def classOf (k : Category) (negated : Bool) : Single :=
  .set .exact false [.category k negated false]

def amountChar : Single :=
  .set .exact false [.category .digit false false, .code '.'.toNat, .code ','.toNat]

namespace Parse

-- With `sequence` in the set its equations are made here. Otherwise the lemmas below, which are
-- checked side by side, all wait for them.
attribute [local simp] bind StateT.bind Except.bind pure StateT.pure Except.pure get getThe
  MonadStateOf.get StateT.get set StateT.set modify modifyGet MonadStateOf.modifyGet
  StateT.modifyGet peek Parse.advance accept next tell isSpecial sequence

@[simp] theorem checkAhead_nil : checkAhead [] = .ok () := rfl

@[simp] theorem checkAhead_plain (p : Nat) (c : Char) (ts : List Token) :
    checkAhead (⟨p, .plain c⟩ :: ts) = .ok () := rfl

@[simp] theorem checkAhead_escaped (p : Nat) (c : Char) (ts : List Token) :
    checkAhead (⟨p, .escaped c⟩ :: ts) = .ok () := rfl

/-- Tokens that cannot belong to a fragment in front of them. -/
structure Settled (ts : List Token) : Prop where
  readable : checkAhead ts = .ok ()
  not_lazy : ts.head?.map Token.mark ≠ some (.plain '?')
  not_more : ts.head?.map Token.mark ≠ some (.plain '+')

theorem settled_plain {p : Nat} {c : Char} (ts : List Token) (hlazy : c ≠ '?') (hmore : c ≠ '+') :
    Settled (⟨p, .plain c⟩ :: ts) :=
  ⟨rfl, by simpa using hlazy, by simpa using hmore⟩

theorem settled_escaped (p : Nat) (c : Char) (ts : List Token) : Settled (⟨p, .escaped c⟩ :: ts) :=
  ⟨rfl, by simp, by simp⟩

variable {n p q : Nat} {ts : List Token} {items : List Item} {first : Bool} {s : Progress}
  {node : Node} {flags : List Flag}

theorem sequence_category {c : Char} {k : Category} {negated : Bool}
    (hs : s.ahead = ⟨p, .escaped c⟩ :: ts) (hts : checkAhead ts = .ok ())
    (hk : categoryOf? c = some (k, negated)) (ha : anchorOf? false c = none) :
    sequence (n + 1) [] first items s =
      sequence n [] first (⟨.one (classOf k negated), .ordinary⟩ :: items)
        { s with ahead := ts } := by
  simp [hs, hts, escape, hk, ha, itemOf, classOf]

theorem sequence_dot (hs : s.ahead = ⟨p, .plain '.'⟩ :: ts) (hts : checkAhead ts = .ok ()) :
    sequence (n + 1) [] first items s =
      sequence n [] first (⟨.one .inLine, .ordinary⟩ :: items) { s with ahead := ts } := by
  simp [hs, hts, dot]

theorem sequence_amountSet (hs : s.ahead = tokensFrom p ['[', '\\', 'd', '.', ',', ']'] ++ ts)
    (hts : checkAhead ts = .ok ()) :
    sequence (n + 1) [] first items s =
      sequence n [] first (⟨.one amountChar, .ordinary⟩ :: items) { s with ahead := ts } := by
  simp [hs, hts, tokensFrom, setMembers, setMember, setEscape, controlOf?, categoryOf?, casingOf,
    amountChar]

theorem sequence_repeat {c : Char} {count : Count}
    (hs : s.ahead = ⟨p, .plain c⟩ :: ts) (hts : Settled ts) (hc : Count.ofChar? c = some count) :
    sequence (n + 1) [] first (⟨node, .ordinary⟩ :: items) s =
      sequence n [] first (⟨.repeated .greedy count.least count.most node, .repeated⟩ :: items)
        { s with ahead := ts } := by
  unfold Count.ofChar? at hc
  split at hc
  all_goals
    simp_all [hts.readable, hts.not_lazy, hts.not_more, repeatLast, greed, Count.ofChar?]

/-- The bounds of a text column, as few characters as possible first. -/
theorem sequence_textBounds
    (hs : s.ahead = tokensFrom p ['\x7b', '1', ',', '3', '0', '0', '\x7d', '?'] ++ ts)
    (hts : checkAhead ts = .ok ()) :
    sequence (n + 1) [] first (⟨.one .inLine, .ordinary⟩ :: items) s =
      sequence n [] first
        (⟨.run .reluctant 1 (some Settings.maxTextColumn) .inLine, .repeated⟩ :: items)
        { s with ahead := ts } := by
  simp [hs, hts, tokensFrom, bounds?, takeChars, Parse.takeWhile, spanTokens, plainChar?,
    charsOf, Mark.chars, repeatNumber, digitLimit, repeatLimit, numberIn, digitOf, repeatLast,
    greed, Node.repeated, Settings.maxTextColumn]

theorem sequence_end (hs : s.ahead = [] ∨ ∃ rest, s.ahead = ⟨p, .plain ')'⟩ :: rest) :
    sequence (n + 1) flags first items s = .ok (Node.ofReversed (items.map Item.node), s) := by
  rcases hs with hs | ⟨rest, hs⟩ <;> simp [hs]

theorem sequence_plain {c : Char} (hs : s.ahead = ⟨p, .plain c⟩ :: ts)
    (hts : checkAhead ts = .ok ()) (hspecial : isSpecial c = false) (hlayout : isLayout c = false)
    (hcomment : c ≠ '#') :
    sequence (n + 1) flags first items s =
      sequence n flags first (literal flags c.toNat :: items) { s with ahead := ts } := by
  have hbar : c ≠ '|' := by
    rintro rfl
    simp at hspecial
  have hclose : c ≠ ')' := by
    rintro rfl
    simp at hspecial
  rw [sequence]
  simp [-sequence, -isSpecial, hs, hts, hbar, hclose, hlayout, hcomment, hspecial]

theorem sequence_escaped {c : Char} {m : Nat} (hs : s.ahead = ⟨p, .escaped c⟩ :: ts)
    (hts : checkAhead ts = .ok ())
    (hc : ∀ ascii (s : Progress), escape ascii c s = .ok (.code m, s)) :
    sequence (n + 1) flags first items s =
      sequence n flags first (literal flags m :: items) { s with ahead := ts } := by
  simp [hs, hts, hc, itemOf]

theorem sequence_dollar (hs : s.ahead = ⟨p, .plain '$'⟩ :: ts) (hts : checkAhead ts = .ok ()) :
    sequence (n + 1) [] first items s =
      sequence n [] first (⟨.anchor .lastLineEnd, .position⟩ :: items) { s with ahead := ts } := by
  simp [hs, hts, dollar]

theorem sequence_caret (hs : s.ahead = ⟨p, .plain '^'⟩ :: ts) (hts : checkAhead ts = .ok ()) :
    sequence (n + 1) [] first items s =
      sequence n [] first (⟨.anchor .textStart, .position⟩ :: items) { s with ahead := ts } := by
  simp [hs, hts, caret]

theorem sequence_group {m : Mark} {tail : List Token}
    (hs : s.ahead = ⟨p, .plain '('⟩ :: ⟨q, m⟩ :: tail) (hm : m ≠ .plain '?')
    (htail : checkAhead (⟨q, m⟩ :: tail) = .ok ()) (hts : checkAhead ts = .ok ())
    (hgroups : s.widths.length + 1 < groupLimit)
    (hbody : sequence n [] false [] { s with ahead := ⟨q, m⟩ :: tail, widths := none :: s.widths } =
      .ok (node, { s with ahead := ⟨r, .plain ')'⟩ :: ts, widths := none :: s.widths })) :
    ∃ w, sequence (n + 3) [] first items s =
      sequence (n + 2) [] first (⟨.group (s.widths.length + 1) node, .ordinary⟩ :: items)
        { s with ahead := ts, widths := some w :: s.widths } := by
  have hchoice : choice (n + 1) [] false []
      { s with ahead := ⟨q, m⟩ :: tail, widths := none :: s.widths } =
      .ok (node, { s with ahead := ⟨r, .plain ')'⟩ :: ts, widths := none :: s.widths }) := by
    rw [choice]
    simp [hbody, Node.choiceOfReversed]
  rw [sequence]
  -- Only the left side is to be unfolded.
  simp [-sequence, hs, htail, hts, opening, Parse.contents, openGroup, Progress.nextGroup, hm,
    Nat.not_le.mpr hgroups, hchoice, close, closeGroup, widthOf, Progress.closeGroup]
  exact ⟨_, rfl⟩

end Parse

end OrderSheet.Regex
