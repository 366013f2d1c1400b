import Mathlib.Data.List.Forall2
import OrderSheet.Proofs.Regex.Chains
import OrderSheet.Proofs.Regex.Items
import OrderSheet.Proofs.Text.Casing

/-!
# Texts as patterns

The pattern for a text that is meant literally reads as one character after the other, whatever the
text contains. So it is never refused, has no groups, and is found in a text exactly where a part
agrees with it, character by character.
-/

namespace OrderSheet.Regex

variable {c : Char} {cs ds : List Char} {n p : Nat}

theorem verbatimChar_of_mem (h : c ∈ marks) : verbatimChar c = ['\\', c] :=
  if_pos (List.contains_iff_mem.mpr h)

theorem verbatimChar_of_not_mem (h : c ∉ marks) : verbatimChar c = [c] :=
  if_neg (by simpa using h)

theorem tokensFrom_plain (h : c ≠ '\\') (p : Nat) (cs : List Char) :
    tokensFrom p (c :: cs) = ⟨p, .plain c⟩ :: tokensFrom (p + 1) cs := by
  simp [tokensFrom, h]

theorem tokensFrom_verbatimChar (p : Nat) (c : Char) (cs : List Char) :
    ∃ q, tokensFrom p (verbatimChar c ++ cs) =
      ⟨p, if c ∈ marks then .escaped c else .plain c⟩ :: tokensFrom q cs := by
  by_cases h : c ∈ marks
  · rw [verbatimChar_of_mem h, if_pos h]
    exact ⟨p + 2, rfl⟩
  · have hbackslash : c ≠ '\\' := by
      rintro rfl
      exact h (by decide)
    rw [verbatimChar_of_not_mem h, if_neg h]
    exact ⟨p + 1, tokensFrom_plain hbackslash p cs⟩

theorem length_tokensFrom_verbatim (p : Nat) (cs : List Char) :
    (tokensFrom p (cs.flatMap verbatimChar)).length = cs.length := by
  induction cs generalizing p with
  | nil => rfl
  | cons c cs ih =>
    obtain ⟨q, hq⟩ := tokensFrom_verbatimChar p c (cs.flatMap verbatimChar)
    rw [List.flatMap_cons, hq, List.length_cons, ih, List.length_cons]

namespace Parse

/-- The pattern for a text has no backslash at its end. -/
theorem checkAhead_verbatim (p : Nat) (cs : List Char) :
    checkAhead (tokensFrom p (cs.flatMap verbatimChar)) = .ok () := by
  cases cs with
  | nil => rfl
  | cons c cs =>
    obtain ⟨q, hq⟩ := tokensFrom_verbatimChar p c (cs.flatMap verbatimChar)
    rw [List.flatMap_cons, hq]
    split <;> rfl

/-- Behind a backslash the marks stand for themselves. -/
theorem escape_mark (h : c ∈ marks) (ascii : Bool) (s : Progress) :
    escape ascii c s = .ok (.code c.toNat, s) := by
  revert c
  simp only [marks, List.forall_mem_cons]
  exact ⟨rfl, rfl, rfl, rfl, rfl, rfl, rfl, rfl, rfl, rfl, rfl, rfl, rfl, rfl, rfl, rfl, rfl, rfl,
    rfl, rfl, rfl, rfl, rfl, rfl, nofun⟩

/-- Characters that need no backslash have no meaning of their own, not even in a pattern with
layout and comments. -/
theorem ordinary_of_not_mem (h : c ∉ marks) :
    isSpecial c = false ∧ isLayout c = false ∧ c ≠ '#' := by
  have hblank : ∀ n < 14, 9 ≤ n → Char.ofNat n ∈ marks := by decide
  refine ⟨?_, ?_, fun heq => h (heq ▸ by decide)⟩
  · simp only [marks, List.mem_cons, List.not_mem_nil, or_false, not_or] at h
    simp [isSpecial, h]
  · rw [isLayout, Text.isAsciiBlank, Bool.or_eq_false_iff]
    refine ⟨beq_false_of_ne fun heq => h (heq ▸ by decide), ?_⟩
    by_contra hlayout
    simp only [Bool.not_eq_false, Bool.and_eq_true, decide_eq_true_eq] at hlayout
    refine h ?_
    rw [← Char.ofNat_toNat c]
    exact hblank c.toNat (Nat.lt_succ_of_le hlayout.2) hlayout.1

variable {flags : List Flag} {first : Bool} {items : List Item} {s : Progress}

theorem sequence_verbatimChar (c : Char) {ts : List Token}
    (hs : s.ahead = ⟨p, if c ∈ marks then .escaped c else .plain c⟩ :: ts)
    (hts : checkAhead ts = .ok ()) :
    sequence (n + 1) flags first items s =
      sequence n flags first (literal flags c.toNat :: items) { s with ahead := ts } := by
  by_cases h : c ∈ marks
  · rw [if_pos h] at hs
    exact sequence_escaped hs hts (escape_mark h)
  · rw [if_neg h] at hs
    obtain ⟨hspecial, hlayout, hcomment⟩ := ordinary_of_not_mem h
    exact sequence_plain hs hts hspecial hlayout hcomment

theorem sequence_verbatim (hn : cs.length < n)
    (hs : s.ahead = tokensFrom p (cs.flatMap verbatimChar)) :
    sequence n flags first items s = .ok (Node.ofReversed
      ((cs.map fun c => (literal flags c.toNat).node).reverse ++ items.map Item.node),
        { s with ahead := [] }) := by
  induction cs generalizing n p items s with
  | nil =>
    obtain ⟨n, rfl⟩ := Nat.exists_eq_add_of_le' (Nat.one_le_of_lt hn)
    have hend : { s with ahead := [] } = s := by
      rw [← show s.ahead = [] from hs]
    rw [sequence_end (p := 0) (.inl hs), hend]
    simp
  | cons c cs ih =>
    obtain ⟨n, rfl⟩ := Nat.exists_eq_add_of_le' (Nat.one_le_of_lt hn)
    obtain ⟨q, hq⟩ := tokensFrom_verbatimChar p c (cs.flatMap verbatimChar)
    rw [List.flatMap_cons, hq] at hs
    rw [sequence_verbatimChar c hs (checkAhead_verbatim q cs),
      ih (Nat.lt_of_succ_lt_succ hn) rfl]
    simp

end Parse

def folded (c : Char) : Single := .literal .folded (Text.foldCode c.toNat)

theorem accepts_folded {a b : Char} : (folded a).accepts b = true ↔ Text.Alike a b := by
  rw [folded, Single.accepts, Casing.codeOf, ← Text.fold_eq_foldCode, beq_iff_eq,
    ← Text.fold_eq_fold_iff, eq_comm]

def foldedNode (cs : List Char) : Node := Node.chain (cs.map fun c => .one (folded c))

theorem backtracks_foldedNode (cs : List Char) : (foldedNode cs).backtracks = true := by
  refine Node.backtracks_chain fun n hn => ?_
  obtain ⟨c, -, rfl⟩ := List.mem_map.mp hn
  rfl

theorem way_foldedNode_iff {s t : Place} : (foldedNode cs).Way s t ↔
    ∃ part tail, s.after = part ++ tail ∧ List.Forall₂ Text.Alike cs part ∧
      t = s.past part tail := by
  have hmap : (cs.map fun c => .one (folded c)) = (cs.map folded).map Node.one := by simp
  rw [foldedNode, hmap, Node.way_chain_ones_iff]
  simp only [List.forall₂_map_left_iff, accepts_folded]

/-- The pattern for a text is read without a fault, and it has no groups. -/
theorem compile_verbatim (s : String) :
    compileWith [.ignoreCase] (verbatim s) = .ok ⟨foldedNode s.toList, 0⟩ := by
  have hlength := length_tokensFrom_verbatim 0 s.toList
  have hchoice (stop : Nat) : Parse.choice (3 * s.toList.length + 3) [.ignoreCase] true []
      ⟨tokensFrom 0 (s.toList.flatMap verbatimChar), stop, [], [], none, [], [.ignoreCase]⟩ =
      .ok (foldedNode s.toList, ⟨[], stop, [], [], none, [], [.ignoreCase]⟩) := by
    have hsequence : Parse.sequence (3 * s.toList.length + 2) [.ignoreCase] true []
        ⟨tokensFrom 0 (s.toList.flatMap verbatimChar), stop, [], [], none, [], [.ignoreCase]⟩ =
        .ok (foldedNode s.toList, ⟨[], stop, [], [], none, [], [.ignoreCase]⟩) := by
      rw [Parse.sequence_verbatim (p := 0) (by omega) rfl, List.map_nil, List.append_nil]
      rfl
    rw [Parse.choice]
    simp [hsequence, bind, StateT.bind, Except.bind, Parse.accept, Parse.peek,
      Node.choiceOfReversed, pure, StateT.pure, Except.pure]
  rw [compileWith, verbatim, String.toList_ofList, parse]
  simp only [hlength, Parse.checkAhead_verbatim, hchoice, bind, Except.bind]
  simp [Except.pure, pure, Node.unsupported?_eq_none (backtracks_foldedNode _), Except.map]

/-- The search for a text that is meant literally finds a part that agrees with it, and there is
one if any part does. -/
theorem search_verbatim (s : String) : ∃ r, compileWith [.ignoreCase] (verbatim s) = .ok r ∧
    (∀ text, (r.search text).isSome = true ↔
      ∃ part, part <:+: text ∧ List.Forall₂ Text.Alike s.toList part) ∧
    ∀ text m, r.search text = some m → m.groups = [] ∧ m.text <:+: text ∧
      List.Forall₂ Text.Alike s.toList m.text := by
  have hfound (text : List Char) (m : Match)
      (hm : Regex.search ⟨foldedNode s.toList, 0⟩ text = some m) :
      m.groups = [] ∧ m.text <:+: text ∧ List.Forall₂ Text.Alike s.toList m.text := by
    obtain ⟨⟨start, after, t⟩, hsearch, rfl⟩ := Option.map_eq_some_iff.mp hm
    obtain ⟨skipped, rfl, rfl, hway⟩ :=
      Node.searchFrom_eq_some (backtracks_foldedNode s.toList) hsearch
    obtain ⟨part, tail, rfl, halike, rfl⟩ := way_foldedNode_iff.mp hway
    have htext : (part ++ tail).take part.length = part := by simp
    refine ⟨rfl, ?_, ?_⟩
    · simp [htext]
    · simpa [htext] using halike
  refine ⟨_, compile_verbatim s, fun text => ⟨fun hsome => ?_, ?_⟩, hfound⟩
  · obtain ⟨m, hm⟩ := Option.isSome_iff_exists.mp hsome
    obtain ⟨-, hpart, halike⟩ := hfound text m hm
    exact ⟨m.text, hpart, halike⟩
  · rintro ⟨part, ⟨skipped, tail, rfl⟩, halike⟩
    rw [Regex.search, Option.isSome_map, List.append_assoc]
    refine Node.isSome_searchFrom_append (backtracks_foldedNode s.toList) skipped (Nat.le_refl _)
      (way_foldedNode_iff.mpr ⟨part, tail, rfl, halike, rfl⟩)

end OrderSheet.Regex
