import Mathlib
import OrderSheet.Proofs.Regex.Chains
import OrderSheet.Proofs.Regex.Items
import OrderSheet.Template.Layout

/-!
# Reading the pattern of a layout

The text of a layout's pattern reads as the sequence of one pattern for each column with whitespace
between them. Every fragment is read on its own: what follows it cannot be taken for its end.
-/

namespace OrderSheet

open Regex Regex.Parse

namespace ColumnKind

/-- What the fragment of a column reads as, if it becomes the capture group `group`. -/
def node (group : Nat) : ColumnKind → Regex.Node
  | text => .group group (.run .reluctant 1 (some Settings.maxTextColumn) .inLine)
  | number | price =>
    .group group (.seq (.one (classOf .digit false)) (.run .greedy 0 none amountChar))
  | code => .group group (.run .greedy 1 none (classOf .space true))
  | ignored => .run .greedy 1 none (classOf .space true)

variable {n p : Nat} {ts : List Token} {items : List Item} {first : Bool} {s : Progress}

theorem sequence_textFragment
    (hs : s.ahead = tokensFrom p ['(', '.', '\x7b', '1', ',', '3', '0', '0', '\x7d', '?', ')'] ++ ts)
    (hts : Settled ts) (hgroups : s.widths.length + 1 < groupLimit) :
    ∃ w, sequence (n + 6) [] first items s =
      sequence (n + 5) [] first (⟨text.node (s.widths.length + 1), .ordinary⟩ :: items)
        { s with ahead := ts, widths := some w :: s.widths } := by
  refine sequence_group hs nofun rfl hts.readable hgroups (r := p + 10) ?_
  rw [sequence_dot rfl rfl, sequence_textBounds rfl rfl, sequence_end (Or.inr ⟨ts, rfl⟩)]
  rfl

theorem sequence_amountFragment
    (hs : s.ahead = tokensFrom p ['(', '\\', 'd', '[', '\\', 'd', '.', ',', ']', '*', ')'] ++ ts)
    (hts : Settled ts) (hgroups : s.widths.length + 1 < groupLimit) :
    ∃ w, sequence (n + 7) [] first items s =
      sequence (n + 6) [] first (⟨number.node (s.widths.length + 1), .ordinary⟩ :: items)
        { s with ahead := ts, widths := some w :: s.widths } := by
  refine sequence_group hs nofun rfl hts.readable hgroups (r := p + 10) ?_
  rw [sequence_category rfl rfl rfl rfl, sequence_amountSet rfl rfl,
    sequence_repeat rfl (settled_plain ts (by decide) (by decide)) rfl,
    sequence_end (Or.inr ⟨ts, rfl⟩)]
  rfl

theorem sequence_codeFragment (hs : s.ahead = tokensFrom p ['(', '\\', 'S', '+', ')'] ++ ts)
    (hts : Settled ts) (hgroups : s.widths.length + 1 < groupLimit) :
    ∃ w, sequence (n + 6) [] first items s =
      sequence (n + 5) [] first (⟨code.node (s.widths.length + 1), .ordinary⟩ :: items)
        { s with ahead := ts, widths := some w :: s.widths } := by
  refine sequence_group hs nofun rfl hts.readable hgroups (r := p + 4) ?_
  rw [sequence_category rfl rfl rfl rfl,
    sequence_repeat rfl (settled_plain ts (by decide) (by decide)) rfl,
    sequence_end (Or.inr ⟨ts, rfl⟩)]
  rfl

theorem sequence_repeatedCategory {c : Char} {k : Category} {negated : Bool}
    (hs : s.ahead = tokensFrom p ['\\', c, '+'] ++ ts) (hts : Settled ts)
    (hk : categoryOf? c = some (k, negated)) (ha : anchorOf? false c = none) :
    sequence (n + 2) [] first items s =
      sequence n [] first (⟨.run .greedy 1 none (classOf k negated), .repeated⟩ :: items)
        { s with ahead := ts } := by
  rw [sequence_category hs rfl hk ha, sequence_repeat rfl hts rfl]
  rfl

/-- The characters of a fragment, where the bounds of a text are written out. -/
theorem toList_fragment (k : ColumnKind) : k.fragment.toList =
    match k with
    | text => ['(', '.', '\x7b', '1', ',', '3', '0', '0', '\x7d', '?', ')']
    | number | price => ['(', '\\', 'd', '[', '\\', 'd', '.', ',', ']', '*', ')']
    | code => ['(', '\\', 'S', '+', ')']
    | ignored => ['\\', 'S', '+'] := by
  cases k <;> decide

theorem tokensFrom_fragment (k : ColumnKind) (p : Nat) (cs : List Char) :
    tokensFrom p (k.fragment.toList ++ cs) =
      tokensFrom p k.fragment.toList ++ tokensFrom (p + k.fragment.toList.length) cs := by
  rw [toList_fragment]
  cases k <;> rfl

theorem sequence_fragment (k : ColumnKind) (first : Bool) (items : List Item) (hn : 7 ≤ n)
    (hs : s.ahead = tokensFrom p k.fragment.toList ++ ts) (hts : Settled ts)
    (hgroups : s.widths.length + 1 < groupLimit) :
    ∃ m kind widths, n ≤ m + 2 ∧
      widths.length = s.widths.length + (if k.captures then 1 else 0) ∧
      sequence n [] first items s =
        sequence m [] first (⟨k.node (s.widths.length + 1), kind⟩ :: items)
          { s with ahead := ts, widths := widths } := by
  obtain ⟨n, rfl⟩ := Nat.exists_eq_add_of_le' hn
  rw [toList_fragment] at hs
  cases k with
  | text =>
    obtain ⟨w, hw⟩ := sequence_textFragment hs hts hgroups
    exact ⟨n + 6, _, _, by omega, rfl, hw⟩
  | number | price =>
    obtain ⟨w, hw⟩ := sequence_amountFragment hs hts hgroups
    exact ⟨n + 6, _, _, by omega, rfl, hw⟩
  | code =>
    obtain ⟨w, hw⟩ := sequence_codeFragment hs hts hgroups
    exact ⟨n + 6, _, _, by omega, rfl, hw⟩
  | ignored =>
    exact ⟨n + 5, _, s.widths, by omega, rfl, sequence_repeatedCategory hs hts rfl rfl⟩

end ColumnKind

namespace Layout

/-- The patterns of columns with whitespace between them, where `group` is the number of the next
capture group. -/
def nodesFrom (group : Nat) : List Column → List Regex.Node
  | [] => []
  | [c] => [c.kind.node group]
  | c :: cs =>
    c.kind.node group :: .run .greedy 1 none (classOf .space false) ::
      nodesFrom (group + if c.kind.captures then 1 else 0) cs

def charsFrom : List Column → List Char
  | [] => ['$']
  | [c] => c.kind.fragment.toList ++ ['$']
  | c :: cs => c.kind.fragment.toList ++ '\\' :: 's' :: '+' :: charsFrom cs

def groups (columns : List Column) : Nat := columns.countP fun c => c.kind.captures

theorem charsFrom_cons {c : Column} {cs : List Column} (h : cs ≠ []) :
    charsFrom (c :: cs) = c.kind.fragment.toList ++ '\\' :: 's' :: '+' :: charsFrom cs := by
  cases cs with
  | nil => exact absurd rfl h
  | cons d ds => rfl

theorem nodesFrom_cons {group : Nat} {c : Column} {cs : List Column} (h : cs ≠ []) :
    nodesFrom group (c :: cs) =
      c.kind.node group :: .run .greedy 1 none (classOf .space false) ::
        nodesFrom (group + if c.kind.captures then 1 else 0) cs := by
  cases cs with
  | nil => exact absurd rfl h
  | cons d ds => rfl

theorem groups_cons (c : Column) (cs : List Column) :
    groups (c :: cs) = groups cs + if c.kind.captures then 1 else 0 := List.countP_cons ..

theorem intercalate_fragments {columns : List Column} (h : columns ≠ []) :
    separator.toList.intercalate (columns.map fun c => c.kind.fragment.toList) ++ ['$'] =
      charsFrom columns := by
  have hsep : separator.toList = ['\\', 's', '+'] := by decide
  induction columns with
  | nil => exact absurd rfl h
  | cons c cs ih =>
    by_cases hcs : cs = []
    · subst hcs
      simp [charsFrom]
    · rw [charsFrom_cons hcs, ← ih hcs, List.map_cons,
        List.intercalate_cons_of_ne_nil (by simpa using hcs), hsep]
      simp

theorem toList_pattern {columns : List Column} (h : columns ≠ []) :
    (pattern columns).toList = '^' :: charsFrom columns := by
  rw [pattern, if_neg (by simpa using h), ← intercalate_fragments h]
  simp [String.toList_append, String.toList_intercalate, List.map_map, Function.comp_def]

theorem settled_charsFrom (columns : List Column) (p : Nat) :
    Settled (tokensFrom p (charsFrom columns)) := by
  have hfragment (c : Column) (cs : List Char) :
      Settled (tokensFrom p (c.kind.fragment.toList ++ cs)) := by
    rw [ColumnKind.tokensFrom_fragment, ColumnKind.toList_fragment]
    cases c.kind with
    | text | number | price | code => exact settled_plain _ (by decide) (by decide)
    | ignored => exact settled_escaped ..
  match columns with
  | [] => exact settled_plain _ (by decide) (by decide)
  | [c] => exact hfragment c _
  | c :: d :: ds => exact hfragment c _

variable {n p : Nat} {items : List Item} {first : Bool} {s : Progress}

theorem sequence_column {c : Column} {cs : List Column} (first : Bool) (items : List Item)
    (hcs : cs ≠ []) (hn : 9 ≤ n)
    (hs : s.ahead = tokensFrom p (charsFrom (c :: cs)))
    (hgroups : s.widths.length + 1 < groupLimit) :
    ∃ m q kind widths, n ≤ m + 4 ∧
      widths.length = s.widths.length + (if c.kind.captures then 1 else 0) ∧
      sequence n [] first items s =
        sequence m [] first
          (⟨.run .greedy 1 none (classOf .space false), .repeated⟩ ::
            ⟨c.kind.node (s.widths.length + 1), kind⟩ :: items)
          { s with ahead := tokensFrom q (charsFrom cs), widths := widths } := by
  rw [charsFrom_cons hcs, ColumnKind.tokensFrom_fragment] at hs
  obtain ⟨m, kind, widths, hm, hw, hseq⟩ := ColumnKind.sequence_fragment c.kind
    first items (show 7 ≤ n by omega) hs (settled_escaped ..) hgroups
  obtain ⟨m, rfl⟩ := Nat.exists_eq_add_of_le' (show 2 ≤ m by omega)
  refine ⟨m, p + c.kind.fragment.toList.length + 3, kind, widths, by omega, hw, ?_⟩
  rw [hseq]
  exact ColumnKind.sequence_repeatedCategory rfl (settled_charsFrom ..) rfl rfl

/-- The rest of a layout's pattern reads as the patterns of its columns up to the end of the
line. -/
theorem sequence_columns {columns : List Column} (first : Bool) (items : List Item)
    (hne : columns ≠ [])
    (hn : 4 * columns.length + 8 ≤ n) (hs : s.ahead = tokensFrom p (charsFrom columns))
    (hgroups : s.widths.length + groups columns + 1 < groupLimit) :
    ∃ s', s'.ahead = [] ∧ s'.widths.length = s.widths.length + groups columns ∧
      s'.flags = s.flags ∧ s'.asked = s.asked ∧
      sequence n [] first items s =
        .ok (Node.ofReversed (.anchor .lastLineEnd ::
          ((nodesFrom (s.widths.length + 1) columns).reverse ++ items.map Item.node)), s') := by
  induction columns generalizing n p items s with
  | nil => exact absurd rfl hne
  | cons c cs ih =>
    rw [groups_cons] at hgroups
    rw [List.length_cons] at hn
    by_cases hcs : cs = []
    · subst hcs
      rw [charsFrom, ColumnKind.tokensFrom_fragment] at hs
      obtain ⟨m, kind, widths, hm, hw, hseq⟩ := ColumnKind.sequence_fragment c.kind
        first items (show 7 ≤ n by omega) hs
        (settled_plain _ (by decide) (by decide)) (by omega)
      obtain ⟨m, rfl⟩ := Nat.exists_eq_add_of_le' (show 2 ≤ m by omega)
      refine ⟨{ s with ahead := [], widths := widths }, rfl, ?_, rfl, rfl, ?_⟩
      · rw [hw, groups_cons]
        simp [groups]
      · rw [hseq, sequence_dollar rfl rfl, sequence_end (p := 0) (Or.inl rfl)]
        rfl
    · obtain ⟨m, q, kind, widths, hm, hw, hseq⟩ := sequence_column first items
        hcs (show 9 ≤ n by omega) hs (by omega)
      obtain ⟨s', hahead, hlen, hflags, hasked, hrest⟩ := ih _ hcs (show _ ≤ m by omega)
        (s := { s with ahead := tokensFrom q (charsFrom cs), widths := widths }) rfl
        (by rw [hw]; omega)
      refine ⟨s', hahead, ?_, hflags, hasked, ?_⟩
      · rw [hlen, hw, groups_cons]
        omega
      · rw [hseq, hrest, hw, nodesFrom_cons hcs, Nat.add_right_comm]
        simp

def node (columns : List Column) : Regex.Node :=
  Node.chain (.anchor .textStart :: (nodesFrom 1 columns ++ [.anchor .lastLineEnd]))

theorem length_tokensFrom_charsFrom (columns : List Column) (p : Nat) :
    4 * columns.length ≤ (tokensFrom p (charsFrom columns)).length + 1 := by
  have hfragment (c : Column) (p : Nat) : 2 ≤ (tokensFrom p c.kind.fragment.toList).length := by
    rw [ColumnKind.toList_fragment]
    cases c.kind <;> simp [tokensFrom]
  induction columns generalizing p with
  | nil => simp
  | cons c cs ih =>
    have hc := hfragment c p
    by_cases hcs : cs = []
    · subst hcs
      have hend (q : Nat) : (tokensFrom q ['$']).length = 1 := rfl
      rw [charsFrom, ColumnKind.tokensFrom_fragment, List.length_append, hend]
      simp only [List.length_cons, List.length_nil]
      omega
    · have hsep (q : Nat) : (tokensFrom q ('\\' :: 's' :: '+' :: charsFrom cs)).length =
          (tokensFrom (q + 3) (charsFrom cs)).length + 2 := rfl
      have := ih (p + c.kind.fragment.toList.length + 3)
      rw [charsFrom_cons hcs, ColumnKind.tokensFrom_fragment, List.length_append, hsep,
        List.length_cons]
      omega

theorem backtracks_nodesFrom (columns : List Column) (group : Nat) :
    ∀ n ∈ nodesFrom group columns, n.backtracks = true := by
  have hkind (k : ColumnKind) (g : Nat) : (k.node g).backtracks = true := by cases k <;> rfl
  induction columns generalizing group with
  | nil => simp [nodesFrom]
  | cons c cs ih =>
    by_cases hcs : cs = []
    · subst hcs
      simp [nodesFrom, hkind]
    · rw [nodesFrom_cons hcs]
      simpa using ⟨hkind _ _, rfl, ih _⟩

theorem backtracks_node (columns : List Column) : (node columns).backtracks = true := by
  refine Node.backtracks_chain fun n hn => ?_
  rcases List.mem_cons.mp hn with rfl | hn
  · rfl
  · rcases List.mem_append.mp hn with hn | hn
    · exact backtracks_nodesFrom columns 1 n hn
    · rw [List.mem_singleton.mp hn]
      rfl

theorem choice_pattern {columns : List Column} (hne : columns ≠ [])
    (hn : 4 * columns.length + 10 ≤ n)
    (hs : s.ahead = ⟨p, .plain '^'⟩ :: tokensFrom (p + 1) (charsFrom columns))
    (hwidths : s.widths = []) (hgroups : groups columns + 1 < groupLimit) :
    ∃ s', s'.ahead = [] ∧ s'.widths.length = groups columns ∧ s'.flags = s.flags ∧
      s'.asked = s.asked ∧ choice n [] true [] s = .ok (node columns, s') := by
  obtain ⟨n, rfl⟩ := Nat.exists_eq_add_of_le' (show 2 ≤ n by omega)
  obtain ⟨s', hahead, hlen, hflags, hasked, hseq⟩ := sequence_columns true
    [⟨.anchor .textStart, .position⟩] hne (n := n)
    (s := { s with ahead := tokensFrom (p + 1) (charsFrom columns) }) (by omega) rfl
    (by simpa [hwidths] using hgroups)
  refine ⟨s', hahead, by simpa [hwidths] using hlen, hflags, hasked, ?_⟩
  have hready := (settled_charsFrom columns (p + 1)).readable
  have hpattern : sequence (n + 1) [] true [] s = .ok (node columns, s') := by
    rw [sequence_caret hs hready, hseq]
    simp [node, Node.chain, hwidths]
  rw [choice]
  simp [hpattern, bind, StateT.bind, Except.bind, accept, peek, hahead, Node.choiceOfReversed,
    pure, StateT.pure, Except.pure]

/-- The text of a layout's pattern is read without a fault. -/
theorem parse_pattern {columns : List Column} (hne : columns ≠ [])
    (hgroups : groups columns + 1 < groupLimit) :
    parse [] (pattern columns).toList = .ok (node columns, groups columns) := by
  have htokens : tokensFrom 0 (pattern columns).toList =
      ⟨0, .plain '^'⟩ :: tokensFrom 1 (charsFrom columns) := by
    rw [toList_pattern hne]
    rfl
  have hlength := length_tokensFrom_charsFrom columns 1
  have hpos := List.length_pos_iff.mpr hne
  obtain ⟨s', hahead, hlen, hflags, hasked, hchoice⟩ := choice_pattern hne (p := 0)
    (n := 3 * (⟨0, .plain '^'⟩ :: tokensFrom 1 (charsFrom columns)).length + 3)
    (s := ⟨⟨0, .plain '^'⟩ :: tokensFrom 1 (charsFrom columns), (pattern columns).toList.length,
      [], [], none, [], []⟩) (by simp only [List.length_cons]; omega) rfl rfl hgroups
  unfold parse
  simp only [htokens, checkAhead_plain, hchoice, bind, Except.bind]
  simp [hflags, hasked, hahead, Except.pure, pure, hlen,
    Node.unsupported?_eq_none (backtracks_node _)]

theorem compile_pattern {columns : List Column} (hne : columns ≠ [])
    (hgroups : groups columns + 1 < groupLimit) :
    Regex.compile (pattern columns) = .ok ⟨node columns, groups columns⟩ := by
  rw [Regex.compile, compileWith, parse_pattern hne hgroups]
  rfl

end Layout

end OrderSheet
