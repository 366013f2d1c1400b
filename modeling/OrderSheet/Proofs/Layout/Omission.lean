import OrderSheet.Proofs.Extract.Origin
import OrderSheet.Proofs.Extract.Rendering
import OrderSheet.Proofs.Layout.Fitting

/-!
# Lines without all their columns

A line that is divided by a layout has a word for every column, except that the text of a text
column may be all whitespace. In a row of a table this happens just if the row leaves out a text
between two other columns and has at least three whitespace characters in its place. Then the row
has one word less than the layout has columns, and its product has no description.
-/

namespace OrderSheet

open Text

namespace Table

variable {text : String} {rule : TableRule} {row : Line}

theorem IsRow.strip_eq (h : IsRow text rule row) : strip row.text = row.text := by
  obtain ⟨raw, -, htext⟩ := h.exists_raw
  rw [htext]
  exact strip_strip raw

theorem IsRow.oneLine (h : IsRow text rule row) : OneLine row.text := by
  obtain ⟨raw, hraw, htext⟩ := h.exists_raw
  rw [htext]
  intro c hc
  exact oneLine_of_mem_splitLines (List.mem_of_getElem? hraw) c ((strip_sublist raw).subset hc)

end Table

theorem ColumnKind.admits_text_singleton (c : Char) : text.Admits [c] :=
  ⟨Nat.le_refl 1, show 1 ≤ Settings.maxTextColumn by decide⟩

namespace Layout

variable {columns before after : List Column} {c : Column} {k : ColumnKind} {p : LinePattern}
  {line a b f x y gap : List Char} {fs gs as bs : List (List Char)} {m : Regex.Match}

theorem textsOf_append (h : as.length = before.length) :
    textsOf k (before ++ after) (as ++ bs) = textsOf k before as ++ textsOf k after bs := by
  simp [textsOf, List.zip_append h.symm]

/-- What stands in front of the text of a column: the columns before it and a gap, or nothing. -/
def InFront (before : List Column) (x : List Char) : Prop :=
  (before = [] ∧ x = []) ∨ ∃ a as gap, Splits before a as ∧ Gap gap ∧ x = a ++ gap

/-- What stands behind the text of a column: a gap and the columns after it, or nothing. -/
def Behind (after : List Column) (y : List Char) : Prop :=
  (after = [] ∧ y = []) ∨ ∃ gap b bs, Gap gap ∧ Splits after b bs ∧ y = gap ++ b

theorem InFront.cons (hf : c.kind.Admits f) (hgap : Gap gap) (h : InFront before x) :
    InFront (c :: before) (f ++ (gap ++ x)) := by
  rcases h with ⟨rfl, rfl⟩ | ⟨a, as, gap', ha, hgap', rfl⟩
  · exact .inr ⟨f, [f], gap, .last hf, hgap, by simp⟩
  · exact .inr ⟨_, _, gap', .cons hf hgap ha, hgap', by simp⟩

namespace Splits

/-- Behind the columns of one layout a line goes on with those of another. -/
theorem append (ha : Splits before a as) (hgap : Gap gap) (hb : Splits after b bs) :
    Splits (before ++ after) (a ++ (gap ++ b)) (as ++ bs) := by
  induction ha with
  | last hf => exact .cons hf hgap hb
  | cons hf hgap' _ ih =>
    rw [List.append_assoc, List.append_assoc]
    exact .cons hf hgap' ih

theorem exists_of_mem_textsOf (h : Splits columns line fs) (hf : f ∈ textsOf k columns fs) :
    ∃ before c after x y, columns = before ++ c :: after ∧ c.kind = k ∧ line = x ++ (f ++ y) ∧
      InFront before x ∧ Behind after y := by
  induction h with
  | @last c g hg =>
    rw [textsOf_cons] at hf
    split at hf
    · next hc =>
      obtain rfl : f = g := by simpa [textsOf] using hf
      exact ⟨[], c, [], [], [], rfl, hc, by simp, .inl ⟨rfl, rfl⟩, .inl ⟨rfl, rfl⟩⟩
    · simp [textsOf] at hf
  | @cons c cs g gap line gs hg hgap h ih =>
    rw [textsOf_cons] at hf
    by_cases hhere : c.kind = k ∧ f = g
    · obtain ⟨hc, rfl⟩ := hhere
      exact ⟨[], c, cs, [], _, rfl, hc, rfl, .inl ⟨rfl, rfl⟩, .inr ⟨gap, line, gs, hgap, h, rfl⟩⟩
    · have hlater : f ∈ textsOf k cs gs := by
        split at hf
        · next hc => exact (List.mem_cons.mp hf).resolve_left fun hfg => hhere ⟨hc, hfg⟩
        · exact hf
      obtain ⟨before, d, after, x, y, rfl, hd, rfl, hx, hy⟩ := ih hlater
      exact ⟨c :: before, d, after, _, y, rfl, hd, by simp, hx.cons hg hgap, hy⟩

/-- A division has one word for each column but the text columns, and the words of their texts. -/
theorem length_words (h : Splits columns line fs) : (words line).length + count .text columns =
    columns.length + ((textsOf .text columns fs).flatMap words).length := by
  induction h with
  | @last c f hf =>
    rw [count_cons, textsOf_cons]
    by_cases hc : c.kind = .text
    · simp [hc, count, textsOf, Nat.add_comm]
    · simp [hc, count, textsOf, (ColumnKind.word_of_admits hc hf).words_eq]
  | @cons c cs f gap line fs hf hgap h ih =>
    rw [words_append_gap hgap.1 hgap.2, List.length_append, count_cons, textsOf_cons,
      List.length_cons]
    by_cases hc : c.kind = .text
    · rw [if_pos hc, if_pos hc, List.flatMap_cons, List.length_append]
      omega
    · rw [if_neg hc, if_neg hc, (ColumnKind.word_of_admits hc hf).words_eq, List.length_singleton]
      omega

end Splits

/-- A line that leaves out a text between two other columns, with enough whitespace for it: one
character for the text, and one on either side of it. -/
def LeavesOut (columns : List Column) (line : List Char) : Prop :=
  ∃ before c after a gap b as bs, columns = before ++ c :: after ∧ c.kind = .text ∧
    Splits before a as ∧ Splits after b bs ∧ line = a ++ (gap ++ b) ∧ 3 ≤ gap.length ∧
    ∀ d ∈ gap, isBlank d = true

/-- A line that leaves out a text is divided all the same, with whitespace for its text. -/
theorem LeavesOut.exists_splits (h : LeavesOut columns line) :
    ∃ fs, Splits columns line fs ∧
      ∃ f ∈ textsOf .text columns fs, ∀ d ∈ f, isBlank d = true := by
  obtain ⟨before, c, after, a, gap, b, as, bs, rfl, hc, ha, hb, rfl, hlength, hblank⟩ := h
  obtain ⟨d, e, rest, rfl⟩ : ∃ d e rest, gap = [d] ++ ([e] ++ rest) := by
    match gap, hlength with
    | d :: e :: rest, _ => exact ⟨d, e, rest, rfl⟩
  have hfirst : Gap [d] := ⟨by simp, fun u hu => hblank u (by simp_all)⟩
  have hlast : Gap rest := by
    refine ⟨fun hnil => ?_, fun u hu => hblank u (by simp [hu])⟩
    simp [hnil] at hlength
  have htext : c.kind.Admits [e] := by
    rw [hc]
    exact ColumnKind.admits_text_singleton e
  refine ⟨as ++ [e] :: bs, ?_, [e], ?_, fun u hu => hblank u (by simp_all)⟩
  · have hsplits := ha.append hfirst (.cons htext hlast hb)
    simpa using hsplits
  · rw [textsOf_append ha.length_eq, textsOf_cons, if_pos hc]
    simp

/-- A text that is all whitespace stands between two other columns if the line is trimmed. -/
theorem leavesOut_of_blank (hstrip : strip line = line) (h : Splits columns line fs)
    (hf : f ∈ textsOf .text columns fs) (hblank : ∀ d ∈ f, isBlank d = true) :
    LeavesOut columns line := by
  obtain ⟨hhead, hlast⟩ := strip_eq_self_iff.mp hstrip
  have hne : f ≠ [] := Splits.admits_ne_nil (h.admits f hf).1
  obtain ⟨before, c, after, x, y, rfl, hc, rfl, hx, hy⟩ := h.exists_of_mem_textsOf hf
  rcases hx with ⟨-, rfl⟩ | ⟨a, as, gap, ha, hgap, rfl⟩
  · -- the text would be the start of the line
    rw [List.nil_append, List.head?_append_of_ne_nil _ hne, List.head?_eq_some_head hne] at hhead
    have hnot := hhead _ rfl
    rw [hblank _ (List.head_mem hne)] at hnot
    cases hnot
  rcases hy with ⟨-, rfl⟩ | ⟨gap', b, bs, hgap', hb, rfl⟩
  · -- the text would be the end of the line
    rw [List.append_nil, List.getLast?_append_of_ne_nil _ hne,
      List.getLast?_eq_some_getLast hne] at hlast
    have hnot := hlast _ rfl
    rw [hblank _ (List.getLast_mem hne)] at hnot
    cases hnot
  refine ⟨before, c, after, a, gap ++ (f ++ gap'), b, as, bs, rfl, hc, ha, hb, by simp, ?_, ?_⟩
  · have hgap := List.length_pos_iff.mpr hgap.1
    have hgap' := List.length_pos_iff.mpr hgap'.1
    have hf := List.length_pos_iff.mpr hne
    simp only [List.length_append]
    omega
  · intro d hd
    rw [List.mem_append, List.mem_append] at hd
    rcases hd with hd | hd | hd
    · exact hgap.2 d hd
    · exact hblank d hd
    · exact hgap'.2 d hd

/-- Every division of a trimmed line tells whether the line leaves out a text. -/
theorem leavesOut_iff (htext : count .text columns ≤ 1) (hstrip : strip line = line)
    (h : Splits columns line fs) : LeavesOut columns line ↔
      ∃ f ∈ textsOf .text columns fs, ∀ d ∈ f, isBlank d = true := by
  constructor
  · intro hout
    obtain ⟨gs, hgs, g, hg, hblank⟩ := hout.exists_splits
    -- any two divisions have the same texts, up to whitespace around them
    have hmem : strip g ∈ (textsOf .text columns fs).map strip := by
      rw [← textsOf_map_strip, h.strip_unique htext hgs rfl, textsOf_map_strip]
      exact List.mem_map_of_mem hg
    obtain ⟨f, hf, hfg⟩ := List.mem_map.mp hmem
    exact ⟨f, hf, strip_eq_nil_iff.mp (hfg.trans (strip_eq_nil_iff.mpr hblank))⟩
  · rintro ⟨f, hf, hblank⟩
    exact leavesOut_of_blank hstrip h hf hblank

/-- A layout has lines that leave out a text just if a text stands between two other columns. -/
theorem exists_leavesOut_iff : (∃ line, LeavesOut columns line) ↔
    ∃ before c after, columns = before ++ c :: after ∧ c.kind = .text ∧ before ≠ [] ∧
      after ≠ [] := by
  have hdigit (k : ColumnKind) : k.Admits ['1'] := by
    cases k with
    | text => exact ColumnKind.admits_text_singleton '1'
    | number | price => exact ⟨'1', [], rfl, by decide, nofun⟩
    | code | ignored => exact ⟨nofun, fun c hc => by rw [List.mem_singleton.mp hc]; rfl⟩
  have hline {columns : List Column} (hne : columns ≠ []) : ∃ line fs, Splits columns line fs := by
    induction columns with
    | nil => exact absurd rfl hne
    | cons c cs ih =>
      by_cases hcs : cs = []
      · subst hcs
        exact ⟨_, _, .last (hdigit c.kind)⟩
      · obtain ⟨line, fs, h⟩ := ih hcs
        exact ⟨_, _, .cons (hdigit c.kind) gap_space h⟩
  constructor
  · rintro ⟨_, before, c, after, a, gap, b, as, bs, rfl, hc, ha, hb, -⟩
    exact ⟨before, c, after, rfl, hc, ha.columns_ne_nil, hb.columns_ne_nil⟩
  · rintro ⟨before, c, after, rfl, hc, hbefore, hafter⟩
    obtain ⟨a, as, ha⟩ := hline hbefore
    obtain ⟨b, bs, hb⟩ := hline hafter
    refine ⟨_, before, c, after, a, List.replicate 3 ' ', b, as, bs, rfl, hc, ha, hb, rfl,
      by simp, fun d hd => ?_⟩
    rw [List.eq_of_mem_replicate hd]
    rfl

/-- How a line that the pattern of a layout matches has the columns of the layout. -/
structure Covers (columns : List Column) (line : List Char) (m : Regex.Match) : Prop where
  parts : ∀ g ∈ m.groups, ∃ part, g = some part ∧ part ≠ []
  /-- A line with all columns has a word for each, and one in every group. -/
  full : ¬ LeavesOut columns line → columns.length ≤ (words line).length ∧
    ∀ part, some part ∈ m.groups → ∃ d ∈ part, isBlank d = false
  /-- A line that leaves out its text has one word less, and a group without a word. -/
  short : LeavesOut columns line → (words line).length + 1 = columns.length ∧
    ∃ part, some part ∈ m.groups ∧ ∀ d ∈ part, isBlank d = true

theorem mem_captured_iff : f ∈ captured columns fs ↔
    ∃ k : ColumnKind, k.captures = true ∧ f ∈ textsOf k columns fs := by
  simp only [captured, textsOf, List.mem_map, List.mem_filter, decide_eq_true_eq]
  constructor
  · rintro ⟨e, ⟨he, hcaptures⟩, rfl⟩
    exact ⟨e.1.kind, hcaptures, e, ⟨he, rfl⟩, rfl⟩
  · rintro ⟨k, hk, e, ⟨he, rfl⟩, rfl⟩
    exact ⟨e, ⟨he, hk⟩, rfl⟩

/-- If no text is left out, then every text of a division has a word. -/
theorem exists_not_blank (hstrip : strip line = line) (h : Splits columns line fs)
    (hout : ¬ LeavesOut columns line) (hf : f ∈ textsOf k columns fs) :
    ∃ d ∈ f, isBlank d = false := by
  by_cases hk : k = .text
  · subst hk
    by_contra hblank
    simp only [not_exists, not_and, Bool.not_eq_false] at hblank
    exact hout (leavesOut_of_blank hstrip h hf hblank)
  · obtain ⟨hne, hword⟩ := ColumnKind.word_of_admits hk (h.admits f hf).1
    exact ⟨f.head hne, List.head_mem hne, hword _ (List.head_mem hne)⟩

theorem le_length_words (hstrip : strip line = line) (h : Splits columns line fs)
    (hout : ¬ LeavesOut columns line) : columns.length ≤ (words line).length := by
  have hwords : (textsOf .text columns fs).length ≤
      ((textsOf .text columns fs).flatMap words).length := by
    rw [List.length_flatMap, ← List.length_map fun f => (words f).length]
    refine List.length_le_sum_of_one_le _ fun n hn => ?_
    obtain ⟨f, hf, rfl⟩ := List.mem_map.mp hn
    obtain ⟨d, hd, hblank⟩ := exists_not_blank hstrip h hout hf
    refine List.length_pos_iff.mpr fun hnil => ?_
    rw [words_eq_nil_iff.mp hnil d hd] at hblank
    cases hblank
  have hlength := h.length_words
  have hcount : (textsOf .text columns fs).length = count .text columns :=
    length_textsOf h.length_eq
  omega

theorem length_words_of_blank (htext : count .text columns ≤ 1) (h : Splits columns line fs)
    (hf : f ∈ textsOf .text columns fs) (hblank : ∀ d ∈ f, isBlank d = true) :
    (words line).length + 1 = columns.length := by
  have hlength := h.length_words
  have hcount : (textsOf .text columns fs).length = count .text columns :=
    length_textsOf h.length_eq
  have hpos := List.length_pos_of_mem hf
  obtain ⟨g, hg⟩ : ∃ g, textsOf .text columns fs = [g] := List.length_eq_one_iff.mp (by omega)
  rw [hg, List.mem_singleton] at hf
  subst hf
  rw [hg, List.flatMap_singleton, words_eq_nil_iff.mpr hblank, List.length_nil] at hlength
  rw [hg, List.length_singleton] at hcount
  omega

theorem covers (htext : count .text columns ≤ 1) (hstrip : strip line = line)
    (h : Splits columns line fs) (hgroups : m.groups = (captured columns fs).map some) :
    Covers columns line m := by
  have hpart {part : List Char} : some part ∈ m.groups ↔ part ∈ captured columns fs := by
    rw [hgroups, List.mem_map_of_injective (Option.some_injective _)]
  refine ⟨fun g hg => ?_, fun hout => ⟨le_length_words hstrip h hout, fun part hp => ?_⟩,
    fun hout => ?_⟩
  · rw [hgroups] at hg
    obtain ⟨part, hmem, rfl⟩ := List.mem_map.mp hg
    obtain ⟨k, -, hk⟩ := mem_captured_iff.mp hmem
    exact ⟨part, rfl, Splits.admits_ne_nil (h.admits part hk).1⟩
  · obtain ⟨k, -, hk⟩ := mem_captured_iff.mp (hpart.mp hp)
    exact exists_not_blank hstrip h hout hk
  · obtain ⟨f, hf, hblank⟩ := (leavesOut_iff htext hstrip h).mp hout
    have hmem := mem_captured_iff.mpr ⟨.text, rfl, hf⟩
    exact ⟨length_words_of_blank htext h hf hblank, f, hpart.mpr hmem, hblank⟩

/-- The product of a row has no description just if the row leaves its text out. -/
theorem description_eq_empty_iff {product : Product} {mapping : FieldMapping}
    (hmapping : Layout.mapping columns = .ok mapping) (hone : count .text columns = 1)
    (hstrip : strip line = line) (h : Splits columns line fs)
    (hgroups : m.groups = (captured columns fs).map some) {number : Nat}
    (hproduct : (ProductLines.product m mapping number).1 = some product) :
    product.description = "" ↔ LeavesOut columns line := by
  obtain ⟨f, hf⟩ := List.length_eq_one_iff.mp ((length_textsOf h.length_eq).trans hone)
  have htext : ProductLines.fieldText m mapping .description = some (String.ofList (strip f)) := by
    rw [fieldText_of_captured hmapping hgroups, textsOf_map_strip]
    simp [ProductField.source, hf]
  obtain ⟨q, u, -, -, rfl⟩ := ProductLines.product_eq_some_iff.mp hproduct
  rw [leavesOut_iff hone.le hstrip h, hf, htext, Option.getD_some]
  simp [strip_eq_nil_iff]

/-- The pattern of a layout matches a row of a table only if the row has all columns, or all but a
text between two others, and rows of the second kind are the ones whose products have no
description. Every layout with a text between two other columns leaves a text out of some line. -/
theorem search_covers (hcompile : compile columns = .ok p) (hne : columns ≠ [])
    (text start stop : String) :
    ∃ r lines, Regex.compile p.pattern = .ok r ∧
      (ProductLines.extract text (.ofLinePattern p start stop)).outcome = .ok lines ∧
      (∀ row ∈ Table.candidates (Table.rows text start stop),
        (∀ m, r.search row.text = some m → Covers columns row.text m) ∧
          (LeavesOut columns row.text → (r.search row.text).isSome)) ∧
      (∀ product ∈ lines.products, ∃ row ∈ Table.candidates (Table.rows text start stop),
        row.number = product.line ∧ (product.description = "" ↔ LeavesOut columns row.text)) ∧
      ((∃ line, LeavesOut columns line) ↔ ∃ before c after, columns = before ++ c :: after ∧
        c.kind = .text ∧ before ≠ [] ∧ after ≠ []) := by
  have hregex := compile_pattern_of_compile hne hcompile
  have htext := count_text_le hcompile
  have hisRow : ∀ row ∈ Table.candidates (Table.rows text start stop),
      Table.IsRow text (.ofLinePattern p start stop) row := fun _ hrow => Table.isRow_of_mem hrow
  obtain ⟨lines, hlines, -⟩ := exists_extract hcompile text start stop
  refine ⟨_, lines, hregex, hlines, fun row hrow => ⟨fun m hm => ?_, fun hout => ?_⟩,
    fun product hproduct => ?_, exists_leavesOut_iff⟩
  · have hshape := hisRow row hrow
    obtain ⟨-, -, -, fs, hsplits, hgroups⟩ :=
      splits_of_search hne hshape.oneLine.feed_not_mem hm
    exact covers htext hshape.strip_eq hsplits hgroups
  · obtain ⟨fs, hsplits, -⟩ := hout.exists_splits
    exact isSome_search hsplits (hisRow row hrow).oneLine.feed_not_mem
  · obtain ⟨mapping, hmapping, rfl⟩ := compile_eq_ok_iff.mp hcompile
    rcases ProductLines.outcome_extract_cases hlines with ⟨-, rfl⟩ | ⟨_, -, -, rfl⟩ |
      ⟨_, _, -, -, -, rfl⟩ | ⟨r, -, hr, hfit, rfl⟩
    · cases hproduct
    · cases hproduct
    · cases hproduct
    · obtain rfl := Except.ok.inj (hregex.symm.trans hr)
      have hone : count .text columns = 1 :=
        le_antisymm htext ((fault?_mapping_eq_none_iff hmapping).mp hfit).1
      obtain ⟨row, hrow, hproduct⟩ := List.mem_filterMap.mp hproduct
      refine ⟨row, hrow, (ProductLines.line_of_contribution hproduct).symm, ?_⟩
      have hshape := hisRow row hrow
      obtain ⟨m, hm, hproduct⟩ := ProductLines.exists_of_contribution hproduct
      obtain ⟨-, -, -, fs, hsplits, hgroups⟩ :=
        splits_of_search hne hshape.oneLine.feed_not_mem hm
      exact description_eq_empty_iff hmapping hone hshape.strip_eq hsplits hgroups hproduct

theorem search_covers_two_rows :
    let columns : List Column :=
      [⟨none, .number, "Number"⟩, ⟨none, .text, "Text"⟩, ⟨none, .price, "Price"⟩]
    ∃ p r m m', compile columns = .ok p ∧ Regex.compile p.pattern = .ok r ∧
      r.search "5 x 7".toList = some m ∧ Covers columns "5 x 7".toList m ∧
      r.search "5   7".toList = some m' ∧ Covers columns "5   7".toList m' ∧
      LeavesOut columns "5   7".toList := by
  intro columns
  have hcompile : compile columns =
      .ok ⟨pattern columns, ⟨some 2, some 1, some 3, none, none⟩⟩ := rfl
  have hregex := compile_pattern_of_compile (List.cons_ne_nil _ _) hcompile
  obtain ⟨m, hm⟩ : ∃ m, Regex.search ⟨node columns, groups columns⟩ "5 x 7".toList = some m :=
    ⟨_, by cbv⟩
  obtain ⟨m', hm'⟩ : ∃ m, Regex.search ⟨node columns, groups columns⟩ "5   7".toList = some m :=
    ⟨_, by cbv⟩
  have hrows : Table.candidates (Table.rows "5 x 7\n5   7" "" "") =
      [⟨1, "5 x 7".toList⟩, ⟨2, "5   7".toList⟩] := by cbv
  obtain ⟨r, lines, hr, -, hcovers, -⟩ :=
    search_covers hcompile (List.cons_ne_nil _ _) "5 x 7\n5   7" "" ""
  obtain rfl := Except.ok.inj (hregex.symm.trans hr)
  rw [hrows] at hcovers
  have hout : LeavesOut columns "5   7".toList := by
    have hamount (d : Char) (hd : isDigit d = true) : ColumnKind.number.Admits [d] :=
      ⟨d, [], rfl, hd, by simp⟩
    refine ⟨[⟨none, .number, "Number"⟩], _, [⟨none, .price, "Price"⟩], ['5'],
      List.replicate 3 ' ', ['7'], [['5']], [['7']], rfl, rfl, .last (hamount '5' (by decide)),
      .last (hamount '7' (by decide)), rfl, by simp, fun d hd => ?_⟩
    rw [List.eq_of_mem_replicate hd]
    rfl
  exact ⟨_, _, m, m', hcompile, hregex, hm, (hcovers ⟨1, "5 x 7".toList⟩ (by simp)).1 m hm, hm',
    (hcovers ⟨2, "5   7".toList⟩ (by simp)).1 m' hm', hout⟩

/-- A number and a price with three spaces between them are read as a product. -/
theorem extract_without_text :
    let columns : List Column :=
      [⟨none, .number, "Number"⟩, ⟨none, .text, "Text"⟩, ⟨none, .price, "Price"⟩]
    ∃ p r m, compile columns = .ok p ∧ Regex.compile p.pattern = .ok r ∧
      Table.candidates (Table.rows "5   7" "" "") = [⟨1, "5   7".toList⟩] ∧
      r.search "5   7".toList = some m ∧ (words "5   7".toList).length = 2 ∧
      m.groups = [some ['5'], some [' '], some ['7']] ∧
      (ProductLines.extract "5   7" (.ofLinePattern p "" "")).outcome =
        .ok ⟨[⟨"", ⟨false, 5, 0⟩, ⟨false, 7, 0⟩, none, none, 1⟩], []⟩ := by
  intro columns
  have hcompile : compile columns =
      .ok ⟨pattern columns, ⟨some 2, some 1, some 3, none, none⟩⟩ := rfl
  have hregex := compile_pattern_of_compile (List.cons_ne_nil _ _) hcompile
  refine ⟨_, _, _, hcompile, hregex, by cbv, by cbv, by cbv, rfl, ?_⟩
  rw [ProductLines.extract_of_fit _ (.ofLinePattern ⟨pattern columns, _⟩ "" "") (by decide) hregex
    rfl]
  cbv

end Layout

end OrderSheet
