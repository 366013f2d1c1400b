import OrderSheet.Proofs.Extract.Diagnosis

/-!
# Fields that a line leaves out

A pattern can match a line without the group of a field, or with nothing but whitespace in it. An
item number that is left out in this way is not a problem. A total that is left out is read like any
other, as an empty text, so that the line has a problem with its total. Its product has no total in
either case.
-/

namespace OrderSheet

namespace Table

variable {α : Type} {f : Line → List α} {p : α → Bool} {rows : List Line} {row : Line}

/-- What the rows of a table give falls apart by their numbers. -/
theorem filter_flatMap_eq (hrows : rows.Pairwise fun a b => a.number < b.number)
    (hp : ∀ row', ∀ a ∈ f row', p a = true ↔ row'.number = row.number) (hrow : row ∈ rows) :
    (rows.flatMap f).filter p = f row := by
  have hother (rows' : List Line) (h : ∀ row' ∈ rows', row'.number ≠ row.number) :
      rows'.flatMap (fun row' => (f row').filter p) = [] := by
    refine List.flatMap_eq_nil_iff.mpr fun row' hrow' => List.filter_eq_nil_iff.mpr fun a ha => ?_
    exact fun hpa => h row' hrow' ((hp row' a ha).mp hpa)
  have hself : (f row).filter p = f row :=
    List.filter_eq_self.mpr fun a ha => (hp row a ha).mpr rfl
  obtain ⟨before, after, rfl⟩ := List.append_of_mem hrow
  obtain ⟨-, hafter, hbefore⟩ := List.pairwise_append.mp hrows
  have hlt : ∀ row' ∈ before, row'.number ≠ row.number := fun row' hrow' =>
    (hbefore row' hrow' row (by simp)).ne
  have hgt : ∀ row' ∈ after, row'.number ≠ row.number := fun row' hrow' =>
    ((List.pairwise_cons.mp hafter).1 row' hrow').ne'
  rw [List.filter_flatMap, List.flatMap_append, List.flatMap_cons, hother before hlt,
    hother after hgt, hself, List.nil_append, List.append_nil]

end Table

namespace ProductLines

variable {r : Regex} {m : Regex.Match} {mapping : FieldMapping} {f : ProductField} {line : Nat}
  {rows : List Table.Line} {row : Table.Line} {text : String} {rule : TableRule}

/-- The group of a field takes no part in a match, or has only whitespace in it. A field that is not
mapped is left out of every match. -/
def LeavesOut (m : Regex.Match) (mapping : FieldMapping) (f : ProductField) : Prop :=
  ∀ part, (mapping.get f).bind m.group? = some part → ∀ c ∈ part, Text.isBlank c = true

theorem getD_fieldText_of_leavesOut (h : LeavesOut m mapping f) :
    (fieldText m mapping f).getD "" = "" := by
  rw [fieldText]
  cases hpart : (mapping.get f).bind m.group? with
  | none => rfl
  | some part =>
    rw [Option.map_some, Option.getD_some, Pattern.trimmed,
      Text.strip_eq_nil_iff.mpr (h part hpart)]

/-- A field that is left out is read like an empty text, which is no amount. -/
theorem amount?_of_leavesOut (h : LeavesOut m mapping f) : amount? m mapping f = none := by
  have hshown := getD_fieldText_of_leavesOut h
  rw [amount?]
  cases hs : fieldText m mapping f with
  | none => rfl
  | some s =>
    rw [hs, Option.getD_some] at hshown
    rw [hshown]
    exact Amount.read?_nil

theorem bind_fieldText_of_leavesOut (h : LeavesOut m mapping f) :
    (fieldText m mapping f).bind nonEmpty? = none := by
  rw [Diagnosis.bind_nonEmpty?, getD_fieldText_of_leavesOut h]
  rfl

def unreadable (f : ProductField) (shown : String) (line : Nat) : Problem :=
  ⟨f.name, s!"Could not read '{shown}' as a number", .fieldParse, some line⟩

/-- A field has a problem just if it has no amount, and then it is the one with its text. -/
theorem fieldProblems_eq (m : Regex.Match) (mapping : FieldMapping) (line : Nat)
    (f : ProductField) : fieldProblems m mapping line f =
      if amount? m mapping f = none then [unreadable f ((fieldText m mapping f).getD "") line]
      else [] := by
  cases h : amount? m mapping f with
  | some d => exact fieldProblems_of_amount h
  | none =>
    rw [amount?] at h
    rw [fieldProblems, readField, if_pos rfl]
    simp only [h]
    rfl

theorem totalProblems_eq (m : Regex.Match) (mapping : FieldMapping) (line : Nat) :
    totalProblems m mapping line =
      if mapping.lineTotal.isSome ∧ amount? m mapping .lineTotal = none then
        [unreadable .lineTotal ((fieldText m mapping .lineTotal).getD "") line] else [] := by
  rw [totalProblems, fieldProblems_eq, ← ite_and]

/-- The problems of a line that name the total are those with the total. -/
theorem filter_lineTotal_product (m : Regex.Match) (mapping : FieldMapping) (line : Nat) :
    (product m mapping line).2.filter (·.field = ProductField.lineTotal.name) =
      totalProblems m mapping line := by
  have hother (f : ProductField) (hf : f.name ≠ ProductField.lineTotal.name) :
      (fieldProblems m mapping line f).filter (·.field = ProductField.lineTotal.name) = [] := by
    refine List.filter_eq_nil_iff.mpr fun q hq => ?_
    rw [(of_mem_fieldProblems hq).1]
    simpa using hf
  have hself : (totalProblems m mapping line).filter (·.field = ProductField.lineTotal.name) =
      totalProblems m mapping line :=
    List.filter_eq_self.mpr fun q hq => by simpa using (of_mem_totalProblems hq).1
  rw [product_eq, List.filter_append, List.filter_append, hother _ (by decide),
    hother _ (by decide), hself, List.nil_append, List.nil_append]

theorem field_ne_sku_of_mem_product {q : Problem} (h : q ∈ (product m mapping line).2) :
    q.field ≠ ProductField.sku.name := by
  have hname : ∀ f ∈ [ProductField.quantity, .unitPrice, .lineTotal],
      f.name ≠ ProductField.sku.name := by decide
  obtain ⟨⟨f, hf, hfield⟩, -⟩ := of_mem_product h
  rw [hfield]
  exact hname f hf

/-- How the total and the item number of a line that matches show in the product lines. -/
structure ShowsOptional (m : Regex.Match) (mapping : FieldMapping) (line : Nat)
    (lines : ProductLines) : Prop where
  total_problems : lines.problems.filter (fun q =>
      q.field = ProductField.lineTotal.name ∧ q.line = some line) =
    if mapping.lineTotal.isSome ∧ amount? m mapping .lineTotal = none then
      [unreadable .lineTotal ((fieldText m mapping .lineTotal).getD "") line] else []
  /-- A mapped total that is left out is a problem as well, with an empty text. -/
  total_left_out : mapping.lineTotal.isSome → LeavesOut m mapping .lineTotal →
    lines.problems.filter (fun q =>
      q.field = ProductField.lineTotal.name ∧ q.line = some line) = [unreadable .lineTotal "" line]
  sku_problems : ∀ q ∈ lines.problems, q.field ≠ ProductField.sku.name
  /-- With a quantity and a unit price the line is one product, without what is left out. -/
  product : Readable m mapping → ∃ p, lines.products.filter (·.line = line) = [p] ∧
    p.lineTotal = amount? m mapping .lineTotal ∧
    (LeavesOut m mapping .lineTotal → p.lineTotal = none) ∧
    (LeavesOut m mapping .sku → p.sku = none)
  no_product : ¬ Readable m mapping → lines.products.filter (·.line = line) = []

theorem filter_line_problems (hrows : rows.Pairwise fun a b => a.number < b.number)
    (hrow : row ∈ rows) :
    (rows.flatMap fun row => (contribution r mapping row).2).filter
      (·.line = some row.number) = (contribution r mapping row).2 := by
  refine Table.filter_flatMap_eq (f := fun row => (contribution r mapping row).2) hrows ?_ hrow
  intro row' q hq
  simp [line_of_mem_contribution hq]

theorem filter_line_products (hrows : rows.Pairwise fun a b => a.number < b.number)
    (hrow : row ∈ rows) :
    (rows.filterMap fun row => (contribution r mapping row).1).filter (·.line = row.number) =
      (contribution r mapping row).1.toList := by
  rw [List.filterMap_eq_flatMap_toList]
  refine Table.filter_flatMap_eq (f := fun row => (contribution r mapping row).1.toList) hrows ?_
    hrow
  intro row' p hp
  simp [line_of_contribution (Option.mem_toList.mp hp)]

theorem showsOptional (hrows : rows.Pairwise fun a b => a.number < b.number) (hrow : row ∈ rows)
    (hm : r.search row.text = some m) :
    ShowsOptional m mapping row.number
      ⟨rows.filterMap fun row => (contribution r mapping row).1,
        rows.flatMap fun row => (contribution r mapping row).2⟩ := by
  have hproduct : (rows.filterMap fun row => (contribution r mapping row).1).filter
      (·.line = row.number) = (product m mapping row.number).1.toList := by
    rw [filter_line_products hrows hrow, contribution_of_search hm]
  have htotal : (rows.flatMap fun row => (contribution r mapping row).2).filter (fun q =>
      q.field = ProductField.lineTotal.name ∧ q.line = some row.number) =
      totalProblems m mapping row.number := by
    rw [← filter_lineTotal_product, ← contribution_of_search hm,
      ← filter_line_problems hrows hrow, List.filter_filter]
    simp only [Bool.decide_and]
  refine ⟨htotal.trans (totalProblems_eq ..), fun hmapped hout => ?_, fun q hq => ?_,
    fun hread => ?_, fun hread => ?_⟩
  · rw [htotal, totalProblems_eq, if_pos ⟨hmapped, amount?_of_leavesOut hout⟩,
      getD_fieldText_of_leavesOut hout]
  · obtain ⟨row', -, hq⟩ := List.mem_flatMap.mp hq
    obtain ⟨m', -, hq⟩ := exists_of_mem_contribution hq
    exact field_ne_sku_of_mem_product hq
  · obtain ⟨p, hp, -⟩ := product_of_readable row.number hread
    obtain ⟨q, u, -, -, rfl⟩ := product_eq_some_iff.mp hp
    exact ⟨_, by rw [hproduct, hp]; rfl, rfl, amount?_of_leavesOut, bind_fieldText_of_leavesOut⟩
  · rw [hproduct, (product_of_not_readable row.number hread).1]
    rfl

/-- Product lines are read with every pattern that compiles. If it fits the mapping, then every line
of the table that it matches shows its total and its item number as they stand in the line, and a
total that is mapped and left out is a problem. Otherwise no line has a product or a problem. -/
theorem extract_optional (text : String) (rule : TableRule)
    (hc : Regex.compile rule.linePattern = .ok r) :
    ∃ lines, (extract text rule).outcome = .ok lines ∧
      (rule.linePattern = "" ∨ rule.mapping.fault? r.groups ≠ none →
        lines.products = [] ∧ ∀ q ∈ lines.problems, q.line = none) ∧
      (rule.linePattern ≠ "" → rule.mapping.fault? r.groups = none →
        ∀ row ∈ Table.candidates (Table.rows text rule.startMarker rule.endMarker), ∀ m,
          r.search row.text = some m → ShowsOptional m rule.mapping row.number lines) := by
  by_cases hempty : rule.linePattern = ""
  · refine ⟨empty, by rw [extract_of_empty hempty]; rfl, fun _ => ⟨rfl, by simp [empty]⟩,
      fun hne => absurd hempty hne⟩
  · cases hfit : rule.mapping.fault? r.groups with
    | some misfit =>
      refine ⟨_, by rw [extract_of_misfit text rule hempty hc hfit]; rfl,
        fun _ => ⟨rfl, by simp⟩, fun _ hnone => ?_⟩
      cases hnone
    | none =>
      refine ⟨_, by rw [extract_of_fit text rule hempty hc hfit, outcome_readRows], fun h => ?_,
        fun _ _ row hrow m hm => showsOptional (Table.pairwise_number_candidates ..) hrow hm⟩
      rcases h with h | h
      · exact absurd h hempty
      · exact absurd rfl h

/-- The second of two lines leaves its total out. -/
theorem extract_optional_two_lines :
    let rule : TableRule := ⟨"", "", "(a)(1)(2)(3)?", ⟨some 1, some 2, some 3, none, some 4⟩⟩
    ∃ r lines, Regex.compile rule.linePattern = .ok r ∧
      (extract "a123\na12" rule).outcome = .ok lines ∧
      (∃ m, r.search "a123".toList = some m ∧ ShowsOptional m rule.mapping 1 lines) ∧
      ∃ m, r.search "a12".toList = some m ∧ LeavesOut m rule.mapping .lineTotal ∧
        ShowsOptional m rule.mapping 2 lines := by
  intro rule
  obtain ⟨r, hc, m, m', hm, hm', hgroups, hout⟩ : ∃ r, Regex.compile rule.linePattern = .ok r ∧
      ∃ m m', r.search "a123".toList = some m ∧ r.search "a12".toList = some m' ∧
        r.groups = 4 ∧ m'.group? 4 = none :=
    ⟨_, by cbv, _, _, by cbv, by cbv, rfl, rfl⟩
  have hrows : Table.candidates (Table.rows "a123\na12" rule.startMarker rule.endMarker) =
      [⟨1, "a123".toList⟩, ⟨2, "a12".toList⟩] := by cbv
  have hleft : LeavesOut m' rule.mapping .lineTotal := by
    intro part hpart
    cases hout.symm.trans hpart
  obtain ⟨lines, hlines, -, hshows⟩ := extract_optional "a123\na12" rule hc
  have hshown := hshows (by decide) (by rw [hgroups]; rfl)
  rw [hrows] at hshown
  exact ⟨r, lines, hc, hlines, ⟨m, hm, hshown ⟨1, "a123".toList⟩ (by simp) m hm⟩, m', hm', hleft,
    hshown ⟨2, "a12".toList⟩ (by simp) m' hm'⟩

/-- A line whose group for the total takes no part in the match has a problem with the total. -/
theorem extract_without_total :
    let rule : TableRule := ⟨"", "", "(a)(1)(2)(3)?", ⟨some 1, some 2, some 3, none, some 4⟩⟩
    ∃ data r m, Data.checkTableRule data = .pass rule ∧ Regex.compile rule.linePattern = .ok r ∧
      Table.candidates (Table.rows "a12" "" "") = [⟨1, "a12".toList⟩] ∧
      r.search "a12".toList = some m ∧ m.group? 4 = none ∧
      (extract "a12" rule).outcome = .ok ⟨[⟨"a", ⟨false, 1, 0⟩, ⟨false, 2, 0⟩, none, none, 1⟩],
        [⟨"line_total", "Could not read '' as a number", .fieldParse, some 1⟩]⟩ := by
  intro rule
  have hcheck : Data.checkTableRule (.map [(.text "line_pattern", .text "(a)(1)(2)(3)?"),
      (.text "field_mapping", .map [(.text "description", .int 1), (.text "quantity", .int 2),
        (.text "unit_price", .int 3), (.text "line_total", .int 4)])]) = .pass rule := rfl
  exact ⟨_, _, _, hcheck, by cbv, by cbv, by cbv, rfl, by cbv⟩

end ProductLines

end OrderSheet
