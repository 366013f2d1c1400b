import Mathlib
import OrderSheet.Extract.Lines
import OrderSheet.Proofs.Extract.Rows

/-!
# Accounting for the lines of a table

Every line that the pattern matches gives a product, or a problem with its quantity or unit price.
The line numbers say which, and no line is lost or counted twice.
-/

namespace OrderSheet

/-- Faults that a reader of patterns is told about; any other stops the activity. -/
def Regex.Fault.isReported : Regex.Fault → Bool
  | .malformed .. | .unsupported _ => true
  | _ => false

namespace Pattern

variable {field pattern : String} {r : Regex} {fault : Regex.Fault}

theorem tryCompile_of_ok (h : Regex.compile pattern = .ok r) :
    tryCompile field pattern = pure (.ok r) := by
  rw [tryCompile, h]

theorem tryCompile_of_reported (h : Regex.compile pattern = .error fault)
    (hf : fault.isReported = true) :
    tryCompile field pattern =
      ⟨[⟨.warning, source, "Pattern failed to compile"⟩], .ok (.error fault)⟩ := by
  rw [tryCompile, h]
  cases fault with
  | malformed | unsupported => rfl
  | _ => cases hf

/-- A pattern that cannot be built stops the activity. -/
theorem tryCompile_of_unreported (h : Regex.compile pattern = .error fault)
    (hf : fault.isReported = false) :
    tryCompile field pattern = Activity.fail (.pattern field pattern fault) := by
  rw [tryCompile, h]
  cases fault with
  | malformed | unsupported => cases hf
  | _ => rfl

end Pattern

namespace Table

theorem pairwise_number_lines (document : List Char) :
    (lines document).Pairwise fun a b => a.number < b.number := by
  rw [lines, List.pairwise_map, List.pairwise_iff_getElem]
  intro i j hi hj hij
  simpa using hij

theorem pairwise_number_candidates (document startMarker endMarker : String) :
    (candidates (rows document startMarker endMarker)).Pairwise
      fun a b => a.number < b.number :=
  (pairwise_number_lines document.toList).sublist <|
    List.filter_sublist.trans (rows_sublist ..)

end Table

namespace ProductLines

variable {r : Regex} {m : Regex.Match} {mapping : FieldMapping} {line : Nat} {f : ProductField}
  {row : Table.Line} {rows : List Table.Line}

def amount? (m : Regex.Match) (mapping : FieldMapping) (f : ProductField) : Option Decimal :=
  (fieldText m mapping f).bind fun s => Amount.read? Amount.Format.commaDecimal s.toList

theorem readField_of_amount {d : Decimal} (h : amount? m mapping f = some d) :
    readField m mapping line f = (some d, []) := by
  rw [readField]
  rw [amount?] at h
  simp only [h]

theorem readField_of_none (line : Nat) (h : amount? m mapping f = none) :
    ∃ message, readField m mapping line f =
      (none, [⟨f.name, message, .fieldParse, some line⟩]) := by
  rw [readField]
  rw [amount?] at h
  simp only [h]
  exact ⟨_, rfl⟩

def isMandatory (p : Problem) : Bool :=
  p.kind = .fieldParse && (p.field = ProductField.quantity.name ||
    p.field = ProductField.unitPrice.name)

def Readable (m : Regex.Match) (mapping : FieldMapping) : Prop :=
  (amount? m mapping .quantity).isSome ∧ (amount? m mapping .unitPrice).isSome

instance (m : Regex.Match) (mapping : FieldMapping) : Decidable (Readable m mapping) :=
  inferInstanceAs (Decidable (_ ∧ _))

def fieldProblems (m : Regex.Match) (mapping : FieldMapping) (line : Nat) (f : ProductField) :
    List Problem :=
  (readField m mapping line f).2

theorem readField_eq (m : Regex.Match) (mapping : FieldMapping) (line : Nat) (f : ProductField) :
    readField m mapping line f = (amount? m mapping f, fieldProblems m mapping line f) := by
  refine Prod.ext ?_ rfl
  cases h : amount? m mapping f with
  | some d => rw [readField_of_amount h]
  | none =>
    obtain ⟨message, hread⟩ := readField_of_none line h
    rw [hread]

theorem fieldProblems_of_amount {d : Decimal} (h : amount? m mapping f = some d) :
    fieldProblems m mapping line f = [] := by
  rw [fieldProblems, readField_of_amount h]

theorem fieldProblems_of_none (line : Nat) (h : amount? m mapping f = none) :
    ∃ message, fieldProblems m mapping line f =
      [⟨f.name, message, .fieldParse, some line⟩] := by
  obtain ⟨message, hread⟩ := readField_of_none line h
  exact ⟨message, by rw [fieldProblems, hread]⟩

/-- The problems of a field name it and carry the number of the line. -/
theorem of_mem_fieldProblems {p : Problem} (h : p ∈ fieldProblems m mapping line f) :
    p.field = f.name ∧ p.kind = .fieldParse ∧ p.line = some line := by
  cases ha : amount? m mapping f with
  | some d => simp [fieldProblems_of_amount ha] at h
  | none =>
    obtain ⟨message, hproblems⟩ := fieldProblems_of_none line ha
    rw [hproblems, List.mem_singleton] at h
    rw [h]
    exact ⟨rfl, rfl, rfl⟩

/-- The problems with the total of a line, which is read only if it is mapped. -/
def totalProblems (m : Regex.Match) (mapping : FieldMapping) (line : Nat) : List Problem :=
  if mapping.lineTotal.isSome then fieldProblems m mapping line .lineTotal else []

theorem of_mem_totalProblems {p : Problem} (h : p ∈ totalProblems m mapping line) :
    p.field = ProductField.lineTotal.name ∧ p.kind = .fieldParse ∧ p.line = some line := by
  unfold totalProblems at h
  split at h
  · exact of_mem_fieldProblems h
  · cases h

theorem amount?_of_unmapped (h : mapping.get f = none) : amount? m mapping f = none := by
  simp [amount?, fieldText, h]

/-- A line is a product if both mandatory numbers can be read. -/
theorem product_eq (m : Regex.Match) (mapping : FieldMapping) (line : Nat) :
    product m mapping line =
      ((amount? m mapping .quantity).bind fun q => (amount? m mapping .unitPrice).map fun u =>
        ⟨(fieldText m mapping .description).getD "", q, u,
          (fieldText m mapping .sku).bind nonEmpty?, amount? m mapping .lineTotal, line⟩,
      fieldProblems m mapping line .quantity ++ fieldProblems m mapping line .unitPrice ++
        totalProblems m mapping line) := by
  have htotal : (if mapping.lineTotal.isSome then readField m mapping line .lineTotal
      else (none, [])) = (amount? m mapping .lineTotal, totalProblems m mapping line) := by
    unfold totalProblems
    split
    · exact readField_eq ..
    · next h => rw [amount?_of_unmapped (by simpa [FieldMapping.get] using h)]
  rw [product, htotal, readField_eq, readField_eq]
  cases amount? m mapping .quantity <;> cases amount? m mapping .unitPrice <;> rfl

theorem product_eq_some_iff {p : Product} : (product m mapping line).1 = some p ↔
    ∃ q u, amount? m mapping .quantity = some q ∧ amount? m mapping .unitPrice = some u ∧
      p = ⟨(fieldText m mapping .description).getD "", q, u,
        (fieldText m mapping .sku).bind nonEmpty?, amount? m mapping .lineTotal, line⟩ := by
  rw [product_eq, Option.bind_eq_some_iff]
  constructor
  · rintro ⟨q, hq, h⟩
    obtain ⟨u, hu, rfl⟩ := Option.map_eq_some_iff.mp h
    exact ⟨q, u, hq, hu, rfl⟩
  · rintro ⟨q, u, hq, hu, rfl⟩
    exact ⟨q, hq, Option.map_eq_some_iff.mpr ⟨u, hu, rfl⟩⟩

/-- A line with a quantity and a unit price is a product of its own. -/
theorem product_of_readable (line : Nat) (h : Readable m mapping) :
    ∃ p, (product m mapping line).1 = some p ∧ p.line = line ∧
      ∀ q ∈ (product m mapping line).2, isMandatory q = false := by
  obtain ⟨q, hq⟩ := Option.isSome_iff_exists.mp h.1
  obtain ⟨u, hu⟩ := Option.isSome_iff_exists.mp h.2
  rw [product_eq, hq, hu, fieldProblems_of_amount hq, fieldProblems_of_amount hu]
  refine ⟨_, rfl, rfl, fun p hp => ?_⟩
  obtain ⟨hfield, -, -⟩ := of_mem_totalProblems hp
  simp [isMandatory, hfield, ProductField.name]

theorem exists_problem (line : Nat) (hf : f = .quantity ∨ f = .unitPrice)
    (h : amount? m mapping f = none) :
    ∃ q ∈ fieldProblems m mapping line f, isMandatory q = true ∧ q.line = some line := by
  obtain ⟨message, hproblems⟩ := fieldProblems_of_none line h
  refine ⟨_, by rw [hproblems]; exact List.mem_singleton_self _, ?_, rfl⟩
  rcases hf with rfl | rfl <;> simp [isMandatory]

/-- A line without a quantity or without a unit price is a problem. -/
theorem product_of_not_readable (line : Nat) (h : ¬ Readable m mapping) :
    (product m mapping line).1 = none ∧
      ∃ q ∈ (product m mapping line).2, isMandatory q = true ∧ q.line = some line := by
  rw [product_eq]
  cases hq : amount? m mapping .quantity with
  | none =>
    obtain ⟨q, hmem, hq⟩ := exists_problem line (Or.inl rfl) hq
    exact ⟨rfl, q, List.mem_append_left _ (List.mem_append_left _ hmem), hq⟩
  | some d =>
    cases hu : amount? m mapping .unitPrice with
    | none =>
      obtain ⟨q, hmem, hq⟩ := exists_problem line (Or.inr rfl) hu
      exact ⟨rfl, q, List.mem_append_left _ (List.mem_append_right _ hmem), hq⟩
    | some u => exact absurd ⟨by simp [hq], by simp [hu]⟩ h

/-- A line only has problems with its amounts, and they carry its number. -/
theorem of_mem_product {q : Problem} (h : q ∈ (product m mapping line).2) :
    (∃ f ∈ [ProductField.quantity, .unitPrice, .lineTotal], q.field = f.name) ∧
      q.kind = .fieldParse ∧ q.line = some line := by
  rw [product_eq, List.mem_append, List.mem_append] at h
  rcases h with (h | h) | h
  · obtain ⟨hfield, hrest⟩ := of_mem_fieldProblems h
    exact ⟨⟨_, by simp, hfield⟩, hrest⟩
  · obtain ⟨hfield, hrest⟩ := of_mem_fieldProblems h
    exact ⟨⟨_, by simp, hfield⟩, hrest⟩
  · obtain ⟨hfield, hrest⟩ := of_mem_totalProblems h
    exact ⟨⟨_, by simp, hfield⟩, hrest⟩

def contribution (r : Regex) (mapping : FieldMapping) (row : Table.Line) :
    Option Product × List Problem :=
  match r.search row.text with
  | none => (none, [])
  | some m => product m mapping row.number

def unreadableLines (problems : List Problem) : List Nat :=
  ((problems.filter isMandatory).filterMap Problem.line).dedup

/-- How the lines of a table show in its products and problems. -/
structure Accounts (r : Regex) (mapping : FieldMapping) (rows : List Table.Line)
    (result : ProductLines) : Prop where
  products_eq : result.products = rows.filterMap fun row => (contribution r mapping row).1
  problems_eq : result.problems = rows.flatMap fun row => (contribution r mapping row).2
  unmatched : ∀ row ∈ rows, r.search row.text = none → contribution r mapping row = (none, [])
  readable : ∀ row ∈ rows, ∀ m, r.search row.text = some m → Readable m mapping →
    ∃ p, (contribution r mapping row).1 = some p ∧ p.line = row.number
  /-- A line that cannot be read gives no product and a problem with its number. -/
  unreadable : ∀ row ∈ rows, ∀ m, r.search row.text = some m → ¬ Readable m mapping →
    (contribution r mapping row).1 = none ∧
      ∃ q ∈ (contribution r mapping row).2, isMandatory q = true ∧ q.line = some row.number
  increasing : (result.products.map Product.line).Pairwise (· < ·)
  /-- Every line that matches is a product or a line with a problem. -/
  count_eq : rows.countP (fun row => (r.search row.text).isSome) =
    result.products.length + (unreadableLines result.problems).length

theorem readRow_of_oversized (h : row.isOversized = true) :
    readRow r mapping row = ⟨none, [], [Table.oversizedRecord]⟩ := by
  rw [readRow, if_pos h]

theorem readRow_of_not_oversized (h : row.isOversized = false) :
    (readRow r mapping row).product = (contribution r mapping row).1 ∧
      (readRow r mapping row).problems = (contribution r mapping row).2 := by
  rw [readRow, if_neg (by simp [h]), contribution]
  cases r.search row.text <;> exact ⟨rfl, rfl⟩

theorem filterMap_readRow (r : Regex) (mapping : FieldMapping) (rows : List Table.Line) :
    (rows.map (readRow r mapping)).filterMap RowResult.product =
      (Table.candidates rows).filterMap fun row => (contribution r mapping row).1 := by
  rw [List.filterMap_map, Table.candidates, List.filterMap_filter]
  refine List.filterMap_congr fun row _ => ?_
  by_cases h : row.isOversized
  · simp [readRow_of_oversized h, h]
  · simp [(readRow_of_not_oversized (Bool.eq_false_of_not_eq_true h)).1, h]

theorem flatMap_readRow (r : Regex) (mapping : FieldMapping) (rows : List Table.Line) :
    (rows.map (readRow r mapping)).flatMap RowResult.problems =
      (Table.candidates rows).flatMap fun row => (contribution r mapping row).2 := by
  induction rows with
  | nil => rfl
  | cons row rows ih =>
    rw [List.map_cons, List.flatMap_cons, ih]
    by_cases h : row.isOversized
    · simp [Table.candidates, readRow_of_oversized h, h]
    · simp [Table.candidates, (readRow_of_not_oversized (Bool.eq_false_of_not_eq_true h)).2, h]

/-- The rows of a table give what its candidates give, one after the other. -/
theorem outcome_readRows (r : Regex) (mapping : FieldMapping) (rows : List Table.Line) :
    (readRows r mapping rows).outcome =
      .ok ⟨(Table.candidates rows).filterMap fun row => (contribution r mapping row).1,
        (Table.candidates rows).flatMap fun row => (contribution r mapping row).2⟩ := by
  rw [← filterMap_readRow, ← flatMap_readRow, readRows]

theorem contribution_of_search (h : r.search row.text = some m) :
    contribution r mapping row = product m mapping row.number := by
  rw [contribution, h]

theorem contribution_of_none (h : r.search row.text = none) :
    contribution r mapping row = (none, []) := by
  rw [contribution, h]

theorem exists_of_contribution {p : Product} (h : (contribution r mapping row).1 = some p) :
    ∃ m, r.search row.text = some m ∧ (product m mapping row.number).1 = some p := by
  cases hm : r.search row.text with
  | none => simp [contribution_of_none hm] at h
  | some m => exact ⟨m, rfl, by rwa [contribution_of_search hm] at h⟩

theorem exists_of_mem_contribution {q : Problem} (h : q ∈ (contribution r mapping row).2) :
    ∃ m, r.search row.text = some m ∧ q ∈ (product m mapping row.number).2 := by
  cases hm : r.search row.text with
  | none => simp [contribution_of_none hm] at h
  | some m => exact ⟨m, rfl, by rwa [contribution_of_search hm] at h⟩

theorem line_of_contribution {p : Product} (h : (contribution r mapping row).1 = some p) :
    p.line = row.number := by
  obtain ⟨m, -, hp⟩ := exists_of_contribution h
  obtain ⟨q, u, -, -, rfl⟩ := product_eq_some_iff.mp hp
  rfl

theorem line_of_mem_contribution {q : Problem} (h : q ∈ (contribution r mapping row).2) :
    q.line = some row.number := by
  obtain ⟨m, -, hq⟩ := exists_of_mem_contribution h
  exact (of_mem_product hq).2.2

def unread (r : Regex) (mapping : FieldMapping) (row : Table.Line) : Bool :=
  (r.search row.text).isSome && (contribution r mapping row).1.isNone

/-- The problems with mandatory numbers are those of the lines that match without being a
product. -/
theorem exists_mandatory_iff {n : Nat} :
    (∃ q ∈ (contribution r mapping row).2, isMandatory q = true ∧ q.line = some n) ↔
      unread r mapping row = true ∧ row.number = n := by
  cases hm : r.search row.text with
  | none => simp [contribution_of_none hm, unread, hm]
  | some m =>
    rw [contribution_of_search hm, unread, hm, contribution_of_search hm]
    by_cases hread : Readable m mapping
    · obtain ⟨p, hp, -, hnone⟩ := product_of_readable row.number hread
      rw [hp]
      constructor
      · rintro ⟨q, hq, hmandatory, -⟩
        rw [hnone q hq] at hmandatory
        cases hmandatory
      · rintro ⟨h, -⟩
        cases h
    · obtain ⟨hnone, q, hq, hmandatory, hline⟩ :=
        product_of_not_readable row.number hread
      rw [hnone]
      constructor
      · rintro ⟨q', hq', -, hline'⟩
        rw [(of_mem_product hq').2.2] at hline'
        exact ⟨rfl, Option.some.inj hline'⟩
      · rintro ⟨-, rfl⟩
        exact ⟨q, hq, hmandatory, hline⟩

theorem length_unreadableLines (hrows : rows.Pairwise fun a b => a.number < b.number) :
    (unreadableLines (rows.flatMap fun row => (contribution r mapping row).2)).length =
      rows.countP (unread r mapping) := by
  have hnodup : ((rows.filter (unread r mapping)).map Table.Line.number).Nodup := by
    rw [List.Nodup, List.pairwise_map]
    exact (hrows.sublist List.filter_sublist).imp Nat.ne_of_lt
  rw [unreadableLines, ← List.card_toFinset, List.countP_eq_length_filter,
    ← List.length_map Table.Line.number, ← List.toFinset_card_of_nodup hnodup]
  congr 1
  ext n
  simp only [List.mem_toFinset, List.mem_filterMap, List.mem_filter, List.mem_flatMap,
    List.mem_map]
  constructor
  · rintro ⟨q, ⟨⟨row, hrow, hq⟩, hmandatory⟩, hline⟩
    obtain ⟨hunread, hn⟩ := exists_mandatory_iff.mp ⟨q, hq, hmandatory, hline⟩
    exact ⟨row, ⟨hrow, hunread⟩, hn⟩
  · rintro ⟨row, ⟨hrow, hunread⟩, hn⟩
    obtain ⟨q, hq, hmandatory, hline⟩ := exists_mandatory_iff.mpr ⟨hunread, hn⟩
    exact ⟨q, ⟨⟨row, hrow, hq⟩, hmandatory⟩, hline⟩

/-- A line matches if it is a product or matches without being one. -/
theorem countP_search (r : Regex) (mapping : FieldMapping) (rows : List Table.Line) :
    rows.countP (fun row => (r.search row.text).isSome) =
      rows.countP (fun row => (contribution r mapping row).1.isSome) +
        rows.countP (unread r mapping) := by
  induction rows with
  | nil => rfl
  | cons row rows ih =>
    simp only [List.countP_cons, ih]
    cases hm : r.search row.text with
    | none => simp [contribution_of_none hm, unread, hm]
    | some m =>
      cases hp : (contribution r mapping row).1 with
      | none =>
        have hunread : unread r mapping row = true := by rw [unread, hm, hp]; rfl
        simp [hunread, Nat.add_assoc]
      | some p =>
        have hunread : unread r mapping row = false := by rw [unread, hm, hp]; rfl
        simp only [hunread, Option.isSome_some, if_true, Bool.false_eq_true, if_false]
        omega

theorem accounts (r : Regex) (mapping : FieldMapping)
    (hrows : rows.Pairwise fun a b => a.number < b.number) :
    Accounts r mapping rows
      ⟨rows.filterMap fun row => (contribution r mapping row).1,
        rows.flatMap fun row => (contribution r mapping row).2⟩ where
  products_eq := rfl
  problems_eq := rfl
  unmatched _ _ h := contribution_of_none h
  readable row _ m hm hread := by
    obtain ⟨p, hp, hline, -⟩ := product_of_readable row.number hread
    exact ⟨p, by rw [contribution_of_search hm, hp], hline⟩
  unreadable row _ m hm hread := by
    rw [contribution_of_search hm]
    exact product_of_not_readable row.number hread
  increasing := by
    rw [List.pairwise_map, List.pairwise_filterMap]
    refine hrows.imp fun hlt p hp q hq => ?_
    rwa [line_of_contribution hp, line_of_contribution hq]
  count_eq := by
    rw [countP_search r mapping, List.length_filterMap_eq_countP, length_unreadableLines hrows]

variable {text : String} {rule : TableRule} {fault : Regex.Fault}

theorem extract_of_empty (h : rule.linePattern = "") : extract text rule = pure empty := by
  rw [extract, h]
  rfl

theorem nonEmpty?_of_ne {s : String} (h : s ≠ "") : nonEmpty? s = some s := by
  simp [nonEmpty?, h]

theorem outcome_extract_of_fault (text : String) (rule : TableRule)
    (hne : rule.linePattern ≠ "")
    (hc : Regex.compile rule.linePattern = .error fault) (hf : fault.isReported = true) :
    (extract text rule).outcome =
      .ok ⟨[], [patternProblem patternField rule.linePattern fault]⟩ := by
  simp only [extract, nonEmpty?_of_ne hne, Pattern.tryCompile_of_reported hc hf]
  rfl

/-- A pattern that cannot be built stops the extraction. -/
theorem outcome_extract_of_unreported (text : String) (rule : TableRule)
    (hne : rule.linePattern ≠ "")
    (hc : Regex.compile rule.linePattern = .error fault) (hf : fault.isReported = false) :
    (extract text rule).outcome = .error (.pattern patternField rule.linePattern fault) := by
  simp only [extract, nonEmpty?_of_ne hne, Pattern.tryCompile_of_unreported hc hf]
  rfl

/-- A mapping that does not fit the pattern gives one problem. -/
theorem extract_of_misfit {misfit : MappingFault} (text : String) (rule : TableRule)
    (hne : rule.linePattern ≠ "")
    (hc : Regex.compile rule.linePattern = .ok r)
    (hm : rule.mapping.fault? r.groups = some misfit) :
    extract text rule =
      pure ⟨[], [⟨"field_mapping", misfit.message, .fieldMapping, none⟩]⟩ := by
  simp [extract, nonEmpty?_of_ne hne, Pattern.tryCompile_of_ok hc, hm, bind, pure]

/-- A pattern that fits its mapping reads the rows of the table. -/
theorem extract_of_fit (text : String) (rule : TableRule)
    (hne : rule.linePattern ≠ "")
    (hc : Regex.compile rule.linePattern = .ok r) (hm : rule.mapping.fault? r.groups = none) :
    extract text rule =
      readRows r rule.mapping (Table.rows text rule.startMarker rule.endMarker) := by
  simp [extract, nonEmpty?_of_ne hne, Pattern.tryCompile_of_ok hc, hm, bind, pure]

theorem outcome_extract_cases {result : ProductLines}
    (h : (extract text rule).outcome = .ok result) :
    (rule.linePattern = "" ∧ result = empty) ∨
      (∃ fault, rule.linePattern ≠ "" ∧ Regex.compile rule.linePattern = .error fault ∧
        result = ⟨[], [patternProblem patternField rule.linePattern fault]⟩) ∨
      (∃ r misfit, rule.linePattern ≠ "" ∧ Regex.compile rule.linePattern = .ok r ∧
        rule.mapping.fault? r.groups = some misfit ∧
        result = ⟨[], [⟨"field_mapping", misfit.message, .fieldMapping, none⟩]⟩) ∨
      ∃ r, rule.linePattern ≠ "" ∧ Regex.compile rule.linePattern = .ok r ∧
        rule.mapping.fault? r.groups = none ∧
        let rows := Table.candidates (Table.rows text rule.startMarker rule.endMarker)
        result = ⟨rows.filterMap fun row => (contribution r rule.mapping row).1,
          rows.flatMap fun row => (contribution r rule.mapping row).2⟩ := by
  by_cases hempty : rule.linePattern = ""
  · rw [extract_of_empty hempty] at h
    exact .inl ⟨hempty, (Except.ok.inj h).symm⟩
  · refine .inr ?_
    cases hc : Regex.compile rule.linePattern with
    | error fault =>
      cases hf : fault.isReported with
      | true =>
        rw [outcome_extract_of_fault text rule hempty hc hf] at h
        exact .inl ⟨fault, hempty, rfl, (Except.ok.inj h).symm⟩
      | false =>
        rw [outcome_extract_of_unreported text rule hempty hc hf] at h
        cases h
    | ok r =>
      refine .inr ?_
      cases hm : rule.mapping.fault? r.groups with
      | some misfit =>
        rw [extract_of_misfit text rule hempty hc hm] at h
        exact .inl ⟨r, misfit, hempty, rfl, hm, (Except.ok.inj h).symm⟩
      | none =>
        rw [extract_of_fit text rule hempty hc hm, outcome_readRows] at h
        exact .inr ⟨r, hempty, rfl, hm, (Except.ok.inj h).symm⟩

/-- Product lines are read if the pattern compiles and fits its mapping, and then every line is
accounted for. Otherwise there are no products, and one problem unless the pattern is empty. -/
theorem extract_accounts (text : String) (rule : TableRule) :
    (rule.linePattern = "" → (extract text rule).outcome = .ok empty) ∧
    (∀ fault, rule.linePattern ≠ "" → Regex.compile rule.linePattern = .error fault →
      fault.isReported = true →
      ∃ p, (extract text rule).outcome = .ok ⟨[], [p]⟩ ∧ p.line = none) ∧
    (∀ r, rule.linePattern ≠ "" → Regex.compile rule.linePattern = .ok r →
      rule.mapping.fault? r.groups ≠ none →
      ∃ p, (extract text rule).outcome = .ok ⟨[], [p]⟩ ∧ p.line = none) ∧
    ∀ r, rule.linePattern ≠ "" → Regex.compile rule.linePattern = .ok r →
      rule.mapping.fault? r.groups = none →
      ∃ result, (extract text rule).outcome = .ok result ∧
        Accounts r rule.mapping
          (Table.candidates (Table.rows text rule.startMarker rule.endMarker)) result := by
  refine ⟨fun h => ?_, fun fault hne hc hf => ?_, fun r hne hc hm => ?_, fun r hne hc hm => ?_⟩
  · rw [extract_of_empty h]
    rfl
  · exact ⟨_, outcome_extract_of_fault text rule hne hc hf, rfl⟩
  · obtain ⟨misfit, hmisfit⟩ := Option.ne_none_iff_exists'.mp hm
    exact ⟨_, by rw [extract_of_misfit text rule hne hc hmisfit]; rfl, rfl⟩
  · refine ⟨_, ?_, accounts r rule.mapping (Table.pairwise_number_candidates ..)⟩
    rw [extract_of_fit text rule hne hc hm, outcome_readRows]

theorem extract_accounts_three_groups :
    ∃ r result, Regex.compile "(a)(1)(2)" = .ok r ∧
      (extract "a12" ⟨"", "", "(a)(1)(2)", ⟨some 1, some 2, some 3, none, none⟩⟩).outcome =
        .ok result ∧
      Accounts r ⟨some 1, some 2, some 3, none, none⟩ (Table.candidates (Table.rows "a12" "" ""))
        result := by
  obtain ⟨r, hr, hgroups⟩ : ∃ r, Regex.compile "(a)(1)(2)" = .ok r ∧ r.groups = 3 :=
    ⟨_, by cbv, rfl⟩
  obtain ⟨-, -, -, hfit⟩ :=
    extract_accounts "a12" ⟨"", "", "(a)(1)(2)", ⟨some 1, some 2, some 3, none, none⟩⟩
  obtain ⟨result, hresult, haccounts⟩ := hfit r (by decide) hr (by rw [hgroups]; rfl)
  exact ⟨r, result, hr, hresult, haccounts⟩

end ProductLines

end OrderSheet
