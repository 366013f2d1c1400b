import Mathlib
import OrderSheet.Proofs.Extract.Diagnosis

/-!
# Lookups of groups

A match has the groups of its pattern, and to ask it for another one is an error. Here tables are
read and diagnosed with lookups that can fail in this way. Nothing else comes out than without
failures: a mapping is checked before the first lookup, and a diagnosis leaves out the fields whose
group it does not have.
-/

namespace OrderSheet

namespace Regex

structure OutOfRange where
  index : Nat
  groups : Nat
  deriving DecidableEq, Repr

def Match.lookup (m : Match) (index : Nat) : Except OutOfRange (Option (List Char)) :=
  if index ≤ m.groups.length then .ok (m.group? index) else .error ⟨index, m.groups.length⟩

theorem Match.lookup_eq_ok_iff {m : Match} {index : Nat} :
    m.lookup index = .ok (m.group? index) ↔ index ≤ m.groups.length := by
  rw [lookup]
  split
  · next h => simp [h]
  · next h => simp [h]

end Regex

open Regex (OutOfRange)

abbrev Lookups (α : Type) : Type := ExceptT OutOfRange Activity α

theorem Lookups.run_liftM {α : Type} (x : Activity α) :
    (liftM x : Lookups α).run = Except.ok <$> x := rfl

namespace ProductLines

variable {r : Regex} {m : Regex.Match} {mapping : FieldMapping} {line : Nat} {f : ProductField}
  {row : Table.Line}

/-- The trimmed text of a mapped group, if the field is mapped and the group takes part. -/
def lookupText (m : Regex.Match) (mapping : FieldMapping) (f : ProductField) :
    Except OutOfRange (Option String) := do
  match mapping.get f with
  | none => return none
  | some i => return (← m.lookup i).map Pattern.trimmed

def readText (raw : Option String) (line : Nat) (f : ProductField) :
    Option Decimal × List Problem :=
  match raw.bind fun s => Amount.read? Amount.Format.commaDecimal s.toList with
  | some d => (some d, [])
  | none =>
    let shown := raw.getD ""
    (none, [⟨f.name, s!"Could not read '{shown}' as a number", .fieldParse, some line⟩])

def lookupField (m : Regex.Match) (mapping : FieldMapping) (line : Nat) (f : ProductField) :
    Except OutOfRange (Option Decimal × List Problem) := do
  return readText (← lookupText m mapping f) line f

def lookupTotal (m : Regex.Match) (mapping : FieldMapping) (line : Nat) :
    Except OutOfRange (Option Decimal × List Problem) :=
  if mapping.lineTotal.isSome then lookupField m mapping line .lineTotal else .ok (none, [])

/-- The product of a matched line. The texts of a line without a quantity or a unit price are not
looked up. -/
def lookupProduct (m : Regex.Match) (mapping : FieldMapping) (line : Nat) :
    Except OutOfRange (Option Product × List Problem) := do
  let (quantity, quantityProblems) ← lookupField m mapping line .quantity
  let (unitPrice, priceProblems) ← lookupField m mapping line .unitPrice
  let (lineTotal, totalProblems) ← lookupTotal m mapping line
  let problems := quantityProblems ++ priceProblems ++ totalProblems
  match quantity, unitPrice with
  | some q, some u =>
    let description ← lookupText m mapping .description
    let sku ← lookupText m mapping .sku
    return (some ⟨description.getD "", q, u, sku.bind nonEmpty?, lineTotal, line⟩, problems)
  | _, _ => return (none, problems)

def lookupRow (r : Regex) (mapping : FieldMapping) (row : Table.Line) :
    Except OutOfRange RowResult := do
  if row.isOversized then return ⟨none, [], [Table.oversizedRecord]⟩
  else
    match r.search row.text with
    | none => return ⟨none, [], []⟩
    | some m =>
      let (p, problems) ← lookupProduct m mapping row.number
      return ⟨p, problems, if p.isNone then [unreadableRecord] else []⟩

def lookupRows (r : Regex) (mapping : FieldMapping) (rows : List Table.Line) :
    Lookups (List RowResult) :=
  rows.mapM fun row => do
    let result ← MonadExcept.ofExcept (lookupRow r mapping row)
    Activity.note result.journal
    return result

def lookupLines (text : String) (rule : TableRule) : Lookups ProductLines := do
  match nonEmpty? rule.linePattern with
  | none => return empty
  | some pattern =>
    match ← Pattern.tryCompile patternField pattern with
    | .error fault => return ⟨[], [patternProblem patternField pattern fault]⟩
    | .ok r =>
      match rule.mapping.fault? r.groups with
      | some fault => return ⟨[], [⟨"field_mapping", fault.message, .fieldMapping, none⟩]⟩
      | none =>
        let results ← lookupRows r rule.mapping (Table.rows text rule.startMarker rule.endMarker)
        return ⟨results.filterMap RowResult.product, results.flatMap RowResult.problems⟩

def InRange (m : Regex.Match) (mapping : FieldMapping) : Prop :=
  ∀ f i, mapping.get f = some i → i ≤ m.groups.length

theorem lookupText_eq (h : InRange m mapping) (f : ProductField) :
    lookupText m mapping f = .ok (fieldText m mapping f) := by
  rw [lookupText, fieldText]
  cases hf : mapping.get f with
  | none => rfl
  | some i =>
    dsimp only
    rw [Regex.Match.lookup_eq_ok_iff.mpr (h f i hf)]
    rfl

theorem lookupField_eq (h : InRange m mapping) (line : Nat) (f : ProductField) :
    lookupField m mapping line f = .ok (readField m mapping line f) := by
  rw [lookupField, lookupText_eq h]
  rfl

theorem lookupTotal_eq (h : InRange m mapping) (line : Nat) :
    lookupTotal m mapping line =
      .ok (amount? m mapping .lineTotal, totalProblems m mapping line) := by
  rw [lookupTotal, totalProblems]
  split
  · rw [lookupField_eq h, readField_eq]
  · next hnone => rw [amount?_of_unmapped (by simpa [FieldMapping.get] using hnone)]

theorem lookupProduct_eq (h : InRange m mapping) (line : Nat) :
    lookupProduct m mapping line = .ok (product m mapping line) := by
  rw [lookupProduct, lookupField_eq h, lookupField_eq h, lookupTotal_eq h, lookupText_eq h,
    lookupText_eq h, readField_eq, readField_eq, product_eq]
  cases amount? m mapping .quantity <;> cases amount? m mapping .unitPrice <;> rfl

/-- The second group of a pattern with one group. -/
example : lookupProduct ⟨0, 1, ['7'], [some ['7']]⟩ ⟨some 1, some 1, some 2, none, none⟩ 1 =
    .error ⟨2, 1⟩ := by decide

theorem lookupRow_eq (h : ∀ m, r.search row.text = some m → InRange m mapping) :
    lookupRow r mapping row = .ok (readRow r mapping row) := by
  rw [lookupRow, readRow]
  split
  · rfl
  · cases hm : r.search row.text with
    | none => rfl
    | some m =>
      dsimp only
      rw [lookupProduct_eq (h m hm)]
      rfl

/-- Without a lookup out of range, the rows are read as they are. -/
theorem lookupRows_eq {rows : List Table.Line}
    (h : ∀ row ∈ rows, lookupRow r mapping row = .ok (readRow r mapping row)) :
    lookupRows r mapping rows = liftM (⟨(rows.map (readRow r mapping)).flatMap RowResult.journal,
      .ok (rows.map (readRow r mapping))⟩ : Activity (List RowResult)) := by
  induction rows with
  | nil => rfl
  | cons row rows ih =>
    rw [lookupRows, List.mapM_cons, h row (List.mem_cons_self ..)]
    rw [lookupRows] at ih
    rw [ih fun row hrow => h row (List.mem_cons_of_mem _ hrow)]
    refine ExceptT.ext ?_
    simp [MonadExcept.ofExcept, Activity.bind_eq, Activity.bind, Activity.note, Activity.map_ok,
      Except.map]

/-- A mapping that fits a pattern is in range of all its matches. -/
theorem inRange_of_fault? (hfit : mapping.fault? r.groups = none) {text : List Char}
    (hm : r.search text = some m) : InRange m mapping := by
  intro f i hf
  rw [Regex.length_groups_of_search hm]
  exact (FieldMapping.fault?_eq_none_iff.mp hfit).2 (f, i) (FieldMapping.mem_assigned.mpr hf)

/-- Product lines are read with every pattern that compiles. -/
theorem exists_outcome_extract {rule : TableRule} (hc : Regex.compile rule.linePattern = .ok r)
    (text : String) : ∃ lines, (extract text rule).outcome = .ok lines := by
  by_cases hempty : rule.linePattern = ""
  · exact ⟨empty, by rw [extract_of_empty hempty]; rfl⟩
  · cases hfit : rule.mapping.fault? r.groups with
    | some fault => exact ⟨_, by rw [extract_of_misfit text rule hempty hc hfit]; rfl⟩
    | none => exact ⟨_, by rw [extract_of_fit text rule hempty hc hfit]; rfl⟩

/-- Reading product lines never looks up a group that is not there. -/
theorem lookupLines_eq (text : String) (rule : TableRule) :
    lookupLines text rule = liftM (extract text rule) := by
  rw [lookupLines, extract]
  cases nonEmpty? rule.linePattern with
  | none => rfl
  | some pattern =>
    dsimp only
    rw [liftM_bind]
    refine congrArg _ (funext fun compiled => ?_)
    cases compiled with
    | error fault => rfl
    | ok r =>
      dsimp only
      cases hfit : rule.mapping.fault? r.groups with
      | some fault => rfl
      | none =>
        dsimp only
        rw [lookupRows_eq fun row _ => lookupRow_eq fun m hm => inRange_of_fault? hfit hm]
        exact congrArg₂ Activity.mk (List.append_nil _) rfl

end ProductLines

namespace Diagnosis

variable {r : Regex} {mapping : FieldMapping} {groups : List String}

/-- The text of a mapped group among those of a match; an index of 0 means the last group. -/
def lookupShown (groups : List String) (index : Nat) : Except OutOfRange String :=
  match if index = 0 then groups.getLast? else groups[index - 1]? with
  | some s => .ok s
  | none => .error ⟨index, groups.length⟩

def lookupTexts (mapping : FieldMapping) (groups : List String) :
    Except OutOfRange (List (ProductField × String)) :=
  (mapping.assigned.filter fun a => a.2 ≤ groups.length).mapM fun (f, i) => do
    return (f, ← lookupShown groups i)

def lookupTrial (r : Regex) (mapping : FieldMapping) (line : Table.Line) :
    Except OutOfRange LineTrial := do
  let text := String.ofList line.text
  match r.search line.text with
  | none => return ⟨text, line.number, false, [], []⟩
  | some m =>
    let groups := Pattern.groupTexts m
    return ⟨text, line.number, true, groups, ← lookupTexts mapping groups⟩

def lookupDiagnosis (text : String) (rule : TableRule) : Lookups Diagnosis := do
  let rows := Table.rows text rule.startMarker rule.endMarker
  Activity.note (Table.oversizedRecords (rows.takeWhile Table.Line.isOversized))
  match (Table.candidates rows).head? with
  | none => return .obstacle .noCandidate
  | some line =>
    match nonEmpty? rule.linePattern with
    | none => return .obstacle .noPattern
    | some pattern =>
      match ← Pattern.tryCompile ProductLines.patternField pattern with
      | .error fault => return .obstacle (.badPattern (fault.text pattern.toList))
      | .ok r => return .trial (← MonadExcept.ofExcept (lookupTrial r rule.mapping line))

theorem lookupShown_eq {index : Nat} (hpos : 0 < index) (hle : index ≤ groups.length) :
    lookupShown groups index = .ok (mappedText groups index) := by
  have hlt : index - 1 < groups.length := by omega
  rw [lookupShown, if_neg (by omega), mappedText, if_neg (by simpa using hpos.ne'),
    List.getElem?_eq_getElem hlt]
  rfl

theorem lookupTexts_eq (hpositive : ∀ e ∈ mapping.assigned, 0 < e.2) (groups : List String) :
    lookupTexts mapping groups = .ok (mappedTexts mapping groups) := by
  rw [lookupTexts, mappedTexts]
  have hall : ∀ e ∈ mapping.assigned.filter fun a => a.2 ≤ groups.length,
      0 < e.2 ∧ e.2 ≤ groups.length := by
    intro e he
    obtain ⟨he, hle⟩ := List.mem_filter.mp he
    exact ⟨hpositive e he, by simpa using hle⟩
  generalize mapping.assigned.filter (fun a => a.2 ≤ groups.length) = shown at hall
  induction shown with
  | nil => rfl
  | cons e es ih =>
    obtain ⟨hpos, hle⟩ := hall e (List.mem_cons_self ..)
    rw [List.mapM_cons, ih fun e he => hall e (List.mem_cons_of_mem _ he)]
    dsimp only
    rw [lookupShown_eq hpos hle]
    rfl

theorem lookupTrial_eq (hpositive : ∀ e ∈ mapping.assigned, 0 < e.2) (r : Regex)
    (line : Table.Line) : lookupTrial r mapping line = .ok (tryLine r mapping line) := by
  rw [lookupTrial, tryLine]
  cases r.search line.text with
  | none => rfl
  | some m =>
    dsimp only
    rw [lookupTexts_eq hpositive]
    rfl

/-- A diagnosis never looks up a group that is not there, whether or not the mapping fits. -/
theorem lookupDiagnosis_eq {rule : TableRule} (hpositive : ∀ e ∈ rule.mapping.assigned, 0 < e.2)
    (text : String) : lookupDiagnosis text rule = liftM (diagnose text rule) := by
  rw [lookupDiagnosis, diagnose, liftM_bind]
  refine congrArg _ (funext fun _ => ?_)
  cases (Table.candidates (Table.rows text rule.startMarker rule.endMarker)).head? with
  | none => rfl
  | some line =>
    dsimp only
    cases nonEmpty? rule.linePattern with
    | none => rfl
    | some pattern =>
      dsimp only
      rw [liftM_bind]
      refine congrArg _ (funext fun compiled => ?_)
      cases compiled with
      | error fault => rfl
      | ok r =>
        dsimp only
        rw [lookupTrial_eq hpositive]
        rfl

theorem exists_outcome_diagnose {rule : TableRule} (hc : Regex.compile rule.linePattern = .ok r)
    (text : String) : ∃ d, (diagnose text rule).outcome = .ok d := by
  cases hrows : Table.candidates (Table.rows text rule.startMarker rule.endMarker) with
  | nil => exact ⟨_, outcome_diagnose_of_nil hrows⟩
  | cons row rows =>
    by_cases hempty : rule.linePattern = ""
    · exact ⟨_, outcome_diagnose_of_empty hrows hempty⟩
    · exact ⟨_, outcome_diagnose_of_ok hrows hempty hc⟩

end Diagnosis

namespace TableRule

/-- A mapping with groups from 1 on has a fault just if a required field has no group or a group is
not there. If it has none, all of its groups are there in every match, and the lookups that make a
product do not fail; the groups that a diagnosis shows are there in any case. So with a pattern that
compiles, extractions and diagnoses always answer, and no lookup in them is out of range. -/
theorem lookups_in_range {pattern : String} {r : Regex} {mapping : FieldMapping}
    (hc : Regex.compile pattern = .ok r) (hpositive : ∀ f i, mapping.get f = some i → 1 ≤ i) :
    ((mapping.fault? r.groups).isSome = true ↔
      (∃ f ∈ ProductField.required, mapping.get f = none) ∨
        ∃ f i, mapping.get f = some i ∧ r.groups < i) ∧
    (∀ text m, r.search text = some m →
      (∀ i, m.lookup i = .ok (m.group? i) ↔ i ≤ r.groups) ∧
      (mapping.fault? r.groups = none →
        (∀ f i, mapping.get f = some i → m.lookup i = .ok (m.group? i)) ∧
        ∀ line, ProductLines.lookupProduct m mapping line =
          .ok (ProductLines.product m mapping line)) ∧
      ∀ f i, mapping.get f = some i → i ≤ (Pattern.groupTexts m).length →
        Diagnosis.lookupShown (Pattern.groupTexts m) i =
          .ok (Diagnosis.mappedText (Pattern.groupTexts m) i)) ∧
    ∀ text startMarker endMarker,
      let rule : TableRule := ⟨startMarker, endMarker, pattern, mapping⟩
      (∃ lines, (ProductLines.extract text rule).outcome = .ok lines) ∧
      (ProductLines.lookupLines text rule).run = Except.ok <$> ProductLines.extract text rule ∧
      (∃ d, (Diagnosis.diagnose text rule).outcome = .ok d) ∧
      (Diagnosis.lookupDiagnosis text rule).run = Except.ok <$> Diagnosis.diagnose text rule := by
  refine ⟨FieldMapping.isSome_fault?_iff, fun text m hm => ⟨fun i => ?_, fun hfit => ?_, ?_⟩, ?_⟩
  · rw [Regex.Match.lookup_eq_ok_iff, Regex.length_groups_of_search hm]
  · have hrange := ProductLines.inRange_of_fault? hfit hm
    exact ⟨fun f i hf => Regex.Match.lookup_eq_ok_iff.mpr (hrange f i hf),
      ProductLines.lookupProduct_eq hrange⟩
  · exact fun f i hf hle => Diagnosis.lookupShown_eq (hpositive f i hf) hle
  · intro text startMarker endMarker rule
    have hassigned : ∀ e ∈ rule.mapping.assigned, 0 < e.2 :=
      fun e he => hpositive e.1 e.2 (FieldMapping.mem_assigned.mp he)
    have hrule : Regex.compile rule.linePattern = .ok r := hc
    refine ⟨ProductLines.exists_outcome_extract hrule text, ?_,
      Diagnosis.exists_outcome_diagnose hrule text, ?_⟩
    · rw [ProductLines.lookupLines_eq, Lookups.run_liftM]
    · rw [Diagnosis.lookupDiagnosis_eq hassigned, Lookups.run_liftM]

/-- The fourth group takes no part in the match, and is looked up all the same. -/
theorem lookups_in_range_optional_group :
    let mapping : FieldMapping := ⟨some 1, some 2, some 3, some 4, none⟩
    let rule : TableRule := ⟨"", "", "(a)(1)(2)(x)?", mapping⟩
    ∃ r m, Regex.compile "(a)(1)(2)(x)?" = .ok r ∧
      (∀ f i, mapping.get f = some i → 1 ≤ i) ∧ mapping.fault? r.groups = none ∧
      r.search ['a', '1', '2'] = some m ∧ m.lookup 4 = .ok none ∧
      (ProductLines.lookupLines "a12" rule).run =
        Except.ok <$> ProductLines.extract "a12" rule := by
  intro mapping rule
  obtain ⟨r, hr, hgroups, m, hm, hnone⟩ : ∃ r, Regex.compile "(a)(1)(2)(x)?" = .ok r ∧
      r.groups = 4 ∧ ∃ m, r.search ['a', '1', '2'] = some m ∧ m.group? 4 = none :=
    ⟨_, by cbv, rfl, _, by cbv, rfl⟩
  have hpositive : ∀ f i, mapping.get f = some i → 1 ≤ i := by
    intro f i hf
    cases f <;> cases hf <;> decide
  have hfit : mapping.fault? r.groups = none := by rw [hgroups]; rfl
  obtain ⟨-, hlookups, hanswers⟩ := lookups_in_range hr hpositive
  have hfourth := ((hlookups _ m hm).2.1 hfit).1 .sku 4 rfl
  rw [hnone] at hfourth
  exact ⟨r, m, hr, hpositive, hfit, hm, hfourth, (hanswers "a12" "" "").2.1⟩

end TableRule

end OrderSheet
