import Mathlib
import OrderSheet.Extract.Diagnosis
import OrderSheet.Proofs.Extract.Lines
import OrderSheet.Proofs.Regex.Slots
import OrderSheet.Proofs.Template.Checked

/-!
# A diagnosis agrees with the extraction

What the diagnosis of a line pattern shows is what the extraction makes of the same document: the
same obstacle, or the same texts of the same line.
-/

namespace OrderSheet

variable {r : Regex} {m : Regex.Match} {mapping : FieldMapping} {f : ProductField} {i line : Nat}
  {text : String} {rule : TableRule} {fault : Regex.Fault}

theorem Text.filter_strip {p : Char → Bool} (hp : ∀ c, Text.isBlank c = true → p c = false)
    (cs : List Char) : (Text.strip cs).filter p = cs.filter p := by
  have hleft (cs : List Char) : (cs.dropWhile Text.isBlank).filter p = cs.filter p := by
    induction cs with
    | nil => rfl
    | cons c cs ih =>
      by_cases hc : Text.isBlank c = true
      · rw [List.dropWhile_cons_of_pos hc, ih, List.filter_cons_of_neg (by simp [hp c hc])]
      · rw [List.dropWhile_cons_of_neg hc]
  rw [Text.strip, Text.stripRight, List.filter_reverse, hleft, List.filter_reverse,
    List.reverse_reverse]
  exact hleft cs

theorem Amount.read?_strip (format : Amount.Format) (cs : List Char) :
    Amount.read? format (Text.strip cs) = Amount.read? format cs := by
  have hfilter := @Text.filter_strip (!Amount.isIgnored ·)
    (fun c hc => by simp [Amount.isIgnored, hc]) cs
  rw [Amount.read?, Amount.read?, hfilter]

theorem Amount.read?_nil : Amount.read? Amount.Format.commaDecimal [] = none := by decide

def LineTrial.text? (t : LineTrial) (f : ProductField) : Option String :=
  (t.mapped.find? (·.1 == f)).map (·.2)

namespace Diagnosis

theorem mappedText_eq (m : Regex.Match) (hi : 0 < i) :
    mappedText (Pattern.groupTexts m) i = String.ofList ((m.group? i).getD []) := by
  have hzero : (i == 0) = false := beq_false_of_ne (by omega)
  rw [mappedText, Regex.Match.group?, hzero, if_neg (by simp), if_neg (by simp),
    Pattern.groupTexts, List.getElem?_map]
  cases m.groups[i - 1]? with
  | none => rfl
  | some g => cases g <;> rfl

variable {row : Table.Line}

/-- A line that matches shows the text of its group for every mapped field. -/
theorem text?_tryLine (hm : r.search row.text = some m)
    (hpositive : ∀ e ∈ mapping.assigned, 0 < e.2) (hle : ∀ e ∈ mapping.assigned, e.2 ≤ r.groups)
    (f : ProductField) : (tryLine r mapping row).text? f =
      (mapping.get f).map fun i => String.ofList ((m.group? i).getD []) := by
  have hlength : (Pattern.groupTexts m).length = r.groups := by
    rw [Pattern.groupTexts, List.length_map, Regex.length_groups_of_search hm]
  have hall : (mapping.assigned.filter fun e => e.2 ≤ (Pattern.groupTexts m).length) =
      mapping.assigned := by
    rw [hlength, List.filter_eq_self]
    simpa using hle
  have hmapped : (tryLine r mapping row).mapped =
      mapping.assigned.map fun e => (e.1, mappedText (Pattern.groupTexts m) e.2) := by
    simp only [tryLine, hm, mappedTexts, hall]
  have hfind : (mapping.assigned.map fun e => (e.1, mappedText (Pattern.groupTexts m) e.2)).find?
      (·.1 == f) = (mapping.get f).map fun i => (f, mappedText (Pattern.groupTexts m) i) := by
    have hcomp : ((fun e : ProductField × String => e.1 == f) ∘
        fun e : ProductField × Nat => (e.1, mappedText (Pattern.groupTexts m) e.2)) =
        fun e => e.1 == f := rfl
    rw [List.find?_map, hcomp, FieldMapping.find_assigned, Option.map_map]
    rfl
  rw [LineTrial.text?, hmapped, hfind, Option.map_map]
  refine Option.map_congr fun i hi => ?_
  exact mappedText_eq m (hpositive (f, i) (FieldMapping.mem_assigned.mpr hi))

def shownAmount? (s : String) : Option Decimal := Amount.read? Amount.Format.commaDecimal s.toList

/-- Trimming and the difference between an empty group and one that takes no part do not show in
the amounts. -/
theorem amount?_eq (m : Regex.Match) (mapping : FieldMapping) (f : ProductField) :
    ProductLines.amount? m mapping f =
      ((mapping.get f).map fun i => String.ofList ((m.group? i).getD [])).bind shownAmount? := by
  rw [ProductLines.amount?, ProductLines.fieldText]
  cases mapping.get f with
  | none => rfl
  | some i =>
    rw [Option.bind_some, Option.map_some, Option.bind_some, shownAmount?, String.toList_ofList]
    cases m.group? i with
    | none => exact Amount.read?_nil.symm
    | some cs =>
      rw [Option.map_some, Option.bind_some, Pattern.trimmed, String.toList_ofList,
        Option.getD_some, Amount.read?_strip]

/-- The trimmed text of a field is that of the text shown. -/
theorem getD_fieldText (m : Regex.Match) (mapping : FieldMapping) (f : ProductField) :
    (ProductLines.fieldText m mapping f).getD "" =
      (((mapping.get f).map fun i => String.ofList ((m.group? i).getD [])).map
        fun s => Pattern.trimmed s.toList).getD "" := by
  rw [ProductLines.fieldText]
  cases mapping.get f with
  | none => rfl
  | some i =>
    rw [Option.bind_some, Option.map_some, Option.map_some, String.toList_ofList]
    cases m.group? i <;> rfl

theorem bind_nonEmpty? (o : Option String) : o.bind nonEmpty? = nonEmpty? (o.getD "") := by
  cases o <;> rfl

end Diagnosis

/-- A product has the trimmed texts and the amounts of the texts that are shown. -/
structure LineTrial.Shows (t : LineTrial) (p : Product) : Prop where
  line : p.line = t.number
  description : (t.text? .description).map (fun s => Pattern.trimmed s.toList) = some p.description
  quantity : (t.text? .quantity).bind Diagnosis.shownAmount? = some p.quantity
  unitPrice : (t.text? .unitPrice).bind Diagnosis.shownAmount? = some p.unitPrice
  lineTotal : p.lineTotal = (t.text? .lineTotal).bind Diagnosis.shownAmount?
  sku : p.sku = ((t.text? .sku).map fun s => Pattern.trimmed s.toList).bind nonEmpty?

namespace Diagnosis

variable {row : Table.Line} {rows : List Table.Line}

theorem tryLine_number (r : Regex) (mapping : FieldMapping) (row : Table.Line) :
    (tryLine r mapping row).number = row.number := by
  rw [tryLine]
  cases r.search row.text <;> rfl

theorem exists_text? (hm : r.search row.text = some m)
    (hpositive : ∀ e ∈ mapping.assigned, 0 < e.2) (hfit : mapping.fault? r.groups = none)
    (hf : f ∈ ProductField.required) : ∃ s, (tryLine r mapping row).text? f = some s := by
  obtain ⟨hrequired, hle⟩ := FieldMapping.fault?_eq_none_iff.mp hfit
  obtain ⟨i, hi⟩ := Option.isSome_iff_exists.mp (hrequired f hf)
  rw [text?_tryLine hm hpositive hle, hi]
  exact ⟨_, rfl⟩

/-- A mandatory number that cannot be read is reported for its line, and its text is shown. -/
theorem unreadable_of_none (hm : r.search row.text = some m)
    (hpositive : ∀ e ∈ mapping.assigned, 0 < e.2) (hfit : mapping.fault? r.groups = none)
    (hf : f = .quantity ∨ f = .unitPrice) (hnone : ProductLines.amount? m mapping f = none) :
    (∃ q ∈ (ProductLines.contribution r mapping row).2,
        q.field = f.name ∧ q.kind = .fieldParse ∧ q.line = some row.number) ∧
      ∃ s, (tryLine r mapping row).text? f = some s ∧ shownAmount? s = none := by
  obtain ⟨s, hs⟩ := exists_text? hm hpositive hfit
    (f := f) (by rcases hf with rfl | rfl <;> simp [ProductField.required])
  constructor
  · obtain ⟨q, hq, -⟩ := ProductLines.exists_problem row.number hf hnone
    rw [ProductLines.contribution_of_search hm, ProductLines.product_eq]
    refine ⟨q, ?_, ProductLines.of_mem_fieldProblems hq⟩
    rcases hf with rfl | rfl <;> simp [hq]
  · rw [amount?_eq, ← text?_tryLine hm hpositive (FieldMapping.fault?_eq_none_iff.mp hfit).2, hs,
      Option.bind_some] at hnone
    exact ⟨s, hs, hnone⟩

/-- A line that matches is a product with the texts that are shown, or one of its mandatory numbers
is shown and cannot be read. -/
theorem shows_or_unreadable (hm : r.search row.text = some m)
    (hpositive : ∀ e ∈ mapping.assigned, 0 < e.2) (hfit : mapping.fault? r.groups = none) :
    (∃ p, (ProductLines.contribution r mapping row).1 = some p ∧
        (tryLine r mapping row).Shows p) ∨
      ∃ f, (f = .quantity ∨ f = .unitPrice) ∧
        (∃ q ∈ (ProductLines.contribution r mapping row).2,
          q.field = f.name ∧ q.kind = .fieldParse ∧ q.line = some row.number) ∧
        ∃ s, (tryLine r mapping row).text? f = some s ∧ shownAmount? s = none := by
  cases hq : ProductLines.amount? m mapping .quantity with
  | none =>
    exact .inr ⟨.quantity, .inl rfl, unreadable_of_none hm hpositive hfit (.inl rfl) hq⟩
  | some q =>
    cases hu : ProductLines.amount? m mapping .unitPrice with
    | none =>
      exact .inr ⟨.unitPrice, .inr rfl, unreadable_of_none hm hpositive hfit (.inr rfl) hu⟩
    | some u =>
      have htext := text?_tryLine hm hpositive (FieldMapping.fault?_eq_none_iff.mp hfit).2
      have hamount (f : ProductField) : ProductLines.amount? m mapping f =
          ((tryLine r mapping row).text? f).bind shownAmount? := by rw [htext, amount?_eq]
      obtain ⟨s, hs⟩ := exists_text? hm hpositive hfit
        (f := .description) (by simp [ProductField.required])
      have hdescription : ((tryLine r mapping row).text? .description).map
          (fun s => Pattern.trimmed s.toList) =
          some ((ProductLines.fieldText m mapping .description).getD "") := by
        rw [getD_fieldText, ← htext, hs]
        rfl
      have hsku : (ProductLines.fieldText m mapping .sku).bind nonEmpty? =
          (((tryLine r mapping row).text? .sku).map fun s => Pattern.trimmed s.toList).bind
            nonEmpty? := by
        rw [bind_nonEmpty?, getD_fieldText, ← htext, ← bind_nonEmpty?]
      rw [ProductLines.contribution_of_search hm, ProductLines.product_eq, hq, hu]
      exact .inl ⟨_, rfl, (tryLine_number ..).symm, hdescription, by rw [← hamount, hq],
        by rw [← hamount, hu], hamount _, hsku⟩

theorem outcome_diagnose_of_nil
    (h : Table.candidates (Table.rows text rule.startMarker rule.endMarker) = []) :
    (diagnose text rule).outcome = .ok (.obstacle .noCandidate) := by
  simp only [diagnose, h, List.head?_nil]
  rfl

variable (h : Table.candidates (Table.rows text rule.startMarker rule.endMarker) = row :: rows)

include h

theorem outcome_diagnose_of_empty (hempty : rule.linePattern = "") :
    (diagnose text rule).outcome = .ok (.obstacle .noPattern) := by
  simp only [diagnose, h, List.head?_cons, hempty]
  rfl

theorem outcome_diagnose_of_fault (hne : rule.linePattern ≠ "")
    (hc : Regex.compile rule.linePattern = .error fault) (hf : fault.isReported = true) :
    (diagnose text rule).outcome =
      .ok (.obstacle (.badPattern (fault.text rule.linePattern.toList))) := by
  simp only [diagnose, h, List.head?_cons, ProductLines.nonEmpty?_of_ne hne,
    Pattern.tryCompile_of_reported hc hf]
  rfl

theorem outcome_diagnose_of_unreported (hne : rule.linePattern ≠ "")
    (hc : Regex.compile rule.linePattern = .error fault) (hf : fault.isReported = false) :
    (diagnose text rule).outcome =
      .error (.pattern ProductLines.patternField rule.linePattern fault) := by
  simp only [diagnose, h, List.head?_cons, ProductLines.nonEmpty?_of_ne hne,
    Pattern.tryCompile_of_unreported hc hf]
  rfl

theorem outcome_diagnose_of_ok (hne : rule.linePattern ≠ "")
    (hc : Regex.compile rule.linePattern = .ok r) :
    (diagnose text rule).outcome = .ok (.trial (tryLine r rule.mapping row)) := by
  simp only [diagnose, h, List.head?_cons, ProductLines.nonEmpty?_of_ne hne,
    Pattern.tryCompile_of_ok hc]
  rfl

omit h in
theorem outcome_diagnose_cases {d : Diagnosis} (h : (diagnose text rule).outcome = .ok d) :
    let candidates := Table.candidates (Table.rows text rule.startMarker rule.endMarker)
    (candidates = [] ∧ d = .obstacle .noCandidate) ∨
      ∃ row rows, candidates = row :: rows ∧
        ((rule.linePattern = "" ∧ d = .obstacle .noPattern) ∨
          (∃ fault, rule.linePattern ≠ "" ∧ Regex.compile rule.linePattern = .error fault ∧
            d = .obstacle (.badPattern (fault.text rule.linePattern.toList))) ∨
          ∃ r, rule.linePattern ≠ "" ∧ Regex.compile rule.linePattern = .ok r ∧
            d = .trial (tryLine r rule.mapping row)) := by
  intro candidates
  cases hrows : candidates with
  | nil =>
    rw [outcome_diagnose_of_nil hrows] at h
    exact .inl ⟨rfl, (Except.ok.inj h).symm⟩
  | cons row rows =>
    refine .inr ⟨row, rows, rfl, ?_⟩
    by_cases hempty : rule.linePattern = ""
    · rw [outcome_diagnose_of_empty hrows hempty] at h
      exact .inl ⟨hempty, (Except.ok.inj h).symm⟩
    · refine .inr ?_
      cases hc : Regex.compile rule.linePattern with
      | error fault =>
        cases hf : fault.isReported with
        | true =>
          rw [outcome_diagnose_of_fault hrows hempty hc hf] at h
          exact .inl ⟨fault, hempty, rfl, (Except.ok.inj h).symm⟩
        | false =>
          rw [outcome_diagnose_of_unreported hrows hempty hc hf] at h
          cases h
      | ok r =>
        rw [outcome_diagnose_of_ok hrows hempty hc] at h
        exact .inr ⟨r, hempty, rfl, (Except.ok.inj h).symm⟩

end Diagnosis

/-- What the trial of a line says about the product lines of the document. -/
structure LineTrial.Agrees (t : LineTrial) (rule : TableRule) (result : ProductLines) : Prop where
  first : ∀ p ∈ result.products, t.number ≤ p.line
  unmatched : t.matched = false →
    (∀ p ∈ result.products, p.line ≠ t.number) ∧ ∀ q ∈ result.problems, q.line ≠ some t.number
  matched : t.matched = true → ∀ r, Regex.compile rule.linePattern = .ok r →
    rule.mapping.fault? r.groups = none →
    (∃ p rest, result.products = p :: rest ∧ t.Shows p) ∨
      ∃ f, (f = .quantity ∨ f = .unitPrice) ∧
        (∃ q ∈ result.problems, q.field = f.name ∧ q.kind = .fieldParse ∧
          q.line = some t.number) ∧
        ∃ s, t.text? f = some s ∧ Diagnosis.shownAmount? s = none

namespace Diagnosis

def Agrees (rule : TableRule) (result : ProductLines) : Diagnosis → Prop
  | .obstacle .noCandidate => result.products = [] ∧ ∀ q ∈ result.problems, q.line = none
  | .obstacle .noPattern => result.products = [] ∧ result.problems = []
  | .obstacle (.badPattern detail) => result.products = [] ∧ ∃ q, result.problems = [q] ∧
      q.kind = .patternCompile ∧ ∃ start, q.message = start ++ detail
  | .trial t => t.Agrees rule result

variable {row : Table.Line} {rows : List Table.Line} {result : ProductLines} {d : Diagnosis}

theorem tryLine_matched (r : Regex) (mapping : FieldMapping) (row : Table.Line) :
    (tryLine r mapping row).matched = (r.search row.text).isSome := by
  rw [tryLine]
  cases r.search row.text <;> rfl

/-- The first line of a table that is read agrees with its trial. -/
theorem agrees_of_fit (hpositive : ∀ e ∈ rule.mapping.assigned, 0 < e.2)
    (hc : Regex.compile rule.linePattern = .ok r)
    (hrows : (row :: rows).Pairwise fun a b => a.number < b.number) :
    (tryLine r rule.mapping row).Agrees rule
      ⟨(row :: rows).filterMap fun row => (ProductLines.contribution r rule.mapping row).1,
        (row :: rows).flatMap fun row => (ProductLines.contribution r rule.mapping row).2⟩ := by
  obtain ⟨hlater, -⟩ := List.pairwise_cons.mp hrows
  have hle : ∀ row' ∈ row :: rows, row.number ≤ row'.number := by
    intro row' hrow'
    rcases List.mem_cons.mp hrow' with rfl | hrow'
    · exact Nat.le_refl _
    · exact (hlater row' hrow').le
  refine ⟨fun p hp => ?_, fun hmatched => ?_, fun hmatched r' hc' hfit => ?_⟩
  · obtain ⟨row', hrow', hp⟩ := List.mem_filterMap.mp hp
    rw [tryLine_number, ProductLines.line_of_contribution hp]
    exact hle row' hrow'
  · rw [tryLine_matched, Option.isSome_eq_false_iff, Option.isNone_iff_eq_none] at hmatched
    rw [tryLine_number]
    simp only [List.filterMap_cons, List.flatMap_cons, ProductLines.contribution_of_none hmatched,
      List.nil_append]
    constructor
    · intro p hp
      obtain ⟨row', hrow', hp⟩ := List.mem_filterMap.mp hp
      rw [ProductLines.line_of_contribution hp]
      exact (hlater row' hrow').ne'
    · intro q hq
      obtain ⟨row', hrow', hq⟩ := List.mem_flatMap.mp hq
      rw [ProductLines.line_of_mem_contribution hq]
      simpa using (hlater row' hrow').ne'
  · obtain rfl : r = r' := Except.ok.inj (hc.symm.trans hc')
    rw [tryLine_matched] at hmatched
    obtain ⟨m, hm⟩ := Option.isSome_iff_exists.mp hmatched
    rcases shows_or_unreadable hm hpositive hfit with ⟨p, hp, hshows⟩ |
      ⟨f, hf, ⟨q, hq, hfields⟩, hs⟩
    · have hfirst := List.filterMap_cons_some (l := rows)
        (f := fun row => (ProductLines.contribution r rule.mapping row).1) hp
      exact .inl ⟨p, _, hfirst, hshows⟩
    · rw [tryLine_number]
      exact .inr ⟨f, hf, ⟨q, List.mem_flatMap.mpr ⟨row, by simp, hq⟩, hfields⟩, hs⟩

/-- Without product lines a trial agrees if the pattern does not fit its mapping. -/
theorem agrees_of_misfit {misfit : MappingFault} (t : LineTrial) {q : Problem} (hq : q.line = none)
    (hc : Regex.compile rule.linePattern = .ok r)
    (hm : rule.mapping.fault? r.groups = some misfit) : t.Agrees rule ⟨[], [q]⟩ := by
  refine ⟨by simp, fun _ => ⟨by simp, by simp [hq]⟩, fun _ r' hc' hfit => ?_⟩
  obtain rfl : r = r' := Except.ok.inj (hc.symm.trans hc')
  rw [hm] at hfit
  cases hfit

/-- Whenever both of them answer, the diagnosis of a checked table rule agrees with the extraction
from the same document. -/
theorem diagnose_agrees {data : Data} (hcheck : Data.checkTableRule data = .pass rule)
    (hdiagnose : (diagnose text rule).outcome = .ok d)
    (hextract : (ProductLines.extract text rule).outcome = .ok result) :
    d.Agrees rule result := by
  have hpositive := Data.mapping_of_checkTableRule hcheck
  have hextract' := ProductLines.outcome_extract_cases hextract
  rcases outcome_diagnose_cases hdiagnose with ⟨hnil, rfl⟩ | ⟨row, rows, hrows, hpattern⟩
  · rcases hextract' with ⟨-, rfl⟩ | ⟨fault, -, -, rfl⟩ | ⟨r, misfit, -, -, -, rfl⟩ |
      ⟨r, -, -, -, rfl⟩
    · exact ⟨rfl, by simp [ProductLines.empty]⟩
    · exact ⟨rfl, by simp [patternProblem]⟩
    · exact ⟨rfl, by simp⟩
    · rw [hnil]
      exact ⟨rfl, by simp⟩
  · rcases hpattern with ⟨hempty, rfl⟩ | ⟨fault, hne, hc, rfl⟩ | ⟨r, hne, hc, rfl⟩
    · rcases hextract' with ⟨-, rfl⟩ | ⟨_, hne, -⟩ | ⟨_, _, hne, -⟩ | ⟨_, hne, -⟩
      · exact ⟨rfl, rfl⟩
      all_goals exact absurd hempty hne
    · rcases hextract' with ⟨hempty, -⟩ | ⟨fault', -, hc', rfl⟩ | ⟨_, _, -, hc', -⟩ | ⟨_, -, hc', -⟩
      · exact absurd hempty hne
      · obtain rfl : fault = fault' := Except.error.inj (hc.symm.trans hc')
        exact ⟨rfl, _, rfl, rfl, "Invalid pattern '" ++ rule.linePattern ++ "': ", rfl⟩
      all_goals cases hc.symm.trans hc'
    · rcases hextract' with ⟨hempty, -⟩ | ⟨_, -, hc', -⟩ | ⟨r', misfit, -, hc', hm, rfl⟩ |
        ⟨r', -, hc', -, rfl⟩
      · exact absurd hempty hne
      · cases hc.symm.trans hc'
      · exact agrees_of_misfit _ rfl hc' hm
      · obtain rfl : r = r' := Except.ok.inj (hc.symm.trans hc')
        have hincreasing :=
          Table.pairwise_number_candidates text rule.startMarker rule.endMarker
        rw [hrows] at hincreasing ⊢
        exact agrees_of_fit hpositive hc hincreasing

theorem diagnose_agrees_three_groups :
    let rule : TableRule := ⟨"", "", "(a)(1)(2)", ⟨some 1, some 2, some 3, none, none⟩⟩
    let trial : LineTrial := ⟨"a12", 1, true, ["a", "1", "2"],
      [(.description, "a"), (.quantity, "1"), (.unitPrice, "2")]⟩
    ∃ data result, Data.checkTableRule data = .pass rule ∧
      (diagnose "a12" rule).outcome = .ok (.trial trial) ∧
      (ProductLines.extract "a12" rule).outcome = .ok result ∧ trial.Agrees rule result := by
  intro rule trial
  have hcheck : Data.checkTableRule (.map [(.text "line_pattern", .text "(a)(1)(2)"),
      (.text "field_mapping", .map [(.text "description", .int 1), (.text "quantity", .int 2),
        (.text "unit_price", .int 3)])]) = .pass rule := rfl
  have hdiagnose : (diagnose "a12" rule).outcome = .ok (.trial trial) := by cbv
  have hextract : (ProductLines.extract "a12" rule).outcome =
      .ok ⟨[⟨"a", ⟨false, 1, 0⟩, ⟨false, 2, 0⟩, none, none, 1⟩], []⟩ := by cbv
  exact ⟨_, _, hcheck, hdiagnose, hextract, diagnose_agrees hcheck hdiagnose hextract⟩

end Diagnosis

end OrderSheet
