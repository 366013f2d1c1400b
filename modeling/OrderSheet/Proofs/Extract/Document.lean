import Mathlib
import OrderSheet.Extract.Document
import OrderSheet.Proofs.Extract.Diagnosis

/-!
# Header and product lines side by side

Every pattern of a template is tried on its own. What it finds, or the problem with it, depends on
no other part of the template, unless some pattern cannot be built: that stops the whole reading.
-/

namespace OrderSheet

variable {α β : Type} {text : String} {cs : List Char} {field source : String}
  {pattern : Option String} {fault : Regex.Fault} {r : Regex}

theorem Activity.outcome_bind (x : Activity α) (f : α → Activity β) :
    (x >>= f).outcome = x.outcome.bind fun a => (f a).outcome := by
  rw [bind_eq, Activity.bind]
  cases x.outcome <;> rfl

theorem Activity.outcome_bind_eq_ok_iff {x : Activity α} {f : α → Activity β} {b : β} :
    (x >>= f).outcome = .ok b ↔ ∃ a, x.outcome = .ok a ∧ (f a).outcome = .ok b := by
  rw [outcome_bind]
  cases x.outcome <;> simp [Except.bind]

def Pattern.Stops (source : String) : Prop :=
  ∃ fault, Regex.compile source = .error fault ∧ fault.isReported = false

theorem Pattern.not_stops_of_ok (hc : Regex.compile source = .ok r) : ¬ Pattern.Stops source := by
  rintro ⟨fault, hfault, -⟩
  cases hc.symm.trans hfault

theorem Pattern.not_stops_of_reported (hc : Regex.compile source = .error fault)
    (hf : fault.isReported = true) : ¬ Pattern.Stops source := by
  rintro ⟨fault', hfault, hf'⟩
  obtain rfl := Except.error.inj (hc.symm.trans hfault)
  rw [hf] at hf'
  cases hf'

/-- The default group is one of the pattern's groups. -/
theorem Pattern.outcome_firstMatch (r : Regex) (cs : List Char) :
    (firstMatch r cs none).outcome =
      .ok ((r.search cs).bind fun m => (m.group? (defaultGroup r)).map trimmed) := by
  have hindex : defaultGroup r ≤ r.groups := by
    rw [defaultGroup]
    split
    · exact Nat.zero_le _
    · next h => exact Nat.one_le_iff_ne_zero.mpr (by simpa using h)
  rw [firstMatch]
  cases r.search cs with
  | none => rfl
  | some m =>
    dsimp only
    rw [Option.getD_none, if_pos (by simpa using hindex), Int.toNat_natCast]
    rfl

namespace Header

def value (cs : List Char) (pattern : Option String) : Option String :=
  match pattern.bind nonEmpty? with
  | none => none
  | some source =>
    match Regex.compile source with
    | .error _ => none
    | .ok r => ((r.search cs).bind fun m =>
        (m.group? (Pattern.defaultGroup r)).map Pattern.trimmed).bind nonEmpty?

def refusals (field : String) (pattern : Option String) : List Problem :=
  match pattern.bind nonEmpty? with
  | none => []
  | some source =>
    match Regex.compile source with
    | .error fault => [patternProblem field source fault]
    | .ok _ => []

/-- A search with a pattern answers unless the pattern stops it. -/
theorem outcome_find_eq_ok_iff {found : Option String × List Problem} :
    (find cs field pattern).outcome = .ok found ↔
      (∀ source ∈ pattern.bind nonEmpty?, ¬ Pattern.Stops source) ∧
        found = (value cs pattern, refusals field pattern) := by
  rw [find, value, refusals]
  cases pattern.bind nonEmpty? with
  | none =>
    constructor
    · exact fun h => ⟨by simp, (Except.ok.inj h).symm⟩
    · rintro ⟨-, rfl⟩
      rfl
  | some source =>
    have hstops : (∀ s ∈ some source, ¬ Pattern.Stops s) ↔ ¬ Pattern.Stops source := by simp
    rw [hstops]
    dsimp only
    rw [Activity.outcome_bind]
    cases hc : Regex.compile source with
    | ok r =>
      rw [Pattern.tryCompile_of_ok hc]
      dsimp only [pure, Except.bind]
      rw [Activity.outcome_bind, Pattern.outcome_firstMatch]
      constructor
      · exact fun h => ⟨Pattern.not_stops_of_ok hc, (Except.ok.inj h).symm⟩
      · rintro ⟨-, rfl⟩
        rfl
    | error fault =>
      cases hf : fault.isReported with
      | true =>
        rw [Pattern.tryCompile_of_reported hc hf]
        constructor
        · exact fun h => ⟨Pattern.not_stops_of_reported hc hf, (Except.ok.inj h).symm⟩
        · rintro ⟨-, rfl⟩
          rfl
      | false =>
        rw [Pattern.tryCompile_of_unreported hc hf]
        constructor
        · intro h
          cases h
        · exact fun h => absurd ⟨fault, hc, hf⟩ h.1

end Header

def HeaderPatterns.sources (p : HeaderPatterns) : List String :=
  [p.order, p.date, p.supplier, p.total].filterMap (·.bind nonEmpty?)

namespace Header

def ofPatterns (cs : List Char) (p : HeaderPatterns) : Header where
  orderNumber := value cs p.order
  orderDate := value cs p.date
  supplierName := value cs p.supplier
  total := (readTotal (value cs p.total)).1
  problems := refusals "order_number" p.order ++ refusals "order_date" p.date ++
    refusals "supplier_name" p.supplier ++ refusals "total" p.total ++
    (readTotal (value cs p.total)).2

theorem outcome_extract_eq_ok_iff {p : HeaderPatterns} {header : Header} :
    (extract cs p).outcome = .ok header ↔
      (∀ source ∈ p.sources, ¬ Pattern.Stops source) ∧ header = ofPatterns cs p := by
  have hsources : (∀ source ∈ p.sources, ¬ Pattern.Stops source) ↔
      (∀ source ∈ p.order.bind nonEmpty?, ¬ Pattern.Stops source) ∧
      (∀ source ∈ p.date.bind nonEmpty?, ¬ Pattern.Stops source) ∧
      (∀ source ∈ p.supplier.bind nonEmpty?, ¬ Pattern.Stops source) ∧
      ∀ source ∈ p.total.bind nonEmpty?, ¬ Pattern.Stops source := by
    simp only [HeaderPatterns.sources, List.mem_filterMap, List.mem_cons, List.not_mem_nil,
      or_false, exists_eq_or_imp, exists_eq_left, or_imp, forall_and, Option.mem_def]
  have hbind {α β : Type} {x : Except Failure α} {f : α → Except Failure β} {b : β} :
      x.bind f = .ok b ↔ ∃ a, x = .ok a ∧ f a = .ok b := by
    cases x <;> simp [Except.bind]
  rw [hsources, extract]
  simp only [Activity.outcome_bind, hbind, outcome_find_eq_ok_iff]
  constructor
  · rintro ⟨_, ⟨horder, rfl⟩, _, ⟨hdate, rfl⟩, _, ⟨hsupplier, rfl⟩, _, ⟨htotal, rfl⟩, h⟩
    exact ⟨⟨horder, hdate, hsupplier, htotal⟩, (Except.ok.inj h).symm⟩
  · rintro ⟨⟨horder, hdate, hsupplier, htotal⟩, rfl⟩
    exact ⟨_, ⟨horder, rfl⟩, _, ⟨hdate, rfl⟩, _, ⟨hsupplier, rfl⟩, _, ⟨htotal, rfl⟩, rfl⟩

end Header

/-- Product lines are read unless the pattern stops the extraction. -/
theorem ProductLines.exists_outcome_iff {rule : TableRule} :
    (∃ lines, (extract text rule).outcome = .ok lines) ↔
      ∀ source ∈ nonEmpty? rule.linePattern, ¬ Pattern.Stops source := by
  by_cases hempty : rule.linePattern = ""
  · rw [extract_of_empty hempty, hempty]
    exact ⟨fun _ => by simp [nonEmpty?], fun _ => ⟨_, rfl⟩⟩
  · rw [nonEmpty?_of_ne hempty]
    constructor
    · rintro ⟨lines, hlines⟩ source hsource ⟨fault, hc, hf⟩
      obtain rfl := Option.some.inj hsource
      rw [outcome_extract_of_unreported text rule hempty hc hf] at hlines
      cases hlines
    · intro h
      have hgo := h _ rfl
      cases hc : Regex.compile rule.linePattern with
      | error fault =>
        cases hf : fault.isReported with
        | true => exact ⟨_, outcome_extract_of_fault text rule hempty hc hf⟩
        | false => exact absurd ⟨fault, hc, hf⟩ hgo
      | ok r =>
        cases hm : rule.mapping.fault? r.groups with
        | some misfit => exact ⟨_, by rw [extract_of_misfit text rule hempty hc hm]; rfl⟩
        | none => exact ⟨_, by rw [extract_of_fit text rule hempty hc hm, outcome_readRows]⟩

def Extraction.ofParts (name : String) (header : Header) (lines : ProductLines) : Extraction where
  templateName := nonEmpty? name
  orderNumber := header.orderNumber
  orderDate := header.orderDate
  supplierName := header.supplierName
  total := header.total
  products := lines.products
  problems := header.problems ++ lines.problems

def Outcome.named (name : String) : Outcome → Outcome
  | .extracted e => .extracted { e with templateName := nonEmpty? name }
  | .refused r => .refused { r with templateName := nonEmpty? name }

namespace Document

variable {t u : Template} {e f : Extraction}

def IsUnreadable (text : String) : Prop :=
  (∀ c ∈ text.toList, Text.isBlank c = true) ∨ Settings.maxDocument < text.length

theorem exists_refuse_of_unreadable (h : IsUnreadable text) :
    ∃ message, ∀ t, extractText t text = refuse t message := by
  by_cases hblank : Text.isBlankText text.toList = true
  · exact ⟨_, fun t => by simp only [extractText, if_pos hblank]; rfl⟩
  · have hlong : Settings.maxDocument < text.toList.length := by
      rw [String.length_toList]
      exact h.resolve_left fun hall => hblank (List.all_eq_true.mpr hall)
    exact ⟨_, fun t => by simp only [extractText, if_neg hblank, if_pos hlong]; rfl⟩

theorem outcome_extractText_of_readable (h : ¬ IsUnreadable text) (t : Template) :
    (extractText t text).outcome =
      (Header.extract text.toList t.header).outcome.bind fun header =>
        (ProductLines.extract text t.table).outcome.bind fun lines =>
          .ok (.extracted (Extraction.ofParts t.name header lines)) := by
  rw [IsUnreadable, not_or] at h
  have hblank : ¬ Text.isBlankText text.toList = true := fun hall =>
    h.1 (List.all_eq_true.mp hall)
  have hlong : ¬ Settings.maxDocument < text.toList.length := by
    rw [String.length_toList]
    exact h.2
  simp only [extractText, if_neg hblank, if_neg hlong, Activity.outcome_bind]
  rfl

theorem exists_refused_iff (t : Template) (text : String) :
    (∃ r, (extractText t text).outcome = .ok (.refused r)) ↔ IsUnreadable text := by
  constructor
  · rintro ⟨r, hr⟩
    by_contra h
    rw [outcome_extractText_of_readable h] at hr
    cases hheader : (Header.extract text.toList t.header).outcome with
    | error e => simp [hheader, Except.bind] at hr
    | ok header =>
      cases hlines : (ProductLines.extract text t.table).outcome <;>
        simp [hheader, hlines, Except.bind] at hr
  · intro h
    obtain ⟨message, hrefuse⟩ := exists_refuse_of_unreadable h
    exact ⟨_, by rw [hrefuse]; rfl⟩

/-- An extraction is put together from a header and product lines that are read separately. -/
theorem outcome_eq_extracted_iff :
    (extractText t text).outcome = .ok (.extracted e) ↔ ¬ IsUnreadable text ∧
      ∃ header lines, (Header.extract text.toList t.header).outcome = .ok header ∧
        (ProductLines.extract text t.table).outcome = .ok lines ∧
        e = Extraction.ofParts t.name header lines := by
  by_cases h : IsUnreadable text
  · obtain ⟨message, hrefuse⟩ := exists_refuse_of_unreadable h
    rw [hrefuse]
    constructor
    · intro he
      cases Except.ok.inj he
    · exact fun he => absurd h he.1
  · rw [outcome_extractText_of_readable h]
    constructor
    · intro he
      refine ⟨h, ?_⟩
      cases hheader : (Header.extract text.toList t.header).outcome with
      | error f => simp [hheader, Except.bind] at he
      | ok header =>
        cases hlines : (ProductLines.extract text t.table).outcome with
        | error f => simp [hheader, hlines, Except.bind] at he
        | ok lines =>
          simp only [hheader, hlines, Except.bind, Except.ok.injEq, Outcome.extracted.injEq] at he
          exact ⟨header, lines, rfl, rfl, he.symm⟩
    · rintro ⟨-, header, lines, hheader, hlines, rfl⟩
      rw [hheader, hlines]
      rfl

/-- Only the patterns, the markers and the mapping of a template matter, and its name as such. -/
theorem outcome_extractText_named (hheader : t.header = u.header) (htable : t.table = u.table) :
    (extractText u text).outcome = (extractText t text).outcome.map (Outcome.named u.name) := by
  by_cases h : IsUnreadable text
  · obtain ⟨message, hrefuse⟩ := exists_refuse_of_unreadable h
    rw [hrefuse, hrefuse]
    rfl
  · rw [outcome_extractText_of_readable h, outcome_extractText_of_readable h, hheader, htable]
    cases (Header.extract text.toList u.header).outcome with
    | error e => rfl
    | ok header => cases (ProductLines.extract text u.table).outcome <;> rfl

/-- Header and product lines of a document do not interfere. A document is refused just when it is
blank or too long. Otherwise its header is read with the header patterns and its product lines with
the table rule, and the problems of both stand one after the other. Hence templates with the same
header patterns read the same header, and templates with the same table rule the same product
lines; nothing else of a template has an influence, but for the name that is passed on. -/
theorem extractText_separate (t u : Template) (text : String) :
    ((∃ r, (extractText t text).outcome = .ok (.refused r)) ↔
      (∀ c ∈ text.toList, Text.isBlank c = true) ∨ 500000 < text.length) ∧
    (∀ e, (extractText t text).outcome = .ok (.extracted e) ↔ ¬ IsUnreadable text ∧
      ∃ header lines, (Header.extract text.toList t.header).outcome = .ok header ∧
        (ProductLines.extract text t.table).outcome = .ok lines ∧
        e = Extraction.ofParts t.name header lines) ∧
    (∀ e f, (extractText t text).outcome = .ok (.extracted e) →
      (extractText u text).outcome = .ok (.extracted f) →
      (t.header = u.header → ∃ header lines lines',
        (Header.extract text.toList t.header).outcome = .ok header ∧
        e = Extraction.ofParts t.name header lines ∧
        f = Extraction.ofParts u.name header lines') ∧
      (t.table = u.table → ∃ header header' lines,
        (ProductLines.extract text t.table).outcome = .ok lines ∧
        e = Extraction.ofParts t.name header lines ∧
        f = Extraction.ofParts u.name header' lines)) ∧
    (t.header = u.header → t.table = u.table →
      (extractText u text).outcome = (extractText t text).outcome.map (Outcome.named u.name)) := by
  refine ⟨exists_refused_iff t text, fun e => outcome_eq_extracted_iff, fun e f he hf => ?_,
    outcome_extractText_named⟩
  obtain ⟨-, header, lines, hheader, hlines, rfl⟩ := outcome_eq_extracted_iff.mp he
  obtain ⟨-, header', lines', hheader', hlines', rfl⟩ := outcome_eq_extracted_iff.mp hf
  constructor
  · intro hsame
    rw [← hsame] at hheader'
    obtain rfl := Except.ok.inj (hheader.symm.trans hheader')
    exact ⟨header, lines, lines', hheader, rfl, rfl⟩
  · intro hsame
    rw [← hsame] at hlines'
    obtain rfl := Except.ok.inj (hlines.symm.trans hlines')
    exact ⟨header, header', lines, hlines, rfl, rfl⟩

end Document

/-- The compiler goes down one level of its stack for each group that is open, and the depth of the
stack is limited. A pattern with so few groups stays far from the limit. -/
def Pattern.IsShallow (source : String) : Prop := source.toList.count '(' ≤ 100

def Template.sources (t : Template) : List String :=
  t.header.sources ++ (nonEmpty? t.table.linePattern).toList

namespace Document

variable {t : Template}

/-- A document is read unless some pattern stops the reading. -/
theorem exists_extracted_iff (h : ¬ IsUnreadable text) (t : Template) :
    (∃ e, (extractText t text).outcome = .ok (.extracted e)) ↔
      ∀ source ∈ t.sources, ¬ Pattern.Stops source := by
  have hsources : (∀ source ∈ t.sources, ¬ Pattern.Stops source) ↔
      (∀ source ∈ t.header.sources, ¬ Pattern.Stops source) ∧
        ∀ source ∈ nonEmpty? t.table.linePattern, ¬ Pattern.Stops source := by
    simp only [Template.sources, List.mem_append, Option.mem_toList, Option.mem_def, or_imp,
      forall_and]
  rw [hsources, ← ProductLines.exists_outcome_iff]
  constructor
  · rintro ⟨e, he⟩
    obtain ⟨-, header, lines, hheader, hlines, -⟩ := outcome_eq_extracted_iff.mp he
    exact ⟨(Header.outcome_extract_eq_ok_iff.mp hheader).1, lines, hlines⟩
  · rintro ⟨hgo, lines, hlines⟩
    have hheader : (Header.extract text.toList t.header).outcome = .ok _ :=
      Header.outcome_extract_eq_ok_iff.mpr ⟨hgo, rfl⟩
    exact ⟨_, outcome_eq_extracted_iff.mpr ⟨h, _, lines, hheader, hlines, rfl⟩⟩

theorem exists_error_iff (t : Template) (text : String) :
    (∃ f, (extractText t text).outcome = .error f) ↔
      ¬ IsUnreadable text ∧ ∃ source ∈ t.sources, Pattern.Stops source := by
  by_cases h : IsUnreadable text
  · obtain ⟨r, hr⟩ := (exists_refused_iff t text).mpr h
    rw [hr]
    constructor
    · rintro ⟨f, hf⟩
      cases hf
    · exact fun hnot => absurd h hnot.1
  · have hread := exists_extracted_iff h t
    cases houtcome : (extractText t text).outcome with
    | error f =>
      rw [houtcome] at hread
      refine ⟨fun _ => ⟨h, ?_⟩, fun _ => ⟨f, rfl⟩⟩
      by_contra! hgo
      obtain ⟨e, he⟩ := hread.mpr hgo
      cases he
    | ok o =>
      constructor
      · rintro ⟨f, hf⟩
        cases hf
      · rintro ⟨-, source, hsource, hstops⟩
        cases o with
        | extracted e => exact absurd hstops (hread.mp ⟨e, houtcome⟩ source hsource)
        | refused r => exact absurd ((exists_refused_iff t text).mp ⟨r, houtcome⟩) h

/-- A diagnosis is made unless the pattern stops it. -/
theorem exists_diagnose_error_iff {rule : TableRule} :
    (∃ f, (Diagnosis.diagnose text rule).outcome = .error f) ↔
      Table.candidates (Table.rows text rule.startMarker rule.endMarker) ≠ [] ∧
        ∃ source ∈ nonEmpty? rule.linePattern, Pattern.Stops source := by
  have hok {d : Diagnosis} {p : Prop} (hd : (Diagnosis.diagnose text rule).outcome = .ok d)
      (hp : ¬ p) : (∃ f, (Diagnosis.diagnose text rule).outcome = .error f) ↔ p := by
    refine iff_of_false ?_ hp
    rintro ⟨f, hf⟩
    cases hd.symm.trans hf
  cases hrows : Table.candidates (Table.rows text rule.startMarker rule.endMarker) with
  | nil => exact hok (Diagnosis.outcome_diagnose_of_nil hrows) fun h => h.1 rfl
  | cons row rows =>
    by_cases hempty : rule.linePattern = ""
    · refine hok (Diagnosis.outcome_diagnose_of_empty hrows hempty) ?_
      simp [hempty, nonEmpty?]
    · have hstops : (row :: rows ≠ [] ∧ ∃ source ∈ some rule.linePattern, Pattern.Stops source) ↔
          Pattern.Stops rule.linePattern := by simp
      rw [ProductLines.nonEmpty?_of_ne hempty, hstops]
      cases hc : Regex.compile rule.linePattern with
      | ok r =>
        exact hok (Diagnosis.outcome_diagnose_of_ok hrows hempty hc) (Pattern.not_stops_of_ok hc)
      | error fault =>
        cases hf : fault.isReported with
        | true =>
          exact hok (Diagnosis.outcome_diagnose_of_fault hrows hempty hc hf)
            (Pattern.not_stops_of_reported hc hf)
        | false =>
          exact iff_of_true ⟨_, Diagnosis.outcome_diagnose_of_unreported hrows hempty hc hf⟩
            ⟨fault, hc, hf⟩

/-- With patterns that are not nested too deep to be compiled, reading fails only for a pattern that
stops it, with a document that can be read, and the diagnosis only for a line pattern that stops it.
Otherwise every header field has the value that its own pattern gives, a pattern that is refused is
a problem with its own field, and a line pattern that is refused gives the only problem with the
product lines. -/
theorem patterns_stop_iff (t : Template) (text : String) :
    (∀ source ∈ t.sources, Pattern.IsShallow source) →
    let rows := Table.candidates (Table.rows text t.table.startMarker t.table.endMarker)
    ((∃ f, (extractText t text).outcome = .error f) ↔
      ¬ IsUnreadable text ∧ ∃ source ∈ t.sources, Pattern.Stops source) ∧
    ((∃ f, (Diagnosis.diagnose text t.table).outcome = .error f) ↔
      rows ≠ [] ∧ ∃ source ∈ nonEmpty? t.table.linePattern, Pattern.Stops source) ∧
    (∀ e, (extractText t text).outcome = .ok (.extracted e) → ∃ lines,
      e = Extraction.ofParts t.name (Header.ofPatterns text.toList t.header) lines ∧
      (ProductLines.extract text t.table).outcome = .ok lines ∧
      ∀ fault, t.table.linePattern ≠ "" → Regex.compile t.table.linePattern = .error fault →
        lines = ⟨[], [patternProblem ProductLines.patternField t.table.linePattern fault]⟩) ∧
    (∀ d fault, (Diagnosis.diagnose text t.table).outcome = .ok d → rows ≠ [] →
      t.table.linePattern ≠ "" → Regex.compile t.table.linePattern = .error fault →
      d = .obstacle (.badPattern (fault.text t.table.linePattern.toList))) := by
  intro _ rows
  refine ⟨exists_error_iff t text, exists_diagnose_error_iff, fun e he => ?_,
    fun d fault hd hrows hne hc => ?_⟩
  · obtain ⟨-, header, lines, hheader, hlines, rfl⟩ := outcome_eq_extracted_iff.mp he
    obtain ⟨-, rfl⟩ := Header.outcome_extract_eq_ok_iff.mp hheader
    refine ⟨lines, rfl, hlines, fun fault hne hc => ?_⟩
    rcases ProductLines.outcome_extract_cases hlines with ⟨hempty, -⟩ | ⟨fault', -, hc', rfl⟩ |
      ⟨_, _, -, hc', -⟩ | ⟨_, -, hc', -⟩
    · exact absurd hempty hne
    · obtain rfl := Except.error.inj (hc.symm.trans hc')
      rfl
    all_goals cases hc.symm.trans hc'
  · rcases Diagnosis.outcome_diagnose_cases hd with ⟨hnil, -⟩ | ⟨_, _, -, hpattern⟩
    · exact absurd hnil hrows
    · rcases hpattern with ⟨hempty, -⟩ | ⟨fault', -, hc', rfl⟩ | ⟨_, -, hc', -⟩
      · exact absurd hempty hne
      · obtain rfl := Except.error.inj (hc.symm.trans hc')
        rfl
      · cases hc.symm.trans hc'

theorem patterns_stop_iff_refused :
    let t : Template := ⟨none, "", true, [], none, ⟨some "(", some "x\\", none, none⟩,
      ⟨"", "", "[a", .empty⟩, none, none⟩
    (∀ source ∈ t.sources, Pattern.IsShallow source) ∧
      (∀ f, (extractText t "x").outcome ≠ .error f) ∧
      ∀ f, (Diagnosis.diagnose "x" t.table).outcome ≠ .error f := by
  intro t
  have hshallow : ∀ source ∈ t.sources, Pattern.IsShallow source := by
    simp only [Pattern.IsShallow]
    decide
  have hgo : ∀ source ∈ t.sources, ¬ Pattern.Stops source := by
    intro source hsource
    obtain ⟨fault, hc, hf⟩ : ∃ fault, Regex.compile source = .error fault ∧
        fault.isReported = true := by
      obtain rfl | rfl | rfl : source = "(" ∨ source = "x\\" ∨ source = "[a" := by
        simpa [t, Template.sources, HeaderPatterns.sources, nonEmpty?] using hsource
      · exact ⟨_, by cbv, rfl⟩
      · exact ⟨_, by cbv, rfl⟩
      · exact ⟨_, by cbv, rfl⟩
    exact Pattern.not_stops_of_reported hc hf
  obtain ⟨hextract, hdiagnose, -⟩ := patterns_stop_iff t "x" hshallow
  refine ⟨hshallow, fun f hf => ?_, fun f hf => ?_⟩
  · obtain ⟨-, source, hsource, hstops⟩ := hextract.mp ⟨f, hf⟩
    exact hgo source hsource hstops
  · obtain ⟨-, source, hsource, hstops⟩ := hdiagnose.mp ⟨f, hf⟩
    exact hgo source (List.mem_append_right _ (Option.mem_toList.mpr hsource)) hstops

/-- A repetition number that is too large stops the reading of the whole document. -/
theorem huge_repeat_stops :
    let t : Template := ⟨none, "", true, [], none, ⟨some "a{4294967296}", none, none, some "x"⟩,
      ⟨"", "", "a{4294967296}", .empty⟩, none, none⟩
    (extractText t "x").outcome = .error (.pattern "order_number" "a{4294967296}" .hugeRepeat) ∧
      (Diagnosis.diagnose "x" t.table).outcome =
        .error (.pattern "line_pattern" "a{4294967296}" .hugeRepeat) := by
  intro t
  exact ⟨by cbv, by cbv⟩

end Document

end OrderSheet
