import OrderSheet.Detect
import OrderSheet.Proofs.Extract.Document
import OrderSheet.Proofs.Number.Value

/-!
# Verdicts

A review reports every flaw of every product once, in the order of the products, and it is valid
exactly if there are products and none of them has a flaw. A declared total outside the tolerance
and the problems met on the way are warnings, which do not touch the verdict.
-/

namespace OrderSheet

namespace Review

variable {r : Review} {f : Finding} {fs : List Finding} {s : Severity}

def reported (r : Review) : Severity → List Finding
  | .error => r.errors
  | .warning => r.warnings
  | .info => r.notes

theorem reported_add (r : Review) (f : Finding) (s : Severity) :
    (r.add f).reported s = r.reported s ++ if f.severity = s then [f] else [] := by
  cases hf : f.severity <;> cases s <;> simp [add, reported, hf]

/-- Findings are kept in the order in which they come, each in the list of its severity. -/
theorem reported_addAll (r : Review) (fs : List Finding) (s : Severity) :
    (r.addAll fs).reported s = r.reported s ++ fs.filter (·.severity = s) := by
  induction fs generalizing r with
  | nil => simp
  | cons f fs ih =>
    rw [addAll_cons, ih, reported_add, List.append_assoc, List.filter_cons]
    by_cases hf : f.severity = s
    · simp [hf]
    · simp [hf]

def Consistent (r : Review) : Prop := r.valid = true ↔ r.errors = []

theorem consistent_empty : empty.Consistent := by simp [Consistent, empty]

theorem Consistent.add (h : r.Consistent) (f : Finding) : (r.add f).Consistent := by
  rw [Consistent] at h ⊢
  cases hf : f.severity <;> simp [Review.add, hf, h]

theorem Consistent.addAll (h : r.Consistent) (fs : List Finding) : (r.addAll fs).Consistent := by
  induction fs generalizing r with
  | nil => exact h
  | cons f fs ih => exact ih (h.add f)

/-- Findings of one severity are kept by the filter for it, and by no other. -/
theorem filter_severity {s' : Severity} (h : ∀ f ∈ fs, f.severity = s') (s : Severity) :
    fs.filter (·.severity = s) = if s' = s then fs else [] := by
  split
  · next heq => simpa [List.filter_eq_self, ← heq] using h
  · next hne =>
    simp only [List.filter_eq_nil_iff, decide_eq_true_eq]
    exact fun f hf heq => hne ((h f hf).symm.trans heq)

end Review

inductive Flaw where
  | description
  | quantity
  | unitPrice
  deriving DecidableEq, Repr

namespace Flaw

def all : List Flaw := [description, quantity, unitPrice]

def Affects (p : Product) : Flaw → Prop
  | description => ∀ c ∈ p.description.toList, Text.isBlank c = true
  | quantity => p.quantity.toRat ≤ 0
  | unitPrice => p.unitPrice.toRat < 0

instance (p : Product) : DecidablePred (Affects p)
  | description => inferInstanceAs (Decidable (∀ c ∈ p.description.toList, _))
  | quantity => inferInstanceAs (Decidable (p.quantity.toRat ≤ 0))
  | unitPrice => inferInstanceAs (Decidable (p.unitPrice.toRat < 0))

def field : Flaw → String
  | description => "description"
  | quantity => "quantity"
  | unitPrice => "unit_price"

def code : Flaw → String
  | description => "MISSING_DESCRIPTION"
  | quantity => "INVALID_QUANTITY"
  | unitPrice => "INVALID_UNIT_PRICE"

def explanation (p : Product) : Flaw → String
  | description => "missing description"
  | quantity => s!"invalid quantity {p.quantity.toText}"
  | unitPrice => s!"invalid unit price {p.unitPrice.toText}"

def error (p : Product) (position : Nat) (f : Flaw) : Finding where
  severity := .error
  field := some f.field
  message := s!"Product {position}: " ++ f.explanation p
  code := some f.code
  product := some position
  context := none

def errors (p : Product) (position : Nat) : List Finding :=
  (all.filter (Affects p)).map (error p position)

end Flaw

/-- A product that can be bought: it has a description, a positive quantity and no negative
price. -/
structure Product.Sound (p : Product) : Prop where
  description : ∃ c ∈ p.description.toList, Text.isBlank c = false
  quantity : 0 < p.quantity.toRat
  unitPrice : 0 ≤ p.unitPrice.toRat

namespace Flaw

variable {p : Product} {f : Flaw} {position : Nat}

theorem code_injective {f g : Flaw} : f.code = g.code → f = g := by
  cases f <;> cases g <;> decide

theorem mem_all (f : Flaw) : f ∈ all := by cases f <;> decide

theorem mem_errors_iff {e : Finding} :
    e ∈ errors p position ↔ ∃ f : Flaw, f.Affects p ∧ error p position f = e := by
  simp [errors, mem_all]

theorem sound_iff : p.Sound ↔ ∀ f : Flaw, ¬ f.Affects p := by
  constructor
  · rintro ⟨⟨c, hc, hvisible⟩, hquantity, hprice⟩ f hf
    cases f with
    | description => exact absurd (hf c hc) (by simp [hvisible])
    | quantity => exact not_le_of_gt hquantity hf
    | unitPrice => exact not_lt_of_ge hprice hf
  · intro h
    refine ⟨?_, lt_of_not_ge (h quantity), le_of_not_gt (h unitPrice)⟩
    simpa [Affects] using h description

theorem errors_eq_nil_iff : errors p position = [] ↔ p.Sound := by
  rw [sound_iff, List.eq_nil_iff_forall_not_mem]
  constructor
  · exact fun h f hf => h _ (mem_errors_iff.mpr ⟨f, hf, rfl⟩)
  · rintro h e he
    obtain ⟨f, hf, -⟩ := mem_errors_iff.mp he
    exact h f hf

theorem quantity_affects_iff : quantity.Affects p ↔
    (p.quantity.isNegative || p.quantity.isZero) = true := by
  rw [Bool.or_eq_true, Decimal.isNegative_iff, ← Decimal.toRat_eq_zero_iff]
  exact le_iff_lt_or_eq

/-- What is checked of a product is what can be wrong with it. -/
theorem productFindings_eq (p : Product) (position : Nat) :
    Review.productFindings p position = errors p position := by
  have hdescription : description.Affects p ↔ Text.isBlankText p.description.toList = true :=
    List.all_eq_true.symm
  have hprice : unitPrice.Affects p ↔ p.unitPrice.isNegative = true :=
    Decimal.isNegative_iff.symm
  simp only [Review.productFindings, ← hdescription, ← quantity_affects_iff, ← hprice, errors, all,
    List.filter_cons, List.filter_nil, decide_eq_true_eq]
  split <;> split <;> split <;> rfl

end Flaw

namespace Review

variable {e : Extraction} {p : Product} {tolerance : Decimal} {r : Review} {f : Finding}
  {fs : List Finding} {s : Severity} {i : Nat}

def Comparable (e : Extraction) : Prop :=
  ∀ total, e.total = some total → e.products ≠ [] → ∃ sum difference size,
    e.productsTotal = .ok sum ∧ sum.sub total = .ok difference ∧ difference.abs = .ok size

def mismatchWarning (sum total size : Decimal) : Finding where
  severity := .warning
  field := some "total"
  message := s!"Sum of products ({sum.toText}) does not match the document " ++
    s!"total ({total.toText}). Difference: {size.toText}"
  code := some "TOTAL_MISMATCH"
  product := none
  context := some [("items_total", .text sum.toText), ("document_total", .text total.toText)]

/-- The warning about a declared total outside the tolerance. -/
inductive Mismatch (tolerance : Decimal) (e : Extraction) : Finding → Prop where
  | intro {total sum difference size : Decimal} (declared : e.total = some total)
    (products : e.products ≠ []) (computed : e.productsTotal = .ok sum)
    (subtracted : sum.sub total = .ok difference) (measured : difference.abs = .ok size)
    (exceeds : tolerance.toRat < size.toRat) :
    Mismatch tolerance e (mismatchWarning sum total size)

/-- Whether there is a warning depends on the size of the computed difference. -/
theorem exists_mismatch_iff {total sum difference size : Decimal} (htotal : e.total = some total)
    (hne : e.products ≠ []) (hsum : e.productsTotal = .ok sum)
    (hdifference : sum.sub total = .ok difference) (hsize : difference.abs = .ok size) :
    (∃ f, Mismatch tolerance e f) ↔ tolerance.toRat < size.toRat := by
  constructor
  · rintro ⟨-, htotal', -, hsum', hdifference', hsize', hexceeds⟩
    cases htotal.symm.trans htotal'
    cases hsum.symm.trans hsum'
    cases hdifference.symm.trans hdifference'
    cases hsize.symm.trans hsize'
    exact hexceeds
  · exact fun hexceeds => ⟨_, htotal, hne, hsum, hdifference, hsize, hexceeds⟩

def problemWarning (p : Problem) : Finding where
  severity := .warning
  field := some p.field
  message := p.message
  code := some p.kind.code
  product := none
  context := p.line.map fun (n : Nat) => [("line_number", .int n)]

def Compared (tolerance : Decimal) (e : Extraction) (fs : List Finding) : Prop :=
  (∃ f, Mismatch tolerance e f ∧ fs = [f]) ∨ (∀ f, ¬ Mismatch tolerance e f) ∧ fs = []

theorem Compared.severity (h : Compared tolerance e fs) : ∀ f ∈ fs, f.severity = .warning := by
  rcases h with ⟨f, ⟨⟩, rfl⟩ | ⟨-, rfl⟩ <;> simp [mismatchWarning]

/-- Without a declared total or without products nothing is compared. -/
theorem totalFindings_eq_nil (tolerance : Decimal) (h : e.total = none ∨ e.products = []) :
    totalFindings tolerance e = .ok [] ∧ Compared tolerance e [] := by
  refine ⟨?_, .inr ⟨?_, rfl⟩⟩
  · rw [totalFindings]
    rcases h with h | h
    · rw [h]
      rfl
    · cases e.total with
      | none => rfl
      | some total =>
        dsimp only
        rw [h]
        rfl
  · rintro _ ⟨htotal, hne, -, -, -, -⟩
    simp [htotal, hne] at h

theorem exists_totalFindings (tolerance : Decimal) (h : Comparable e) :
    ∃ fs, totalFindings tolerance e = .ok fs ∧ Compared tolerance e fs := by
  by_cases hnone : e.total = none ∨ e.products = []
  · exact ⟨[], totalFindings_eq_nil tolerance hnone⟩
  · obtain ⟨htotal, hne⟩ := not_or.mp hnone
    obtain ⟨total, htotal⟩ := Option.ne_none_iff_exists'.mp htotal
    obtain ⟨sum, difference, size, hsum, hdifference, hsize⟩ := h total htotal hne
    have hfindings : totalFindings tolerance e =
        if tolerance.lt size then .ok [mismatchWarning sum total size] else .ok [] := by
      simp only [totalFindings, htotal, List.isEmpty_iff, hne, hsum, hdifference, hsize, bind,
        Except.bind]
      rfl
    rw [hfindings]
    have hiff : (∃ f, Mismatch tolerance e f) ↔ tolerance.lt size = true := by
      rw [Decimal.lt_iff]
      exact exists_mismatch_iff htotal hne hsum hdifference hsize
    by_cases hexceeds : tolerance.lt size = true
    · refine ⟨_, if_pos hexceeds, .inl ⟨_, ?_, rfl⟩⟩
      exact ⟨htotal, hne, hsum, hdifference, hsize, Decimal.lt_iff.mp hexceeds⟩
    · exact ⟨_, if_neg hexceeds, .inr ⟨fun f hf => hexceeds (hiff.mp ⟨f, hf⟩), rfl⟩⟩

theorem comparable_of_totalFindings (h : totalFindings tolerance e = .ok fs) : Comparable e := by
  intro total htotal hne
  simp only [totalFindings, htotal, List.isEmpty_iff, hne, bind, Except.bind] at h
  cases hsum : e.productsTotal with
  | error x => simp [hsum] at h
  | ok sum =>
    simp only [hsum] at h
    cases hdifference : sum.sub total with
    | error x => simp [hdifference] at h
    | ok difference =>
      simp only [hdifference] at h
      cases hsize : difference.abs with
      | error x => simp [hsize] at h
      | ok size => exact ⟨sum, difference, size, rfl, hdifference, hsize⟩

structure Verdict (tolerance : Decimal) (e : Extraction) (r : Review) : Prop where
  valid_iff : r.valid = true ↔ e.products ≠ [] ∧ ∀ p ∈ e.products, p.Sound
  errors_of_nil : e.products = [] → r.errors = [{
    severity := .error
    field := some "items"
    message := "No products found in the document"
    code := some "NO_ITEMS"
    product := none
    context := none }]
  errors_eq : e.products ≠ [] →
    r.errors = e.products.zipIdx.flatMap fun (p, i) => Flaw.errors p (i + 1)
  warnings_eq : (∃ f, Mismatch tolerance e f ∧ r.warnings = f :: e.problems.map problemWarning) ∨
    (∀ f, ¬ Mismatch tolerance e f) ∧ r.warnings = e.problems.map problemWarning
  notes_eq : r.notes = [{
    severity := .info
    field := some "items"
    message := s!"{e.products.length} product(s) extracted"
    code := some "ITEM_COUNT"
    product := none
    context := some [("count", .int e.products.length)] }]

def WarnsOfTotal (r : Review) : Prop := ∃ f ∈ r.warnings, f.code = some "TOTAL_MISMATCH"

namespace Verdict

/-- An error about a flaw stands in the review of products if the product at its position has the
flaw. -/
theorem exists_error_iff (h : Verdict tolerance e r) (hp : e.products[i]? = some p) (flaw : Flaw) :
    (∃ f ∈ r.errors, f.code = some flaw.code ∧ f.product = some (i + 1)) ↔ flaw.Affects p := by
  have hne : e.products ≠ [] := by
    intro hnil
    simp [hnil] at hp
  rw [h.errors_eq hne]
  constructor
  · rintro ⟨f, hf, hcode, hposition⟩
    obtain ⟨⟨q, j⟩, hq, hf⟩ := List.mem_flatMap.mp hf
    obtain ⟨other, haffects, rfl⟩ := Flaw.mem_errors_iff.mp hf
    obtain rfl : j = i := by simpa [Flaw.error] using hposition
    rw [List.mem_zipIdx_iff_getElem?, hp] at hq
    cases hq
    rwa [← Flaw.code_injective (Option.some.inj hcode)]
  · intro haffects
    refine ⟨flaw.error p (i + 1), List.mem_flatMap.mpr ⟨(p, i), ?_, ?_⟩, rfl, rfl⟩
    · exact List.mem_zipIdx_iff_getElem?.mpr hp
    · exact Flaw.mem_errors_iff.mpr ⟨flaw, haffects, rfl⟩

theorem code_of_mem_warnings (h : Verdict tolerance e r) (hf : f ∈ r.warnings) :
    f.code = some "TOTAL_MISMATCH" ∨ ∃ k : ProblemKind, f.code = some k.code := by
  have hproblem (hf : f ∈ e.problems.map problemWarning) :
      ∃ k : ProblemKind, f.code = some k.code := by
    obtain ⟨p, -, rfl⟩ := List.mem_map.mp hf
    exact ⟨p.kind, rfl⟩
  rcases h.warnings_eq with ⟨g, ⟨⟩, hwarnings⟩ | ⟨-, hwarnings⟩
  · rw [hwarnings, List.mem_cons] at hf
    rcases hf with rfl | hf
    · exact .inl rfl
    · exact .inr (hproblem hf)
  · rw [hwarnings] at hf
    exact .inr (hproblem hf)

/-- Without a product that has a flaw nothing is reported about it. -/
theorem exists_affected (h : Verdict tolerance e r) (flaw : Flaw) (hf : f ∈ r.reported s)
    (hcode : f.code = some flaw.code) : ∃ p ∈ e.products, flaw.Affects p := by
  have hother (code : String) (hcode' : f.code = some code) (hne : flaw.code ≠ code) : False :=
    hne (Option.some.inj (hcode.symm.trans hcode'))
  cases s with
  | info =>
    rw [reported, h.notes_eq, List.mem_singleton] at hf
    refine (hother "ITEM_COUNT" (by rw [hf]) ?_).elim
    cases flaw <;> decide
  | warning =>
    rcases h.code_of_mem_warnings hf with hmismatch | ⟨k, hproblem⟩
    · refine (hother _ hmismatch ?_).elim
      cases flaw <;> decide
    · refine (hother _ hproblem ?_).elim
      cases flaw <;> cases k <;> decide
  | error =>
    by_cases hnil : e.products = []
    · rw [reported, h.errors_of_nil hnil, List.mem_singleton] at hf
      refine (hother "NO_ITEMS" (by rw [hf]) ?_).elim
      cases flaw <;> decide
    · rw [reported, h.errors_eq hnil] at hf
      obtain ⟨⟨p, i⟩, hp, hf⟩ := List.mem_flatMap.mp hf
      obtain ⟨other, haffects, rfl⟩ := Flaw.mem_errors_iff.mp hf
      rw [← Flaw.code_injective (Option.some.inj hcode)]
      exact ⟨p, List.fst_mem_of_mem_zipIdx hp, haffects⟩

/-- No problem is reported as a mismatch of the totals. -/
theorem warnsOfTotal_iff (h : Verdict tolerance e r) :
    r.WarnsOfTotal ↔ ∃ f, Mismatch tolerance e f := by
  have hproblem : ∀ f ∈ e.problems.map problemWarning, f.code ≠ some "TOTAL_MISMATCH" := by
    intro f hf
    obtain ⟨p, -, rfl⟩ := List.mem_map.mp hf
    change some p.kind.code ≠ _
    cases p.kind <;> decide
  rcases h.warnings_eq with ⟨f, hf, hwarnings⟩ | ⟨hnone, hwarnings⟩
  · refine iff_of_true ⟨f, by rw [hwarnings]; exact List.mem_cons_self .., ?_⟩ ⟨f, hf⟩
    cases hf
    rfl
  · refine iff_of_false ?_ (fun ⟨f, hf⟩ => hnone f hf)
    rintro ⟨f, hf, hcode⟩
    rw [hwarnings] at hf
    exact hproblem f hf hcode

end Verdict

/-- All that a review finds, in the order in which it looks. -/
theorem outcome_validate : (validate tolerance e).outcome = .ok r ↔ ∃ fs,
    totalFindings tolerance e = .ok fs ∧ r = empty.addAll
      (noProducts e ++ productsFindings e ++ fs ++ problemFindings e ++ [countFinding e]) := by
  rw [validate, judge]
  cases totalFindings tolerance e with
  | error x => simp [bind, Except.bind, Activity.fail]
  | ok fs => simp [bind, Except.bind, pure, Except.pure, eq_comm]

theorem productsFindings_eq (e : Extraction) :
    productsFindings e = e.products.zipIdx.flatMap fun (p, i) => Flaw.errors p (i + 1) := by
  simp only [productsFindings, Flaw.productFindings_eq]

theorem severity_noProducts : ∀ f ∈ noProducts e, f.severity = .error := by
  rw [noProducts]
  split <;> simp [finding]

theorem severity_productsFindings : ∀ f ∈ productsFindings e, f.severity = .error := by
  rw [productsFindings_eq]
  intro f hf
  obtain ⟨⟨p, i⟩, -, hf⟩ := List.mem_flatMap.mp hf
  obtain ⟨flaw, -, rfl⟩ := Flaw.mem_errors_iff.mp hf
  rfl

theorem problemFindings_eq (e : Extraction) :
    problemFindings e = e.problems.map problemWarning := by
  refine List.map_congr_left fun p _ => ?_
  rw [problemWarning]
  cases p.line <;> rfl

theorem severity_problemFindings : ∀ f ∈ problemFindings e, f.severity = .warning := by
  rw [problemFindings_eq]
  intro f hf
  obtain ⟨p, -, rfl⟩ := List.mem_map.mp hf
  rfl

theorem productsFindings_eq_nil_iff :
    productsFindings e = [] ↔ ∀ p ∈ e.products, p.Sound := by
  simp only [productsFindings_eq, List.flatMap_eq_nil_iff, Flaw.errors_eq_nil_iff, Prod.forall]
  constructor
  · intro h p hp
    obtain ⟨i, hi⟩ := List.getElem?_of_mem hp
    exact h p i (List.mem_zipIdx_iff_getElem?.mpr hi)
  · exact fun h p i hi => h p (List.fst_mem_of_mem_zipIdx hi)

theorem reported_findings (hfs : ∀ f ∈ fs, f.severity = .warning) :
    let r := empty.addAll
      (noProducts e ++ productsFindings e ++ fs ++ problemFindings e ++ [countFinding e])
    r.errors = noProducts e ++ productsFindings e ∧ r.warnings = fs ++ problemFindings e ∧
      r.notes = [countFinding e] := by
  intro r
  have hcount : ∀ f ∈ [countFinding e], f.severity = .info := by simp [countFinding, finding]
  have hreported (s : Severity) : r.reported s =
      (if .error = s then noProducts e else []) ++
        (if .error = s then productsFindings e else []) ++ (if .warning = s then fs else []) ++
        (if .warning = s then problemFindings e else []) ++
        if .info = s then [countFinding e] else [] := by
    rw [reported_addAll, List.filter_append, List.filter_append, List.filter_append,
      List.filter_append, filter_severity severity_noProducts,
      filter_severity severity_productsFindings, filter_severity hfs,
      filter_severity severity_problemFindings, filter_severity hcount]
    cases s <;> rfl
  exact ⟨(hreported .error).trans (by simp), (hreported .warning).trans (by simp),
    (hreported .info).trans (by simp)⟩

theorem verdict_of_validate (h : (validate tolerance e).outcome = .ok r) :
    Verdict tolerance e r := by
  obtain ⟨fs, hfs, rfl⟩ := outcome_validate.mp h
  have hcompared : Compared tolerance e fs := by
    obtain ⟨fs', hfs', hcompared⟩ :=
      exists_totalFindings tolerance (comparable_of_totalFindings hfs)
    cases hfs.symm.trans hfs'
    exact hcompared
  obtain ⟨herrors, hwarnings, hnotes⟩ := reported_findings (e := e) hcompared.severity
  refine ⟨?_, fun hnil => ?_, fun hne => ?_, ?_, hnotes⟩
  · refine Iff.trans (consistent_empty.addAll _) ?_
    rw [herrors, List.append_eq_nil_iff, productsFindings_eq_nil_iff]
    simp [noProducts]
  · rw [herrors, productsFindings, hnil]
    simp [noProducts, hnil, finding]
  · rw [herrors, productsFindings_eq, noProducts, if_neg (by simp [hne]), List.nil_append]
  · rw [hwarnings, problemFindings_eq]
    rcases hcompared with ⟨f, hf, rfl⟩ | ⟨hnone, rfl⟩
    · exact .inl ⟨f, hf, rfl⟩
    · exact .inr ⟨hnone, rfl⟩

theorem exists_validate_iff (tolerance : Decimal) (e : Extraction) :
    (∃ r, (validate tolerance e).outcome = .ok r) ↔ Comparable e := by
  simp only [outcome_validate]
  constructor
  · rintro ⟨-, fs, hfs, -⟩
    exact comparable_of_totalFindings hfs
  · intro h
    obtain ⟨fs, hfs, -⟩ := exists_totalFindings tolerance h
    exact ⟨_, fs, hfs, rfl⟩

/-- A document is judged by what was read from it, and by nothing else. -/
theorem outcome_process_read {templates : List Template} {document : String} {t : Template}
    (h : (Detect.process templates document).outcome = .ok (.read t e r)) :
    (Document.extractText t document).outcome = .ok (.extracted e) ∧
      (validate Settings.tolerance e).outcome = .ok r := by
  obtain ⟨found, -, h⟩ := Activity.outcome_bind_eq_ok_iff.mp h
  cases found with
  | none => cases h
  | some found =>
    obtain ⟨o, hextract, h⟩ := Activity.outcome_bind_eq_ok_iff.mp h
    cases o with
    | refused x => cases h
    | extracted e' =>
      obtain ⟨r', hvalidate, h⟩ := Activity.outcome_bind_eq_ok_iff.mp h
      cases h
      exact ⟨hextract, hvalidate⟩

/-- A review says what it documents. If the totals can be computed, there is a review for every
tolerance: it is valid exactly if there are products and all of them are sound, it has one error
for each flaw of each product, in order and with its position, it warns of a total outside the
tolerance and then of every problem, and it counts the products. The extraction itself is only
read: beside the review of a document stands the extraction that was made from the document. -/
theorem validate_verdict (tolerance : Decimal) (e : Extraction) (h : Comparable e) :
    (∃ r, (validate tolerance e).outcome = .ok r ∧ Verdict tolerance e r) ∧
    ∀ templates document t r, (Detect.process templates document).outcome = .ok (.read t e r) →
      (Document.extractText t document).outcome = .ok (.extracted e) ∧
        Verdict Settings.tolerance e r := by
  refine ⟨?_, fun templates document t r hprocess => ?_⟩
  · obtain ⟨r, hr⟩ := (exists_validate_iff tolerance e).mpr h
    exact ⟨r, hr, verdict_of_validate hr⟩
  · obtain ⟨hextract, hvalidate⟩ := outcome_process_read hprocess
    exact ⟨hextract, verdict_of_validate hvalidate⟩

theorem validate_verdict_second_flawed :
    let p : Product := ⟨"a", ⟨false, 2, 0⟩, ⟨false, 500, -2⟩, none, none, 1⟩
    let q : Product := ⟨" ", ⟨false, 0, 0⟩, ⟨true, 1, 0⟩, none, none, 2⟩
    let e : Extraction := ⟨none, none, none, none, some ⟨false, 500, 0⟩, [p, q],
      [⟨"quantity", "Could not read 'x'", .fieldParse, some 7⟩]⟩
    Comparable e ∧ ∃ r, (validate Settings.tolerance e).outcome = .ok r ∧
      Verdict Settings.tolerance e r := by
  intro p q e
  have h : Comparable e := by
    rintro _ ⟨⟩ -
    exact ⟨⟨false, 1000, -2⟩, ⟨true, 49000, -2⟩, ⟨false, 49000, -2⟩, by cbv, by cbv, by cbv⟩
  exact ⟨h, (validate_verdict Settings.tolerance e h).1⟩

end Review

end OrderSheet
