import OrderSheet.Proofs.Extract.Origin

/-!
# Header fields one by one

A field of the header shows what its own pattern finds in the document and nothing else. Its problem
is with its own pattern too, or, for the total, with the text that this pattern finds, so that the
fields do not depend on each other in any way.
-/

namespace OrderSheet

/-- The fields of a header, in the order in which they are read. -/
inductive HeaderField where
  | orderNumber
  | orderDate
  | supplierName
  | total
  deriving DecidableEq, Repr

namespace HeaderField

def all : List HeaderField := [orderNumber, orderDate, supplierName, total]

def name : HeaderField → String
  | orderNumber => "order_number"
  | orderDate => "order_date"
  | supplierName => "supplier_name"
  | total => "total"

theorem name_injective {f g : HeaderField} (h : f.name = g.name) : f = g := by
  cases f <;> cases g <;> first | rfl | exact absurd h (by decide)

end HeaderField

def HeaderPatterns.get (p : HeaderPatterns) : HeaderField → Option String
  | .orderNumber => p.order
  | .orderDate => p.date
  | .supplierName => p.supplier
  | .total => p.total

namespace Header

variable {cs : List Char} {pattern : Option String} {s source : String} {fault : Regex.Fault}
  {p p' : HeaderPatterns} {f g : HeaderField} {q : Problem} {h h' : Header}

inductive Blames (cs : List Char) (p : HeaderPatterns) : HeaderField → Problem → Prop
  | refused {f : HeaderField} {source : String} {fault : Regex.Fault} (hp : p.get f = some source)
      (hne : source ≠ "") (hc : Regex.compile source = .error fault) :
      Blames cs p f (patternProblem f.name source fault)
  | unreadable {s : String} (hs : Finds cs p.total s)
      (hread : Amount.read? .commaDecimal s.toList = none) :
      Blames cs p .total ⟨"total", s!"Could not read '{s}' as an amount", .fieldParse, none⟩

def problem? (cs : List Char) (p : HeaderPatterns) (f : HeaderField) : Option Problem :=
  match (p.get f).bind nonEmpty? with
  | none => none
  | some source =>
    match Regex.compile source with
    | .error fault => some (patternProblem f.name source fault)
    | .ok _ => if f = .total then (readTotal (value cs p.total)).2.head? else none

theorem mem_readTotal_iff {raw : Option String} : q ∈ (readTotal raw).2.head? ↔
    ∃ s, raw = some s ∧ Amount.read? .commaDecimal s.toList = none ∧
      q = ⟨"total", s!"Could not read '{s}' as an amount", .fieldParse, none⟩ := by
  cases raw with
  | none => simp [readTotal]
  | some s =>
    cases hread : Amount.read? .commaDecimal s.toList with
    | some d => simp [readTotal, hread]
    | none => simp [readTotal, hread, eq_comm]

theorem readTotal_eq_toList (raw : Option String) :
    (readTotal raw).2 = (readTotal raw).2.head?.toList := by
  cases raw with
  | none => rfl
  | some s => cases hread : Amount.read? .commaDecimal s.toList <;> simp [readTotal, hread]

theorem value_of_nonEmpty?_eq_none (hp : pattern.bind nonEmpty? = none) :
    value cs pattern = none := by
  rw [value, hp]

theorem value_of_refused (hp : pattern.bind nonEmpty? = some source)
    (hc : Regex.compile source = .error fault) : value cs pattern = none := by
  simp only [value, hp, hc]

theorem problem?_eq_some_iff : problem? cs p f = some q ↔ Blames cs p f q := by
  rw [problem?]
  constructor
  · intro h
    split at h
    · cases h
    · next source hsource =>
      obtain ⟨hp, hne⟩ := bind_nonEmpty?_eq_some_iff.mp hsource
      split at h
      · next fault hc =>
        obtain rfl := Option.some.inj h
        exact .refused hp hne hc
      · split at h
        · next hf =>
          subst hf
          obtain ⟨s, hs, hread, rfl⟩ := mem_readTotal_iff.mp h
          exact .unreadable (value_eq_some_iff.mp hs) hread
        · cases h
  · intro h
    cases h with
    | refused hp hne hc => simp only [bind_nonEmpty?_eq_some_iff.mpr ⟨hp, hne⟩, hc]
    | @unreadable s hs hread =>
      obtain ⟨source, r, -, -, hp, hne, hc, -⟩ := id hs
      have hsource : (p.get .total).bind nonEmpty? = some source :=
        bind_nonEmpty?_eq_some_iff.mpr ⟨hp, hne⟩
      simp only [hsource, hc, if_true]
      exact mem_readTotal_iff.mpr ⟨s, value_eq_some_iff.mpr hs, hread, rfl⟩

/-- A field has one problem at most: a pattern that is refused finds nothing that could not be
read. -/
theorem toList_problem? (cs : List Char) (p : HeaderPatterns) (f : HeaderField) :
    (problem? cs p f).toList = refusals f.name (p.get f) ++
      if f = .total then (readTotal (value cs p.total)).2 else [] := by
  rw [problem?, refusals]
  cases hsource : (p.get f).bind nonEmpty? with
  | none =>
    dsimp only
    split
    · next hf =>
      subst hf
      rw [show value cs p.total = none from value_of_nonEmpty?_eq_none hsource]
      rfl
    · rfl
  | some source =>
    cases hc : Regex.compile source with
    | error fault =>
      simp only [hc]
      split
      · next hf =>
        subst hf
        rw [show value cs p.total = none from value_of_refused hsource hc]
        rfl
      · rfl
    | ok r =>
      simp only [hc, List.nil_append]
      split
      · exact (readTotal_eq_toList _).symm
      · rfl

/-- The problems of a header are those of its fields, in their order. -/
theorem problems_ofPatterns (cs : List Char) (p : HeaderPatterns) :
    (ofPatterns cs p).problems = HeaderField.all.filterMap (problem? cs p) := by
  rw [List.filterMap_eq_flatMap_toList, ofPatterns]
  simp [HeaderField.all, toList_problem?, HeaderField.name, HeaderPatterns.get]

theorem field_of_blames (hq : Blames cs p f q) : q.field = f.name := by
  cases hq <;> rfl

/-- The problems that name a field are the problem with that field. -/
theorem filter_problems (cs : List Char) (p : HeaderPatterns) (f : HeaderField) :
    (ofPatterns cs p).problems.filter (·.field = f.name) = (problem? cs p f).toList := by
  have hfield (g : HeaderField) : (problem? cs p g).toList.filter (·.field = f.name) =
      if g = f then (problem? cs p g).toList else [] := by
    cases hq : problem? cs p g with
    | none => simp
    | some q =>
      have hname := field_of_blames (problem?_eq_some_iff.mp hq)
      by_cases hg : g = f
      · subst hg
        simp [hname]
      · have hne : g.name ≠ f.name := fun hn => hg (HeaderField.name_injective hn)
        simp [hname, hne, hg]
  rw [problems_ofPatterns, List.filterMap_eq_flatMap_toList, List.filter_flatMap]
  simp only [hfield]
  cases f <;> simp [HeaderField.all]

/-- A header that shows what its patterns find, field by field, and the problems with them. -/
structure Reads (cs : List Char) (p : HeaderPatterns) (h : Header) : Prop where
  orderNumber : ∀ s, h.orderNumber = some s ↔ Finds cs p.order s
  orderDate : ∀ s, h.orderDate = some s ↔ Finds cs p.date s
  supplierName : ∀ s, h.supplierName = some s ↔ Finds cs p.supplier s
  total : ∀ d, h.total = some d ↔
    ∃ s, Finds cs p.total s ∧ Amount.read? .commaDecimal s.toList = some d
  /-- Every field is blamed once at most, and the problems stand in the order of the fields. -/
  problems : ∃ problem : HeaderField → Option Problem,
    (∀ f q, problem f = some q ↔ Blames cs p f q) ∧
      h.problems = HeaderField.all.filterMap problem

theorem readTotal_eq_some_iff {raw : Option String} {d : Decimal} :
    (readTotal raw).1 = some d ↔
      ∃ s, raw = some s ∧ Amount.read? .commaDecimal s.toList = some d := by
  refine ⟨readTotal_eq_some, ?_⟩
  rintro ⟨s, rfl, hread⟩
  simp [readTotal, hread]

theorem reads_ofPatterns (cs : List Char) (p : HeaderPatterns) : Reads cs p (ofPatterns cs p) where
  orderNumber _ := value_eq_some_iff
  orderDate _ := value_eq_some_iff
  supplierName _ := value_eq_some_iff
  total d := by simp only [ofPatterns, readTotal_eq_some_iff, value_eq_some_iff]
  problems := ⟨problem? cs p, fun _ _ => problem?_eq_some_iff, problems_ofPatterns cs p⟩

theorem Reads.unique (hr : Reads cs p h) (hr' : Reads cs p h') : h = h' := by
  obtain ⟨problem, hproblem, hlist⟩ := hr.problems
  obtain ⟨problem', hproblem', hlist'⟩ := hr'.problems
  have hsame : problem = problem' := by
    funext f
    exact Option.ext fun q => (hproblem f q).trans (hproblem' f q).symm
  have hproblems : h.problems = h'.problems := by rw [hlist, hlist', hsame]
  have hnumber := Option.ext fun s => (hr.orderNumber s).trans (hr'.orderNumber s).symm
  have hdate := Option.ext fun s => (hr.orderDate s).trans (hr'.orderDate s).symm
  have hname := Option.ext fun s => (hr.supplierName s).trans (hr'.supplierName s).symm
  have htotal := Option.ext fun d => (hr.total d).trans (hr'.total d).symm
  cases h
  cases h'
  simp only [Header.mk.injEq]
  exact ⟨hnumber, hdate, hname, htotal, hproblems⟩

def AgreesAt (h h' : Header) (f : HeaderField) : Prop :=
  (match f with
    | .orderNumber => h.orderNumber = h'.orderNumber
    | .orderDate => h.orderDate = h'.orderDate
    | .supplierName => h.supplierName = h'.supplierName
    | .total => h.total = h'.total) ∧
  h.problems.filter (·.field = f.name) = h'.problems.filter (·.field = f.name)

theorem agreesAt_ofPatterns (hf : p.get f = p'.get f) :
    AgreesAt (ofPatterns cs p) (ofPatterns cs p') f := by
  constructor
  · cases f <;> simp_all [HeaderPatterns.get, ofPatterns]
  · rw [filter_problems, filter_problems, problem?, problem?, hf]
    by_cases htotal : f = .total
    · subst htotal
      rw [show p.total = p'.total from hf]
    · simp only [if_neg htotal]

/-- The header of a document is read just if no pattern stops the reading, and then every field has
the value that its own pattern finds, and the problems with the fields stand in their order. Headers
that are read with the same pattern for a field agree on it, whatever the other patterns are. -/
theorem extract_reads (cs : List Char) (p : HeaderPatterns) :
    (∀ h, (extract cs p).outcome = .ok h ↔
      (∀ source ∈ p.sources, ¬ Pattern.Stops source) ∧ Reads cs p h) ∧
    ∀ h p' h', (extract cs p).outcome = .ok h → (extract cs p').outcome = .ok h' →
      ∀ f, p.get f = p'.get f → AgreesAt h h' f := by
  constructor
  · intro h
    rw [outcome_extract_eq_ok_iff]
    constructor
    · rintro ⟨hgo, rfl⟩
      exact ⟨hgo, reads_ofPatterns cs p⟩
    · rintro ⟨hgo, hreads⟩
      exact ⟨hgo, hreads.unique (reads_ofPatterns cs p)⟩
  · intro h p' h' hh hh' f hf
    obtain ⟨-, rfl⟩ := outcome_extract_eq_ok_iff.mp hh
    obtain ⟨-, rfl⟩ := outcome_extract_eq_ok_iff.mp hh'
    exact agreesAt_ofPatterns hf

end Header

end OrderSheet
