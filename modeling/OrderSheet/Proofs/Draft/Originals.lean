import OrderSheet.Draft.Opening
import OrderSheet.Proofs.Draft.Freezing

/-!
# Drafts leave the templates alone that they were opened from

A draft has copies of the objects that its template is made of, and no operation on the draft, be it
successful or not, reaches any other object that was there before.
-/

namespace OrderSheet.Session

/-- What can be done with a draft in a session: besides changing it and building templates from it,
looking at its table rule and reading documents with it. -/
inductive Operation where
  | act (a : Act)
  | tableRule
  | extract (document : Data)
  | diagnose (text : String)

def operate (s : Session) : Operation → Session
  | .act a => s.perform a
  | .tableRule => (s.ruleObject.toOption.map Prod.snd).getD s
  | .extract document => (s.extract document).2
  | .diagnose text => (s.diagnose text).2

def operated (s : Session) (ops : List Operation) : Session := ops.foldl operate s

def Operation.onDraft (d : Draft) : Operation → Draft
  | .act a => a.onDraft d
  | .tableRule | .extract _ | .diagnose _ => d

variable {s s' : Session} {b : Built} {rule : TableRule}

structure Apart (s : Session) (b : Built) : Prop where
  has : s.Has b
  not_shares : ¬ s.Shares b

theorem Leaves.apart {ended : Bool} {remap : FieldMapping → FieldMapping}
    (h : Leaves s s' b ended remap) (hs : ¬ s.Shares b) : s'.Apart b ∧ s'.now b = s.now b :=
  ⟨⟨h.has, fun hshares => hs (h.shares_iff.mp hshares).1⟩, h.now_of_not_shares hs⟩

theorem ruleObject_cases (h : s.ruleObject = .ok (rule, s')) :
    s' = s ∨ s' = { s with mappings := s.mappings.make rule.mapping } := by
  obtain ⟨_, -, hobject⟩ := Failure.map_eq_ok.mp h
  split at hobject
  · obtain ⟨rfl, rfl⟩ := Prod.mk.inj hobject
    exact .inr rfl
  · obtain ⟨rfl, rfl⟩ := Prod.mk.inj hobject
    exact .inl rfl

theorem leaves_ruleObject (hb : s.Has b) (h : s.ruleObject = .ok (rule, s')) :
    Leaves s s' b false id := by
  rcases ruleObject_cases h with rfl | rfl
  · exact .refl hb
  · exact leaves_addMapping hb _

theorem sound_ruleObject (hs : s.Sound) (h : s.ruleObject = .ok (rule, s')) : s'.Sound := by
  rcases ruleObject_cases h with rfl | rfl
  · exact hs
  · exact ⟨hs.header_lt, hs.mapping_lt.trans (Nat.lt_succ_self _)⟩

theorem draft_ruleObject (hs : s.Sound) (h : s.ruleObject = .ok (rule, s')) :
    s'.draft = s.draft := by
  rcases ruleObject_cases h with rfl | rfl
  · rfl
  · simp only [draft]
    rw [Heap.get_make_of_lt _ _ hs.mapping_lt]

/-- A single operation leaves a template alone whose objects are not those of the draft. -/
theorem apart_operate (h : s.Apart b) (o : Operation) :
    (s.operate o).Apart b ∧ (s.operate o).now b = s.now b := by
  cases o with
  | act a => exact (leaves_perform h.has a).apart h.not_shares
  | tableRule =>
    rw [operate]
    cases hrule : s.ruleObject with
    | error f => exact ⟨h, rfl⟩
    | ok made => exact (leaves_ruleObject h.has hrule).apart h.not_shares
  | extract document =>
    rw [operate, extract]
    cases hbuild : s.buildObject with
    | error f => exact ⟨h, rfl⟩
    | ok made => exact (leaves_buildObject h.has hbuild).apart h.not_shares
  | diagnose text =>
    rw [operate, diagnose]
    cases hrule : s.ruleObject with
    | error f => exact ⟨h, rfl⟩
    | ok made => exact (leaves_ruleObject h.has hrule).apart h.not_shares

theorem now_operated (h : s.Apart b) (ops : List Operation) : (s.operated ops).now b = s.now b := by
  induction ops generalizing s with
  | nil => rfl
  | cons o ops ih =>
    obtain ⟨hapart, hnow⟩ := apart_operate h o
    exact (ih hapart).trans hnow

/-- With its objects, a session does to the draft what the operation does to the draft alone. -/
theorem draft_operate (hs : s.Sound) (o : Operation) :
    (s.operate o).Sound ∧ (s.operate o).draft = o.onDraft s.draft := by
  cases o with
  | act a => exact ⟨sound_perform hs a, draft_perform hs a⟩
  | tableRule =>
    rw [operate]
    cases hrule : s.ruleObject with
    | error f => exact ⟨hs, rfl⟩
    | ok made => exact ⟨sound_ruleObject hs hrule, draft_ruleObject hs hrule⟩
  | extract document =>
    rw [operate, extract]
    cases hbuild : s.buildObject with
    | error f => exact ⟨hs, rfl⟩
    | ok made => exact ⟨sound_buildObject hs hbuild, draft_buildObject hs hbuild⟩
  | diagnose text =>
    rw [operate, diagnose]
    cases hrule : s.ruleObject with
    | error f => exact ⟨hs, rfl⟩
    | ok made => exact ⟨sound_ruleObject hs hrule, draft_ruleObject hs hrule⟩

theorem draft_operated (hs : s.Sound) (ops : List Operation) :
    (s.operated ops).draft = ops.foldl Operation.onDraft s.draft := by
  induction ops generalizing s with
  | nil => rfl
  | cons o ops ih =>
    obtain ⟨hsound, hdraft⟩ := draft_operate hs o
    rw [List.foldl_cons, ← hdraft]
    exact ih hsound

theorem sound_opening (t : Template) : (opening t).Sound := ⟨Nat.one_lt_two, Nat.one_lt_two⟩

theorem apart_opening (t : Template) : (opening t).Apart (original t) :=
  ⟨⟨Nat.zero_lt_two, Nat.zero_ne_one, Nat.zero_lt_two⟩, fun h => Nat.zero_ne_one h.2⟩

/-- Whatever is done to the draft of an opened template, the template stays as it is, while the draft
changes as if it were the only one that has its objects. -/
theorem now_operated_opening (t : Template) (ops : List Operation) :
    ((opening t).operated ops).now (original t) = t ∧
      ((opening t).operated ops).draft = ops.foldl Operation.onDraft (Draft.ofTemplate t) :=
  ⟨now_operated (apart_opening t) ops, draft_operated (sound_opening t) ops⟩

end OrderSheet.Session
