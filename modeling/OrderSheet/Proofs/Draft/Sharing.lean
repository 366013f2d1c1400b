import Mathlib
import OrderSheet.Draft.Session
import OrderSheet.Proofs.Draft.Building
import OrderSheet.Proofs.Draft.Edits

/-!
# What later changes of a draft do to a built template

A built template shares one object with its draft at most, the mapping of a pattern written by hand,
and only until the draft gets another line source. Its mapping follows the changes that are made to
the draft's mapping up to then, and nothing else of it changes ever again.
-/

namespace OrderSheet

/-- Whether an edit gives a draft a line source of its own instead of changing the one it has. -/
def Edit.bringsSource (d : Draft) : Edit → Bool
  | toExpert => d.source.isVisual
  | toVisual _ => true
  | _ => false

namespace Session

inductive Act where
  | edit (e : Edit)
  | assign (field : String) (value : Data)
  | setHeader (field : String) (pattern : Option String)
  | setPattern (pattern : String)
  | setMapping (f : ProductField) (index : Option Nat)
  | build
  | save (sample : Option Outcome)

def saveObject (s : Session) (sample : Option Outcome) : Except Failure (Built × Session) :=
  match s.draft.saveFault? sample with
  | some f => .error (.save f)
  | none => s.buildObject

def edit (s : Session) (e : Edit) : Except Failure Session :=
  (e.apply s.draft).map fun d => s.replace d (e.bringsSource s.draft)

/-- The session behind an act, which is the session before it if the act fails. -/
def perform (s : Session) : Act → Session
  | .edit e => (s.edit e).toOption.getD s
  | .assign field value => (s.assign field value).toExcept.toOption.getD s
  | .setHeader field pattern =>
    s.replace { s.draft with header := s.draft.header.set field pattern } false
  | .setPattern pattern => s.replace (s.draft.setPattern pattern) false
  | .setMapping f index => s.setMapping f index
  | .build => (s.build.toOption.map Prod.snd).getD s
  | .save sample => ((s.saveObject sample).toOption.map Prod.snd).getD s

def run (s : Session) (acts : List Act) : Session := acts.foldl perform s

def Builds (s : Session) (b : Built) (s' : Session) : Prop :=
  s.buildObject = .ok (b, s') ∨ ∃ sample, s.saveObject sample = .ok (b, s')

/-- Whether an act gives another line source to a draft whose pattern is written by hand. -/
def Act.detaches : Act → Bool
  | .edit (.toVisual columns) => (Layout.compile (columns.getD Draft.defaultColumns)).isOk
  | .assign "line_source" value => value.checkLineSource.toExcept.isOk
  | _ => false

/-- What an act makes of the draft's mapping, as long as the draft keeps its line source. -/
def Act.remap (m : FieldMapping) : Act → FieldMapping
  | .setMapping f index => m.set f index
  | _ => m

/-- The mapping that some acts make of a shared one, up to the act that ends the sharing. -/
def remapped (m : FieldMapping) (acts : List Act) : FieldMapping :=
  (acts.takeWhile fun a => !a.detaches).foldl Act.remap m

end Session

def Template.withMapping (t : Template) (m : FieldMapping) : Template :=
  { t with table := { t.table with mapping := m } }

namespace Session

variable {s s' : Session} {b : Built} {d d' : Draft} {a : Act}

structure Sound (s : Session) : Prop where
  header_lt : s.header < s.headers.size
  mapping_lt : s.mapping < s.mappings.size

/-- The objects of a built template have been made, and its header patterns are not those of the
draft. -/
structure Has (s : Session) (b : Built) : Prop where
  header_lt : b.header < s.headers.size
  header_ne : b.header ≠ s.header
  mapping_lt : b.mapping < s.mappings.size

def Shares (s : Session) (b : Built) : Prop := s.own.source.isVisual = false ∧ b.mapping = s.mapping

@[simp] theorem isVisual_withMapping (source : LineSource) (m : FieldMapping) :
    (source.withMapping m).isVisual = source.isVisual := by
  cases source <;> rfl

theorem isVisual_draft (s : Session) : s.draft.source.isVisual = s.own.source.isVisual :=
  isVisual_withMapping ..

theorem mapping_draft (h : s.own.source.isVisual = false) :
    s.draft.source.mapping = s.mappings.get s.mapping := by
  cases hs : s.own.source with
  | visual cs =>
    rw [hs] at h
    cases h
  | expert p => simp [draft, hs, LineSource.withMapping, LineSource.mapping]

theorem sound_start (d : Draft) : (start d).Sound := ⟨Nat.zero_lt_one, Nat.zero_lt_one⟩

theorem sound_makeHeader (hs : s.Sound) (h : HeaderPatterns) : (s.makeHeader h).Sound :=
  ⟨Nat.lt_succ_self _, hs.mapping_lt⟩

theorem sound_replace (hs : s.Sound) (d : Draft) (newSource : Bool) :
    (s.replace d newSource).Sound := by
  rw [replace]
  cases d.source with
  | visual cs => exact ⟨hs.header_lt, hs.mapping_lt⟩
  | expert p =>
    cases newSource with
    | true => exact ⟨hs.header_lt, Nat.lt_succ_self _⟩
    | false => exact ⟨hs.header_lt, hs.mapping_lt⟩

/-- Building a template makes an object for its header patterns, and one for its mapping unless the
pattern is written by hand. -/
theorem buildObject_cases (h : s.buildObject = .ok (b, s')) :
    s.draft.build = .ok b.template ∧ b.header = s.headers.size ∧
      (s.own.source.isVisual = true ∧ b.mapping = s.mappings.size ∧
          s' = { s with
            headers := s.headers.make b.template.header
            mappings := s.mappings.make b.template.table.mapping } ∨
        s.own.source.isVisual = false ∧ b.mapping = s.mapping ∧
          s' = { s with headers := s.headers.make b.template.header }) := by
  obtain ⟨t, ht, hobject⟩ := Failure.map_eq_ok.mp h
  dsimp only at hobject
  cases hsource : s.own.source with
  | visual cs =>
    rw [hsource] at hobject
    obtain ⟨rfl, rfl⟩ := Prod.mk.inj hobject
    exact ⟨ht, rfl, .inl ⟨rfl, rfl, rfl⟩⟩
  | expert p =>
    rw [hsource] at hobject
    obtain ⟨rfl, rfl⟩ := Prod.mk.inj hobject
    exact ⟨ht, rfl, .inr ⟨rfl, rfl, rfl⟩⟩

theorem sound_buildObject (hs : s.Sound) (h : s.buildObject = .ok (b, s')) : s'.Sound := by
  have hheader := hs.header_lt.trans (Nat.lt_succ_self _)
  obtain ⟨-, -, ⟨-, -, rfl⟩ | ⟨-, -, rfl⟩⟩ := buildObject_cases h
  · exact ⟨hheader, hs.mapping_lt.trans (Nat.lt_succ_self _)⟩
  · exact ⟨hheader, hs.mapping_lt⟩

theorem sound_perform (hs : s.Sound) (a : Act) : (s.perform a).Sound := by
  cases a with
  | edit e =>
    rw [perform, edit]
    cases e.apply s.draft with
    | error f => exact hs
    | ok d => exact sound_replace hs d _
  | assign field value =>
    rw [perform, assign]
    cases s.draft.assign field value with
    | fail r => exact hs
    | pass d =>
      refine sound_replace ?_ d _
      split
      · exact sound_makeHeader hs d.header
      · exact hs
  | setHeader field pattern => exact sound_replace hs _ _
  | setPattern pattern => exact sound_replace hs _ _
  | setMapping f index => exact sound_replace hs _ _
  | build =>
    rw [perform, build]
    cases h : s.buildObject with
    | error f => exact hs
    | ok built =>
      have hsound := sound_buildObject hs h
      exact ⟨hsound.header_lt, hsound.mapping_lt⟩
  | save sample =>
    rw [perform, saveObject]
    cases s.draft.saveFault? sample with
    | some f => exact hs
    | none =>
      cases h : s.buildObject with
      | error f => exact hs
      | ok built => exact sound_buildObject hs h

theorem sound_run (hs : s.Sound) (acts : List Act) : (s.run acts).Sound := by
  induction acts generalizing s with
  | nil => exact hs
  | cons a acts ih => exact ih (sound_perform hs a)

/-- What is left of a built template behind a change: whether the change has ended the sharing, and
what it has made of a mapping that was shared. -/
structure Leaves (s s' : Session) (b : Built) (ended : Bool)
    (remap : FieldMapping → FieldMapping) : Prop where
  has : s'.Has b
  shares_iff : s'.Shares b ↔ s.Shares b ∧ ended = false
  now_of_shares : s.Shares b → s'.now b = (s.now b).withMapping (remap (s.now b).table.mapping)
  now_of_not_shares : ¬ s.Shares b → s'.now b = s.now b

variable {ended : Bool} {remap : FieldMapping → FieldMapping}

theorem Leaves.of_now_eq (hb : s'.Has b)
    (hshares : s'.Shares b ↔ s.Shares b ∧ ended = false) (hnow : s'.now b = s.now b) :
    Leaves s s' b ended id :=
  ⟨hb, hshares, fun _ => hnow, fun _ => hnow⟩

theorem Leaves.refl (hb : s.Has b) : Leaves s s b false id :=
  .of_now_eq hb (by simp) rfl

/-- Only what a change does to a shared mapping matters. -/
theorem Leaves.congr {ended' : Bool} {remap' : FieldMapping → FieldMapping}
    (h : Leaves s s' b ended remap)
    (hshared : s.Shares b → ended' = ended ∧
      remap' (s.now b).table.mapping = remap (s.now b).table.mapping) :
    Leaves s s' b ended' remap' where
  has := h.has
  shares_iff := by
    rw [h.shares_iff]
    exact and_congr_right fun hshares => by rw [(hshared hshares).1]
  now_of_shares hshares := by rw [h.now_of_shares hshares, (hshared hshares).2]
  now_of_not_shares := h.now_of_not_shares

theorem Leaves.trans {t : Session} (h : Leaves s t b false id) (h' : Leaves t s' b ended remap) :
    Leaves s s' b ended remap where
  has := h'.has
  shares_iff := by rw [h'.shares_iff, h.shares_iff, and_iff_left rfl]
  now_of_shares hshares := by
    have hnow : t.now b = s.now b := h.now_of_shares hshares
    rw [h'.now_of_shares (h.shares_iff.mpr ⟨hshares, rfl⟩), hnow]
  now_of_not_shares hshares := by
    have ht : ¬ t.Shares b := fun ht => hshares (h.shares_iff.mp ht).1
    rw [h'.now_of_not_shares ht, h.now_of_not_shares hshares]

theorem Shares.mapping_now (h : s.Shares b) :
    (s.now b).table.mapping = s.draft.source.mapping := by
  rw [mapping_draft h.1, ← h.2]
  rfl

/-- Header patterns of a draft are not those of a built template. -/
theorem leaves_setHeader (hb : s.Has b) (h : HeaderPatterns) :
    Leaves s { s with headers := s.headers.set s.header h } b false id := by
  refine .of_now_eq ⟨hb.header_lt, hb.header_ne, hb.mapping_lt⟩
    (by simp [Shares]) ?_
  simp only [now]
  rw [Heap.get_set_of_ne _ _ hb.header_ne]

theorem leaves_makeHeader (hb : s.Has b) (h : HeaderPatterns) :
    Leaves s (s.makeHeader h) b false id := by
  refine .of_now_eq
    ⟨hb.header_lt.trans (Nat.lt_succ_self _), hb.header_lt.ne, hb.mapping_lt⟩
    (by simp [Shares, makeHeader]) ?_
  simp only [now, makeHeader]
  rw [Heap.get_make_of_lt _ _ hb.header_lt]

theorem leaves_addHeader (hb : s.Has b) (h : HeaderPatterns) :
    Leaves s { s with headers := s.headers.make h } b false id := by
  refine .of_now_eq
    ⟨hb.header_lt.trans (Nat.lt_succ_self _), hb.header_ne, hb.mapping_lt⟩ (by simp [Shares]) ?_
  simp only [now]
  rw [Heap.get_make_of_lt _ _ hb.header_lt]

theorem leaves_addMapping (hb : s.Has b) (m : FieldMapping) :
    Leaves s { s with mappings := s.mappings.make m } b false id := by
  refine .of_now_eq
    ⟨hb.header_lt, hb.header_ne, hb.mapping_lt.trans (Nat.lt_succ_self _)⟩ (by simp [Shares]) ?_
  simp only [now]
  rw [Heap.get_make_of_lt _ _ hb.mapping_lt]

theorem replace_visual {cs : List Column} (hd : d.source = .visual cs) (newSource : Bool) :
    s.replace d newSource =
      { s with own := d, headers := s.headers.set s.header d.header } := by
  simp [replace, hd]

theorem leaves_replace_true (hb : s.Has b) (d : Draft) :
    Leaves s (s.replace d true) b true id := by
  refine .trans (leaves_setHeader hb d.header) ?_
  cases hd : d.source with
  | visual cs =>
    rw [replace_visual hd]
    exact .of_now_eq ⟨hb.header_lt, hb.header_ne, hb.mapping_lt⟩
      (by simp [Shares, hd, LineSource.isVisual]) rfl
  | expert p =>
    have hreplace : s.replace d true = ({ s with
        own := d, headers := s.headers.set s.header d.header } : Session).makeMapping p.mapping := by
      simp [replace, hd]
    rw [hreplace]
    refine .of_now_eq
      ⟨hb.header_lt, hb.header_ne, hb.mapping_lt.trans (Nat.lt_succ_self _)⟩
      (by simp [Shares, makeMapping, hb.mapping_lt.ne]) ?_
    simp only [now, makeMapping]
    rw [Heap.get_make_of_lt _ _ hb.mapping_lt]

/-- A line source that is changed in place takes a shared mapping with it. -/
theorem leaves_replace_false (hb : s.Has b)
    (hd : d.source.isVisual = s.own.source.isVisual) :
    Leaves s (s.replace d false) b false fun _ => d.source.mapping := by
  refine .trans (leaves_setHeader hb d.header) ?_
  cases hsource : d.source with
  | visual cs =>
    have hnot : ¬ s.Shares b := fun h => by
      rw [Shares, ← hd, hsource] at h
      cases h.1
    rw [replace_visual hsource]
    exact ⟨⟨hb.header_lt, hb.header_ne, hb.mapping_lt⟩,
      by simp [Shares, hd], fun h => absurd h hnot, fun _ => rfl⟩
  | expert p =>
    have hreplace : s.replace d false = { s with
        own := d
        headers := s.headers.set s.header d.header
        mappings := s.mappings.set s.mapping p.mapping } := by
      simp [replace, hsource]
    rw [hreplace]
    refine ⟨⟨hb.header_lt, hb.header_ne, hb.mapping_lt⟩,
      by simp [Shares, hd], fun h => ?_, fun h => ?_⟩
    · simp only [now, Template.withMapping, LineSource.mapping]
      rw [h.2, Heap.get_set_self]
    · have hexpert : s.own.source.isVisual = false := by rw [← hd, hsource]; rfl
      have hne : b.mapping ≠ s.mapping := fun hm => h ⟨hexpert, hm⟩
      simp only [now]
      rw [Heap.get_set_of_ne _ _ hne]

/-- A draft that has the mapping it had changes nothing of a built template. -/
theorem leaves_replace_same (hb : s.Has b)
    (hd : d.source.isVisual = s.draft.source.isVisual)
    (hmapping : d.source.mapping = s.draft.source.mapping) :
    Leaves s (s.replace d false) b false id :=
  (leaves_replace_false hb (hd.trans s.isVisual_draft)).congr fun h =>
    ⟨rfl, h.mapping_now.trans hmapping.symm⟩

/-- An edit that does not bring a line source keeps the mode and the mapping. -/
theorem source_of_apply {e : Edit} (h : e.apply d = .ok d') (he : e.bringsSource d = false) :
    d'.source.isVisual = d.source.isVisual ∧ d'.source.mapping = d.source.mapping := by
  cases hcolumns : e.isOnColumns with
  | true =>
    obtain ⟨cs, cs', hs, rfl, -⟩ := Draft.apply_cases h hcolumns
    rw [hs]
    exact ⟨rfl, rfl⟩
  | false =>
    cases e with
    | toExpert =>
      cases hs : d.source with
      | visual cs =>
        rw [Edit.bringsSource, hs] at he
        cases he
      | expert p =>
        rw [Edit.apply, Draft.toExpert_expert d hs] at h
        obtain rfl := Except.ok.inj h
        rw [hs]
        exact ⟨rfl, rfl⟩
    | toVisual columns => cases he
    | _ => cases hcolumns

/-- From a pattern written by hand an edit leads away just if it brings a line source. -/
theorem detaches_edit {e : Edit} (hd : d.source.isVisual = false) (h : e.apply d = .ok d') :
    (Act.edit e).detaches = e.bringsSource d := by
  cases e with
  | toExpert => rw [Edit.bringsSource, hd]; rfl
  | toVisual columns =>
    obtain ⟨p, hp, -⟩ := Failure.map_eq_ok.mp h
    rw [Act.detaches, hp]
    rfl
  | _ => rfl

theorem detaches_edit_of_error {e : Edit} {f : Failure} (h : e.apply d = .error f) :
    (Act.edit e).detaches = false := by
  cases e with
  | toVisual columns =>
    rw [Act.detaches, Failure.map_eq_error.mp h]
    rfl
  | _ => rfl

theorem leaves_edit (hb : s.Has b) (e : Edit) :
    Leaves s (s.perform (.edit e)) b (Act.edit e).detaches id := by
  rw [perform, edit]
  cases h : e.apply s.draft with
  | error f =>
    rw [detaches_edit_of_error h]
    exact .refl hb
  | ok d' =>
    change Leaves s (s.replace d' (e.bringsSource s.draft)) b _ id
    have hends (hshares : s.Shares b) : (Act.edit e).detaches = e.bringsSource s.draft :=
      detaches_edit (s.isVisual_draft.trans hshares.1) h
    cases he : e.bringsSource s.draft with
    | true =>
      exact (leaves_replace_true hb d').congr fun hshares => ⟨(hends hshares).trans he, rfl⟩
    | false =>
      obtain ⟨hvisual, hmapping⟩ := source_of_apply h he
      exact (leaves_replace_same hb hvisual hmapping).congr fun hshares =>
        ⟨(hends hshares).trans he, rfl⟩

theorem source_of_assign {field : String} {value : Data} (h : d.assign field value = .pass d')
    (hfield : field ≠ "line_source") : d'.source = d.source := by
  have hpass := Check.inside_eq_pass.mp h
  clear h
  split at hpass
  case h_9 => exact absurd rfl hfield
  case h_10 => cases hpass
  all_goals
    obtain ⟨v, -, rfl⟩ := Check.map_eq_pass.mp hpass
    rfl

theorem detaches_assign {field : String} {value : Data} (hfield : field ≠ "line_source") :
    (Act.assign field value).detaches = false := by
  unfold Act.detaches
  split
  · next heq => cases heq
  · next heq =>
    injection heq with hname
    exact absurd hname hfield
  · rfl

theorem leaves_assign (hb : s.Has b) (field : String) (value : Data) :
    Leaves s (s.perform (.assign field value)) b (Act.assign field value).detaches id := by
  rw [perform, assign]
  by_cases hfield : field = "line_source"
  · subst hfield
    rw [Act.detaches, Draft.assign]
    cases value.checkLineSource with
    | pass source => exact leaves_replace_true hb { s.draft with source }
    | fail r => cases r <;> exact .refl hb
  · rw [detaches_assign hfield]
    cases h : s.draft.assign field value with
    | fail r => exact .refl hb
    | pass d' =>
      have hsource := source_of_assign h hfield
      change Leaves s (Session.replace (if field == "header_config" then s.makeHeader d'.header
        else s) d' (field == "line_source")) b false id
      rw [beq_false_of_ne hfield]
      split
      · have hleaves := leaves_makeHeader hb d'.header
        exact hleaves.trans (leaves_replace_same hleaves.has
          (congrArg LineSource.isVisual hsource) (congrArg LineSource.mapping hsource))
      · exact leaves_replace_same hb (congrArg LineSource.isVisual hsource)
          (congrArg LineSource.mapping hsource)

theorem source_setPattern (d : Draft) (pattern : String) :
    (d.setPattern pattern).source.isVisual = d.source.isVisual ∧
      (d.setPattern pattern).source.mapping = d.source.mapping := by
  rw [Draft.setPattern]
  cases hs : d.source with
  | visual cs => simp [hs]
  | expert p => exact ⟨rfl, rfl⟩

theorem isVisual_setMapping (d : Draft) (f : ProductField) (index : Option Nat) :
    (d.setMapping f index).source.isVisual = d.source.isVisual := by
  rw [Draft.setMapping]
  cases hs : d.source with
  | visual cs => simp [hs]
  | expert p => rfl

theorem mapping_setMapping (hd : d.source.isVisual = false) (f : ProductField)
    (index : Option Nat) :
    (d.setMapping f index).source.mapping = d.source.mapping.set f index := by
  rw [Draft.setMapping]
  cases hs : d.source with
  | visual cs =>
    rw [hs] at hd
    cases hd
  | expert p => rfl

theorem leaves_setMapping (hb : s.Has b) (f : ProductField) (index : Option Nat) :
    Leaves s (s.setMapping f index) b false fun m => m.set f index := by
  have hvisual := (isVisual_setMapping s.draft f index).trans s.isVisual_draft
  refine (leaves_replace_false hb hvisual).congr fun hshares => ⟨rfl, ?_⟩
  rw [mapping_setMapping (s.isVisual_draft.trans hshares.1), hshares.mapping_now]

theorem mapping_of_build {t : Template} (h : s.draft.build = .ok t)
    (hexpert : s.own.source.isVisual = false) : t.table.mapping = s.mappings.get s.mapping := by
  obtain ⟨-, rule, hrule, rfl⟩ := Draft.build_eq_ok.mp h
  obtain ⟨p, hp, rfl⟩ := Failure.map_eq_ok.mp hrule
  rw [← mapping_draft hexpert]
  cases hs : s.draft.source with
  | visual cs =>
    rw [← s.isVisual_draft, hs] at hexpert
    cases hexpert
  | expert p' =>
    rw [hs] at hp
    obtain rfl := Except.ok.inj hp
    rfl

/-- A built template is the one that the draft describes. Its header patterns are its own, and so is
its mapping unless the pattern is written by hand. -/
theorem buildObject_spec (hs : s.Sound) (h : s.buildObject = .ok (b, s')) :
    s.draft.build = .ok b.template ∧ s'.Has b ∧ s'.now b = b.template ∧
      (s'.Shares b ↔ s.own.source.isVisual = false) := by
  obtain ⟨hbuild, hheader, hcases⟩ := buildObject_cases h
  refine ⟨hbuild, ?_⟩
  rcases hcases with ⟨hvisual, hmapping, rfl⟩ | ⟨hexpert, hmapping, rfl⟩
  · refine ⟨⟨?_, ?_, ?_⟩, by simp [now, hheader, hmapping], by simp [Shares, hvisual]⟩
    · exact hheader.trans_lt (Nat.lt_succ_self _)
    · exact hheader.trans_ne hs.header_lt.ne'
    · exact hmapping.trans_lt (Nat.lt_succ_self _)
  · refine ⟨⟨?_, ?_, ?_⟩, ?_, by simp [Shares, hexpert, hmapping]⟩
    · exact hheader.trans_lt (Nat.lt_succ_self _)
    · exact hheader.trans_ne hs.header_lt.ne'
    · exact hmapping.trans_lt hs.mapping_lt
    · simp only [now, hheader, hmapping, Heap.get_make_self]
      rw [← mapping_of_build hbuild hexpert]

/-- Building a template leaves those built before alone. -/
theorem leaves_buildObject {b' : Built} (hb : s.Has b)
    (h : s.buildObject = .ok (b', s')) : Leaves s s' b false id := by
  have hheader := leaves_addHeader hb b'.template.header
  obtain ⟨-, -, ⟨-, -, rfl⟩ | ⟨-, -, rfl⟩⟩ := buildObject_cases h
  · exact hheader.trans (leaves_addMapping hheader.has _)
  · exact hheader

theorem leaves_build (hb : s.Has b) : Leaves s (s.perform .build) b false id := by
  rw [perform, build]
  cases h : s.buildObject with
  | error f => exact .refl hb
  | ok built =>
    have hleaves := leaves_buildObject hb h
    change Leaves s { built.2 with last := some built.1 } b false id
    exact hleaves.trans (.of_now_eq
      ⟨hleaves.has.header_lt, hleaves.has.header_ne, hleaves.has.mapping_lt⟩
      (by simp [Shares]) rfl)

theorem leaves_save (hb : s.Has b) (sample : Option Outcome) :
    Leaves s (s.perform (.save sample)) b false id := by
  rw [perform, saveObject]
  cases s.draft.saveFault? sample with
  | some f => exact .refl hb
  | none =>
    cases h : s.buildObject with
    | error f => exact .refl hb
    | ok built => exact leaves_buildObject hb h

theorem leaves_perform (hb : s.Has b) (a : Act) :
    Leaves s (s.perform a) b a.detaches (Act.remap · a) := by
  cases a with
  | edit e => exact leaves_edit hb e
  | assign field value => exact leaves_assign hb field value
  | setHeader field pattern => exact leaves_replace_same hb rfl rfl
  | setPattern pattern =>
    obtain ⟨hvisual, hmapping⟩ := source_setPattern s.draft pattern
    exact leaves_replace_same hb hvisual hmapping
  | setMapping f index => exact leaves_setMapping hb f index
  | build => exact leaves_build hb
  | save sample => exact leaves_save hb sample

theorem now_run_of_not_shares (hb : s.Has b) (h : ¬ s.Shares b) (acts : List Act) :
    (s.run acts).now b = s.now b := by
  induction acts generalizing s with
  | nil => rfl
  | cons a acts ih =>
    have hleaves := leaves_perform hb a
    have hnot : ¬ (s.perform a).Shares b := fun hshares => h (hleaves.shares_iff.mp hshares).1
    exact (ih hleaves.has hnot).trans (hleaves.now_of_not_shares h)

/-- An act that ends the sharing leaves the mapping alone. -/
theorem remap_of_detaches (h : a.detaches = true) (m : FieldMapping) : Act.remap m a = m := by
  cases a with
  | setMapping f index => cases h
  | _ => rfl

theorem now_run_of_shares (hb : s.Has b) (h : s.Shares b) (acts : List Act) :
    (s.run acts).now b = (s.now b).withMapping (remapped (s.now b).table.mapping acts) := by
  induction acts generalizing s with
  | nil => rfl
  | cons a acts ih =>
    have hleaves := leaves_perform hb a
    have hnow := hleaves.now_of_shares h
    cases hends : a.detaches with
    | true =>
      have hnot : ¬ (s.perform a).Shares b := fun hshares =>
        absurd hends (by simp [(hleaves.shares_iff.mp hshares).2])
      -- The mapping stays as it is now, whatever comes next.
      rw [remapped, List.takeWhile_cons_of_neg (by simp [hends])]
      have hrun := now_run_of_not_shares hleaves.has hnot acts
      rw [hnow, remap_of_detaches hends] at hrun
      exact hrun
    | false =>
      have hshares : (s.perform a).Shares b := hleaves.shares_iff.mpr ⟨h, hends⟩
      have hrun := ih hleaves.has hshares
      rw [hnow] at hrun
      rw [remapped, List.takeWhile_cons_of_pos (by rw [hends]; rfl)]
      exact hrun

theorem Builds.buildObject_eq (h : s.Builds b s') : s.buildObject = .ok (b, s') := by
  rcases h with h | ⟨sample, h⟩
  · exact h
  · rw [saveObject] at h
    cases hfault : s.draft.saveFault? sample with
    | none =>
      rw [hfault] at h
      exact h
    | some f =>
      rw [hfault] at h
      cases h

/-- Whatever is done to a draft, a template that was built from its layout stays as it was built.
With a pattern written by hand a built template stays as it was but for its mapping, which follows
the mapping of the draft until the draft gets another line source. -/
theorem now_run_of_builds {before : List Act} (h : ((start d).run before).Builds b s)
    (after : List Act) :
    let building := ((start d).run before).draft
    building.build = .ok b.template ∧ s.now b = b.template ∧
      (building.source.isVisual = true → (s.run after).now b = b.template) ∧
      (building.source.isVisual = false → (s.run after).now b =
        b.template.withMapping (remapped b.template.table.mapping after)) := by
  intro building
  have hsound : ((start d).run before).Sound := sound_run (sound_start d) before
  obtain ⟨hbuild, hhas, hnow, hshares⟩ := buildObject_spec hsound h.buildObject_eq
  rw [← isVisual_draft] at hshares
  refine ⟨hbuild, hnow, fun hvisual => ?_, fun hexpert => ?_⟩
  · have hnot : ¬ s.Shares b := fun hs => by
      have := hshares.mp hs
      rw [hvisual] at this
      cases this
    rw [now_run_of_not_shares hhas hnot, hnow]
  · rw [now_run_of_shares hhas (hshares.mpr hexpert), hnow]

def handwritten : Draft := { Draft.default with source := .expert ⟨"", .empty⟩ }

theorem now_run_of_builds_two_sources :
    ∃ b s, (start .default |>.run [.edit .toExpert]).Builds b s ∧
      b.template.table.mapping.sku = none ∧
      (s.run [.setMapping .sku (some 5), .edit (.toVisual none), .edit .toExpert,
        .setMapping .sku (some 9)]).now b =
          b.template.withMapping (b.template.table.mapping.set .sku (some 5)) := by
  obtain ⟨b, s, hbuild, hsku⟩ : ∃ b s,
      (start .default |>.run [.edit .toExpert]).buildObject = .ok (b, s) ∧
        b.template.table.mapping.sku = none := ⟨_, _, rfl, rfl⟩
  refine ⟨b, s, .inl hbuild, hsku, ?_⟩
  exact (now_run_of_builds (.inl hbuild) _).2.2.2 rfl

/-- A template that was built from a pattern written by hand changes with the draft. -/
theorem now_run_set_mapping :
    ∃ b s, (start handwritten).Builds b s ∧
      (s.run [.setMapping .sku (some 5)]).now b ≠ b.template := by
  refine ⟨_, _, .inl rfl, ?_⟩
  decide

end Session

end OrderSheet
