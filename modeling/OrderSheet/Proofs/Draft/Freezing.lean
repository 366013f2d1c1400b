import OrderSheet.Proofs.Draft.Gate

/-!
# Freezing a layout

Switching to expert mode replaces a layout by the pattern and the mapping that it compiles to, which
read and diagnose every document in the same way. From then on the two are kept: columns cannot be
edited, and only what is done to the pattern itself, or another line source, changes them.
-/

namespace OrderSheet

namespace Draft

def diagnose (d : Draft) (text : String) : Activity Diagnosis :=
  (Activity.ofExcept d.tableRule).bind (Diagnosis.diagnose text)

def extract (d : Draft) (text : String) : Activity Outcome :=
  (Activity.ofExcept d.build).bind fun t => Document.extractText t text

end Draft

namespace Session

def Act.onDraft (d : Draft) : Act → Draft
  | .edit e => (e.apply d).toOption.getD d
  | .assign field value => (d.assign field value).toExcept.toOption.getD d
  | .setHeader field pattern => { d with header := d.header.set field pattern }
  | .setPattern pattern => d.setPattern pattern
  | .setMapping f index => d.setMapping f index
  | .build | .save _ => d

/-- Whether an act may change a pattern written by hand, or the mapping that comes with it. -/
def Act.isOnPattern : Act → Bool
  | .setPattern _ | .setMapping .. => true
  | a => a.detaches

variable {s : Session} {d : Draft} {a : Act} {e : Edit} {cs : List Column} {p : LinePattern}

theorem draft_replace (s : Session) (d : Draft) (newSource : Bool) :
    (s.replace d newSource).draft = d := by
  cases hs : d.source with
  | visual cs =>
    simp only [replace, draft, hs, Heap.get_set_self, LineSource.withMapping]
    exact Draft.setSource_self hs
  | expert p =>
    cases newSource <;>
      simpa [replace, draft, makeMapping, hs, LineSource.withMapping] using Draft.setSource_self hs

/-- With its objects, a session does to the draft what the act does to the draft alone. -/
theorem draft_perform (hs : s.Sound) (a : Act) : (s.perform a).draft = a.onDraft s.draft := by
  cases a with
  | edit e =>
    rw [perform, edit, Act.onDraft]
    cases e.apply s.draft with
    | error f => rfl
    | ok d => exact draft_replace ..
  | assign field value =>
    rw [perform, assign, Act.onDraft]
    cases s.draft.assign field value with
    | fail r => rfl
    | pass d => exact draft_replace ..
  | setHeader field pattern => exact draft_replace ..
  | setPattern pattern => exact draft_replace ..
  | setMapping f index => exact draft_replace ..
  | build =>
    rw [perform, build]
    cases h : s.buildObject with
    | error f => rfl
    | ok built =>
      -- The template is kept too, which the draft does not see.
      have hdraft : built.2.draft = s.draft := draft_buildObject hs h
      exact hdraft
  | save sample => exact draft_perform_save hs sample

theorem draft_run (hs : s.Sound) (acts : List Act) :
    (s.run acts).draft = acts.foldl Act.onDraft s.draft := by
  induction acts generalizing s with
  | nil => rfl
  | cons a acts ih =>
    rw [List.foldl_cons, ← draft_perform hs a]
    exact ih (sound_perform hs a)

/-- In expert mode an edit goes through only if it keeps the draft or brings another layout. -/
theorem apply_of_expert (hd : d.source = .expert p) (he : (Act.edit e).detaches = false) :
    (e.apply d).toOption.getD d = d := by
  cases hcolumns : e.isOnColumns with
  | true =>
    rw [Draft.apply_expert hd hcolumns]
    rfl
  | false =>
    cases e with
    | toExpert =>
      rw [Edit.apply, Draft.toExpert_expert d hd]
      rfl
    | toVisual columns =>
      rw [Edit.apply, Draft.toVisual]
      rw [Act.detaches] at he
      cases hcompile : Layout.compile (columns.getD Draft.defaultColumns) with
      | error f => rfl
      | ok q =>
        rw [hcompile] at he
        cases he
    | _ => cases hcolumns

theorem source_of_assign_of_not_detaches {field : String} {value : Data}
    (h : (Act.assign field value).detaches = false) :
    ((d.assign field value).toExcept.toOption.getD d).source = d.source := by
  by_cases hfield : field = "line_source"
  · subst hfield
    rw [Act.detaches] at h
    rw [Draft.assign]
    cases hcheck : value.checkLineSource with
    | pass source =>
      rw [hcheck] at h
      cases h
    | fail r => cases r <;> rfl
  · cases hassign : d.assign field value with
    | fail r => rfl
    | pass d' => exact source_of_assign hassign hfield

/-- A pattern written by hand is kept by every act that is not about it. -/
theorem source_onDraft (hd : d.source = .expert p) (ha : a.isOnPattern = false) :
    (a.onDraft d).source = .expert p := by
  cases a with
  | edit e =>
    rw [Act.onDraft, apply_of_expert hd ha]
    exact hd
  | assign field value => exact (source_of_assign_of_not_detaches ha).trans hd
  | setHeader field pattern => exact hd
  | setPattern pattern => cases ha
  | setMapping f index => cases ha
  | build => exact hd
  | save sample => exact hd

theorem source_foldl (hd : d.source = .expert p) {acts : List Act}
    (hacts : ∀ a ∈ acts, a.isOnPattern = false) :
    (acts.foldl Act.onDraft d).source = .expert p := by
  induction acts generalizing d with
  | nil => exact hd
  | cons a acts ih =>
    obtain ⟨ha, hacts⟩ := List.forall_mem_cons.mp hacts
    exact ih (source_onDraft hd ha) hacts

end Session

namespace Draft

variable {d : Draft} {cs : List Column} {p : LinePattern} {e : Edit}

theorem toExpert_visual (hs : d.source = .visual cs) (hp : Layout.compile cs = .ok p) :
    d.toExpert = .ok { d with source := .expert p } := by
  rw [toExpert, hs, LineSource.resolve, hp]
  rfl

theorem tableRule_visual (hs : d.source = .visual cs) (hp : Layout.compile cs = .ok p) :
    d.tableRule = .ok (TableRule.ofLinePattern p d.startMarker d.endMarker) := by
  rw [tableRule, hs, LineSource.resolve, hp]
  rfl

theorem tableRule_expert (hs : d.source = .expert p) :
    d.tableRule = .ok (TableRule.ofLinePattern p d.startMarker d.endMarker) := by
  rw [tableRule, hs, LineSource.resolve]
  rfl

theorem on_of_expert (hs : d.source = .expert p) (he : e.isOnColumns = true) :
    e.inPlace.on d = (.error .notVisual, d) :=
  on_of_apply_error (apply_expert hs he)

/-- A draft that has the same table rule and the same other fields builds the same template. -/
theorem build_withSource {source : LineSource}
    (h : { d with source := source }.tableRule = d.tableRule) :
    { d with source := source }.build = d.build := by
  rw [build, build, h]
  rfl

end Draft

namespace Session

/-- However a draft with a layout has been edited, switching to expert mode replaces the layout by
what it compiles to and changes nothing else. The draft has the table rule it had, so that it
diagnoses and reads every document as before; switching once more changes nothing. As long as
nothing is done to the pattern, it stays the compiled one, whatever else is done: every edit of
columns is refused and leaves the draft as it was, and switching back with the former columns
restores the layout. -/
theorem freeze_run (first : Draft) (before : List Act) {cs : List Column}
    (hs : ((start first).run before).draft.source = .visual cs)
    (hd : ((start first).run before).draft.HasLayout) :
    let s := (start first).run before
    let frozen := s.perform (.edit .toExpert)
    ∃ p, Layout.compile cs = .ok p ∧
      Edit.toExpert.inPlace.on s.draft = (.ok (), frozen.draft) ∧
      frozen.draft = { s.draft with source := .expert p } ∧
      (∃ rule, s.draft.tableRule = .ok rule ∧ frozen.draft.tableRule = .ok rule) ∧
      (∀ text, frozen.draft.diagnose text = s.draft.diagnose text) ∧
      (∀ text, frozen.draft.extract text = s.draft.extract text) ∧
      (s.draft.trimmedName.length ≤ Settings.maxName →
        ∃ t, s.draft.build = .ok t ∧ frozen.draft.build = .ok t) ∧
      Edit.toExpert.inPlace.on frozen.draft = (.ok (), frozen.draft) ∧
      ∀ later, (∀ a ∈ later, a.isOnPattern = false) →
        let t := frozen.run later
        t.draft.tableRule =
          .ok (TableRule.ofLinePattern p t.draft.startMarker t.draft.endMarker) ∧
        (∀ e : Edit, e.isOnColumns = true →
          e.inPlace.on t.draft = (.error .notVisual, t.draft)) ∧
        (Edit.toVisual (some cs)).inPlace.on t.draft =
          (.ok (), { t.draft with source := s.draft.source }) := by
  intro s frozen
  obtain ⟨p, hp⟩ := hd cs hs
  have hsound : s.Sound := sound_run (sound_start first) before
  have hswitch : Edit.toExpert.apply s.draft = .ok { s.draft with source := .expert p } :=
    Draft.toExpert_visual hs hp
  have hfrozen : frozen.draft = { s.draft with source := .expert p } := by
    rw [draft_perform hsound, Act.onDraft, hswitch]
    rfl
  have hexpert : frozen.draft.source = .expert p := by rw [hfrozen]
  have hrule : frozen.draft.tableRule = s.draft.tableRule := by
    rw [Draft.tableRule_expert hexpert, Draft.tableRule_visual hs hp, hfrozen]
  have hbuild : frozen.draft.build = s.draft.build := by
    rw [hfrozen] at hrule ⊢
    exact Draft.build_withSource hrule
  refine ⟨p, hp, ?_, hfrozen, ?_, fun text => ?_, fun text => ?_, fun hname => ?_, ?_,
    fun later hlater => ?_⟩
  · rw [hfrozen]
    exact Draft.on_of_apply_ok hswitch
  · exact ⟨_, Draft.tableRule_visual hs hp, hrule.trans (Draft.tableRule_visual hs hp)⟩
  · rw [Draft.diagnose, Draft.diagnose, hrule]
  · rw [Draft.extract, Draft.extract, hbuild]
  · have hbuilt := Draft.build_eq_ok.mpr ⟨hname, _, Draft.tableRule_visual hs hp, rfl⟩
    exact ⟨_, hbuilt, hbuild.trans hbuilt⟩
  · exact Draft.on_of_apply_ok (Draft.toExpert_expert _ hexpert)
  · intro t
    have ht : t.draft.source = .expert p := by
      rw [draft_run (sound_perform hsound _)]
      exact source_foldl hexpert hlater
    refine ⟨Draft.tableRule_expert ht, fun e he => Draft.on_of_expert ht he, ?_⟩
    rw [hs]
    refine Draft.on_of_apply_ok ?_
    rw [Edit.apply, Draft.toVisual, Option.getD_some, hp]
    rfl

theorem freeze_run_renamed :
    let s := (start .default).run [.edit (.add ⟨none, .code, "Code"⟩)]
    let t := (s.perform (.edit .toExpert)).run
      [.edit (.removeAt 0), .assign "name" (.text "x"), .build, .edit .toExpert]
    (Edit.move 1 true).inPlace.on t.draft = (.error .notVisual, t.draft) ∧
      ((Edit.toVisual (some (Draft.defaultColumns ++ [⟨none, .code, "Code"⟩]))).inPlace.on
        t.draft).2.source = s.draft.source := by
  intro s t
  have hs : s.draft.source = .visual (Draft.defaultColumns ++ [⟨none, .code, "Code"⟩]) := rfl
  have hd : s.draft.HasLayout := fun cs hcs => by
    obtain rfl := LineSource.visual.inj (hs.symm.trans hcs)
    exact ⟨_, rfl⟩
  obtain ⟨p, -, -, -, -, -, -, -, -, hlater⟩ := freeze_run .default _ hs hd
  have hacts : ∀ a ∈ [Act.edit (.removeAt 0), .assign "name" (.text "x"), .build,
      .edit .toExpert], a.isOnPattern = false := by
    simp [Act.isOnPattern, Act.detaches]
  obtain ⟨-, hrefused, hrestored⟩ := hlater _ hacts
  exact ⟨hrefused _ rfl, congrArg (fun r => r.2.source) hrestored⟩

end Session

end OrderSheet
