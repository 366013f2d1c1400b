import OrderSheet.Proofs.Draft.Sharing
import OrderSheet.Proofs.Template.Mapping

/-!
# Saving a draft

A draft with a name can be saved if its template has been stored before, or has just read products
from a sample. Products are only read with a pattern that compiles and fits its mapping, so that
what is stored for the first time can be used.
-/

namespace OrderSheet

/-- A table rule that reads lines: the pattern is not empty and compiles, the fields that every
product needs have a group, and the groups are there. -/
def TableRule.IsUsable (rule : TableRule) : Prop :=
  rule.linePattern ≠ "" ∧ ∃ r, Regex.compile rule.linePattern = .ok r ∧
    (∀ f ∈ ProductField.required, (rule.mapping.get f).isSome = true) ∧
    ∀ e ∈ rule.mapping.assigned, e.2 ≤ r.groups

variable {t : Template} {text : String} {rule : TableRule} {e : Extraction} {d : Draft}
  {sample : Option Outcome}

theorem ProductLines.isUsable_of_products {lines : ProductLines}
    (h : (extract text rule).outcome = .ok lines) (hne : lines.products ≠ []) :
    rule.IsUsable := by
  rcases outcome_extract_cases h with ⟨-, rfl⟩ | ⟨_, -, -, rfl⟩ | ⟨_, _, -, -, -, rfl⟩ |
    ⟨r, hpattern, hc, hfit, -⟩
  · exact absurd rfl hne
  · exact absurd rfl hne
  · exact absurd rfl hne
  · obtain ⟨hrequired, hgroups⟩ := FieldMapping.fault?_eq_none_iff.mp hfit
    exact ⟨hpattern, r, hc, hrequired, hgroups⟩

theorem Document.isUsable_of_products (h : (extractText t text).outcome = .ok (.extracted e))
    (hne : e.products ≠ []) : t.table.IsUsable := by
  obtain ⟨-, header, lines, -, hlines, rfl⟩ := outcome_eq_extracted_iff.mp h
  exact ProductLines.isUsable_of_products hlines hne

namespace Draft

structure Ready (d : Draft) (sample : Option Outcome) : Prop where
  named : 1 ≤ d.trimmedName.length
  name_length : d.trimmedName.length ≤ 255
  tested : d.id = none → ∃ e, sample = some (.extracted e) ∧ e.products ≠ []

def tested : Option Outcome → Bool
  | some (.extracted e) => !e.products.isEmpty
  | _ => false

theorem tested_iff :
    tested sample = true ↔ ∃ e, sample = some (.extracted e) ∧ e.products ≠ [] := by
  cases sample with
  | none => simp [tested]
  | some r => cases r <;> simp [tested]

theorem saveFault?_eq (d : Draft) (sample : Option Outcome) : d.saveFault? sample =
    if d.trimmedName.isEmpty then some .unnamed
    else if 255 < d.trimmedName.length then some (.longName d.trimmedName.length 255)
    else if d.isNew && !tested sample then some .untested
    else none := by
  cases sample with
  | none => rfl
  | some r => cases r <;> rfl

theorem saveFault?_eq_none_iff : d.saveFault? sample = none ↔ d.Ready sample := by
  have hname : d.trimmedName.isEmpty = true ↔ ¬ 1 ≤ d.trimmedName.length := by
    rw [String.isEmpty_iff, ← String.length_eq_zero_iff]
    omega
  have htest : (d.isNew && !tested sample) = true ↔
      ¬ (d.id = none → ∃ e, sample = some (.extracted e) ∧ e.products ≠ []) := by
    rw [Bool.and_eq_true, Bool.not_eq_true', ← Bool.not_eq_true, tested_iff, Classical.not_imp,
      isNew, Option.isNone_iff_eq_none]
  rw [saveFault?_eq]
  constructor
  · intro h
    split at h
    · cases h
    · next hnamed =>
      split at h
      · cases h
      · next hlong =>
        split at h
        · cases h
        · next htested =>
          exact ⟨not_not.mp (hname.not.mp hnamed), Nat.le_of_not_lt hlong,
            not_not.mp (htest.not.mp htested)⟩
  · intro h
    rw [if_neg (hname.not.mpr (not_not.mpr h.named)), if_neg (Nat.not_lt.mpr h.name_length),
      if_neg (htest.not.mpr (not_not.mpr h.tested))]

/-- A draft that is ready is saved as the template it describes. -/
theorem save_of_ready (h : d.Ready sample) : d.save sample = d.build := by
  rw [save, saveFault?_eq_none_iff.mpr h]

theorem save_of_not_ready (h : ¬ d.Ready sample) : ∃ f, d.save sample = .error (.save f) := by
  obtain ⟨f, hf⟩ := Option.ne_none_iff_exists'.mp (saveFault?_eq_none_iff.not.mpr h)
  exact ⟨f, by rw [save, hf]⟩

theorem ready_of_save (h : d.save sample = .ok t) : d.Ready sample := by
  by_contra hready
  obtain ⟨f, hf⟩ := save_of_not_ready hready
  cases h.symm.trans hf

/-- With a layout that compiles only the conditions decide. -/
theorem HasLayout.exists_save_iff (hd : d.HasLayout) :
    (∃ t, d.save sample = .ok t) ↔ d.Ready sample := by
  constructor
  · rintro ⟨t, ht⟩
    exact ready_of_save ht
  · intro hready
    obtain ⟨rule, hrule⟩ := hd.exists_tableRule
    exact ⟨d.describe rule, (save_of_ready hready).trans
      (build_eq_ok.mpr ⟨hready.name_length, rule, hrule, rfl⟩)⟩

end Draft

namespace Session

variable {s s' : Session} {b : Built}

/-- Building a template adds objects, and the draft keeps those it has. -/
theorem draft_buildObject (hs : s.Sound) (h : s.buildObject = .ok (b, s')) :
    s'.draft = s.draft := by
  obtain ⟨-, -, ⟨-, -, rfl⟩ | ⟨-, -, rfl⟩⟩ := buildObject_cases h
  · simp only [draft, Heap.get_make_of_lt _ _ hs.header_lt, Heap.get_make_of_lt _ _ hs.mapping_lt]
  · simp only [draft, Heap.get_make_of_lt _ _ hs.header_lt]

theorem draft_perform_save (hs : s.Sound) (sample : Option Outcome) :
    (s.perform (.save sample)).draft = s.draft := by
  rw [perform, saveObject]
  cases s.draft.saveFault? sample with
  | some f => rfl
  | none =>
    cases h : s.buildObject with
    | error f => rfl
    | ok built => exact draft_buildObject hs h

/-- In whatever way a draft has been edited, it can be saved just if its name has 1 to 255
characters and, as long as it has not been stored, a test has read products; otherwise saving is
refused. What is stored for the first time after a test of the built template is this template. It
has a rule that reads lines and reads the sample as it did in the test. Saving never changes the
draft. -/
theorem save_gate (start : Draft) (acts : List Act) (sample : Option Outcome)
    (hd : ((Session.start start).run acts).draft.HasLayout) :
    let s := (Session.start start).run acts
    ((∃ t, s.draft.save sample = .ok t) ↔ s.draft.Ready sample) ∧
    (¬ s.draft.Ready sample → ∃ f, s.draft.save sample = .error (.save f)) ∧
    (∀ t built text r, s.draft.id = none → s.draft.save sample = .ok t →
      s.draft.build = .ok built → sample = some r →
      (Document.extractText built text).outcome = .ok r →
      t = built ∧ t.table.IsUsable ∧ (Document.extractText t text).outcome = .ok r) ∧
    (s.perform (.save sample)).draft = s.draft := by
  intro s
  have hunchanged := draft_perform_save (sound_run (sound_start start) acts) sample
  refine ⟨hd.exists_save_iff, Draft.save_of_not_ready,
    fun t built text r hnew ht hbuilt hr hread => ?_, hunchanged⟩
  have hready := Draft.ready_of_save ht
  obtain rfl : t = built :=
    Except.ok.inj (ht.symm.trans ((Draft.save_of_ready hready).trans hbuilt))
  obtain ⟨e, hsample, hproducts⟩ := hready.tested hnew
  obtain rfl : r = .extracted e := Option.some.inj (hr.symm.trans hsample)
  exact ⟨rfl, Document.isUsable_of_products hread hproducts, hread⟩

theorem save_gate_three_groups :
    let start : Draft := ⟨none, " x ", true, "", none, .empty, "", "",
      .expert ⟨"", ⟨some 1, some 2, some 3, none, none⟩⟩⟩
    let s := (Session.start start).run [.setPattern "(a)(1)(2)"]
    let t : Template := ⟨none, "x", true, [], none, .empty,
      ⟨"", "", "(a)(1)(2)", ⟨some 1, some 2, some 3, none, none⟩⟩, none, none⟩
    let e : Extraction := ⟨some "x", none, none, none, none,
      [⟨"a", ⟨false, 1, 0⟩, ⟨false, 2, 0⟩, none, none, 1⟩], []⟩
    s.draft.build = .ok t ∧ (Document.extractText t "a12").outcome = .ok (.extracted e) ∧
      s.draft.save (some (.extracted e)) = .ok t ∧ t.table.IsUsable := by
  intro start s t e
  have hd : s.draft.HasLayout := Draft.hasLayout_expert rfl
  have hbuild : s.draft.build = .ok t := by cbv
  have hread : (Document.extractText t "a12").outcome = .ok (.extracted e) := by cbv
  obtain ⟨hsave, -, husable, -⟩ :=
    save_gate start [.setPattern "(a)(1)(2)"] (some (.extracted e)) hd
  obtain ⟨u, hu⟩ := hsave.mpr ⟨by decide, by decide, fun _ => ⟨e, rfl, by simp [e]⟩⟩
  obtain ⟨rfl, husable, -⟩ := husable u t "a12" _ rfl hu hbuild rfl hread
  exact ⟨hbuild, hread, hu, husable⟩

end Session

end OrderSheet
