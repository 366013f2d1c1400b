import Mathlib
import OrderSheet.Draft.Basic
import OrderSheet.Proofs.Extract.Document
import OrderSheet.Proofs.Template.Checked

/-!
# Building templates

A draft can be built if its line source can be resolved and its name is short enough. A stored
template that is opened and built again reads every document as it did before.
-/

namespace OrderSheet

theorem Data.checkShortText_text (limit : Nat) (s : String) : checkShortText limit (.text s) =
    if s.length ≤ limit then .pass s else .complain (.longText limit) := rfl

namespace Draft

variable {d : Draft} {t : Template}

def describe (d : Draft) (rule : TableRule) : Template :=
  ⟨d.id, d.trimmedName, d.active, Data.splitKeywords d.keywords,
    d.supplier.bind Data.supplierOf?, d.header, rule, none, none⟩

theorem build_eq_ok : d.build = .ok t ↔ d.trimmedName.length ≤ Settings.maxName ∧
    ∃ rule, d.tableRule = .ok rule ∧ d.describe rule = t := by
  rw [build]
  cases hrule : d.tableRule with
  | error f => simp [bind, Except.bind]
  | ok rule =>
    by_cases hname : d.trimmedName.length ≤ Settings.maxName
    · rw [Data.checkShortText_text, if_pos hname]
      simp only [hname, true_and, Except.ok.injEq, exists_eq_left']
      exact ⟨Except.ok.inj, congrArg Except.ok⟩
    · rw [Data.checkShortText_text, if_neg hname]
      simp only [hname, false_and, iff_false]
      intro h
      cases h

def rebuilt (t : Template) : Template :=
  { t with
    name := String.ofList (Text.strip t.name.toList)
    keywords := Data.splitKeywords (", ".intercalate t.keywords)
    created := none
    updated := none }

theorem supplier_bind_eq (h : t.IsChecked) : t.supplier.bind Data.supplierOf? = t.supplier := by
  cases hs : t.supplier with
  | none => rfl
  | some s => exact h.supplier s hs

theorem length_trimmedName_le (d : Draft) : d.trimmedName.length ≤ d.name.length := by
  rw [trimmedName, String.length_ofList, ← String.length_toList]
  exact (Text.strip_sublist d.name.toList).length_le

theorem build_ofTemplate (h : t.IsChecked) : (ofTemplate t).build = .ok (rebuilt t) := by
  refine build_eq_ok.mpr ⟨(length_trimmedName_le _).trans h.name, t.table, rfl, ?_⟩
  rw [describe]
  change Template.mk t.id _ t.active _ (t.supplier.bind Data.supplierOf?) t.header t.table none
    none = _
  rw [supplier_bind_eq h]
  rfl

/-- A stored template can always be opened and built again. Apart from blanks around its name, the
new template agrees with the stored one in all that it takes to read a document and to diagnose
one, so that it does both in the same way. -/
theorem build_ofTemplate_reads {data : Data} (h : Data.checkTemplate data = .pass t) :
    ∃ u, (ofTemplate t).build = .ok u ∧
      u.id = t.id ∧ u.active = t.active ∧ u.supplier = t.supplier ∧ u.header = t.header ∧
      u.table = t.table ∧ u.name = String.ofList (Text.strip t.name.toList) ∧
      (∀ text, (Document.extractText u text).outcome =
        (Document.extractText t text).outcome.map (Outcome.named u.name)) ∧
      ∀ text, Diagnosis.diagnose text u.table = Diagnosis.diagnose text t.table :=
  ⟨rebuilt t, build_ofTemplate (Data.isChecked_of_checkTemplate h), rfl, rfl, rfl, rfl, rfl, rfl,
    fun _ => Document.outcome_extractText_named rfl rfl, fun _ => rfl⟩

theorem build_ofTemplate_reads_blanks_around_name :
    let t : Template := ⟨some "a", " x ", true, ["k"], some "s", .empty, ⟨"", "", "(", .empty⟩,
      none, none⟩
    ∃ u, (ofTemplate t).build = .ok u ∧ u.name = "x" ∧ u.supplier = some "s" ∧
      ∀ text, (Document.extractText u text).outcome =
        (Document.extractText t text).outcome.map (Outcome.named "x") := by
  intro t
  have hcheck : Data.checkTemplate (.map [(.text "id", .text "a"), (.text "name", .text " x "),
      (.text "detect_keywords", .list [.text "k"]), (.text "supplier_id", .text "s"),
      (.text "products_config", .map [(.text "line_pattern", .text "(")])]) = .pass t := by cbv
  obtain ⟨u, hu, -, -, hsupplier, -, -, hname, hreads, -⟩ := build_ofTemplate_reads hcheck
  have hx : u.name = "x" := hname.trans (by decide)
  exact ⟨u, hu, hx, hsupplier, fun text => hx ▸ hreads text⟩

end Draft

end OrderSheet
