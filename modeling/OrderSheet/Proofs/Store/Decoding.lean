import Mathlib
import OrderSheet.Proofs.Draft.Building
import OrderSheet.Proofs.Layout.Mapping
import OrderSheet.Proofs.Store.Dump
import OrderSheet.Proofs.Store.Loading
import OrderSheet.Proofs.Yaml.Moments

/-!
# Stored templates decoded

However a template has come about, the data that its document is written from pass the check again.
They give the template that is stored, except that a moment comes back in whole minutes from
universal time.
-/

namespace OrderSheet

namespace Store

/-- The templates that validation produces: from raw data, from the content of a file, from a draft
in which groups are counted from 1, and by the assignment of a field. A template that is stored is
one again. The moments in raw data are those of a clock. -/
inductive Validated : Template → Prop where
  | checked {d : Data} {t : Template} (hd : d.HasValidFields)
    (h : Data.checkTemplate d = .pass t) : Validated t
  | loaded {id : String} {content : List UInt8} {t : Template} (h : parse id content = .ok t) :
    Validated t
  | built {d : Draft} {t : Template}
    (hgroups : ∀ p, d.source = .expert p → ∀ e ∈ p.mapping.assigned, 0 < e.2)
    (h : d.build = .ok t) : Validated t
  | assigned {t u : Template} {field : String} {value : Data} (ht : Validated t)
    (hvalue : value.IsValid) (h : t.assign field value = .pass u) : Validated u
  | stored {t : Template} {now : Moment} (ht : Validated t) (hnow : now.IsValid) :
    Validated { t with created := some (t.created.getD now), updated := some now }

end Store

/-- A template that has passed its check, with moments of a clock. -/
structure Template.IsSound (t : Template) : Prop where
  checked : t.IsChecked
  created : ∀ m ∈ t.created, m.IsValid
  updated : ∀ m ∈ t.updated, m.IsValid

variable {t u : Template} {now : Moment}

namespace Template

theorem isSound_of_checkTemplate {d : Data} (hd : d.HasValidFields)
    (h : Data.checkTemplate d = .pass t) : t.IsSound :=
  ⟨Data.isChecked_of_checkTemplate h, (Data.isValid_of_checkTemplate hd h).1,
    (Data.isValid_of_checkTemplate hd h).2⟩

theorem isSound_of_build {d : Draft}
    (hgroups : ∀ p, d.source = .expert p → ∀ e ∈ p.mapping.assigned, 0 < e.2)
    (h : d.build = .ok t) : t.IsSound := by
  obtain ⟨hname, rule, hrule, rfl⟩ := Draft.build_eq_ok.mp h
  have hsupplier : ∀ s ∈ d.supplier.bind Data.supplierOf?, Data.supplierOf? s = some s := by
    intro s hs
    obtain ⟨v, -, hv⟩ := Option.bind_eq_some_iff.mp hs
    exact (Data.supplierOf_eq_some hv).1
  have hmapping : ∀ e ∈ rule.mapping.assigned, 0 < e.2 := by
    rw [Draft.tableRule] at hrule
    cases hsource : d.source with
    | visual columns =>
      cases hcompile : Layout.compile columns with
      | error f =>
        rw [hsource, LineSource.resolve, hcompile] at hrule
        cases hrule
      | ok p =>
        rw [hsource, LineSource.resolve, hcompile] at hrule
        obtain rfl := Except.ok.inj hrule
        exact Layout.positive_of_compile hcompile
    | expert p =>
      rw [hsource] at hrule
      obtain rfl := Except.ok.inj hrule
      exact hgroups p hsource
  refine ⟨⟨hname, Data.cleanWords_cleanKeywords _, hsupplier, hmapping⟩, ?_, ?_⟩
  · simp [Draft.describe]
  · simp [Draft.describe]

theorem IsSound.assign {field : String} {value : Data} (ht : t.IsSound) (hvalue : value.IsValid)
    (h : t.assign field value = .pass u) : u.IsSound := by
  have hassigned := assigned_of_assign h
  refine ⟨ht.checked.assigned hassigned, ?_, ?_⟩
  · cases hassigned with
    | created hv => exact Data.isValid_of_optionalMoment hvalue hv
    | _ => exact ht.created
  · cases hassigned with
    | updated hv => exact Data.isValid_of_optionalMoment hvalue hv
    | _ => exact ht.updated

theorem IsSound.stored (ht : t.IsSound) (hnow : now.IsValid) :
    ({ t with created := some (t.created.getD now), updated := some now } : Template).IsSound := by
  obtain ⟨⟨hname, hkeywords, hsupplier, hmapping⟩, hcreated, -⟩ := ht
  refine ⟨⟨hname, hkeywords, hsupplier, hmapping⟩, fun m hm => ?_, fun m hm => ?_⟩
  · obtain rfl := Option.some.inj hm
    cases hvalue : t.created with
    | none => exact hnow
    | some v => exact hcreated v hvalue
  · obtain rfl := Option.some.inj hm
    exact hnow

/-- What the check does to words and suppliers has been done to a checked template. -/
theorem IsChecked.rechecked_eq_iff (h : t.IsChecked) :
    t.rechecked = t ↔ ∀ m ∈ t.moments, ∀ z ∈ m.offset, 60 ∣ z := by
  have hkeywords := h.keywords.cleanKeywords_eq
  have hsupplier : t.supplier.bind Data.supplierOf? = t.supplier := by
    cases hs : t.supplier with
    | none => rfl
    | some s => exact h.supplier s hs
  have hmoment {o : Option Moment} :
      o.map Moment.reread = o ↔ ∀ m ∈ o, ∀ z ∈ m.offset, 60 ∣ z := by
    cases o <;> simp [Moment.reread_eq_iff]
  obtain ⟨id, name, active, keywords, supplier, header, table, created, updated⟩ := t
  simp only [rechecked, mk.injEq, hkeywords, hsupplier, hmoment, moments, List.mem_append,
    Option.mem_toList, Option.mem_def, or_imp, forall_and, true_and]

end Template

namespace Store

theorem validValues_of_entries {d : Data} {es : List (Data × Data)} (hd : d.HasValidFields)
    (h : entriesOf? d = some es) : Data.ValidValues es := by
  have hcontent := content_of_entries h
  split at hcontent
  · obtain rfl := by simpa using hcontent.symm
    simp [Data.ValidValues]
  · rwa [hcontent] at hd

theorem validValues_fillId {es : List (Data × Data)} (h : Data.ValidValues es) (id : String) :
    Data.ValidValues (fillId id es) := by
  unfold fillId
  split
  · exact h
  · intro e he
    rcases List.mem_append.mp he with he | he
    · exact h e he
    · obtain rfl := List.mem_singleton.mp he
      trivial

theorem validFields_of_readDocument {content : List UInt8} {d : Data}
    (h : readDocument content = .ok d) : d.HasValidFields := by
  rw [readDocument] at h
  split at h
  · cases h
  · rename_i text _
    cases hload : Yaml.load text.toList with
    | error fault =>
      rw [hload] at h
      cases h
    | ok d' =>
      rw [hload] at h
      obtain rfl : d' = d := Except.ok.inj h
      exact Yaml.validFields_of_load hload

theorem Validated.isSound (h : Validated t) : t.IsSound := by
  induction h with
  | checked hd h => exact Template.isSound_of_checkTemplate hd h
  | loaded h =>
    cases parse_eq_iff.mp h with
    | template hread hentries hcheck =>
      have hvalues := validValues_of_entries (validFields_of_readDocument hread) hentries
      refine Template.isSound_of_checkTemplate ?_ hcheck
      exact validValues_fillId hvalues _
  | built hgroups h => exact Template.isSound_of_build hgroups h
  | assigned _ hvalue h ih => exact ih.assign hvalue h
  | stored _ hnow ih => exact ih.stored hnow

theorem check_dump (h : t.IsSound) : Data.checkTemplate (dump t) = .pass t.rechecked := by
  rw [dump_eq]
  exact check_parts h.checked.name h.checked.mapping h.created h.updated

end Store

end OrderSheet
