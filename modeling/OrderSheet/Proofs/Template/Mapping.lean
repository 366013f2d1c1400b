import Mathlib
import OrderSheet.Template.Mapping

/-!
# Groups of a field mapping

The assigned fields of a mapping are those that have a group, and a mapping that fits a pattern uses
only groups of that pattern.
-/

namespace OrderSheet.FieldMapping

variable {mapping : FieldMapping} {f : ProductField} {i : Nat}

theorem mem_assigned : (f, i) ∈ mapping.assigned ↔ mapping.get f = some i := by
  constructor
  · intro h
    obtain ⟨g, -, hg⟩ := List.mem_filterMap.mp h
    obtain ⟨j, hj, heq⟩ := Option.map_eq_some_iff.mp hg
    obtain ⟨rfl, rfl⟩ := Prod.mk.inj heq
    exact hj
  · intro h
    exact List.mem_filterMap.mpr ⟨f, by cases f <;> simp [ProductField.all], by simp [h]⟩

theorem find_assigned (mapping : FieldMapping) (f : ProductField) :
    mapping.assigned.find? (·.1 == f) = (mapping.get f).map (f, ·) := by
  cases hfind : mapping.assigned.find? (·.1 == f) with
  | some e =>
    obtain ⟨g, i⟩ := e
    obtain rfl : g = f := by simpa using List.find?_some hfind
    rw [mem_assigned.mp (List.mem_of_find?_eq_some hfind)]
    rfl
  | none =>
    cases hget : mapping.get f with
    | none => rfl
    | some i => exact absurd (List.find?_eq_none.mp hfind _ (mem_assigned.mpr hget)) (by simp)

theorem highest_le_iff {n : Nat} : mapping.highest ≤ n ↔ ∀ e ∈ mapping.assigned, e.2 ≤ n := by
  rw [highest, List.foldl_eq_foldr]
  constructor
  · intro h e he
    exact (List.le_max_of_le' 0 (List.mem_map_of_mem he) le_rfl).trans h
  · intro h
    refine List.max_le_of_forall_le _ n fun i hi => ?_
    obtain ⟨e, he, rfl⟩ := List.mem_map.mp hi
    exact h e he

theorem missing_eq_nil_iff :
    mapping.missing = [] ↔ ∀ f ∈ ProductField.required, (mapping.get f).isSome = true := by
  rw [missing, List.filter_eq_nil_iff]
  simp only [Option.isNone_iff_eq_none, ← ne_eq, Option.isSome_iff_ne_none]

/-- A mapping fits if the required fields have a group and all of its groups are there. -/
theorem fault?_eq_none_iff {groups : Nat} : mapping.fault? groups = none ↔
    (∀ f ∈ ProductField.required, (mapping.get f).isSome = true) ∧
      ∀ e ∈ mapping.assigned, e.2 ≤ groups := by
  rw [← missing_eq_nil_iff, ← highest_le_iff, fault?]
  cases mapping.missing with
  | nil => simp
  | cons f fs => simp

/-- A mapping has a fault if a required field has no group or if one of its groups is not there. -/
theorem isSome_fault?_iff {groups : Nat} : (mapping.fault? groups).isSome = true ↔
    (∃ f ∈ ProductField.required, mapping.get f = none) ∨
      ∃ f i, mapping.get f = some i ∧ groups < i := by
  rw [Option.isSome_iff_ne_none, ne_eq, fault?_eq_none_iff, not_and_or]
  simp only [not_forall, Option.isSome_iff_ne_none, ne_eq, not_not, Nat.not_le, Prod.exists,
    mem_assigned, exists_prop]

end OrderSheet.FieldMapping
