import Mathlib
import OrderSheet.Template.Check

/-!
# What stops the check of a template

A check goes on behind a complaint. Only keywords that cannot be gone through one by one stop it at
once, whatever else is wrong with the template.
-/

namespace OrderSheet

variable {α β : Type}

namespace Check

def halt? : Check α → Option String
  | .fail (.notIterable t) => some t
  | _ => none

theorem halt?_eq_some_iff {x : Check α} {t : String} :
    x.halt? = some t ↔ x = .fail (.notIterable t) := by
  rcases x with a | ⟨is | t'⟩ <;> simp [halt?]

@[simp] theorem halt?_pass (a : α) : (pass a).halt? = none := rfl

@[simp] theorem halt?_complain (c : Complaint) : (complain c : Check α).halt? = none := rfl

@[simp] theorem halt?_map (f : α → β) (x : Check α) : (f <$> x).halt? = x.halt? := by
  rcases x with a | ⟨is | t⟩ <;> rfl

@[simp] theorem halt?_inside (step : String) (x : Check α) : (inside step x).halt? = x.halt? := by
  rcases x with a | ⟨is | t⟩ <;> rfl

@[simp] theorem halt?_seq (f : Check (α → β)) (x : Check α) :
    (f <*> x).halt? = f.halt?.or x.halt? := by
  rcases f with g | ⟨is | t⟩ <;> rcases x with a | ⟨js | u⟩ <;> rfl

theorem halt?_andThen {x : Check α} {f : α → Check β} (hx : x.halt? = none)
    (hf : ∀ a, (f a).halt? = none) : (x.andThen f).halt? = none := by
  rcases x with a | ⟨is | t⟩
  · exact hf a
  · rfl
  · cases hx

end Check

open Check

namespace Data

variable {check : Data → Check α}

def GoesOn (check : Data → Check α) : Prop := ∀ d, (check d).halt? = none

theorem halt?_given (fields : List (Data × Data)) (name : String) (check : Data → Check α)
    (default : α) : (given fields name check default).halt? =
      (lookup? fields name).bind fun d => (check d).halt? := by
  rw [given]
  cases lookup? fields name with
  | none => rfl
  | some d => exact halt?_inside name _

theorem GoesOn.given (h : GoesOn check) (fields : List (Data × Data)) (name : String)
    (default : α) : (given fields name check default).halt? = none := by
  rw [halt?_given]
  cases lookup? fields name with
  | none => rfl
  | some d => exact h d

theorem GoesOn.optional (h : GoesOn check) : GoesOn (checkOptional check) := by
  intro d
  rw [checkOptional.eq_def]
  split
  · rfl
  · exact (halt?_map ..).trans (h d)

theorem GoesOn.record {name : String} {fields : List (Data × Data) → Check α}
    (h : ∀ es, (fields es).halt? = none) : GoesOn (checkRecord name fields) := by
  intro d
  cases d with
  | map es => exact h es
  | _ => rfl

theorem goesOn_checkText : GoesOn checkText := by
  intro d
  rw [checkText.eq_def]
  split
  · rfl
  · split <;> rfl
  · rfl

theorem goesOn_checkShortText (limit : Nat) : GoesOn (checkShortText limit) := by
  intro d
  refine halt?_andThen (goesOn_checkText d) fun s => ?_
  split <;> rfl

theorem halt?_checkTruthText (s : String) : (checkTruthText s).halt? = none := by
  simp only [checkTruthText]
  split
  · rfl
  · split <;> rfl

theorem halt?_checkTruthNumber (n : Int) : (checkTruthNumber n).halt? = none := by
  rw [checkTruthNumber]
  split
  · rfl
  · split <;> rfl

theorem goesOn_checkTruth : GoesOn checkTruth := by
  intro d
  rw [checkTruth.eq_def]
  split
  · rfl
  · exact halt?_checkTruthText _
  · split
    · exact halt?_checkTruthText _
    · rfl
  · exact halt?_checkTruthNumber _
  · split
    · exact halt?_checkTruthNumber _
    · rfl
  · rfl

theorem halt?_checkMomentText (s : String) : (checkMomentText s).halt? = none := by
  rw [checkMomentText]
  split <;> rfl

theorem goesOn_checkMoment : GoesOn checkMoment := by
  intro d
  rw [checkMoment.eq_def]
  split
  · rfl
  · rfl
  · exact halt?_checkMomentText _
  · split
    · exact halt?_checkMomentText _
    · rfl
  · split <;> rfl
  · split <;> rfl
  · rfl

theorem halt?_checkIntegerText (s : String) : (checkIntegerText s).halt? = none := by
  rw [checkIntegerText]
  split
  · rfl
  · dsimp only
    split_ifs <;> rfl

theorem goesOn_checkInteger : GoesOn checkInteger := by
  intro d
  rw [checkInteger.eq_def]
  split
  · rfl
  · rfl
  · split <;> rfl
  · exact halt?_checkIntegerText _
  · split
    · exact halt?_checkIntegerText _
    · rfl
  · rfl

theorem goesOn_checkPositive : GoesOn checkPositive := by
  intro d
  refine halt?_andThen (goesOn_checkInteger d) fun n => ?_
  split <;> rfl

theorem goesOn_checkSupplier : GoesOn checkSupplier := by
  intro d
  rw [checkSupplier.eq_def]
  split
  · rfl
  · split <;> rfl

theorem goesOn_checkHeaderPatterns : GoesOn checkHeaderPatterns :=
  .record fun es => by simp [goesOn_checkText.optional.given es]

theorem goesOn_checkFieldMapping : GoesOn checkFieldMapping :=
  .record fun es => by simp [goesOn_checkPositive.optional.given es]

theorem goesOn_checkTableRule : GoesOn checkTableRule :=
  .record fun es => by
    simp [goesOn_checkText.given es, goesOn_checkFieldMapping.given es]

theorem halt?_checkTemplate (es : List (Data × Data)) :
    (checkTemplate (.map es)).halt? =
      (lookup? es "detect_keywords").bind fun d => (checkKeywords d).halt? := by
  rw [checkTemplate, checkRecord]
  simp [goesOn_checkText.optional.given es, (goesOn_checkShortText _).given es,
    goesOn_checkTruth.given es, goesOn_checkSupplier.given es,
    goesOn_checkHeaderPatterns.given es, goesOn_checkTableRule.given es,
    goesOn_checkMoment.optional.given es, halt?_given es "detect_keywords"]

/-- Keywords stop the check if they are given, but cannot be gone through. -/
theorem halt?_checkKeywords_eq_some_iff {d : Data} {t : String} :
    (checkKeywords d).halt? = some t ↔ d ≠ .null ∧ d.elements? = none ∧ t = d.typeName := by
  rw [checkKeywords.eq_def]
  split
  · simp
  · simp [elements?]
  · next hnull htext =>
    cases helements : d.elements? with
    | some xs =>
      dsimp only
      split <;> simp
    | none =>
      simpa [halt?, eq_comm] using fun _ => hnull

/-- Whether the check of a template stops, and at which value, depends on its keywords alone. -/
theorem checkTemplate_eq_notIterable_iff {es : List (Data × Data)} {t : String} :
    checkTemplate (.map es) = .fail (.notIterable t) ↔
      ∃ d, lookup? es "detect_keywords" = some d ∧ d ≠ .null ∧ d.elements? = none ∧
        t = d.typeName := by
  rw [← halt?_eq_some_iff, halt?_checkTemplate, Option.bind_eq_some_iff]
  simp only [halt?_checkKeywords_eq_some_iff]

end Data

end OrderSheet
