import OrderSheet.Failure
import OrderSheet.Journal

/-!
# Activities

An operation that reports to the journal and may fail. What it reported before a failure stays in
the journal.
-/

namespace OrderSheet

structure Activity (α : Type) where
  journal : List Record
  outcome : Except Failure α

namespace Activity

variable {α β : Type}

def ofExcept (x : Except Failure α) : Activity α := ⟨[], x⟩

def fail (f : Failure) : Activity α := ⟨[], .error f⟩

def note (records : List Record) : Activity Unit := ⟨records, .ok ()⟩

def bind (x : Activity α) (f : α → Activity β) : Activity β :=
  match x.outcome with
  | .ok a => ⟨x.journal ++ (f a).journal, (f a).outcome⟩
  | .error e => ⟨x.journal, .error e⟩

instance : Monad Activity where
  pure a := ⟨[], .ok a⟩
  bind := bind

def settle (x : Activity α) : Activity (Except Failure α) := ⟨x.journal, .ok x.outcome⟩

@[simp] theorem pure_bind (a : α) (f : α → Activity β) : bind ⟨[], .ok a⟩ f = f a := by
  simp [bind]

theorem bind_eq (x : Activity α) (f : α → Activity β) : x >>= f = bind x f := rfl

instance : LawfulMonad Activity :=
  LawfulMonad.mk' Activity
    (fun ⟨journal, outcome⟩ => by cases outcome <;> simp [Functor.map, bind])
    pure_bind
    (fun ⟨journal, outcome⟩ f g => by
      cases outcome with
      | error e => rfl
      | ok a =>
        simp only [bind_eq, bind]
        cases (f a).outcome <;> simp)

theorem map_ok (f : α → β) (journal : List Record) (a : α) :
    f <$> (⟨journal, .ok a⟩ : Activity α) = ⟨journal, .ok (f a)⟩ := by
  simp [Functor.map, bind]

end Activity

end OrderSheet
