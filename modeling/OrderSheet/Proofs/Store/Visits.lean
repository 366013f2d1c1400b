import Mathlib
import OrderSheet.Proofs.Store.Files
import OrderSheet.Store.Basic

/-!
# Operations on a store

What each operation answers, and the store behind it. A template is read from its file just when
the cache does not have it, and only a save that ends well empties the cache.
-/

namespace OrderSheet

variable {α β : Type}

def Visit.on (x : Visit α) (s : Store) : Except Failure α × Store := x.run.run s

namespace Visit

variable {x : Visit α} {f : α → Visit β} {s s' : Store} {a : α} {e : Failure}

theorem on_bind_of_ok (h : x.on s = (.ok a, s')) : Visit.on (x >>= f) s = (f a).on s' := by
  change x s = (.ok a, s') at h
  change StateT.bind x (ExceptT.bindCont f) s = _
  rw [StateT.bind, h]
  rfl

theorem on_bind_of_error (h : x.on s = (.error e, s')) :
    Visit.on (x >>= f) s = (.error e, s') := by
  change x s = (.error e, s') at h
  change StateT.bind x (ExceptT.bindCont f) s = _
  rw [StateT.bind, h]
  rfl

theorem on_pure (a : α) (s : Store) : Visit.on (pure a) s = (.ok a, s) := rfl

theorem on_get (s : Store) : Visit.on get s = (.ok s, s) := rfl

end Visit

namespace Store

open Visit

variable {read : Reader} {id id' : String} {s s' : Store} {t stored : Template} {now : Moment}
  {e : Failure}

theorem on_note (text : String) (s : Store) :
    (note text).on s = (.ok (), { s with journal := s.journal ++ [⟨.info, source, text⟩] }) := rfl

def Holds (d : Disk) (id : String) (t : Template) : Prop :=
  ∃ content, d.read (fileOf id) = .ok content ∧ parse id content = .ok t

theorem contains_of_read {d : Disk} {path : List Char} {content : List UInt8}
    (h : d.read path = .ok content) : d.contains path = true := by
  rw [Disk.read] at h
  cases hw : d.locate path with
  | error f => simp [hw, bind, Except.bind] at h
  | ok w =>
    simp only [hw, bind, Except.bind] at h
    rw [Disk.contains, hw]
    dsimp only
    split at h
    · cases h
    · cases h
    · rename_i hentry
      rw [hentry]
      rfl

theorem on_loadFile_of_read {content : List UInt8}
    (hread : s.disk.read (fileOf id) = .ok content) : ∃ records, (loadFileWith read id).on s =
      (parseWith read id content, { s with journal := s.journal ++ records }) := by
  rw [loadFileWith, on_bind_of_ok (on_get _)]
  dsimp only
  rw [contains_of_read hread, if_neg (by simp), on_bind_of_ok (on_note _ _), hread]
  dsimp only
  cases parseWith read id content with
  | error e => exact ⟨_, rfl⟩
  | ok t =>
    refine ⟨[⟨.info, source, "Loading template"⟩,
      ⟨.info, source, "Successfully loaded template"⟩], ?_⟩
    dsimp only
    rw [on_bind_of_ok (on_note _ _), on_pure, List.append_assoc]
    rfl

/-- Reading a template from its file answers what the file holds, and changes nothing but the
journal. -/
theorem on_loadFile (id : String) (s : Store) :
    ∃ answer records, (loadFile id).on s = (answer, { s with journal := s.journal ++ records }) ∧
      ∀ t, answer = .ok t ↔ Holds s.disk id t := by
  cases hread : s.disk.read (fileOf id) with
  | ok content =>
    obtain ⟨records, hfile⟩ := on_loadFile_of_read hread
    refine ⟨_, records, hfile, fun t => ⟨fun h => ⟨content, hread, h⟩, ?_⟩⟩
    rintro ⟨content', hread', h⟩
    obtain rfl := Except.ok.inj (hread.symm.trans hread')
    exact h
  | error f =>
    have hnone (t : Template) : ¬ Holds s.disk id t := by
      rintro ⟨content, hcontent, -⟩
      rw [hread] at hcontent
      cases hcontent
    have herror {e : Failure} (t : Template) :
        (.error e : Except Failure Template) = .ok t ↔ Holds s.disk id t :=
      ⟨fun h => (nomatch h), fun h => absurd h (hnone t)⟩
    rw [loadFile, loadFileWith, on_bind_of_ok (on_get _)]
    dsimp only
    split
    · exact ⟨_, [], by rw [List.append_nil]; rfl, herror⟩
    · rw [on_bind_of_ok (on_note _ _), hread]
      exact ⟨_, _, rfl, herror⟩

theorem on_load_of_cached {t : Template} (h : s.cache.find? (·.1 == id) = some (id', t)) :
    (loadWith read id).on s = (.ok t, { s with cache := remember s.cache id t }) := by
  rw [loadWith, on_bind_of_ok (on_get _), h]
  rfl

/-- A template that the cache does not have is read from its file, and kept if there is one. -/
theorem on_load_of_uncached (h : s.cache.find? (·.1 == id) = none) :
    (loadWith read id).on s = match (loadFileWith read id).on s with
      | (.ok t, s') => (.ok t, { s' with cache := remember s'.cache id t })
      | (.error e, s') => (.error e, s') := by
  rw [loadWith, on_bind_of_ok (on_get _), h]
  dsimp only
  rcases hfile : (loadFileWith read id).on s with ⟨answer | answer, s'⟩
  · rw [on_bind_of_error hfile]
  · rw [on_bind_of_ok hfile]
    rfl

structure Saved (now : Moment) (t stored : Template) (s s' : Store) : Prop where
  stored_eq : stored = { t with created := some (t.created.getD now), updated := some now }
  written : ∃ id, t.id = some id ∧ id ≠ "" ∧
    s.disk.write (fileOf id) (document stored).toUTF8.toList = .ok s'.disk
  indexes : hasHugeIndex t = false
  root_eq : s'.root = s.root
  cache_eq : s'.cache = []

/-- What a save that fails leaves behind: unless the file was opened and could not be filled, the
files are what they were. -/
structure Unsaved (t : Template) (s s' : Store) : Prop where
  disk : s'.disk = s.disk ∨ hasHugeIndex t = true
  root_eq : s'.root = s.root
  cache_eq : s'.cache = s.cache

theorem bind_nonEmpty?_id (hid : t.id = some id) (hne : id ≠ "") :
    t.id.bind nonEmpty? = some id := by
  simp [hid, nonEmpty?, hne]

theorem on_save (now : Moment) (t : Template) (s : Store) :
    (∃ stored s', (save now t).on s = (.ok stored, s') ∧ Saved now t stored s s') ∨
      ∃ e s', (save now t).on s = (.error e, s') ∧ Unsaved t s s' := by
  rw [save]
  cases hid : t.id.bind nonEmpty? with
  | none => exact .inr ⟨_, s, rfl, .inl rfl, rfl, rfl⟩
  | some id =>
    obtain ⟨id', hid', hne⟩ := Option.bind_eq_some_iff.mp hid
    have hid'' : id' = id ∧ id' ≠ "" := by
      simpa [nonEmpty?, and_comm] using hne
    obtain ⟨rfl, hempty⟩ := hid''
    dsimp only
    rw [on_bind_of_ok (on_get _)]
    split
    · exact .inr ⟨_, s, rfl, .inl rfl, rfl, rfl⟩
    · cases hhuge : hasHugeIndex t with
      | true =>
        rw [if_pos rfl]
        cases s.disk.write (fileOf id') [] with
        | error f => exact .inr ⟨_, s, rfl, .inl rfl, rfl, rfl⟩
        | ok disk => exact .inr ⟨_, { s with disk := disk }, rfl, .inr hhuge, rfl, rfl⟩
      | false =>
        rw [if_neg (by simp)]
        cases hwrite : s.disk.write (fileOf id') (document
            { t with created := some (t.created.getD now), updated := some now }).toUTF8.toList with
        | error f => exact .inr ⟨_, s, rfl, .inl rfl, rfl, rfl⟩
        | ok disk =>
          exact .inl ⟨_, ⟨s.root, disk, [], _⟩, rfl, rfl, ⟨id', hid', hempty, hwrite⟩, hhuge, rfl,
            rfl⟩

end Store

end OrderSheet
