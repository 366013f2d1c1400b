import Mathlib
import OrderSheet.Proofs.Store.RoundTrip

/-!
# How old a loaded template may be

The cache holds templates that some file held since a save or a clear emptied it last. As long as
only saves that do not break off change the files, it holds what the files hold now, and every
load answers what it would answer without the cache.
-/

namespace OrderSheet.Store

open Visit

variable {id : String} {ids ids' : List String} {s s' s'' u : Store} {t : Template}
  {answer : Except Failure Template}

/-- Only templates of these ids that the files hold have come into the cache. -/
structure Loads (ids : List String) (s s' : Store) : Prop where
  root_eq : s'.root = s.root
  disk_eq : s'.disk = s.disk
  cached : ∀ e ∈ s'.cache, e ∈ s.cache ∨ e.1 ∈ ids ∧ Holds s.disk e.1 e.2

theorem Loads.refl (s : Store) : Loads [] s s := ⟨rfl, rfl, fun _ he => .inl he⟩

theorem Loads.trans (h : Loads ids s s') (h' : Loads ids' s' s'') : Loads (ids ++ ids') s s'' := by
  refine ⟨h'.root_eq.trans h.root_eq, h'.disk_eq.trans h.disk_eq, fun e he => ?_⟩
  rcases h'.cached e he with hs' | ⟨hid, hholds⟩
  · rcases h.cached e hs' with hs | ⟨hid, hholds⟩
    · exact .inl hs
    · exact .inr ⟨List.mem_append_left _ hid, hholds⟩
  · exact .inr ⟨List.mem_append_right _ hid, h.disk_eq ▸ hholds⟩

theorem mem_remember {cache : List (String × Template)} {e : String × Template}
    (h : e ∈ remember cache id t) : e = (id, t) ∨ e ∈ cache := by
  rcases List.mem_cons.mp (List.mem_of_mem_take h) with h | h
  · exact .inl h
  · exact .inr (List.mem_filter.mp h).1

/-- A load answers a template from the cache or from its file. If it fails, the id is not in the
cache, which stays as it is. -/
theorem on_load_cases (h : (load id).on s = (answer, s')) :
    (∃ t, answer = .ok t ∧ Loads [id] s s' ∧ ((id, t) ∈ s.cache ∨ Holds s.disk id t)) ∨
      ∃ e, answer = .error e ∧ Loads [] s s' ∧ s'.cache = s.cache ∧ ∀ e ∈ s.cache, e.1 ≠ id := by
  cases hfind : s.cache.find? (·.1 == id) with
  | some e =>
    obtain ⟨id', t⟩ := e
    obtain rfl : id' = id := by simpa using List.find?_some hfind
    have hmem : (id', t) ∈ s.cache := List.mem_of_find?_eq_some hfind
    rw [on_load_of_cached hfind] at h
    obtain ⟨rfl, rfl⟩ := Prod.mk.inj h
    refine .inl ⟨t, rfl, ⟨rfl, rfl, fun e he => .inl ?_⟩, .inl hmem⟩
    rcases mem_remember he with rfl | he
    · exact hmem
    · exact he
  | none =>
    have hnew : ∀ e ∈ s.cache, e.1 ≠ id := fun e he => by
      simpa using List.find?_eq_none.mp hfind e he
    obtain ⟨answer', records, hfile, hanswer⟩ := on_loadFile id s
    rw [on_load_of_uncached hfind, hfile] at h
    cases answer' with
    | error e =>
      obtain ⟨rfl, rfl⟩ := Prod.mk.inj h
      exact .inr ⟨e, rfl, ⟨rfl, rfl, fun e he => .inl he⟩, rfl, hnew⟩
    | ok t =>
      have hholds : Holds s.disk id t := (hanswer t).mp rfl
      obtain ⟨rfl, rfl⟩ := Prod.mk.inj h
      refine .inl ⟨t, rfl, ⟨rfl, rfl, fun e he => ?_⟩, .inr hholds⟩
      rcases mem_remember he with rfl | he
      · exact .inr ⟨by simp, hholds⟩
      · exact .inl he

def loadedOf (s : Store) : List String → List String
  | [] => []
  | id :: ids =>
    match (load id).on s with
    | (.ok _, s') => id :: loadedOf s' ids
    | (.error _, _) => []

theorem loads_load (id : String) (s : Store) :
    Loads (loadedOf s [id]) s ((load id).on s).2 := by
  rcases hload : (load id).on s with ⟨answer, s'⟩
  rw [loadedOf, hload]
  rcases on_load_cases hload with ⟨t, rfl, h, -⟩ | ⟨e, rfl, h, -⟩ <;> exact h

theorem loads_mapM (ids : List String) (s : Store) :
    Loads (loadedOf s ids) s ((ids.mapM load).on s).2 := by
  induction ids generalizing s with
  | nil => exact Loads.refl s
  | cons id ids ih =>
    rw [List.mapM_cons, loadedOf]
    rcases hload : (load id).on s with ⟨answer, s'⟩
    rcases on_load_cases hload with ⟨t, rfl, hloads, -⟩ | ⟨e, rfl, hloads, -⟩
    · have hrest := hloads.trans (ih s')
      rw [on_bind_of_ok hload]
      rcases hmapM : (ids.mapM load).on s' with ⟨answer, s''⟩
      rw [hmapM] at hrest
      cases answer with
      | ok ts =>
        rw [on_bind_of_ok hmapM]
        exact hrest
      | error e =>
        rw [on_bind_of_error hmapM]
        exact hrest
    · rw [on_bind_of_error hload]
      exact hloads

theorem on_loadActive (s : Store) : loadActive.on s =
    match ((list s).mapM load).on s with
    | (.ok ts, s') => (.ok (ts.filter (·.active)), s')
    | (.error e, s') => (.error e, s') := by
  rw [loadActive, on_bind_of_ok (on_get _)]
  rcases hmapM : ((list s).mapM load).on s with ⟨answer, s'⟩
  cases answer with
  | ok ts =>
    rw [on_bind_of_ok hmapM]
    rfl
  | error e => rw [on_bind_of_error hmapM]

theorem loads_loadActive (s : Store) : Loads (loadedOf s (list s)) s (loadActive.on s).2 := by
  have h := loads_mapM (list s) s
  rw [on_loadActive]
  rcases hmapM : ((list s).mapM load).on s with ⟨answer, s'⟩
  rw [hmapM] at h
  cases answer <;> exact h

def IsCurrent (s : Store) : Prop := ∀ e ∈ s.cache, Holds s.disk e.1 e.2

theorem Loads.isCurrent (h : Loads ids s s') (hs : IsCurrent s) : IsCurrent s' := by
  intro e he
  rw [h.disk_eq]
  rcases h.cached e he with he | ⟨-, hholds⟩
  · exact hs e he
  · exact hholds

def forget (s : Store) : Store := { s with cache := [] }

theorem isCurrent_forget (s : Store) : IsCurrent s.forget := fun _ he => nomatch he

/-- What the reading of a file answers depends on the file and the name of the directory. -/
theorem loadFile_congr_file (hroot : s.root = u.root)
    (hcontains : s.disk.contains (fileOf id) = u.disk.contains (fileOf id))
    (hread : s.disk.read (fileOf id) = u.disk.read (fileOf id)) :
    ((loadFile id).on s).1 = ((loadFile id).on u).1 := by
  obtain ⟨root, disk, cache, journal⟩ := s
  obtain ⟨root', disk', cache', journal'⟩ := u
  obtain rfl : root = root' := hroot
  simp only [loadFile, loadFileWith]
  rw [on_bind_of_ok (on_get _), on_bind_of_ok (on_get _)]
  dsimp only at hcontains hread ⊢
  rw [hcontains]
  split
  · rfl
  · rw [on_bind_of_ok (on_note _ _), on_bind_of_ok (on_note _ _), hread]
    cases disk'.read (fileOf id) with
    | error f => rfl
    | ok content =>
      dsimp only
      cases parseWith readDocument id content <;> rfl

theorem loadFile_congr (hroot : s.root = u.root) (hdisk : s.disk = u.disk) :
    ((loadFile id).on s).1 = ((loadFile id).on u).1 :=
  loadFile_congr_file hroot (by rw [hdisk]) (by rw [hdisk])

theorem load_eq_loadFile (h : ∀ e ∈ s.cache, e.1 = id → Holds s.disk e.1 e.2) :
    ((load id).on s).1 = ((loadFile id).on s).1 := by
  obtain ⟨answer, records, hfile, hanswer⟩ := on_loadFile id s
  cases hfind : s.cache.find? (·.1 == id) with
  | some e =>
    obtain ⟨id', t⟩ := e
    obtain rfl : id' = id := by simpa using List.find?_some hfind
    have hholds := h _ (List.mem_of_find?_eq_some hfind) rfl
    rw [on_load_of_cached hfind, hfile]
    exact ((hanswer t).mpr hholds).symm
  | none =>
    rw [on_load_of_uncached hfind, hfile]
    cases answer <;> rfl

/-- Over the same files all stores with current caches answer the same. -/
theorem load_congr (hs : IsCurrent s) (hu : IsCurrent u) (hroot : s.root = u.root)
    (hdisk : s.disk = u.disk) : ((load id).on s).1 = ((load id).on u).1 :=
  calc ((load id).on s).1 = ((loadFile id).on s).1 := load_eq_loadFile fun e he _ => hs e he
    _ = ((loadFile id).on u).1 := loadFile_congr hroot hdisk
    _ = ((load id).on u).1 := (load_eq_loadFile fun e he _ => hu e he).symm

theorem mapM_load_congr (hs : IsCurrent s) (hu : IsCurrent u) (hroot : s.root = u.root)
    (hdisk : s.disk = u.disk) : ((ids.mapM load).on s).1 = ((ids.mapM load).on u).1 := by
  induction ids generalizing s u with
  | nil => rfl
  | cons id ids ih =>
    have hanswer := @load_congr id _ _ hs hu hroot hdisk
    rw [List.mapM_cons]
    rcases hload : (load id).on s with ⟨answer, s'⟩
    rcases hload' : (load id).on u with ⟨answer', u'⟩
    rw [hload, hload'] at hanswer
    obtain rfl : answer = answer' := hanswer
    cases answer with
    | error e => rw [on_bind_of_error hload, on_bind_of_error hload']
    | ok t =>
      have hloads := loads_load id s
      have hloads' := loads_load id u
      rw [hload] at hloads
      rw [hload'] at hloads'
      have hrest := ih (hloads.isCurrent hs) (hloads'.isCurrent hu)
        (by rw [hloads.root_eq, hloads'.root_eq, hroot])
        (by rw [hloads.disk_eq, hloads'.disk_eq, hdisk])
      rw [on_bind_of_ok hload, on_bind_of_ok hload']
      rcases hmapM : (ids.mapM load).on s' with ⟨answer, s''⟩
      rcases hmapM' : (ids.mapM load).on u' with ⟨answer', u''⟩
      rw [hmapM, hmapM'] at hrest
      obtain rfl : answer = answer' := hrest
      cases answer with
      | error e => rw [on_bind_of_error hmapM, on_bind_of_error hmapM']
      | ok ts =>
        rw [on_bind_of_ok hmapM, on_bind_of_ok hmapM']
        rfl

theorem loadActive_congr (hs : IsCurrent s) (hu : IsCurrent u) (hroot : s.root = u.root)
    (hdisk : s.disk = u.disk) : (loadActive.on s).1 = (loadActive.on u).1 := by
  have hlist : list s = list u := by rw [list, list, hdisk]
  have h := @mapM_load_congr (list s) _ _ hs hu hroot hdisk
  rw [on_loadActive, on_loadActive, ← hlist]
  rcases hmapM : ((list s).mapM load).on s with ⟨answer, s'⟩
  rcases hmapM' : ((list s).mapM load).on u with ⟨answer', u'⟩
  rw [hmapM, hmapM'] at h
  obtain rfl : answer = answer' := h
  cases answer <;> rfl

/-- What happens to a store: its own operations, and changes of the files by others. -/
inductive Act where
  | load (id : String)
  | save (now : Moment) (t : Template)
  | list
  | loadActive
  | clear
  | edit (disk : Disk)

namespace Act

def apply (s : Store) : Act → Store
  | load id => ((Store.load id).on s).2
  | save now t => ((Store.save now t).on s).2
  | list => s
  | loadActive => (Store.loadActive.on s).2
  | clear => (Store.clear.on s).2
  | edit disk => { s with disk := disk }

def loaded (s : Store) : Act → List String
  | load id => loadedOf s [id]
  | loadActive => loadedOf s (Store.list s)
  | _ => []

def empties (s : Store) : Act → Bool
  | save now t => ((Store.save now t).on s).1.isOk
  | clear => true
  | _ => false

def IsOrderly : Act → Prop
  | save _ t => hasHugeIndex t = false
  | edit _ => False
  | _ => True

end Act

/-- A store with what has been since its cache was emptied last: the files at every moment, and the
ids of the templates that were loaded. -/
structure Watched where
  store : Store
  disks : List Disk
  loaded : List String

namespace Watched

variable {w : Watched} {a : Act} {acts : List Act}

def start (s : Store) : Watched := ⟨s, [s.disk], []⟩

def next (w : Watched) (a : Act) : Watched :=
  let s := a.apply w.store
  if a.empties w.store then start s
  else ⟨s, s.disk :: w.disks, a.loaded w.store ++ w.loaded⟩

def run (w : Watched) (acts : List Act) : Watched := acts.foldl next w

/-- Watching a store does not change what happens to it. -/
theorem run_store (w : Watched) (acts : List Act) :
    (w.run acts).store = acts.foldl Act.apply w.store := by
  induction acts generalizing w with
  | nil => rfl
  | cons a acts ih =>
    have hnext : (w.next a).store = a.apply w.store := by
      rw [next]
      split <;> rfl
    rw [List.foldl_cons, ← hnext]
    exact ih (w.next a)

structure Fresh (w : Watched) : Prop where
  present : w.store.disk ∈ w.disks
  loaded : ∀ e ∈ w.store.cache, e.1 ∈ w.loaded
  held : ∀ e ∈ w.store.cache, ∃ d ∈ w.disks, Holds d e.1 e.2

theorem fresh_start (h : s.cache = []) : (start s).Fresh :=
  ⟨by simp [start], by simp [start, h], by simp [start, h]⟩

theorem Fresh.of_loads (hw : w.Fresh) (h : Loads ids w.store s) :
    Fresh ⟨s, s.disk :: w.disks, ids ++ w.loaded⟩ := by
  refine ⟨by simp, fun e he => ?_, fun e he => ?_⟩
  · rcases h.cached e he with he | ⟨hid, -⟩
    · exact List.mem_append_right _ (hw.loaded e he)
    · exact List.mem_append_left _ hid
  · rcases h.cached e he with he | ⟨-, hholds⟩
    · obtain ⟨d, hd, hholds⟩ := hw.held e he
      exact ⟨d, List.mem_cons_of_mem _ hd, hholds⟩
    · exact ⟨w.store.disk, List.mem_cons_of_mem _ hw.present, hholds⟩

/-- The cache stays as it is while the files may change. -/
theorem Fresh.of_cache_eq (hw : w.Fresh) (h : s.cache = w.store.cache) :
    Fresh ⟨s, s.disk :: w.disks, w.loaded⟩ := by
  refine ⟨by simp, fun e he => hw.loaded e (h ▸ he), fun e he => ?_⟩
  obtain ⟨d, hd, hholds⟩ := hw.held e (h ▸ he)
  exact ⟨d, List.mem_cons_of_mem _ hd, hholds⟩

theorem Fresh.next (hw : w.Fresh) (a : Act) : (w.next a).Fresh := by
  cases a with
  | load id => exact hw.of_loads (loads_load id w.store)
  | save now t =>
    rcases on_save now t w.store with ⟨stored, s, hsave, hsaved⟩ | ⟨e, s, hsave, hsaved⟩
    · simp only [Watched.next, Act.apply, Act.empties, hsave, Except.isOk, Except.toBool, if_true]
      exact fresh_start hsaved.cache_eq
    · simp only [Watched.next, Act.apply, Act.empties, hsave, Except.isOk, Except.toBool]
      exact hw.of_cache_eq hsaved.cache_eq
  | list => exact hw.of_cache_eq rfl
  | loadActive => exact hw.of_loads (loads_loadActive w.store)
  | clear => exact fresh_start rfl
  | edit disk => exact hw.of_cache_eq rfl

theorem Fresh.run (hw : w.Fresh) (acts : List Act) : (w.run acts).Fresh := by
  induction acts generalizing w with
  | nil => exact hw
  | cons a acts ih => exact ih (hw.next a)

def Settled (w : Watched) : Prop := ∀ d ∈ w.disks, d = w.store.disk

theorem Settled.next (hw : w.Settled) (ha : a.IsOrderly) : (w.next a).Settled := by
  have hkeep {s : Store} {ids : List String} (h : s.disk = w.store.disk) :
      Settled ⟨s, s.disk :: w.disks, ids⟩ := by
    intro d hd
    rcases List.mem_cons.mp hd with rfl | hd
    · rfl
    · exact (hw d hd).trans h.symm
  have hstart (s : Store) : (start s).Settled := by simp [Settled, start]
  cases a with
  | load id => exact hkeep (loads_load id w.store).disk_eq
  | save now t =>
    rcases on_save now t w.store with ⟨stored, s, hsave, -⟩ | ⟨e, s, hsave, hsaved⟩
    · simp only [Watched.next, Act.apply, Act.empties, hsave, Except.isOk, Except.toBool, if_true]
      exact hstart s
    · have hdisk : s.disk = w.store.disk :=
        hsaved.disk.resolve_right (by rw [show hasHugeIndex t = false from ha]; simp)
      simp only [Watched.next, Act.apply, Act.empties, hsave, Except.isOk, Except.toBool]
      exact hkeep hdisk
  | list => exact hkeep rfl
  | loadActive => exact hkeep (loads_loadActive w.store).disk_eq
  | clear => exact hstart _
  | edit disk => exact absurd ha id

theorem Settled.run (hw : w.Settled) (hacts : ∀ a ∈ acts, a.IsOrderly) : (w.run acts).Settled := by
  induction acts generalizing w with
  | nil => exact hw
  | cons a acts ih =>
    exact ih (hw.next (hacts a (by simp))) fun b hb => hacts b (List.mem_cons_of_mem _ hb)

theorem Fresh.isCurrent (hw : w.Fresh) (hsettled : w.Settled) : IsCurrent w.store := by
  intro e he
  obtain ⟨d, hd, hholds⟩ := hw.held e he
  exact hsettled d hd ▸ hholds

theorem Fresh.load_held (hw : w.Fresh) (h : ((load id).on w.store).1 = .ok t) :
    ∃ d ∈ w.disks, Holds d id t := by
  rcases hload : (load id).on w.store with ⟨answer, s⟩
  rw [hload] at h
  rcases on_load_cases hload with ⟨t', rfl, -, hsource⟩ | ⟨e, rfl, -⟩
  · obtain rfl := Except.ok.inj h
    rcases hsource with hmem | hholds
    · exact hw.held (id, t') hmem
    · exact ⟨_, hw.present, hholds⟩
  · cases h

theorem Fresh.load_new (hw : w.Fresh) (hid : id ∉ w.loaded) :
    ((load id).on w.store).1 = ((load id).on w.store.forget).1 :=
  calc ((load id).on w.store).1 = ((loadFile id).on w.store).1 :=
        load_eq_loadFile fun e he hid' => absurd (hid' ▸ hw.loaded e he) hid
    _ = ((loadFile id).on w.store.forget).1 := loadFile_congr rfl rfl
    _ = ((load id).on w.store.forget).1 :=
        (load_eq_loadFile fun e he _ => isCurrent_forget _ e he).symm

end Watched

theorem cache_of_load_error {e : Failure} (h : ((load id).on s).1 = .error e) :
    ((load id).on s).2.cache = s.cache ∧ ∀ e ∈ s.cache, e.1 ≠ id := by
  rcases hload : (load id).on s with ⟨answer, s'⟩
  rw [hload] at h
  rcases on_load_cases hload with ⟨t, rfl, -⟩ | ⟨-, -, -, hsame, hnew⟩
  · cases h
  · exact ⟨hsame, hnew⟩

open Watched (start)

/-- What a load answers after any run from an empty cache. A template that is loaded was in its file
at some moment since the cache was emptied last. An id that has not been loaded since then is
answered from the files as they are, and a load that fails leaves nothing behind. If the files
change only by saves that do not break off, the cache makes no difference at all. -/
theorem load_run (hcache : s.cache = []) (acts : List Act) (id : String) :
    let w := (start s).run acts
    (∀ t, ((load id).on w.store).1 = .ok t → ∃ d ∈ w.disks, Holds d id t) ∧
      (id ∉ w.loaded → ((load id).on w.store).1 = ((load id).on w.store.forget).1) ∧
      (∀ e, ((load id).on w.store).1 = .error e →
        ((load id).on w.store).2.cache = w.store.cache ∧ ∀ e ∈ w.store.cache, e.1 ≠ id) ∧
      ((∀ a ∈ acts, a.IsOrderly) →
        ((load id).on w.store).1 = ((load id).on w.store.forget).1 ∧
          (loadActive.on w.store).1 = (loadActive.on w.store.forget).1) := by
  intro w
  have hw : w.Fresh := (Watched.fresh_start hcache).run acts
  refine ⟨fun t => hw.load_held, hw.load_new, fun e => cache_of_load_error, fun hacts => ?_⟩
  have hsettled : w.Settled := Watched.Settled.run (by simp [Watched.Settled, start]) hacts
  have hcurrent := hw.isCurrent hsettled
  exact ⟨load_congr hcurrent (isCurrent_forget _) rfl rfl,
    loadActive_congr hcurrent (isCurrent_forget _) rfl rfl⟩

theorem load_run_saved_and_loaded :
    let t := Template.named "a" "x"
    let now : Moment := ⟨⟨2024, 2, 29⟩, 10, 30, 0, 0, some 0⟩
    let w := (start ⟨"d", Disk.empty ["d".toList], [], []⟩).run [.save now t, .load "a"]
    ((load "a").on w.store).1 = ((load "a").on w.store.forget).1 := by
  intro t now w
  have hacts : ∀ a ∈ [Act.save now t, .load "a"], a.IsOrderly := by simp [Act.IsOrderly, t]; rfl
  have hcache : (⟨"d", Disk.empty ["d".toList], [], []⟩ : Store).cache = [] := rfl
  have h := load_run hcache [.save now t, .load "a"] "a"
  exact (h.2.2.2 hacts).1

/-- A template whose groups cannot be written empties its file, and the cache stays as it is. -/
theorem on_save_of_huge {now : Moment} {disk : Disk} (hid : t.id = some id) (hne : id ≠ "")
    (hnull : id.toList.contains '\x00' = false) (hhuge : hasHugeIndex t = true)
    (hwrite : s.disk.write (fileOf id) [] = .ok disk) :
    ∃ e, (save now t).on s = (.error e, { s with disk := disk }) := by
  rw [save, bind_nonEmpty?_id hid hne]
  dsimp only
  rw [on_bind_of_ok (on_get _), if_neg (by simp only [hnull]; simp), if_pos hhuge, hwrite]
  exact ⟨_, by dsimp only; rw [if_pos hhuge]; rfl⟩

theorem hasHugeIndex_of_le {n : Nat} (h : 10 ^ digitLimit ≤ n)
    (hn : t.table.mapping.quantity = some n) : hasHugeIndex t = true := by
  have hassigned : (.quantity, n) ∈ t.table.mapping.assigned := FieldMapping.mem_assigned.mpr hn
  have hlength : digitLimit < (toString n).length := by
    by_contra hshort
    have htoDigits : (Nat.toDigits 10 n).length ≤ digitLimit := by
      simpa [Nat.repr] using hshort
    have := (Nat.length_toDigits_le_iff (by decide) (by decide)).mp htoDigits
    omega
  exact List.any_eq_true.mpr ⟨_, hassigned, by simpa using hlength⟩

/-- A template that has been loaded stands in the cache. -/
theorem find_of_load (h : (load id).on s = (.ok t, s')) :
    s'.cache.find? (·.1 == id) = some (id, t) := by
  have hremember {s u : Store} (h : { s with cache := remember s.cache id t } = u) :
      u.cache.find? (·.1 == id) = some (id, t) := by
    rw [← h]
    simp [remember, cacheSize]
  cases hfind : s.cache.find? (·.1 == id) with
  | some e =>
    rw [on_load_of_cached hfind] at h
    obtain ⟨heq, hs'⟩ := Prod.mk.inj h
    obtain rfl := Except.ok.inj heq
    exact hremember hs'
  | none =>
    rw [on_load_of_uncached hfind] at h
    rcases hfile : (loadFile id).on s with ⟨answer | answer, u⟩
    · rw [hfile] at h
      cases (Prod.mk.inj h).1
    · rw [hfile] at h
      obtain ⟨heq, hs'⟩ := Prod.mk.inj h
      obtain rfl := Except.ok.inj heq
      exact hremember hs'

/-- Behind a save that breaks off, a template is loaded that its file does not hold any more. -/
theorem load_behind_broken_save :
    let t := Template.named "a" "x"
    let huge := { t with table.mapping.quantity := some (10 ^ digitLimit) }
    let now : Moment := ⟨⟨2024, 2, 29⟩, 10, 30, 0, 0, some 0⟩
    let w := (start ⟨"d", Disk.empty ["d".toList], [], []⟩).run [.save now t, .load "a", .save now huge]
    ((load "a").on w.store).1 = .ok { t with created := some now, updated := some now } ∧
      ((load "a").on w.store.forget).1 = .ok (Template.named "a" "") := by
  intro t huge now w
  let stored := { t with created := some now, updated := some now }
  obtain ⟨s₁, hsave⟩ : ∃ s₁,
      (save now t).on ⟨"d", Disk.empty ["d".toList], [], []⟩ = (.ok stored, s₁) := ⟨_, rfl⟩
  have hcheck : Data.checkTemplate
      (.map [(.text "id", .text "a"), (.text "name", .text "x")]) = .pass t := rfl
  have hchecked := Data.isChecked_of_checkTemplate hcheck
  have hsaved := saved_of_on_save hsave
  have hstorable := hsaved.storable hchecked (by simp [t, Template.named])
    (by constructor <;> decide)
  have htexts : ∀ s ∈ stored.texts, Yaml.nextLine ∉ s.toList := by decide
  have hkept : stored.reread = stored := (Template.reread_eq_iff (hsaved.isChecked hchecked)).mpr
    ⟨fun s hs => isKept_of_not_mem (htexts s hs), by simp [stored, now, Template.moments]⟩
  -- The template is loaded once, so that it is in the cache.
  have hanswer := load_of_holds hsaved.cache_eq (hsaved.holds rfl hstorable)
  rw [hkept] at hanswer
  rcases hload : (load "a").on s₁ with ⟨answer, s₂⟩
  rw [hload] at hanswer
  obtain rfl : answer = .ok stored := hanswer
  have hdisk : s₂.disk = s₁.disk := by
    have hloads := loads_load "a" s₁
    rw [hload] at hloads
    exact hloads.disk_eq
  -- The save that breaks off leaves an empty file.
  obtain ⟨_, hid, -, hwrite⟩ := hsaved.written
  obtain rfl := Option.some.inj hid
  obtain ⟨disk, hwrite'⟩ := Disk.write_write hwrite []
  rw [← hdisk] at hwrite'
  have hhuge : hasHugeIndex huge = true := hasHugeIndex_of_le le_rfl rfl
  obtain ⟨e, hbroken⟩ : ∃ e, (save now huge).on s₂ = (.error e, { s₂ with disk := disk }) :=
    on_save_of_huge rfl (by decide) (by decide) hhuge hwrite'
  have hw : w.store = { s₂ with disk := disk } := by
    rw [Watched.run_store]
    simp only [List.foldl_cons, List.foldl_nil, start, Act.apply, hsave, hload, hbroken]
  have hfound := find_of_load hload
  rw [hw, on_load_of_cached (s := { s₂ with disk := disk }) hfound]
  exact ⟨rfl, load_of_holds rfl ⟨[], (Disk.read_write hwrite').2, rfl⟩⟩

end OrderSheet.Store
