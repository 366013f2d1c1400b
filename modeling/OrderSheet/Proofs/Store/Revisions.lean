import OrderSheet.Proofs.Draft.Gate
import OrderSheet.Proofs.Store.Freshness

/-!
# Stored templates that are edited again

To edit a stored template is to load it, to open it as a draft and to store what the draft gives. A
draft has no times. So every edit stores a template without them, which then gets the time of this
save as the time of its creation, too: an edit that goes through loses the time of the first save.
-/

namespace OrderSheet

/-- What the template of a draft is stored without, and how long its name is at most. -/
theorem Draft.of_save_eq_ok {d : Draft} {sample : Option Outcome} {t : Template}
    (h : d.save sample = .ok t) :
    t.created = none ∧ t.updated = none ∧ t.name.length ≤ Settings.maxName := by
  have hbuild := (save_of_ready (ready_of_save h)).symm.trans h
  obtain ⟨hname, rule, -, rfl⟩ := build_eq_ok.mp hbuild
  exact ⟨rfl, rfl, hname⟩

def Template.stamped (t : Template) (now : Moment) : Template :=
  { t with created := some now, updated := some now }

/-- One edit of a stored template: what is done to the draft, the test it is saved with, and the
time of the save. -/
structure Revision where
  acts : List Session.Act
  sample : Option Outcome
  now : Moment

namespace Revision

def draft (r : Revision) (t : Template) : Draft :=
  ((Session.start (Draft.ofTemplate t)).run r.acts).draft

def visit (id : String) (r : Revision) : Visit Template := do
  let t ← Store.load id
  match (r.draft t).save r.sample with
  | .error f => throw f
  | .ok u => Store.save r.now u

end Revision

structure Chronicle where
  store : Store
  stored : Template
  saved : Moment
  edits : Nat

namespace Chronicle

/-- One more edit of the template under an id. An edit that fails leaves the template as it was. -/
def next (id : String) (c : Chronicle) (r : Revision) : Chronicle :=
  match (r.visit id).on c.store with
  | (.ok stored, s) => ⟨s, stored, r.now, c.edits + 1⟩
  | (.error _, s) => { c with store := s }

def run (id : String) (c : Chronicle) (rs : List Revision) : Chronicle := rs.foldl (next id) c

end Chronicle

open Visit Store

variable {id : String} {s s' : Store} {t u stored : Template} {now : Moment} {r : Revision}
  {c : Chronicle}

theorem Revision.on_visit_of_load (h : (load id).on s = (.ok t, s')) (r : Revision) :
    (r.visit id).on s = match (r.draft t).save r.sample with
      | .error f => (.error f, s')
      | .ok u => (save r.now u).on s' := by
  rw [visit, on_bind_of_ok h]
  cases (r.draft t).save r.sample <;> rfl

theorem Revision.on_visit_of_load_error {e : Failure} (h : (load id).on s = (.error e, s'))
    (r : Revision) : (r.visit id).on s = (.error e, s') := by
  rw [visit, on_bind_of_error h]

/-- An edit that goes through has saved what the draft of the loaded template gives. -/
theorem Revision.of_visit_eq_ok (h : (r.visit id).on s = (.ok stored, s')) :
    ∃ t s₁ u, (load id).on s = (.ok t, s₁) ∧ (r.draft t).save r.sample = .ok u ∧
      (save r.now u).on s₁ = (.ok stored, s') := by
  rcases hload : (load id).on s with ⟨e | t, s₁⟩
  · rw [on_visit_of_load_error hload] at h
    cases h
  · rw [on_visit_of_load hload] at h
    cases hsave : (r.draft t).save r.sample with
    | error f =>
      rw [hsave] at h
      cases h
    | ok u =>
      rw [hsave] at h
      exact ⟨t, s₁, u, rfl, hsave, h⟩

theorem Revision.times_of_visit (h : (r.visit id).on s = (.ok stored, s')) :
    stored.created = some r.now ∧ stored.updated = some r.now := by
  obtain ⟨t, s₁, u, -, hu, hsave⟩ := of_visit_eq_ok h
  obtain ⟨hcreated, -, -⟩ := Draft.of_save_eq_ok hu
  rw [(saved_of_on_save hsave).stored_eq, hcreated]
  exact ⟨rfl, rfl⟩

namespace Chronicle

/-- The times of a stored template, where `first` is the template of the first save. -/
structure Stamped (first : Template) (c : Chronicle) : Prop where
  updated : c.stored.updated = some c.saved
  created : c.stored.created = if c.edits = 0 then first.created else some c.saved

variable {first : Template}

theorem Stamped.next (h : Stamped first c) (id : String) (r : Revision) :
    Stamped first (c.next id r) := by
  rw [Chronicle.next]
  rcases hvisit : (r.visit id).on c.store with ⟨e | stored, s⟩
  · exact ⟨h.updated, h.created⟩
  · obtain ⟨hcreated, hupdated⟩ := Revision.times_of_visit hvisit
    exact ⟨hupdated, by rw [if_neg (Nat.succ_ne_zero _)]; exact hcreated⟩

theorem Stamped.run (h : Stamped first c) (id : String) (rs : List Revision) :
    Stamped first (c.run id rs) := by
  induction rs generalizing c with
  | nil => exact h
  | cons r rs ih => exact ih (h.next id r)

end Chronicle

namespace Store

/-- A template that comes back from the file of an id, with the id and both times as they are. -/
structure Lasting (id : String) (t : Template) : Prop where
  storable : Storable t
  id_eq : t.id = some id
  kept : IsKept id
  moments : ∀ m ∈ t.moments, ∀ z ∈ m.offset, 60 ∣ z

/-- What is read under an id is the template that was stored there, as far as its id, its groups
and its times are concerned. -/
structure Agrees (id : String) (stored t : Template) : Prop where
  id_eq : t.id = some id
  mapping : Writable t.table.mapping
  created : t.created = stored.created
  updated : t.updated = stored.updated

structure Shows (id : String) (stored : Template) (s : Store) : Prop where
  named : id ≠ ""
  plain : id.toList.contains '\x00' = false
  kept : IsKept id
  held : ∃ t, Holds s.disk id t
  rewrites : ∀ content, ∃ disk, s.disk.write (fileOf id) content = .ok disk
  agrees : ∀ t, (id, t) ∈ s.cache ∨ Holds s.disk id t → Agrees id stored t

theorem Lasting.agrees_reread (h : Lasting id t) : Agrees id t t.reread := by
  have hmoment {o : Option Moment} (ho : ∀ m ∈ o, m ∈ t.moments) : o.map Moment.reread = o := by
    cases o with
    | none => rfl
    | some m => exact congrArg some (Moment.reread_eq_iff.mpr (h.moments m (ho m rfl)))
  refine ⟨?_, h.storable.mapping, hmoment fun m hm => ?_, hmoment fun m hm => ?_⟩
  · change t.id.map rereadText = _
    rw [h.id_eq, Option.map_some, rereadText_eq_iff.mpr h.kept]
  · exact List.mem_append_left _ (Option.mem_toList.mpr hm)
  · exact List.mem_append_right _ (Option.mem_toList.mpr hm)

theorem Holds.unique {d : Disk} (h : Holds d id t) (h' : Holds d id u) : t = u := by
  obtain ⟨content, hread, hparse⟩ := h
  obtain ⟨content', hread', hparse'⟩ := h'
  obtain rfl := Except.ok.inj (hread.symm.trans hread')
  exact Except.ok.inj (hparse.symm.trans hparse')

theorem not_null_of_on_save (h : (save now t).on s = (.ok stored, s')) (hid : t.id = some id)
    (hne : id ≠ "") : id.toList.contains '\x00' = false := by
  rw [save, bind_nonEmpty?_id hid hne] at h
  dsimp only at h
  rw [on_bind_of_ok (on_get _)] at h
  split at h
  · cases h
  · next hnull => simpa using hnull

theorem shows_of_on_save (h : (save now t).on s = (.ok stored, s')) (hlasting : Lasting id stored) :
    Shows id stored s' := by
  have hsaved := saved_of_on_save h
  have hid : t.id = some id := by
    rw [← hlasting.id_eq, hsaved.stored_eq]
  obtain ⟨id', hid', hne, hwrite⟩ := hsaved.written
  obtain rfl : id' = id := Option.some.inj (hid'.symm.trans hid)
  have hholds := hsaved.holds hid hlasting.storable
  refine ⟨hne, not_null_of_on_save h hid hne, hlasting.kept, ⟨_, hholds⟩,
    fun content => Disk.write_write hwrite content, fun t ht => ?_⟩
  rcases ht with ht | ht
  · rw [hsaved.cache_eq] at ht
    cases ht
  · exact ht.unique hholds ▸ hlasting.agrees_reread

/-- Loading answers a template that agrees, and the store goes on to keep it. -/
theorem Shows.exists_load (h : Shows id stored s) :
    ∃ t s', (load id).on s = (.ok t, s') ∧ Agrees id stored t ∧ Shows id stored s' := by
  rcases hload : (load id).on s with ⟨answer, s'⟩
  rcases on_load_cases hload with ⟨t, rfl, hloads, hsource⟩ | ⟨e, rfl, -, -, hnew⟩
  · refine ⟨t, s', rfl, h.agrees t hsource, h.named, h.plain, h.kept, ?_, ?_, fun v hv => ?_⟩
    · rw [hloads.disk_eq]
      exact h.held
    · rw [hloads.disk_eq]
      exact h.rewrites
    · rcases hv with hv | hv
      · rcases hloads.cached _ hv with hv | ⟨-, hv⟩
        · exact h.agrees v (.inl hv)
        · exact h.agrees v (.inr hv)
      · exact h.agrees v (.inr (hloads.disk_eq ▸ hv))
  · -- Without an entry in the cache the file decides, and it holds a template.
    obtain ⟨t, ht⟩ := h.held
    have hfile : ((load id).on s).1 = ((loadFile id).on s).1 :=
      load_eq_loadFile fun e he hid => absurd hid (hnew e he)
    obtain ⟨answer, records, hread, hanswer⟩ := on_loadFile id s
    rw [hload, hread, (hanswer t).mpr ht] at hfile
    cases hfile

theorem exists_on_save (hid : t.id = some id) (hne : id ≠ "")
    (hnull : id.toList.contains '\x00' = false) (hhuge : hasHugeIndex t = false)
    (hwrite : ∀ content, ∃ disk, s.disk.write (fileOf id) content = .ok disk) (now : Moment) :
    ∃ stored s', (save now t).on s = (.ok stored, s') := by
  obtain ⟨disk, hdisk⟩ := hwrite (document
    { t with created := some (t.created.getD now), updated := some now }).toUTF8.toList
  rw [save, bind_nonEmpty?_id hid hne]
  dsimp only
  rw [on_bind_of_ok (on_get _), if_neg (by simp only [hnull]; simp), hhuge, if_neg (by simp), hdisk]
  exact ⟨_, _, rfl⟩

theorem hasHugeIndex_of_writable (h : Writable t.table.mapping) : hasHugeIndex t = false := by
  rw [hasHugeIndex, List.any_eq_false]
  intro e he
  simpa using (h e he).2

end Store

/-- An edit that leaves the template where it is: it saves at a time that can be written, and keeps
the id and groups that can be written. -/
structure Revision.Stays (id : String) (r : Revision) : Prop where
  valid : r.now.IsValid
  whole : ∀ z ∈ r.now.offset, 60 ∣ z
  keeps : ∀ t u, t.id = some id → Writable t.table.mapping → (r.draft t).save r.sample = .ok u →
    u.id = some id ∧ Writable u.table.mapping

theorem Revision.stays_untouched (sample : Option Outcome) (hnow : now.IsValid)
    (hwhole : ∀ z ∈ now.offset, 60 ∣ z) : Stays id ⟨[], sample, now⟩ where
  valid := hnow
  whole := hwhole
  keeps t u hid hmapping hu := by
    have hbuild := (Draft.save_of_ready (Draft.ready_of_save hu)).symm.trans hu
    obtain ⟨-, rule, hrule, rfl⟩ := Draft.build_eq_ok.mp hbuild
    obtain rfl := Except.ok.inj hrule
    exact ⟨hid, hmapping⟩

namespace Store

variable {s₁ : Store}

theorem lasting_stamped (hnow : now.IsValid) (hwhole : ∀ z ∈ now.offset, 60 ∣ z) :
    Lasting "a" ((Template.named "a" "x").stamped now) where
  storable := by
    have hunmapped : FieldMapping.empty.assigned = [] := rfl
    have hname : "x".length ≤ Settings.maxName := by decide
    exact ⟨hname, by simp [Writable, Template.stamped, Template.named, TableRule.empty, hunmapped],
      by simpa [Template.stamped] using hnow, by simpa [Template.stamped] using hnow⟩
  id_eq := rfl
  kept := isKept_of_not_mem (by decide)
  moments := by simpa [Template.moments, Template.stamped] using hwhole

theorem reread_stamped (hwhole : ∀ z ∈ now.offset, 60 ∣ z) :
    ((Template.named "a" "x").stamped now).reread = (Template.named "a" "x").stamped now := by
  have hcheck : Data.checkTemplate
      (.map [(.text "id", .text "a"), (.text "name", .text "x")]) =
        .pass (Template.named "a" "x") := rfl
  obtain ⟨hname, hkeywords, hsupplier, hmapping⟩ := Data.isChecked_of_checkTemplate hcheck
  have hchecked : ((Template.named "a" "x").stamped now).IsChecked :=
    ⟨hname, hkeywords, hsupplier, hmapping⟩
  have htexts : ∀ s ∈ (Template.named "a" "x").texts, Yaml.nextLine ∉ s.toList := by decide
  exact (Template.reread_eq_iff hchecked).mpr ⟨fun s hs => isKept_of_not_mem (htexts s hs),
    by simpa [Template.moments, Template.stamped] using hwhole⟩

/-- What such an edit stores comes back from its file. -/
theorem lasting_of_on_save (hr : r.Stays id) (hkept : IsKept id) (hid : t.id = some id)
    (hmapping : Writable t.table.mapping) (hu : (r.draft t).save r.sample = .ok u)
    (h : (save r.now u).on s = (.ok stored, s')) : Lasting id stored := by
  obtain ⟨hcreated, -, hname⟩ := Draft.of_save_eq_ok hu
  obtain ⟨huid, humapping⟩ := hr.keeps t u hid hmapping hu
  have htime {m : Moment} (hm : some r.now = some m) : m.IsValid ∧ ∀ z ∈ m.offset, 60 ∣ z := by
    obtain rfl := Option.some.inj hm
    exact ⟨hr.valid, hr.whole⟩
  rw [(saved_of_on_save h).stored_eq, hcreated]
  refine ⟨⟨hname, humapping, fun m hm => (htime hm).1, fun m hm => (htime hm).1⟩, huid, hkept,
    fun m hm => ?_⟩
  rcases List.mem_append.mp hm with hm | hm <;> exact (htime (Option.mem_toList.mp hm)).2

/-- A store that keeps the template takes what such an edit gives. -/
theorem Shows.exists_on_save (hs : Shows id stored s) (ht : Agrees id stored t) (hr : r.Stays id)
    (hu : (r.draft t).save r.sample = .ok u) :
    ∃ stored' s', (save r.now u).on s = (.ok stored', s') := by
  obtain ⟨hid, hmapping⟩ := hr.keeps t u ht.id_eq ht.mapping hu
  exact Store.exists_on_save hid hs.named hs.plain (hasHugeIndex_of_writable hmapping) hs.rewrites
    r.now

/-- An edit goes through just when its draft can be saved. -/
theorem Shows.visit_iff (hr : r.Stays id) (hload : (load id).on s = (.ok t, s₁))
    (ht : Agrees id stored t) (hs₁ : Shows id stored s₁) :
    (∃ stored' s', (r.visit id).on s = (.ok stored', s')) ↔
      ∃ u, (r.draft t).save r.sample = .ok u := by
  rw [Revision.on_visit_of_load hload]
  cases hu : (r.draft t).save r.sample with
  | error f =>
    constructor
    · rintro ⟨_, _, h⟩
      cases h
    · rintro ⟨_, h⟩
      cases h
  | ok u => exact ⟨fun _ => ⟨u, rfl⟩, fun _ => hs₁.exists_on_save ht hr hu⟩

end Store

namespace Chronicle

/-- The store keeps the template through an edit, as it was or as it is stored now. -/
theorem shows_next (h : Shows id c.stored c.store) (hr : r.Stays id) :
    Shows id (c.next id r).stored (c.next id r).store := by
  obtain ⟨t, s₁, hload, ht, hs₁⟩ := h.exists_load
  rw [next, Revision.on_visit_of_load hload]
  cases hu : (r.draft t).save r.sample with
  | error f => exact hs₁
  | ok u =>
    obtain ⟨stored, s, hsave⟩ := hs₁.exists_on_save ht hr hu
    dsimp only
    rw [hsave]
    exact shows_of_on_save hsave (lasting_of_on_save hr h.kept ht.id_eq ht.mapping hu hsave)

theorem shows_run (h : Shows id c.stored c.store) {rs : List Revision}
    (hrs : ∀ r ∈ rs, r.Stays id) : Shows id (c.run id rs).stored (c.run id rs).store := by
  induction rs generalizing c with
  | nil => exact h
  | cons r rs ih =>
    obtain ⟨hr, hrs⟩ := List.forall_mem_cons.mp hrs
    exact ih (shows_next h hr) hrs

/-- The times of a stored template after any edits of it, some of which may fail. The time of the
last save is right. The time of the first save is kept as long as no edit has gone through, and
lost from then on: the template is said to have been created when it was saved last. If the edits
leave the template where it is, this is what is loaded, and the next edit goes through just when
its draft can be saved. -/
theorem times_run (hsave : (save now t).on s = (.ok stored, s')) (rs : List Revision) :
    let c := run id ⟨s', stored, now, 0⟩ rs
    c.stored.updated = some c.saved ∧
    (c.edits = 0 → c.stored.created = stored.created) ∧
    (0 < c.edits → c.stored.created = some c.saved) ∧
    (c.stored.created = stored.created ↔ c.edits = 0 ∨ stored.created = some c.saved) ∧
    (Lasting id stored → (∀ r ∈ rs, r.Stays id) → ∃ u s₁, (load id).on c.store = (.ok u, s₁) ∧
      u.created = c.stored.created ∧ u.updated = c.stored.updated ∧
      ∀ r : Revision, r.Stays id → ((∃ stored' s₂, (r.visit id).on c.store = (.ok stored', s₂)) ↔
        ∃ v, (r.draft u).save r.sample = .ok v)) := by
  intro c
  have hfirst : Stamped stored ⟨s', stored, now, 0⟩ :=
    ⟨by rw [(saved_of_on_save hsave).stored_eq], rfl⟩
  have hstamped : Stamped stored c := hfirst.run id rs
  have hcreated := hstamped.created
  refine ⟨hstamped.updated, fun hzero => by rw [hcreated, if_pos hzero],
    fun hpos => by rw [hcreated, if_neg hpos.ne'], ?_, fun hlasting hrs => ?_⟩
  · rw [hcreated]
    split
    · next hzero => simp [hzero]
    · next hne => simp [hne, eq_comm]
  · have hshows : Shows id c.stored c.store :=
      shows_run (shows_of_on_save hsave hlasting) hrs
    obtain ⟨u, s₁, hload, hu, hs₁⟩ := hshows.exists_load
    exact ⟨u, s₁, hload, hu.created, hu.updated, fun r hr => Shows.visit_iff hr hload hu hs₁⟩

theorem times_run_once :
    let t := Template.named "a" "x"
    let first : Moment := ⟨⟨2024, 2, 29⟩, 10, 30, 0, 0, some 0⟩
    let second : Moment := ⟨⟨2024, 3, 1⟩, 9, 0, 0, 0, some 0⟩
    ∃ s', (save first t).on ⟨"d", Disk.empty ["d".toList], [], []⟩ = (.ok (t.stamped first), s') ∧
      let c := run "a" ⟨s', t.stamped first, first, 0⟩ [⟨[], none, second⟩]
      c.stored.updated = some c.saved ∧ ∃ u s₁, (load "a").on c.store = (.ok u, s₁) ∧
        u.created = c.stored.created ∧ u.updated = c.stored.updated := by
  intro t first second
  obtain ⟨s', hsave⟩ : ∃ s', (save first t).on ⟨"d", Disk.empty ["d".toList], [], []⟩ =
      (.ok (t.stamped first), s') := ⟨_, rfl⟩
  have hfirst : first.IsValid := by constructor <;> decide
  have hsecond : second.IsValid := by constructor <;> decide
  obtain ⟨hupdated, -, -, -, hload⟩ := @times_run "a" _ _ _ _ _ hsave [⟨[], none, second⟩]
  obtain ⟨u, s₁, hload, hu, hu', -⟩ := hload (lasting_stamped hfirst (by decide)) fun r hr => by
    rw [List.mem_singleton.mp hr]
    exact Revision.stays_untouched none hsecond (by decide)
  exact ⟨s', hsave, hupdated, u, s₁, hload, hu, hu'⟩

/-- A single edit that changes nothing already loses the time of the first save. -/
theorem created_lost :
    let t := Template.named "a" "x"
    let first : Moment := ⟨⟨2024, 2, 29⟩, 10, 30, 0, 0, some 0⟩
    let second : Moment := ⟨⟨2024, 3, 1⟩, 9, 0, 0, 0, some 0⟩
    ∃ s', (save first t).on ⟨"d", Disk.empty ["d".toList], [], []⟩ = (.ok (t.stamped first), s') ∧
      let c := run "a" ⟨s', t.stamped first, first, 0⟩ [⟨[], none, second⟩]
      c.edits = 1 ∧ c.stored.created = some second ∧
        c.stored.created ≠ (t.stamped first).created := by
  intro t first second
  obtain ⟨s', hsave⟩ : ∃ s', (save first t).on ⟨"d", Disk.empty ["d".toList], [], []⟩ =
      (.ok (t.stamped first), s') := ⟨_, rfl⟩
  have hsaved := saved_of_on_save hsave
  have hlasting : Lasting "a" (t.stamped first) :=
    lasting_stamped (by constructor <;> decide) (by decide)
  have hr : Revision.Stays "a" ⟨[], none, second⟩ :=
    Revision.stays_untouched none (by constructor <;> decide) (by decide)
  have hshows := shows_of_on_save hsave hlasting
  obtain ⟨u, s₁, hload, hu, hs₁⟩ := hshows.exists_load
  -- The template is loaded as it was stored, so that its draft has a name.
  obtain rfl : u = t.stamped first := by
    have hholds := load_of_holds hsaved.cache_eq (hsaved.holds rfl hlasting.storable)
    rw [hload, reread_stamped (by decide)] at hholds
    exact Except.ok.inj hholds
  have hready : ((⟨[], none, second⟩ : Revision).draft (t.stamped first)).Ready none :=
    ⟨by decide, by decide, fun hnew => by cases hnew⟩
  obtain ⟨stored', s₂, hvisit⟩ := (Shows.visit_iff hr hload hu hs₁).mpr
    ((Draft.hasLayout_expert rfl).exists_save_iff.mpr hready)
  obtain ⟨hcreated, -⟩ := Revision.times_of_visit hvisit
  have hc : run "a" ⟨s', t.stamped first, first, 0⟩ [⟨[], none, second⟩] =
      ⟨s₂, stored', second, 1⟩ := by
    rw [run, List.foldl_cons, List.foldl_nil, next, hvisit]
  refine ⟨s', hsave, ?_⟩
  rw [hc]
  exact ⟨rfl, hcreated, by rw [hcreated]; decide⟩

end Chronicle

end OrderSheet
