import Mathlib
import OrderSheet.Proofs.Store.Freshness
import OrderSheet.Proofs.Text.Parts

/-!
# Many templates in one directory

An id without separators names a file of its own, and the name of the file tells the id. Templates
that are saved under different ids of this kind do not get in each other's way, and the directory
lists the ids that have been saved.
-/

namespace OrderSheet

namespace Disk

variable {name : List Char} {e : Entry}

theorem names_put (d : Disk) (name : List Char) (e : Entry) :
    (d.put (d.home ++ [name]) e).names = name :: d.names.filter (· != name) := by
  obtain ⟨home, entries⟩ := d
  have hfirst : ((home ++ [name]).dropLast == home) = true := by simp
  rw [put, names, List.filterMap_cons, if_pos hfirst, List.getLast?_concat]
  dsimp only
  congr 1
  rw [names]
  induction entries with
  | nil => rfl
  | cons e es ih =>
    obtain ⟨w, e⟩ := e
    by_cases hhome : w.dropLast = home
    · cases w using List.reverseRecOn with
      | nil => simpa using ih
      | append_singleton w n =>
        obtain rfl : w = home := by simpa using hhome
        by_cases hn : n = name
        · simpa [hn] using ih
        · simpa [hn] using ih
    · have hne : w ≠ home ++ [name] := fun h => hhome (by simp [h])
      simpa [hhome, hne] using ih

end Disk

namespace Store

open Visit

variable {id id' : String} {s s' s'' : Store} {t stored : Template} {ts ts' : List Template}
  {now : Moment} {d d' : Disk} {content : List UInt8}

def IsPlain (id : String) : Prop := '/' ∉ id.toList

theorem fileOf_eq (id : String) : fileOf id = id.toList ++ suffix.toList := String.toList_append ..

theorem fileOf_inj : fileOf id = fileOf id' ↔ id = id' := by
  rw [fileOf_eq, fileOf_eq, List.append_left_inj, String.toList_inj]

theorem ne_of_fileOf {name : List Char} (h : name.length ≤ 2) : fileOf id ≠ name := by
  intro heq
  have hlength := congrArg List.length heq
  have hsuffix : suffix.toList.length = 14 := by decide
  rw [fileOf_eq, List.length_append, hsuffix] at hlength
  omega

theorem not_mem_fileOf (h : IsPlain id) : '/' ∉ fileOf id := by
  rw [fileOf_eq, List.mem_append, not_or]
  exact ⟨h, by decide⟩

theorem steps_fileOf (h : IsPlain id) : Paths.steps (fileOf id) = [fileOf id] := by
  have hempty : fileOf id ≠ [] := ne_of_fileOf (by simp)
  have hdot : fileOf id ≠ ['.'] := ne_of_fileOf (by simp)
  rw [Paths.steps, Text.splitOnChar_of_not_mem (not_mem_fileOf h)]
  simp [hempty, hdot]

/-- Where the file of such an id is does not depend on the other files. -/
theorem locate_fileOf (h : IsPlain id) (d : Disk) : d.locate (fileOf id) =
    if Disk.maxName < (String.ofList (fileOf id)).utf8ByteSize then .error .longName
    else .ok (d.home ++ [fileOf id]) := by
  have hroot : (fileOf id).head? ≠ some '/' := fun hhead =>
    not_mem_fileOf h (List.mem_of_mem_head? hhead)
  have hup : fileOf id ≠ ['.', '.'] := ne_of_fileOf (by simp)
  have hhere : d.entry d.home.reverse.reverse = some .directory := by
    rw [List.reverse_reverse, Disk.entry, if_pos (by simp)]
  rw [Disk.locate, if_neg (by simpa using hroot), steps_fileOf h, Disk.follow, hhere]
  dsimp only
  rw [if_neg (by simpa using hup), Disk.follow, List.reverse_cons, List.reverse_reverse]

theorem disk_of_write (h : IsPlain id) (hwrite : d.write (fileOf id) content = .ok d') :
    d' = d.put (d.home ++ [fileOf id]) (.file content) := by
  obtain ⟨w, hlocate, -, rfl⟩ := Disk.write_eq_ok hwrite
  rw [locate_fileOf h] at hlocate
  split at hlocate
  · cases hlocate
  · obtain rfl := Except.ok.inj hlocate
    rfl

/-- Writing a file leaves the files of other ids as they are. -/
theorem entry_of_write (h : IsPlain id) (hne : id' ≠ id)
    (hwrite : d.write (fileOf id) content = .ok d') :
    d'.home = d.home ∧
      d'.entry (d.home ++ [fileOf id']) = d.entry (d.home ++ [fileOf id']) := by
  rw [disk_of_write h hwrite]
  exact ⟨rfl, Disk.entry_put_of_ne d _ (by simpa [fileOf_inj] using hne)⟩

theorem read_congr (h : IsPlain id) (hhome : d'.home = d.home)
    (hentry : d'.entry (d.home ++ [fileOf id]) = d.entry (d.home ++ [fileOf id])) :
    d'.contains (fileOf id) = d.contains (fileOf id) ∧
      d'.read (fileOf id) = d.read (fileOf id) := by
  rw [Disk.contains, Disk.contains, Disk.read, Disk.read, locate_fileOf h, locate_fileOf h, hhome]
  by_cases hlong : Disk.maxName < (String.ofList (fileOf id)).utf8ByteSize
  · rw [if_pos hlong]
    exact ⟨rfl, rfl⟩
  · rw [if_neg hlong]
    simp only [bind, Except.bind, hentry, and_self]

def idOf? (name : List Char) : Option String :=
  if suffix.toList.isSuffixOf name then
    some (String.ofList (name.take (name.length - suffix.toList.length)))
  else none

theorem idOf?_eq_some_iff {name : List Char} : idOf? name = some id ↔ name = fileOf id := by
  rw [idOf?, fileOf_eq]
  constructor
  · intro h
    split at h
    · next hsuffix =>
      obtain ⟨start, rfl⟩ := List.isSuffixOf_iff_suffix.mp hsuffix
      rw [← Option.some.inj h, String.toList_ofList]
      simp
    · cases h
  · rintro rfl
    have hsuffix : suffix.toList.isSuffixOf (id.toList ++ suffix.toList) = true :=
      List.isSuffixOf_iff_suffix.mpr (List.suffix_append ..)
    rw [if_pos hsuffix]
    simp

theorem mem_list_iff : id ∈ list s ↔ fileOf id ∈ s.disk.names := by
  have hlist : list s = (s.disk.names.filterMap idOf?).mergeSort fun a b => a ≤ b := rfl
  rw [hlist, List.mem_mergeSort, List.mem_filterMap]
  simp [idOf?_eq_some_iff]

/-- Files with different names are listed in order, and none of them twice. -/
theorem list_sorted (h : s.disk.names.Nodup) : (list s).Pairwise (· < ·) := by
  have hids : (s.disk.names.filterMap idOf?).Nodup :=
    h.filterMap fun name name' id hid hid' =>
      (idOf?_eq_some_iff.mp hid).trans (idOf?_eq_some_iff.mp hid').symm
  have hlist : list s = (s.disk.names.filterMap idOf?).mergeSort fun a b => a ≤ b := rfl
  have hnodup : (list s).Nodup := hlist ▸ (List.mergeSort_perm _ _).nodup_iff.mpr hids
  have hle : (list s).Pairwise (· ≤ ·) := by
    rw [hlist]
    have hsorted := @List.pairwise_mergeSort String (fun a b => decide (a ≤ b))
      (fun a b c => by simpa using le_trans) (fun a b => by simpa using le_total a b)
      (s.disk.names.filterMap idOf?)
    simpa using hsorted
  exact hle.imp₂ (fun a b hle hne => lt_of_le_of_ne hle hne) hnodup

/-- Templates that have been stored one after another, under ids that name files of their own. -/
inductive Saves (s : Store) : List Template → Store → Prop where
  | nil : Saves s [] s
  | snoc {ts : List Template} {s' s'' : Store} {d : Data} {t stored : Template} {now : Moment}
    (h : Saves s ts s') (hcheck : Data.checkTemplate d = .pass t)
    (hcreated : ∀ m ∈ t.created, m.IsValid) (hnow : now.IsValid)
    (hplain : ∀ id ∈ t.id, IsPlain id) (hsave : (save now t).on s' = (.ok stored, s'')) :
    Saves s (ts ++ [stored]) s''

def lastStored (ts : List Template) (id : String) : Option Template :=
  ts.reverse.find? (·.id == some id)

theorem exists_lastStored (h : ∃ t ∈ ts, t.id = some id) : ∃ t, lastStored ts id = some t := by
  obtain ⟨t, ht, hid⟩ := h
  exact Option.isSome_iff_exists.mp
    (List.find?_isSome.mpr ⟨t, List.mem_reverse.mpr ht, by simpa using hid⟩)

theorem lastStored_snoc (ts : List Template) (t : Template) (id : String) :
    lastStored (ts ++ [t]) id = if t.id = some id then some t else lastStored ts id := by
  by_cases hid : t.id = some id
  · simp [lastStored, hid]
  · simp [lastStored, hid]

/-- The directory holds what has been stored and nothing else. -/
structure Stocked (ts : List Template) (s : Store) : Prop where
  nodup : s.disk.names.Nodup
  mem_names : ∀ name, name ∈ s.disk.names ↔ ∃ t ∈ ts, ∃ id ∈ t.id, name = fileOf id
  plain : ∀ t ∈ ts, ∀ id ∈ t.id, IsPlain id
  holds : ∀ id t, lastStored ts id = some t → Holds s.disk id t.reread

theorem Saved.id_eq (h : Saved now t stored s s') : stored.id = t.id := by rw [h.stored_eq]

/-- A save leaves the files of other ids as they are. -/
theorem Saved.read_other (h : Saved now t stored s s') (hplain : ∀ id ∈ t.id, IsPlain id)
    (hid : IsPlain id) (hne : t.id ≠ some id) :
    s'.disk.contains (fileOf id) = s.disk.contains (fileOf id) ∧
      s'.disk.read (fileOf id) = s.disk.read (fileOf id) := by
  obtain ⟨id', hid', -, hwrite⟩ := h.written
  have hids : id ≠ id' := fun heq => hne (by rw [hid', heq])
  obtain ⟨hhome, hentry⟩ := entry_of_write (hplain id' hid') hids hwrite
  exact read_congr hid hhome hentry

theorem Saved.load_other (h : Saved now t stored s s') (hplain : ∀ id ∈ t.id, IsPlain id)
    (hid : IsPlain id) (hne : t.id ≠ some id) :
    ((load id).on s'.forget).1 = ((load id).on s.forget).1 := by
  obtain ⟨hcontains, hread⟩ := h.read_other hplain hid hne
  calc ((load id).on s'.forget).1 = ((loadFile id).on s'.forget).1 :=
        load_eq_loadFile fun e he _ => isCurrent_forget _ e he
    _ = ((loadFile id).on s.forget).1 := loadFile_congr_file h.root_eq hcontains hread
    _ = ((load id).on s.forget).1 :=
        (load_eq_loadFile fun e he _ => isCurrent_forget _ e he).symm

theorem mem_of_lastStored (h : lastStored ts id = some t) : t ∈ ts ∧ t.id = some id := by
  have hmem := List.mem_of_find?_eq_some h
  have hfound := List.find?_some h
  exact ⟨List.mem_reverse.mp hmem, by simpa using hfound⟩

theorem Saved.names_eq (h : Saved now t stored s s') (hplain : ∀ id ∈ t.id, IsPlain id) :
    ∃ id, stored.id = some id ∧
      s'.disk.names = fileOf id :: s.disk.names.filter (· != fileOf id) := by
  obtain ⟨id, hid, -, hwrite⟩ := h.written
  exact ⟨id, h.id_eq.trans hid, by rw [disk_of_write (hplain id hid) hwrite, Disk.names_put]⟩

theorem Stocked.snoc (h : Stocked ts s) (hsaved : Saved now t stored s s')
    (hplain : ∀ id ∈ t.id, IsPlain id) (hstorable : Storable stored) :
    Stocked (ts ++ [stored]) s' := by
  obtain ⟨id, hstored, hnames⟩ := hsaved.names_eq hplain
  refine ⟨?_, fun name => ?_, ?_, fun id' u hu => ?_⟩
  · rw [hnames, List.nodup_cons]
    exact ⟨by simp, h.nodup.filter _⟩
  · have hmem : name ∈ s'.disk.names ↔ name ∈ s.disk.names ∨ name = fileOf id := by
      rw [hnames, List.mem_cons, List.mem_filter, bne_iff_ne]
      tauto
    rw [hmem, h.mem_names]
    simp [or_and_right, exists_or, hstored]
  · rw [List.forall_mem_append, List.forall_mem_singleton, hsaved.id_eq]
    exact ⟨h.plain, hplain⟩
  · rw [lastStored_snoc] at hu
    split at hu
    · next hid' =>
      obtain rfl := Option.some.inj hu
      exact hsaved.holds (hsaved.id_eq.symm.trans hid') hstorable
    · next hid' =>
      obtain ⟨hmem, hid⟩ := mem_of_lastStored hu
      obtain ⟨content, hread, hparse⟩ := h.holds id' u hu
      have hother := hsaved.read_other hplain (h.plain u hmem id' hid) (hsaved.id_eq ▸ hid')
      exact ⟨content, hother.2.trans hread, hparse⟩

theorem Saves.stocked (h : Saves s ts s') (hempty : s.disk.entries = []) : Stocked ts s' := by
  induction h with
  | nil => exact ⟨by simp [hempty], by simp [hempty], by simp, fun id t h => nomatch h⟩
  | snoc h hcheck hcreated hnow hplain hsave ih =>
    have hsaved := saved_of_on_save hsave
    exact ih.snoc hsaved hplain
      (hsaved.storable (Data.isChecked_of_checkTemplate hcheck) hcreated hnow)

theorem Saves.load_other (h : Saves s ts s') (hid : IsPlain id) (hne : ∀ t ∈ ts, t.id ≠ some id) :
    ((load id).on s'.forget).1 = ((load id).on s.forget).1 := by
  induction h with
  | nil => rfl
  | snoc h hcheck hcreated hnow hplain hsave ih =>
    have hsaved := saved_of_on_save hsave
    have hlast := hne _ (List.mem_append_right _ List.mem_cons_self)
    rw [hsaved.load_other hplain hid (hsaved.id_eq ▸ hlast)]
    exact ih fun t ht => hne t (List.mem_append_left _ ht)

/-- Templates that are saved into an empty directory, one after another, under ids that name files
of their own. The directory lists the ids that were saved, in order and each of them once. Under
each of them the template is loaded that was stored last, with this id if the id comes back as it
was. Saving further templates under other ids never changes what is loaded. -/
theorem saves_independent (hempty : s.disk.entries = []) (h : Saves s ts s') :
    (list s').Pairwise (· < ·) ∧
    (∀ id, id ∈ list s' ↔ ∃ t ∈ ts, t.id = some id) ∧
    (∀ id ∈ list s', ∃ t, lastStored ts id = some t ∧ t.id = some id ∧
      ((load id).on s'.forget).1 = .ok t.reread ∧ (t.reread.id = some id ↔ IsKept id)) ∧
    ∀ ts' s'', Saves s' ts' s'' → ∀ id, IsPlain id → (∀ t ∈ ts', t.id ≠ some id) →
      ((load id).on s''.forget).1 = ((load id).on s'.forget).1 := by
  have hstocked := h.stocked hempty
  have hlisted (id : String) : id ∈ list s' ↔ ∃ t ∈ ts, t.id = some id := by
    rw [mem_list_iff, hstocked.mem_names]
    simp [fileOf_inj]
  refine ⟨list_sorted hstocked.nodup, hlisted, fun id hid => ?_,
    fun ts' s'' h' id hid hne => h'.load_other hid hne⟩
  obtain ⟨t, hlast⟩ := exists_lastStored ((hlisted id).mp hid)
  have htid : t.id = some id := by simpa using List.find?_some hlast
  refine ⟨t, hlast, htid, load_of_holds rfl (hstocked.holds id t hlast), ?_⟩
  change t.id.map rereadText = some id ↔ _
  rw [htid, Option.map_some, Option.some_inj, rereadText_eq_iff]

theorem saves_independent_two :
    let s : Store := ⟨"d", .empty ["d".toList], [], []⟩
    let now : Moment := ⟨⟨2024, 2, 29⟩, 10, 30, 0, 0, some 0⟩
    let stored (t : Template) : Template := { t with created := some now, updated := some now }
    ∃ s', Saves s [stored (.named "b" "y"), stored (.named "a" "x")] s' ∧
      (list s').Pairwise (· < ·) ∧ "a" ∈ list s' ∧ "b" ∈ list s' := by
  intro s now stored
  have hnow : now.IsValid := by constructor <;> decide
  have hcreated {id name : String} : ∀ m ∈ (Template.named id name).created, m.IsValid := by
    simp [Template.named]
  obtain ⟨s₁, hfirst, s₂, hsecond⟩ : ∃ s₁,
      (save now (.named "b" "y")).on s = (.ok (stored (.named "b" "y")), s₁) ∧ ∃ s₂,
        (save now (.named "a" "x")).on s₁ = (.ok (stored (.named "a" "x")), s₂) :=
    ⟨_, rfl, _, rfl⟩
  have hone : Saves s [stored (.named "b" "y")] s₁ :=
    .snoc .nil (d := .map [(.text "id", .text "b"), (.text "name", .text "y")]) rfl hcreated hnow
      (by simp [IsPlain]) hfirst
  have htwo : Saves s [stored (.named "b" "y"), stored (.named "a" "x")] s₂ :=
    .snoc hone (d := .map [(.text "id", .text "a"), (.text "name", .text "x")]) rfl hcreated hnow
      (by simp [IsPlain]) hsecond
  obtain ⟨hsorted, hlisted, -, -⟩ := saves_independent (s := s) rfl htwo
  exact ⟨s₂, htwo, hsorted, (hlisted "a").mpr ⟨stored (.named "a" "x"), by simp, rfl⟩,
    (hlisted "b").mpr ⟨stored (.named "b" "y"), by simp, rfl⟩⟩

/-- An id with a step that stays in place names the file of another id: the template that was saved
there is lost, and only one of both ids is listed. -/
theorem same_file :
    let s : Store := ⟨"d", .empty ["d".toList], [], []⟩
    let now : Moment := ⟨⟨2024, 2, 29⟩, 10, 30, 0, 0, some 0⟩
    let stored (t : Template) : Template := { t with created := some now, updated := some now }
    ∃ s' s'', (save now (.named "a" "x")).on s = (.ok (stored (.named "a" "x")), s') ∧
      (save now (.named "./a" "y")).on s' = (.ok (stored (.named "./a" "y")), s'') ∧
      ((load "a").on s'').1 = .ok (stored (.named "./a" "y")) ∧ list s'' = ["a"] := by
  intro s now stored
  have hcheck : Data.checkTemplate (.map [(.text "id", .text "./a"), (.text "name", .text "y")]) =
      .pass (Template.named "./a" "y") := rfl
  have hchecked := Data.isChecked_of_checkTemplate hcheck
  obtain ⟨s', hfirst, s'', hsecond, hread, hnames⟩ : ∃ s',
      (save now (.named "a" "x")).on s = (.ok (stored (.named "a" "x")), s') ∧ ∃ s'',
        (save now (.named "./a" "y")).on s' = (.ok (stored (.named "./a" "y")), s'') ∧
        s''.disk.read (fileOf "a") = s''.disk.read (fileOf "./a") ∧
        s''.disk.names = [fileOf "a"] := ⟨_, rfl, _, rfl, rfl, rfl⟩
  have hsaved := saved_of_on_save hsecond
  have hstorable := hsaved.storable hchecked (by simp [Template.named])
    (by constructor <;> decide)
  have htexts : ∀ u ∈ (stored (.named "./a" "y")).texts, Yaml.nextLine ∉ u.toList := by decide
  have hkept : (stored (.named "./a" "y")).reread = stored (.named "./a" "y") :=
    (Template.reread_eq_iff (hsaved.isChecked hchecked)).mpr
      ⟨fun u hu => isKept_of_not_mem (htexts u hu), by simp [stored, now, Template.moments]⟩
  -- The file is found under both ids, and what it holds brings its own id.
  obtain ⟨_, hid, -, hwrite⟩ := hsaved.written
  obtain rfl := Option.some.inj hid
  have hholds : Holds s''.disk "a" (stored (.named "./a" "y")).reread :=
    ⟨_, hread.trans (Disk.read_write hwrite).2, parse_document hstorable rfl⟩
  have hload := load_of_holds hsaved.cache_eq hholds
  rw [hkept] at hload
  have hlist : list s'' = (s''.disk.names.filterMap idOf?).mergeSort fun a b => a ≤ b := rfl
  have hidOf : idOf? (fileOf "a") = some "a" := idOf?_eq_some_iff.mpr rfl
  refine ⟨s', s'', hfirst, hsecond, hload, ?_⟩
  rw [hlist, hnames, List.filterMap_cons_some hidOf]
  exact List.mergeSort_singleton _

end Store

end OrderSheet
