import Mathlib
import OrderSheet.Proofs.Store.Fields
import OrderSheet.Proofs.Store.Visits

/-!
# Saved templates loaded again

A template that has been saved is loaded with the texts and moments as they come back. It is the
stored template just when each of them comes back as it was.
-/

namespace OrderSheet

open Data (record)
open Yaml (nextLine)

variable {s u : String} {ws : List String}

namespace Store

/-- A text that comes back as it was: a next line character in it is written as an escape. -/
def IsKept (s : String) : Prop := nextLine ∈ s.toList → Yaml.styleOf s.toList = .double

theorem isKept_of_not_mem (h : nextLine ∉ s.toList) : IsKept s := fun hmem => absurd hmem h

theorem rereadText_eq_iff : rereadText s = s ↔ IsKept s := by
  rw [IsKept, ← Yaml.reread_eq_iff, rereadText, String.ext_iff, String.toList_ofList]

/-- Trimming what has come back of a trimmed text gives a text that comes back as it is. -/
theorem isKept_strip (hu : Text.strip u.toList = u.toList)
    (hs : s = String.ofList (Text.strip (rereadText u).toList)) : IsKept s := by
  intro hmem
  have hreread : nextLine ∈ Yaml.reread u.toList := by
    have hsub := Text.strip_sublist (rereadText u).toList
    rw [hs, String.toList_ofList] at hmem
    simpa [rereadText] using hsub.subset hmem
  have hstyle : Yaml.styleOf u.toList = .double := by
    by_contra hstyle
    exact Yaml.nextLine_not_mem_reread hstyle hreread
  have hback : rereadText u = u := rereadText_eq_iff.mpr fun _ => hstyle
  rwa [hs, hback, hu, String.ofList_toList]

theorem cleanKeywords_reread_iff (h : Data.CleanWords ws) :
    Data.cleanKeywords (ws.map rereadText) = ws ↔ ∀ w ∈ ws, IsKept w := by
  constructor
  · intro heq w hw
    rw [← heq] at hw
    obtain ⟨v, hv, hstrip⟩ := Data.mem_cleanKeywords hw
    obtain ⟨u, hu, rfl⟩ := List.mem_map.mp hv
    exact isKept_strip (h.trimmed u hu) hstrip
  · intro hkept
    have hmap : ws.map rereadText = ws := by
      conv_rhs => rw [← List.map_id ws]
      exact List.map_congr_left fun w hw => rereadText_eq_iff.mpr (hkept w hw)
    rw [hmap, h.cleanKeywords_eq]

theorem supplierOf_reread_iff (h : Data.supplierOf? s = some s) :
    Data.supplierOf? (rereadText s) = some s ↔ IsKept s := by
  constructor
  · intro heq
    refine isKept_strip (Data.supplierOf_eq_some h).2 ?_
    unfold Data.supplierOf? at heq
    dsimp only at heq
    split at heq
    · cases heq
    · exact (Option.some.inj heq).symm
  · intro hkept
    rw [rereadText_eq_iff.mpr hkept, h]

theorem map_reread_iff {o : Option String} : o.map rereadText = o ↔ ∀ s ∈ o, IsKept s := by
  cases o <;> simp [rereadText_eq_iff]

end Store

open Store (IsKept rereadText_eq_iff map_reread_iff)

def HeaderPatterns.texts (h : HeaderPatterns) : List String :=
  h.order.toList ++ h.date.toList ++ h.total.toList ++ h.supplier.toList

def TableRule.texts (t : TableRule) : List String := [t.startMarker, t.endMarker, t.linePattern]

def Template.texts (t : Template) : List String :=
  t.id.toList ++ t.name :: (t.keywords ++ t.supplier.toList ++ t.header.texts ++ t.table.texts)

def Template.moments (t : Template) : List Moment := t.created.toList ++ t.updated.toList

/-- A template of which nothing but the id and the name is given. -/
def Template.named (id name : String) : Template :=
  ⟨some id, name, true, [], none, .empty, .empty, none, none⟩

theorem HeaderPatterns.reread_eq_iff {h : HeaderPatterns} :
    h.reread = h ↔ ∀ s ∈ h.texts, IsKept s := by
  obtain ⟨order, date, total, supplier⟩ := h
  simp only [reread, texts, HeaderPatterns.mk.injEq, map_reread_iff, List.mem_append,
    Option.mem_toList, Option.mem_def, or_imp, forall_and, and_assoc]

theorem TableRule.reread_eq_iff {t : TableRule} : t.reread = t ↔ ∀ s ∈ t.texts, IsKept s := by
  obtain ⟨startMarker, endMarker, linePattern, mapping⟩ := t
  simp [reread, texts, rereadText_eq_iff]

/-- A checked template comes back as it was just when its texts and moments do. -/
theorem Template.reread_eq_iff {t : Template} (h : t.IsChecked) :
    t.reread = t ↔ (∀ s ∈ t.texts, IsKept s) ∧ ∀ m ∈ t.moments, ∀ z ∈ m.offset, 60 ∣ z := by
  obtain ⟨id, name, active, keywords, supplier, header, table, created, updated⟩ := t
  have hkeywords := Store.cleanKeywords_reread_iff h.keywords
  have hsupplier : (supplier.bind fun s => Data.supplierOf? (Store.rereadText s)) = supplier ↔
      ∀ s ∈ supplier, IsKept s := by
    cases supplier with
    | none => simp
    | some s => simpa using Store.supplierOf_reread_iff (h.supplier s rfl)
  have hmoment {o : Option Moment} :
      o.map Moment.reread = o ↔ ∀ m ∈ o, ∀ z ∈ m.offset, 60 ∣ z := by
    cases o <;> simp [Moment.reread_eq_iff]
  simp only [reread, mk.injEq, map_reread_iff, rereadText_eq_iff, hkeywords, hsupplier,
    HeaderPatterns.reread_eq_iff, TableRule.reread_eq_iff, hmoment, texts, moments,
    List.mem_append, List.mem_cons, Option.mem_toList, Option.mem_def, or_imp, forall_and,
    forall_eq, true_and, and_assoc]

namespace Store

variable {d : Data} {t stored : Template} {now : Moment} {id : String} {store store' : Store}

theorem withId_fields (hid : t.id.isSome = true) :
    withId id (.map (record (templateFields t))) = .ok (.map (record (templateFields t))) := by
  have hkeys : ((templateFields t).map (·.1)).Nodup := by simp [templateFields]
  have hlookup : (Data.lookup? (record (templateFields t)) "id").isSome = true := by
    rw [@Data.lookup_record _ "id" (t.id.map textField) hkeys (by simp [templateFields]),
      Option.isSome_map, hid]
  have hempty : (Data.map (record (templateFields t))).isEmptyValue = false := by
    cases hrecord : record (templateFields t) with
    | nil => simp [hrecord, Data.lookup?] at hlookup
    | cons => rfl
  rw [withId, hempty, if_neg (by simp)]
  dsimp only
  rw [if_pos hlookup]

/-- The file of a template is parsed as that template, with its texts and moments as they come
back. -/
theorem parse_document (h : Storable t) (hid : t.id.isSome = true) :
    parse id (document t).toUTF8.toList = .ok t.reread := by
  have hread : readDocument (document t).toUTF8.toList =
      .ok (.map (record (templateFields t))) := by
    rw [readDocument, Data.decodeBytes_toUTF8]
    dsimp only
    rw [load_document h.mapping]
    rfl
  rw [parse, parseWith, hread]
  dsimp only
  rw [withId_fields hid]
  simp only [bind, Except.bind, check_templateFields h]
  rfl

theorem Saved.storable (h : Saved now t stored store store') (hchecked : t.IsChecked)
    (hcreated : ∀ m ∈ t.created, m.IsValid) (hnow : now.IsValid) : Storable stored := by
  rw [h.stored_eq]
  refine ⟨hchecked.name, fun e he => ⟨hchecked.mapping e he, ?_⟩, fun m hm => ?_, fun m hm => ?_⟩
  · have hindexes := h.indexes
    rw [hasHugeIndex, List.any_eq_false] at hindexes
    simpa using hindexes e he
  · cases hvalue : t.created with
    | none =>
      obtain rfl : now = m := by simpa [hvalue] using hm
      exact hnow
    | some v =>
      obtain rfl : v = m := by simpa [hvalue] using hm
      exact hcreated v hvalue
  · obtain rfl : now = m := by simpa using hm
    exact hnow

theorem Saved.isChecked (h : Saved now t stored store store') (hchecked : t.IsChecked) :
    stored.IsChecked := by
  rw [h.stored_eq]
  exact ⟨hchecked.name, hchecked.keywords, hchecked.supplier, hchecked.mapping⟩

/-- The file that a save has written holds the template that comes back. -/
theorem Saved.holds (h : Saved now t stored store store') (hid : t.id = some id)
    (hstorable : Storable stored) : Holds store'.disk id stored.reread := by
  obtain ⟨id', hid', -, hwrite⟩ := h.written
  obtain rfl : id = id' := Option.some.inj (hid.symm.trans hid')
  refine ⟨_, (Disk.read_write hwrite).2, parse_document hstorable ?_⟩
  rw [h.stored_eq, hid]
  rfl

/-- What the file holds is loaded if the cache is empty. -/
theorem load_of_holds (hcache : store.cache = []) (h : Holds store.disk id t) :
    ((load id).on store).1 = .ok t := by
  obtain ⟨answer, records, hfile, hanswer⟩ := on_loadFile id store
  rw [on_load_of_uncached (by rw [hcache]; rfl), hfile, (hanswer t).mpr h]

theorem saved_of_on_save (h : (save now t).on store = (.ok stored, store')) :
    Saved now t stored store store' := by
  rcases on_save now t store with ⟨_, _, hsave, hsaved⟩ | ⟨_, _, hsave, -⟩
  · obtain ⟨heq, rfl⟩ := Prod.mk.inj (h.symm.trans hsave)
    obtain rfl := Except.ok.inj heq
    exact hsaved
  · cases (Prod.mk.inj (h.symm.trans hsave)).1

/-- A saved template is loaded again. What is loaded is the stored template just when no next line
character of it is written in single quotes and no moment of it has seconds in its distance from
universal time. -/
theorem load_save (hcheck : Data.checkTemplate d = .pass t) (hid : t.id = some id)
    (hcreated : ∀ m ∈ t.created, m.IsValid) (hnow : now.IsValid)
    (hsave : (save now t).on store = (.ok stored, store')) :
    ((load id).on store').1 = .ok stored.reread ∧
      (stored.reread = stored ↔ (∀ s ∈ stored.texts, IsKept s) ∧
        ∀ m ∈ stored.moments, ∀ z ∈ m.offset, 60 ∣ z) := by
  have hchecked := Data.isChecked_of_checkTemplate hcheck
  have hsaved := saved_of_on_save hsave
  have hstorable := hsaved.storable hchecked hcreated hnow
  exact ⟨load_of_holds hsaved.cache_eq (hsaved.holds hid hstorable),
    Template.reread_eq_iff (hsaved.isChecked hchecked)⟩

/-- A template whose texts are written in every style. -/
theorem load_save_every_style :
    let created : Moment := ⟨⟨2024, 2, 28⟩, 23, 59, 59, 250000, some (-12600)⟩
    let now : Moment := ⟨⟨2024, 2, 29⟩, 10, 30, 0, 0, some 0⟩
    let t : Template := ⟨some "2024-02-29", "Acme: bolts & nuts", true, ["0x1F", "é ß"], some "s-7",
      { HeaderPatterns.empty with order := some "No\\.\\s*(\\d+)", total := some "a\t(b)" },
      { TableRule.empty with startMarker := "one\ntwo" }, some created, none⟩
    let stored := { t with updated := some now }
    ∃ d store', Data.checkTemplate d = .pass t ∧
      (∀ style, ∃ s ∈ t.texts, Yaml.styleOf s.toList = style) ∧
      (save now t).on ⟨"d", Disk.empty ["d".toList], [], []⟩ = (.ok stored, store') ∧
      ((load "2024-02-29").on store').1 = .ok stored := by
  intro created now t stored
  have hcheck : Data.checkTemplate (.map [(.text "id", .text "2024-02-29"),
      (.text "name", .text "Acme: bolts & nuts"), (.text "detect_keywords", .text "0x1F, é ß"),
      (.text "supplier_id", .text "s-7"), (.text "header_config", .map
        [(.text "order_pattern", .text "No\\.\\s*(\\d+)"), (.text "total_pattern", .text "a\t(b)")]),
      (.text "products_config", .map [(.text "table_start_marker", .text "one\ntwo")]),
      (.text "created_at", .moment created)]) = .pass t := by cbv
  have hstyles : ∀ style, ∃ s ∈ t.texts, Yaml.styleOf s.toList = style := by
    intro style
    cases style with
    | plain => exact ⟨"s-7", by decide, by cbv⟩
    | single => exact ⟨"2024-02-29", by decide, by cbv⟩
    | double => exact ⟨"a\t(b)", by decide, by cbv⟩
  obtain ⟨store', hsave⟩ : ∃ store',
      (save now t).on ⟨"d", Disk.empty ["d".toList], [], []⟩ = (.ok stored, store') := ⟨_, rfl⟩
  have hcreated : ∀ m ∈ t.created, m.IsValid := by
    simp only [t, Option.mem_def, Option.some.injEq, forall_eq']
    constructor <;> decide
  have hload := load_save hcheck rfl hcreated (by constructor <;> decide) hsave
  have htexts : ∀ s ∈ stored.texts, nextLine ∉ s.toList := by decide
  have hkept : stored.reread = stored := hload.2.mpr
    ⟨fun s hs => isKept_of_not_mem (htexts s hs), by
      simp [stored, t, created, now, Template.moments]⟩
  rw [hkept] at hload
  exact ⟨_, store', hcheck, hstyles, hsave, hload.1⟩

/-- A next line character in a name is loaded as a space. -/
theorem load_save_next_line :
    let t := Template.named "a" "x\x85y"
    let now : Moment := ⟨⟨2024, 2, 29⟩, 10, 30, 0, 0, some 0⟩
    let stored := { t with created := some now, updated := some now }
    ∃ d store', Data.checkTemplate d = .pass t ∧
      (save now t).on ⟨"d", Disk.empty ["d".toList], [], []⟩ = (.ok stored, store') ∧
      ((load "a").on store').1 = .ok { stored with name := "x y" } := by
  intro t now stored
  have hcheck : Data.checkTemplate
      (.map [(.text "id", .text "a"), (.text "name", .text "x\x85y")]) = .pass t := rfl
  obtain ⟨store', hsave⟩ : ∃ store',
      (save now t).on ⟨"d", Disk.empty ["d".toList], [], []⟩ = (.ok stored, store') := ⟨_, rfl⟩
  have hsaved := saved_of_on_save hsave
  have hstorable := hsaved.storable (Data.isChecked_of_checkTemplate hcheck)
    (by simp [t, Template.named]) (by constructor <;> decide)
  have hid : rereadText "a" = "a" := rereadText_eq_iff.mpr (isKept_of_not_mem (by decide))
  have hname : rereadText "x\x85y" = "x y" := by decide
  have htable : TableRule.empty.reread = .empty := by decide
  have hreread : stored.reread = { stored with name := "x y" } := by
    simp only [stored, t, Template.named, Template.reread, hname, htable, Option.map_some, hid]
    rfl
  have hload := load_of_holds hsaved.cache_eq (hsaved.holds rfl hstorable)
  rw [hreread] at hload
  exact ⟨_, store', hcheck, hsave, hload⟩

end Store

end OrderSheet
