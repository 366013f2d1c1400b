import Mathlib
import OrderSheet.Proofs.Template.Checked
import OrderSheet.Proofs.Template.Moments
import OrderSheet.Store.Basic

/-!
# Templates as data

A template becomes data field by field, with null for what it does not have. Without the nulls this
is what its document is written from, and it passes the check as the template that it was made from.
-/

namespace OrderSheet

open Yaml (Block)

namespace Data

variable {α : Type} {fs : List (String × Option Data)} {k : String} {o : Option Data}
  {check : Data → Check α} {default a : α}

mutual

def hasNull : Data → Bool
  | .null => true
  | .list xs | .tuple xs | .set xs => anyNull xs
  | .map es => anyEntryNull es
  | _ => false

def anyNull : List Data → Bool
  | [] => false
  | x :: xs => hasNull x || anyNull xs

def anyEntryNull : List (Data × Data) → Bool
  | [] => false
  | (k, x) :: es => hasNull k || hasNull x || anyEntryNull es

end

mutual

def dropNulls : Data → Data
  | .list xs => .list (dropAllNulls xs)
  | .tuple xs => .tuple (dropAllNulls xs)
  | .set xs => .set (dropAllNulls xs)
  | .map es => .map (dropNullEntries es)
  | d => d

def dropAllNulls : List Data → List Data
  | [] => []
  | x :: xs => dropNulls x :: dropAllNulls xs

def dropNullEntries : List (Data × Data) → List (Data × Data)
  | [] => []
  | (_, .null) :: es => dropNullEntries es
  | (k, x) :: es => (k, dropNulls x) :: dropNullEntries es

end

@[simp] theorem dropNulls_text (s : String) : dropNulls (.text s) = .text s := by simp [dropNulls]

@[simp] theorem dropNulls_bool (b : Bool) : dropNulls (.bool b) = .bool b := by simp [dropNulls]

@[simp] theorem dropNulls_int (n : Int) : dropNulls (.int n) = .int n := by simp [dropNulls]

@[simp] theorem dropNulls_texts (ss : List String) :
    dropNulls (.list (ss.map .text)) = .list (ss.map .text) := by
  have hall : dropAllNulls (ss.map .text) = ss.map .text := by
    induction ss with
    | nil => simp [dropAllNulls]
    | cons s ss ih => simp [dropAllNulls, ih]
  rw [dropNulls, hall]

@[simp] theorem hasNull_text (s : String) : hasNull (.text s) = false := by simp [hasNull]

@[simp] theorem hasNull_bool (b : Bool) : hasNull (.bool b) = false := by simp [hasNull]

@[simp] theorem hasNull_int (n : Int) : hasNull (.int n) = false := by simp [hasNull]

@[simp] theorem hasNull_texts (ss : List String) : hasNull (.list (ss.map .text)) = false := by
  rw [hasNull]
  induction ss with
  | nil => simp [anyNull]
  | cons s ss ih => simp [anyNull, ih]

def record (fs : List (String × Option Data)) : List (Data × Data) :=
  fs.filterMap fun (k, d) => d.map (Data.text k, ·)

theorem lookup_record (hkeys : (fs.map (·.1)).Nodup) (h : (k, o) ∈ fs) :
    lookup? (record fs) k = o := by
  induction fs with
  | nil => cases h
  | cons f fs ih =>
    obtain ⟨l, d⟩ := f
    rw [List.map_cons, List.nodup_cons] at hkeys
    have hnew {o : Option Data} (h : (k, o) ∈ fs) : l ≠ k := fun hlk =>
      hkeys.1 (hlk ▸ List.mem_map_of_mem (f := (·.1)) h)
    have hrest (hk : l ≠ k) : lookup? (record ((l, d) :: fs)) k = lookup? (record fs) k := by
      cases d with
      | none => rfl
      | some d =>
        have hbeq : (l == k) = false := beq_false_of_ne hk
        simp [record, lookup?, hbeq]
    rcases List.mem_cons.mp h with h | h
    · obtain ⟨rfl, rfl⟩ := Prod.mk.inj h
      cases o with
      | some d => simp [record, lookup?]
      | none =>
        refine congrArg (Option.map Prod.snd) (List.find?_eq_none.mpr fun e he => ?_)
        change e ∈ record fs at he
        obtain ⟨⟨l', d⟩, hf, heq⟩ := List.mem_filterMap.mp he
        obtain ⟨d', -, rfl⟩ := Option.map_eq_some_iff.mp heq
        have hne : l' ≠ k := fun hlk => hkeys.1 (hlk ▸ List.mem_map_of_mem (f := (·.1)) hf)
        simpa using hne
    · rw [hrest (hnew h), ih hkeys.2 h]

/-- A field of a record passes with its value, or with the default one. -/
theorem given_record (hkeys : (fs.map (·.1)).Nodup) (h : (k, o) ∈ fs)
    (hsome : ∀ d ∈ o, check d = .pass a) (hnone : o = none → default = a) :
    given (record fs) k check default = .pass a := by
  rw [given, lookup_record hkeys h]
  cases o with
  | none => rw [hnone rfl]
  | some d => exact Check.inside_eq_pass.mpr (hsome d rfl)

theorem given_some {d : Data} (hkeys : (fs.map (·.1)).Nodup) (h : (k, some d) ∈ fs)
    (hd : check d = .pass a) : given (record fs) k check default = .pass a :=
  given_record hkeys h (fun d' hd' => by rwa [← Option.some.inj hd']) fun hnone => by cases hnone

def full (fs : List (String × Option Data)) : Data :=
  .map (fs.map fun (k, d) => (.text k, d.getD .null))

def sparse (fs : List (String × Option Data)) : Data := .map (record fs)

theorem dropNullEntries_cons (key : Data) {d : Data} (es : List (Data × Data)) (h : d ≠ .null) :
    dropNullEntries ((key, d) :: es) = (key, dropNulls d) :: dropNullEntries es := by
  rw [dropNullEntries]
  exact h

@[simp] theorem full_ne_null : full fs ≠ .null := nofun

theorem dropNulls_full (h : ∀ f ∈ fs, f.2 ≠ some .null) :
    (full fs).dropNulls = sparse (fs.map fun f => (f.1, f.2.map dropNulls)) := by
  rw [full, dropNulls, sparse]
  congr 1
  induction fs with
  | nil => simp [dropNullEntries, record]
  | cons f fs ih =>
    obtain ⟨k, d⟩ := f
    obtain ⟨hfirst, hrest⟩ := List.forall_mem_cons.mp h
    cases d with
    -- a field without a value is written as null and dropped again
    | none => exact (dropNullEntries.eq_2 _ _).trans (ih hrest)
    | some d =>
      have hd : d ≠ .null := fun h => hfirst (congrArg some h)
      exact (dropNullEntries_cons _ _ hd).trans (congrArg _ (ih hrest))

theorem hasNull_sparse (h : ∀ f ∈ fs, ∀ d ∈ f.2, d.hasNull = false) :
    (sparse fs).hasNull = false := by
  rw [sparse, hasNull]
  induction fs with
  | nil => simp [record, anyEntryNull]
  | cons f fs ih =>
    obtain ⟨k, d⟩ := f
    obtain ⟨hfirst, hrest⟩ := List.forall_mem_cons.mp h
    cases d with
    | none => exact ih hrest
    | some d =>
      change anyEntryNull ((.text k, d) :: record fs) = false
      rw [anyEntryNull, hasNull_text, hfirst d rfl, ih hrest]
      rfl

mutual

def block? : Data → Option Block
  | .text s => some (.text s.toList)
  | .bool b => some (.bare (if b then "true" else "false").toList)
  | .int n => some (.bare (toString n).toList)
  | .list xs => (blocks? xs).map .sequence
  | .map es => (entryBlocks? es).map .mapping
  | _ => none

def blocks? : List Data → Option (List Block)
  | [] => some []
  | x :: xs => do return (← block? x) :: (← blocks? xs)

def entryBlocks? : List (Data × Data) → Option (List (List Char × Block))
  | [] => some []
  | (.text k, x) :: es => do return (k.toList, ← block? x) :: (← entryBlocks? es)
  | _ :: _ => none

end

theorem block_texts (ss : List String) :
    block? (.list (ss.map .text)) = some (.sequence (ss.map Store.textBlock)) := by
  have hall : blocks? (ss.map .text) = some (ss.map Store.textBlock) := by
    induction ss with
    | nil => rfl
    | cons s ss ih =>
      rw [List.map_cons, blocks?, ih]
      rfl
  rw [block?, hall]
  rfl

theorem block_sparse {es : List (String × Option Block)}
    (h : List.Forall₂ (fun e f => e.1 = f.1 ∧ f.2.map block? = e.2.map some) es fs) :
    block? (sparse fs) = some (.mapping (Store.present es)) := by
  have hentries : entryBlocks? (record fs) = some (Store.present es) := by
    induction h with
    | nil => rfl
    | @cons e f es fs hentry _ ih =>
      obtain ⟨k, b⟩ := e
      obtain ⟨l, d⟩ := f
      obtain ⟨heq, hblock⟩ := hentry
      obtain rfl : k = l := heq
      cases d with
      | none =>
        obtain rfl : b = none := by simpa using hblock.symm
        exact ih
      | some d =>
        obtain ⟨b, rfl, hb⟩ : ∃ c, b = some c ∧ block? d = some c := by
          cases b with
          | none => cases hblock
          | some c => exact ⟨c, rfl, Option.some.inj hblock⟩
        change entryBlocks? ((.text k, d) :: record fs) = _
        rw [entryBlocks?, hb, ih]
        rfl
  rw [sparse, block?, hentries]
  rfl

def at? (d : Data) : List String → Option Data
  | [] => some d
  | k :: path =>
    match d with
    | .map es => (lookup? es k).bind fun d => d.at? path
    | _ => none

end Data

open Data (full sparse record)

def Store.mappingFields (m : FieldMapping) : List (String × Option Data) :=
  ProductField.all.map fun f => (f.name, (m.get f).map fun i : Nat => .int i)

section Parts

variable (form : List (String × Option Data) → Data)

def HeaderPatterns.parts (h : HeaderPatterns) : List (String × Option Data) :=
  [("order_pattern", h.order.map .text), ("date_pattern", h.date.map .text),
    ("total_pattern", h.total.map .text), ("supplier_pattern", h.supplier.map .text)]

def TableRule.parts (t : TableRule) : List (String × Option Data) :=
  [("table_start_marker", some (.text t.startMarker)),
    ("table_end_marker", some (.text t.endMarker)), ("line_pattern", some (.text t.linePattern)),
    ("field_mapping", some (form (Store.mappingFields t.mapping)))]

/-- The fields of a template, where the records among them take the given form. -/
def Template.parts (t : Template) : List (String × Option Data) :=
  [("id", t.id.map .text), ("name", some (.text t.name)), ("active", some (.bool t.active)),
    ("detect_keywords", some (.list (t.keywords.map .text))), ("supplier_id", t.supplier.map .text),
    ("header_config", some (form t.header.parts)),
    ("products_config", some (form (t.table.parts form))),
    ("created_at", t.created.map fun m => .text m.toText),
    ("updated_at", t.updated.map fun m => .text m.toText)]

end Parts

def Template.toData (t : Template) : Data := full (t.parts full)

namespace Store

def dump (t : Template) : Data := t.toData.dropNulls

theorem dump_eq (t : Template) : dump t = sparse (t.parts sparse) := by
  have hheader : (full t.header.parts).dropNulls = sparse t.header.parts := by
    rw [Data.dropNulls_full (by simp [HeaderPatterns.parts])]
    simp [HeaderPatterns.parts, Function.comp_def]
  have hmapping : (full (mappingFields t.table.mapping)).dropNulls =
      sparse (mappingFields t.table.mapping) := by
    rw [Data.dropNulls_full (by simp [mappingFields])]
    simp [mappingFields, Function.comp_def]
  have htable : (full (t.table.parts full)).dropNulls = sparse (t.table.parts sparse) := by
    rw [Data.dropNulls_full (by simp [TableRule.parts])]
    simp [TableRule.parts, hmapping]
  rw [dump, Template.toData, Data.dropNulls_full (by simp [Template.parts])]
  simp [Template.parts, hheader, htable, Function.comp_def]

/-- No null is left in the data that a document is written from. -/
theorem hasNull_dump (t : Template) : (dump t).hasNull = false := by
  have hheader : (sparse t.header.parts).hasNull = false :=
    Data.hasNull_sparse (by simp [HeaderPatterns.parts])
  have hmapping : (sparse (mappingFields t.table.mapping)).hasNull = false :=
    Data.hasNull_sparse (by simp [mappingFields])
  have htable : (sparse (t.table.parts sparse)).hasNull = false :=
    Data.hasNull_sparse (by simp [TableRule.parts, hmapping])
  rw [dump_eq]
  exact Data.hasNull_sparse (by simp [Template.parts, hheader, htable])

theorem map_block {α : Type} {o : Option α} {f : α → Data} {g : α → Block}
    (h : ∀ a, (f a).block? = some (g a)) : (o.map f).map Data.block? = (o.map g).map some := by
  rw [Option.map_map, Option.map_map]
  exact congrArg (o.map ·) (funext h)

theorem mappingBlock_eq (m : FieldMapping) :
    mappingBlock m = .mapping (present (ProductField.all.map fun f =>
      (f.name, (m.get f).map fun i => .bare (toString i).toList))) := by
  rw [mappingBlock, FieldMapping.assigned, present, List.map_filterMap, List.filterMap_map]
  congr 1
  refine List.filterMap_congr fun f _ => ?_
  rw [Function.comp_apply, Option.map_map]
  dsimp only
  rw [Option.map_map]
  rfl

/-- A document is written from the data of its template. -/
theorem block_dump (t : Template) : (dump t).block? = some (.mapping (entries t)) := by
  have htexts (o : Option String) :
      (o.map Data.text).map Data.block? = (o.map textBlock).map some := map_block fun _ => rfl
  have hmoments (o : Option Moment) : (o.map fun m => Data.text m.toText).map Data.block? =
      (o.map momentBlock).map some := map_block fun _ => rfl
  have hheader : (sparse t.header.parts).block? = some (headerBlock t.header) :=
    Data.block_sparse <| .cons ⟨rfl, htexts _⟩ <| .cons ⟨rfl, htexts _⟩ <|
      .cons ⟨rfl, htexts _⟩ <| .cons ⟨rfl, htexts _⟩ .nil
  have hmapping : (sparse (mappingFields t.table.mapping)).block? =
      some (mappingBlock t.table.mapping) := by
    rw [mappingBlock_eq]
    refine Data.block_sparse ?_
    rw [mappingFields, List.forall₂_map_left_iff, List.forall₂_map_right_iff,
      List.forall₂_same]
    exact fun f _ => ⟨rfl, map_block fun _ => rfl⟩
  have htable : (sparse (t.table.parts sparse)).block? = some (tableBlock t.table) :=
    Data.block_sparse <| .cons ⟨rfl, rfl⟩ <| .cons ⟨rfl, rfl⟩ <| .cons ⟨rfl, rfl⟩ <|
      .cons ⟨rfl, congrArg some hmapping⟩ .nil
  rw [dump_eq]
  exact Data.block_sparse <| .cons ⟨rfl, htexts _⟩ <| .cons ⟨rfl, rfl⟩ <| .cons ⟨rfl, rfl⟩ <|
    .cons ⟨rfl, congrArg some (Data.block_texts _)⟩ <| .cons ⟨rfl, htexts _⟩ <|
    .cons ⟨rfl, congrArg some hheader⟩ <| .cons ⟨rfl, congrArg some htable⟩ <|
    .cons ⟨rfl, hmoments _⟩ <| .cons ⟨rfl, hmoments _⟩ .nil

theorem record_mapping (m : FieldMapping) :
    record (mappingFields m) = m.assigned.map fun (f, i) => (.text f.name, .int i) := by
  rw [record, mappingFields, FieldMapping.assigned, List.filterMap_map, List.map_filterMap]
  refine List.filterMap_congr fun f _ => ?_
  simp [Function.comp_def]

theorem nodup_headerParts (h : HeaderPatterns) : (h.parts.map (·.1)).Nodup := by
  simp [HeaderPatterns.parts]

theorem nodup_mappingFields (m : FieldMapping) : ((mappingFields m).map (·.1)).Nodup := by
  simp [mappingFields, ProductField.all, ProductField.name]

theorem nodup_tableParts (form : List (String × Option Data) → Data) (r : TableRule) :
    ((r.parts form).map (·.1)).Nodup := by
  simp [TableRule.parts]

theorem nodup_parts (form : List (String × Option Data) → Data) (t : Template) :
    ((t.parts form).map (·.1)).Nodup := by
  simp [Template.parts]

/-- The field mapping of the data names the mapped fields, in their order. -/
theorem mapping_dump (t : Template) : (dump t).at? ["products_config", "field_mapping"] =
    some (.map (t.table.mapping.assigned.map fun (f, i) => (.text f.name, .int i))) := by
  have htable : Data.lookup? (record (t.parts sparse)) "products_config" =
      some (sparse (t.table.parts sparse)) :=
    Data.lookup_record (nodup_parts _ t) (by simp [Template.parts])
  have hmapping : Data.lookup? (record (t.table.parts sparse)) "field_mapping" =
      some (sparse (mappingFields t.table.mapping)) :=
    Data.lookup_record (nodup_tableParts _ t.table) (by simp [TableRule.parts])
  rw [dump_eq, sparse, Data.at?, htable, Option.bind_some, sparse, Data.at?, hmapping,
    Option.bind_some, sparse, record_mapping]
  rfl

variable {fs : List (String × Option Data)} {k : String}

theorem given_text {s : Option String} (hkeys : (fs.map (·.1)).Nodup) (h : (k, s.map .text) ∈ fs) :
    Data.given (record fs) k (Data.checkOptional Data.checkText) none = .pass s := by
  refine Data.given_record hkeys h (fun d hd => ?_) fun hnone => ?_
  · obtain ⟨s, rfl, rfl⟩ := Option.map_eq_some_iff.mp hd
    rfl
  · exact (Option.map_eq_none_iff.mp hnone).symm

theorem given_moment {m : Option Moment} (hkeys : (fs.map (·.1)).Nodup)
    (h : (k, m.map fun m => .text m.toText) ∈ fs) (hm : ∀ v ∈ m, v.IsValid) :
    Data.given (record fs) k (Data.checkOptional Data.checkMoment) none =
      .pass (m.map Moment.reread) := by
  refine Data.given_record hkeys h (fun d hd => ?_) fun hnone => ?_
  · obtain ⟨v, rfl, rfl⟩ := Option.map_eq_some_iff.mp hd
    change some <$> Data.checkMomentText v.toText = _
    rw [Data.checkMomentText, Moment.read_toText (hm v rfl)]
    rfl
  · rw [Option.map_eq_none_iff.mp hnone]
    rfl

theorem check_headerParts (h : HeaderPatterns) :
    Data.checkHeaderPatterns (sparse h.parts) = .pass h := by
  have hkeys := nodup_headerParts h
  have horder := @given_text _ "order_pattern" h.order hkeys (by simp [HeaderPatterns.parts])
  have hdate := @given_text _ "date_pattern" h.date hkeys (by simp [HeaderPatterns.parts])
  have htotal := @given_text _ "total_pattern" h.total hkeys (by simp [HeaderPatterns.parts])
  have hsupplier := @given_text _ "supplier_pattern" h.supplier hkeys
    (by simp [HeaderPatterns.parts])
  rw [sparse, Data.checkHeaderPatterns, Data.checkRecord]
  dsimp only
  rw [horder, hdate, htotal, hsupplier]
  rfl

theorem check_mappingFields {m : FieldMapping} (h : ∀ e ∈ m.assigned, 0 < e.2) :
    Data.checkFieldMapping (sparse (mappingFields m)) = .pass m := by
  have hindex (f : ProductField) : Data.given (record (mappingFields m)) f.name
      (Data.checkOptional Data.checkPositive) none = .pass (m.get f) := by
    have hf : f ∈ ProductField.all := by cases f <;> simp [ProductField.all]
    refine Data.given_record (nodup_mappingFields m) (List.mem_map.mpr ⟨f, hf, rfl⟩)
      (fun d hd => ?_) fun hnone => (Option.map_eq_none_iff.mp hnone).symm
    obtain ⟨i, hi, rfl⟩ := Option.map_eq_some_iff.mp hd
    have hpositive : (1 : Int) ≤ i := by
      have := h (f, i) (FieldMapping.mem_assigned.mpr hi)
      dsimp only at this
      omega
    have hcheck : Data.checkPositive (.int i) = .pass i := by
      rw [Data.checkPositive, Data.checkInteger, Check.andThen, if_pos hpositive,
        Int.toNat_natCast]
    change some <$> Data.checkPositive (.int i) = _
    rw [hcheck, hi]
    rfl
  rw [sparse, Data.checkFieldMapping, Data.checkRecord]
  dsimp only
  rw [hindex, hindex, hindex, hindex, hindex]
  rfl

theorem check_tableParts {r : TableRule} (h : ∀ e ∈ r.mapping.assigned, 0 < e.2) :
    Data.checkTableRule (sparse (r.parts sparse)) = .pass r := by
  have hkeys := nodup_tableParts sparse r
  have htext {k s default : String} (hk : (k, some (.text s)) ∈ r.parts sparse) :
      Data.given (record (r.parts sparse)) k Data.checkText default = .pass s :=
    Data.given_some hkeys hk rfl
  have hstart := @htext "table_start_marker" r.startMarker "" (by simp [TableRule.parts])
  have hend := @htext "table_end_marker" r.endMarker "" (by simp [TableRule.parts])
  have hpattern := @htext "line_pattern" r.linePattern "" (by simp [TableRule.parts])
  have hmapping : Data.given (record (r.parts sparse)) "field_mapping" Data.checkFieldMapping
      FieldMapping.empty = .pass r.mapping :=
    Data.given_some hkeys (by simp [TableRule.parts]) (check_mappingFields h)
  rw [sparse, Data.checkTableRule, Data.checkRecord]
  rw [hstart, hend, hpattern, hmapping]
  rfl

theorem checkKeywords_texts (ws : List String) :
    Data.checkKeywords (.list (ws.map .text)) = .pass (Data.cleanKeywords ws) := by
  have hwritten : (ws.map Data.text).any Data.isHuge = false := by
    simp [List.any_eq_false, Data.isHuge]
  have hdisplay : (ws.map Data.text).map Data.display = ws := by
    rw [List.map_map]
    exact List.map_id'' (fun _ => rfl) ws
  rw [Data.checkKeywords, Data.elements?]
  · dsimp only
    rw [hwritten, if_neg (by simp), hdisplay]
  · simp
  · simp

end Store

def Template.rechecked (t : Template) : Template :=
  { t with
    keywords := Data.cleanKeywords t.keywords
    supplier := t.supplier.bind Data.supplierOf?
    created := t.created.map Moment.reread
    updated := t.updated.map Moment.reread }

namespace Store

theorem check_parts {t : Template} (hname : t.name.length ≤ Settings.maxName)
    (hmapping : ∀ e ∈ t.table.mapping.assigned, 0 < e.2) (hcreated : ∀ m ∈ t.created, m.IsValid)
    (hupdated : ∀ m ∈ t.updated, m.IsValid) :
    Data.checkTemplate (sparse (t.parts sparse)) = .pass t.rechecked := by
  have hkeys := nodup_parts sparse t
  have hid := @given_text _ "id" t.id hkeys (by simp [Template.parts])
  have hname : Data.given (record (t.parts sparse)) "name" (Data.checkShortText Settings.maxName)
      "" = .pass t.name := by
    refine Data.given_some hkeys (d := .text t.name) (by simp [Template.parts]) ?_
    rw [Data.checkShortText, Data.checkText, Check.andThen, if_pos hname]
  have hactive : Data.given (record (t.parts sparse)) "active" Data.checkTruth true =
      .pass t.active :=
    Data.given_some hkeys (d := .bool t.active) (by simp [Template.parts]) rfl
  have hkeywords : Data.given (record (t.parts sparse)) "detect_keywords" Data.checkKeywords [] =
      .pass t.rechecked.keywords :=
    Data.given_some hkeys (by simp [Template.parts]) (checkKeywords_texts t.keywords)
  have hsupplier : Data.given (record (t.parts sparse)) "supplier_id" Data.checkSupplier none =
      .pass t.rechecked.supplier := by
    refine Data.given_record hkeys (o := t.supplier.map .text) (by simp [Template.parts])
      (fun d hd => ?_) fun hnone => ?_
    · obtain ⟨s, hs, rfl⟩ := Option.map_eq_some_iff.mp hd
      rw [Data.checkSupplier_text, Template.rechecked, hs]
      rfl
    · rw [Template.rechecked, Option.map_eq_none_iff.mp hnone]
      rfl
  have hheader : Data.given (record (t.parts sparse)) "header_config" Data.checkHeaderPatterns
      HeaderPatterns.empty = .pass t.header :=
    Data.given_some hkeys (by simp [Template.parts]) (check_headerParts t.header)
  have htable : Data.given (record (t.parts sparse)) "products_config" Data.checkTableRule
      TableRule.empty = .pass t.table :=
    Data.given_some hkeys (by simp [Template.parts]) (check_tableParts hmapping)
  have hcreated := @given_moment _ "created_at" t.created hkeys (by simp [Template.parts]) hcreated
  have hupdated := @given_moment _ "updated_at" t.updated hkeys (by simp [Template.parts]) hupdated
  rw [sparse, Data.checkTemplate, Data.checkRecord]
  rw [hid, hname, hactive, hkeywords, hsupplier, hheader, htable, hcreated, hupdated]
  rfl

end Store

end OrderSheet
