import Mathlib
import OrderSheet.Proofs.Store.Dump
import OrderSheet.Proofs.Yaml.Contents
import OrderSheet.Proofs.Yaml.Rereading

/-!
# Templates read back from their fields

The document of a template is read as fields that pass the check. What they make up is the
template again, with the texts and moments as they come back.
-/

namespace OrderSheet

open Yaml (Stands Block)

open Data (record sparse)

namespace Store

def fieldNames : List String :=
  ["id", "name", "active", "detect_keywords", "supplier_id", "header_config", "products_config",
    "created_at", "updated_at", "order_pattern", "date_pattern", "total_pattern",
    "supplier_pattern", "table_start_marker", "table_end_marker", "line_pattern", "field_mapping",
    "description", "quantity", "unit_price", "sku", "line_total"]

theorem isName_of_mem {k : String} (h : k ∈ fieldNames) :
    Yaml.Scan.IsName k.toList ∧ Yaml.styleOf k.toList = .plain := by
  have hall : ∀ k ∈ fieldNames, (k.toList.all Yaml.Scan.isNameLetter = true ∧ k.toList ≠ []) ∧
      k.toList.length ≤ Yaml.Scan.keyLimit ∧ k ∉ Yaml.reservedWords := by decide
  obtain ⟨⟨hletters, hne⟩, hlength, hword⟩ := hall k h
  have hname : Yaml.Scan.IsName k.toList := ⟨List.all_eq_true.mp hletters, hne, hlength⟩
  exact ⟨hname, Yaml.style_name hname (by rwa [String.ofList_toList])⟩

theorem fields_present {column : Nat} {es : List (String × Option Block)}
    {fs : List (String × Option Data)} (hnames : ∀ e ∈ es, e.1 ∈ fieldNames)
    (h : List.Forall₂ (fun e f => f.1 = e.1 ∧ Option.Rel (Stands column) e.2 f.2) es fs) :
    Yaml.Fields column (present es) (record fs) := by
  induction h with
  | nil => exact .nil
  | @cons e f es fs hentry _ ih =>
    obtain ⟨k, b⟩ := e
    obtain ⟨l, d⟩ := f
    obtain ⟨heq, hrel⟩ := hentry
    obtain rfl : l = k := heq
    have hrest := ih fun e he => hnames e (by simp [he])
    cases hrel with
    | none => exact hrest
    | @some b d hbd =>
      exact .cons ⟨isName_of_mem (hnames (l, some b) (by simp)), by simp, hbd⟩ hrest

theorem nodup_present {es : List (String × Option Block)} (h : (es.map (·.1)).Nodup) :
    ((present es).map (·.1)).Nodup := by
  have hsub : ((present es).map fun e => String.ofList e.1).Sublist (es.map (·.1)) := by
    induction es with
    | nil => exact List.Sublist.refl _
    | cons e es ih =>
      obtain ⟨k, b⟩ := e
      have hrest := ih (List.nodup_cons.mp h).2
      cases b with
      | none => exact hrest.cons k
      | some b => simpa [present] using hrest.cons_cons k
  refine List.Nodup.of_map String.ofList ?_
  rw [List.map_map]
  exact h.sublist hsub

def rereadText (s : String) : String := String.ofList (Yaml.reread s.toList)

def textField (s : String) : Data := .text (rereadText s)

def headerFields (h : HeaderPatterns) : List (String × Option Data) :=
  [("order_pattern", h.order.map textField), ("date_pattern", h.date.map textField),
    ("total_pattern", h.total.map textField), ("supplier_pattern", h.supplier.map textField)]

def tableFields (t : TableRule) : List (String × Option Data) :=
  [("table_start_marker", some (textField t.startMarker)),
    ("table_end_marker", some (textField t.endMarker)),
    ("line_pattern", some (textField t.linePattern)),
    ("field_mapping", some (.map (record (mappingFields t.mapping))))]

def templateFields (t : Template) : List (String × Option Data) :=
  [("id", t.id.map textField), ("name", some (textField t.name)), ("active", some (.bool t.active)),
    ("detect_keywords", some (.list (t.keywords.map textField))),
    ("supplier_id", t.supplier.map textField),
    ("header_config", some (.map (record (headerFields t.header)))),
    ("products_config", some (.map (record (tableFields t.table)))),
    ("created_at", t.created.map fun m => textField m.toText),
    ("updated_at", t.updated.map fun m => textField m.toText)]

def Writable (m : FieldMapping) : Prop :=
  ∀ e ∈ m.assigned, 0 < e.2 ∧ (toString e.2).length ≤ digitLimit

theorem rel_map {α : Type} {column : Nat} {o : Option α} {f : α → Block} {g : α → Data}
    (h : ∀ a ∈ o, Stands column (f a) (g a)) : Option.Rel (Stands column) (o.map f) (o.map g) := by
  cases o with
  | none => exact .none
  | some a => exact .some (h a rfl)

theorem rel_texts {column : Nat} (hcolumn : column + 2 < Yaml.Pen.lineWidth) (o : Option String) :
    Option.Rel (Stands column) (o.map textBlock) (o.map textField) :=
  rel_map fun s _ => Stands.text s.toList hcolumn

theorem rel_text {column : Nat} (hcolumn : column + 2 < Yaml.Pen.lineWidth) (s : String) :
    Option.Rel (Stands column) (some (textBlock s)) (some (textField s)) :=
  .some (Stands.text s.toList hcolumn)

theorem stands_header {column : Nat} (hcolumn : column + 4 < Yaml.Pen.lineWidth)
    (h : HeaderPatterns) : Stands column (headerBlock h) (.map (record (headerFields h))) := by
  refine Stands.mapping (fields_present (by simp [fieldNames]) ?_) (nodup_present (by simp))
  exact .cons ⟨rfl, rel_texts hcolumn _⟩ <| .cons ⟨rfl, rel_texts hcolumn _⟩ <|
    .cons ⟨rfl, rel_texts hcolumn _⟩ <| .cons ⟨rfl, rel_texts hcolumn _⟩ .nil

theorem stands_mapping {column : Nat} {m : FieldMapping} (h : Writable m) :
    Stands column (mappingBlock m) (.map (record (mappingFields m))) := by
  have hnumber {f : ProductField} : ∀ i ∈ m.get f,
      Stands (column + 2) (.bare (toString i).toList) (.int i) := by
    intro i hi
    have hassigned : (f, i) ∈ m.assigned := FieldMapping.mem_assigned.mpr hi
    exact Stands.number (h _ hassigned).1 (h _ hassigned).2
  rw [mappingBlock_eq]
  refine Stands.mapping (fields_present ?_ ?_)
    (nodup_present (by simp [ProductField.all, ProductField.name]))
  · simp [ProductField.all, ProductField.name, fieldNames]
  · rw [mappingFields, List.forall₂_map_left_iff, List.forall₂_map_right_iff, List.forall₂_same]
    exact fun f _ => ⟨rfl, rel_map hnumber⟩

theorem stands_table {column : Nat} (hcolumn : column + 4 < Yaml.Pen.lineWidth) {t : TableRule}
    (h : Writable t.mapping) : Stands column (tableBlock t) (.map (record (tableFields t))) := by
  refine Stands.mapping (fields_present (by simp [fieldNames]) ?_) (nodup_present (by simp))
  exact .cons ⟨rfl, rel_text hcolumn _⟩ <| .cons ⟨rfl, rel_text hcolumn _⟩ <|
    .cons ⟨rfl, rel_text hcolumn _⟩ <| .cons ⟨rfl, .some (stands_mapping h)⟩ .nil

theorem stands_template {t : Template} (h : Writable t.table.mapping) :
    Yaml.Fields 0 (entries t) (record (templateFields t)) := by
  have hcolumn : 0 + 2 < Yaml.Pen.lineWidth := by decide
  refine fields_present (by simp [fieldNames]) ?_
  exact .cons ⟨rfl, rel_texts hcolumn _⟩ <| .cons ⟨rfl, rel_text hcolumn _⟩ <|
    .cons ⟨rfl, .some (Stands.truth t.active)⟩ <|
    .cons ⟨rfl, .some (Stands.texts t.keywords hcolumn)⟩ <|
    .cons ⟨rfl, rel_texts hcolumn _⟩ <|
    .cons ⟨rfl, .some (stands_header (by decide) t.header)⟩ <|
    .cons ⟨rfl, .some (stands_table (by decide) h)⟩ <|
    .cons ⟨rfl, rel_map fun m _ => Stands.text m.toText.toList hcolumn⟩ <|
    .cons ⟨rfl, rel_map fun m _ => Stands.text m.toText.toList hcolumn⟩ .nil

/-- The document of a template is read as its fields. -/
theorem load_document {t : Template} (h : Writable t.table.mapping) :
    Yaml.load (document t).toList = .ok (.map (record (templateFields t))) := by
  refine Yaml.load_print (stands_template h) (nodup_present (by simp)) ?_
  cases hid : t.id <;> simp [entries, present, hid]

end Store

def HeaderPatterns.reread (h : HeaderPatterns) : HeaderPatterns :=
  ⟨h.order.map Store.rereadText, h.date.map Store.rereadText, h.total.map Store.rereadText,
    h.supplier.map Store.rereadText⟩

def TableRule.reread (t : TableRule) : TableRule :=
  ⟨Store.rereadText t.startMarker, Store.rereadText t.endMarker, Store.rereadText t.linePattern,
    t.mapping⟩

def Template.reread (t : Template) : Template where
  id := t.id.map Store.rereadText
  name := Store.rereadText t.name
  active := t.active
  keywords := Data.cleanKeywords (t.keywords.map Store.rereadText)
  supplier := t.supplier.bind fun s => Data.supplierOf? (Store.rereadText s)
  header := t.header.reread
  table := t.table.reread
  created := t.created.map Moment.reread
  updated := t.updated.map Moment.reread

def Template.rewritten (t : Template) : Template :=
  { t with
    id := t.id.map Store.rereadText
    name := Store.rereadText t.name
    keywords := t.keywords.map Store.rereadText
    supplier := t.supplier.map Store.rereadText
    header := t.header.reread
    table := t.table.reread }

namespace Store

/-- The written form of a moment comes back as it was. -/
theorem rereadText_toText (m : Moment) : rereadText m.toText = m.toText := by
  have hmem : Yaml.nextLine ∉ m.toText.toList := by
    intro h
    rcases Moment.mem_toText h with hdigit | hmark
    · exact absurd hdigit (by decide)
    · exact absurd hmark (by decide)
  rw [rereadText, Yaml.reread_of_not_mem hmem, String.ofList_toList]

theorem headerFields_eq (h : HeaderPatterns) : headerFields h = h.reread.parts := by
  simp only [headerFields, HeaderPatterns.reread, HeaderPatterns.parts, Option.map_map]
  rfl

theorem templateFields_eq (t : Template) : templateFields t = t.rewritten.parts sparse := by
  have htable : tableFields t.table = t.table.reread.parts sparse := rfl
  simp only [templateFields, headerFields_eq, htable, Template.parts, Template.rewritten, textField,
    rereadText_toText, Option.map_map, List.map_map]
  rfl

theorem rechecked_rewritten (t : Template) : t.rewritten.rechecked = t.reread := by
  simp only [Template.rechecked, Template.rewritten, Template.reread, Option.bind_map]
  rfl

structure Storable (t : Template) : Prop where
  name : t.name.length ≤ Settings.maxName
  mapping : Writable t.table.mapping
  created : ∀ m ∈ t.created, m.IsValid
  updated : ∀ m ∈ t.updated, m.IsValid

theorem check_templateFields {t : Template} (h : Storable t) :
    Data.checkTemplate (.map (record (templateFields t))) = .pass t.reread := by
  have hname : (rereadText t.name).length ≤ Settings.maxName := by
    have hreread := Yaml.length_reread_le t.name.toList
    rw [String.length_toList] at hreread
    rw [rereadText, String.length_ofList]
    exact hreread.trans h.name
  rw [templateFields_eq, ← rechecked_rewritten]
  exact check_parts hname (fun e he => (h.mapping e he).1) h.created h.updated

end Store

end OrderSheet
