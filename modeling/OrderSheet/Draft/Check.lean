import OrderSheet.Draft.Basic

/-!
# Checking drafts

A draft is read from raw data, and a single field of it can be assigned anew. The source of the
line pattern is told apart by its mode.
-/

namespace OrderSheet

namespace Data

def checkVisual : Data → Check LineSource :=
  checkRecord "VisualLinePattern" fun fields =>
    LineSource.visual <$> given fields "columns" (checkList checkColumn) []

def checkExpert : Data → Check LineSource :=
  checkRecord "ExpertLinePattern" fun fields =>
    (fun pattern mapping => LineSource.expert ⟨pattern, mapping⟩)
      <$> given fields "line_pattern" checkText ""
      <*> given fields "field_mapping" checkFieldMapping FieldMapping.empty

def checkLineSource (d : Data) : Check LineSource :=
  match d with
  | .map fields =>
    match lookup? fields "mode" with
    | none => .complain (.untagged "mode")
    | some (.text "visual") => Check.inside "visual" d.checkVisual
    | some (.text "expert") => Check.inside "expert" d.checkExpert
    | some tag => .complain (.unknownTag "mode" tag.display ["visual", "expert"])
  | _ => .complain .notTaggedRecord

def checkDraft : Data → Check Draft :=
  checkRecord "TemplateDraft" fun fields =>
    Draft.mk <$> given fields "template_id" (checkOptional checkText) none
      <*> given fields "name" checkText Draft.default.name
      <*> given fields "active" checkTruth Draft.default.active
      <*> given fields "keywords" checkText Draft.default.keywords
      <*> given fields "supplier_id" (checkOptional checkText) none
      <*> given fields "header_config" checkHeaderPatterns Draft.defaultHeader
      <*> given fields "table_start_marker" checkText Draft.default.startMarker
      <*> given fields "table_end_marker" checkText Draft.default.endMarker
      <*> given fields "line_source" checkLineSource Draft.default.source

end Data

def Draft.assign (d : Draft) (field : String) (value : Data) : Check Draft :=
  Check.inside field <|
    match field with
    | "template_id" => (value.checkOptional Data.checkText).map fun v => { d with id := v }
    | "name" => value.checkText.map fun v => { d with name := v }
    | "active" => value.checkTruth.map fun v => { d with active := v }
    | "keywords" => value.checkText.map fun v => { d with keywords := v }
    | "supplier_id" => (value.checkOptional Data.checkText).map fun v => { d with supplier := v }
    | "header_config" => value.checkHeaderPatterns.map fun v => { d with header := v }
    | "table_start_marker" => value.checkText.map fun v => { d with startMarker := v }
    | "table_end_marker" => value.checkText.map fun v => { d with endMarker := v }
    | "line_source" => value.checkLineSource.map fun v => { d with source := v }
    | name => .complain (.noSuchField name)

def HeaderPatterns.set (h : HeaderPatterns) (field : String) (pattern : Option String) :
    HeaderPatterns :=
  match field with
  | "order_pattern" => { h with order := pattern }
  | "date_pattern" => { h with date := pattern }
  | "total_pattern" => { h with total := pattern }
  | "supplier_pattern" => { h with supplier := pattern }
  | _ => h

end OrderSheet
