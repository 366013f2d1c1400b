import OrderSheet.Template.Basic
import OrderSheet.Yaml.Print

/-!
# Templates as documents

How a template is written to its file. Fields without a value are left out.
-/

namespace OrderSheet.Store

open Yaml (Block)

def textBlock (s : String) : Block := .text s.toList

def truthBlock (b : Bool) : Block := .bare (if b then "true" else "false").toList

def present (entries : List (String × Option Block)) : List (List Char × Block) :=
  entries.filterMap fun (k, b) => b.map (k.toList, ·)

def headerBlock (h : HeaderPatterns) : Block :=
  .mapping <| present [("order_pattern", h.order.map textBlock),
    ("date_pattern", h.date.map textBlock), ("total_pattern", h.total.map textBlock),
    ("supplier_pattern", h.supplier.map textBlock)]

def mappingBlock (m : FieldMapping) : Block :=
  .mapping <| m.assigned.map fun (f, i) => (f.name.toList, .bare (toString i).toList)

def tableBlock (t : TableRule) : Block :=
  .mapping <| present [("table_start_marker", some (textBlock t.startMarker)),
    ("table_end_marker", some (textBlock t.endMarker)),
    ("line_pattern", some (textBlock t.linePattern)),
    ("field_mapping", some (mappingBlock t.mapping))]

def momentBlock (m : Moment) : Block := textBlock m.toText

def entries (t : Template) : List (List Char × Block) :=
  present [("id", t.id.map textBlock), ("name", some (textBlock t.name)),
    ("active", some (truthBlock t.active)),
    ("detect_keywords", some (.sequence (t.keywords.map textBlock))),
    ("supplier_id", t.supplier.map textBlock), ("header_config", some (headerBlock t.header)),
    ("products_config", some (tableBlock t.table)), ("created_at", t.created.map momentBlock),
    ("updated_at", t.updated.map momentBlock)]

def document (t : Template) : String := Yaml.print (entries t)

end OrderSheet.Store
