import OrderSheet.Settings
import OrderSheet.Template.Mapping

/-!
# Column layouts

A product line is described as columns from left to right with whitespace between them. A layout
compiles to a line pattern with one fragment per column, and to the mapping of its capture groups.
-/

namespace OrderSheet

inductive ColumnKind where
  | text
  | number
  | price
  | code
  | ignored
  deriving DecidableEq, Repr

namespace ColumnKind

def all : List ColumnKind := [text, number, price, code, ignored]

def name : ColumnKind → String
  | text => "text"
  | number => "number"
  | price => "price"
  | code => "sku"
  | ignored => "ignore"

def label : ColumnKind → String
  | text => "Text"
  | number => "Number"
  | price => "Price"
  | code => "Code"
  | ignored => "Ignore"

def fragment : ColumnKind → String
  | text => "(.\x7b1," ++ toString Settings.maxTextColumn ++ "\x7d?)"
  | number | price => "(\\d[\\d.,]*)"
  | code => "(\\S+)"
  | ignored => "\\S+"

/-- The fields that columns of a kind fill, in the order in which the columns appear. -/
def fields : ColumnKind → List ProductField
  | text => [.description]
  | number => [.quantity]
  | price => [.unitPrice, .lineTotal]
  | code => [.sku]
  | ignored => []

def captures (k : ColumnKind) : Bool := !k.fields.isEmpty

end ColumnKind

structure Column where
  /-- The name given to the column; a column without one is told apart by its position only. -/
  id : Option String
  kind : ColumnKind
  label : String
  deriving DecidableEq, Repr

/-- A column, which is labelled by its kind unless it has a label of its own. -/
def Column.labelled (id : Option String) (kind : ColumnKind) (label : Option String) : Column :=
  ⟨id, kind, match label with
    | some l => if l.isEmpty then kind.label else l
    | none => kind.label⟩

/-- A pattern for product lines with the mapping of its groups. -/
structure LinePattern where
  pattern : String
  mapping : FieldMapping
  deriving DecidableEq, Repr

namespace Layout

def separator : String := "\\s+"

/-- The mapping of the columns from a position on, where `used` lists the kinds before it. -/
def mappingFrom (position group : Nat) (used : List ColumnKind) (m : FieldMapping) :
    List Column → Except Failure FieldMapping
  | [] => .ok m
  | c :: cs =>
    if c.kind.captures then
      match c.kind.fields[used.count c.kind]? with
      | some f =>
        mappingFrom (position + 1) (group + 1) (c.kind :: used) (m.set f (some group)) cs
      | none => .error (.layout position c.label c.kind.name c.kind.fields.length)
    else mappingFrom (position + 1) group used m cs

def mapping (columns : List Column) : Except Failure FieldMapping :=
  mappingFrom 1 1 [] FieldMapping.empty columns

def pattern (columns : List Column) : String :=
  if columns.isEmpty then ""
  else "^" ++ separator.intercalate (columns.map fun c => c.kind.fragment) ++ "$"

def compile (columns : List Column) : Except Failure LinePattern :=
  (mapping columns).map fun m => ⟨pattern columns, m⟩

end Layout

namespace Data

def checkColumnKind (d : Data) : Check ColumnKind :=
  checkOption (ColumnKind.all.map fun k => (k.name, k)) d

def checkColumn : Data → Check Column :=
  checkRecord "ColumnDefinition" fun fields =>
    Column.labelled <$> given fields "id" (fun d => some <$> checkText d) none
      <*> required fields "column_type" checkColumnKind
      <*> given fields "label" (checkOptional checkText) none

end Data

end OrderSheet
