import OrderSheet.Extract.Basic
import OrderSheet.Template.Check

/-!
# Drafts

A draft is a template while it is being edited. Its line pattern is either compiled from a layout
of columns or written by hand.
-/

namespace OrderSheet

inductive LineSource where
  | visual (columns : List Column)
  | expert (p : LinePattern)
  deriving DecidableEq, Repr

namespace LineSource

def isVisual : LineSource → Bool
  | visual _ => true
  | expert _ => false

def resolve : LineSource → Except Failure LinePattern
  | visual columns => Layout.compile columns
  | expert p => .ok p

end LineSource

structure Draft where
  id : Option String
  name : String
  active : Bool
  keywords : String
  supplier : Option String
  header : HeaderPatterns
  startMarker : String
  endMarker : String
  source : LineSource
  deriving DecidableEq, Repr

namespace Draft

def defaultHeader : HeaderPatterns :=
  ⟨some "Orden\\s*(?:No:?)?\\s*#?(\\d+)", some "(\\d\x7b2\x7d/\\d\x7b2\x7d/\\d\x7b4\x7d)",
    some "Total:?\\s*\\$?\\s*([\\d.,]+)", none⟩

def defaultColumns : List Column :=
  [⟨none, .text, "Description"⟩, ⟨none, .number, "Quantity"⟩, ⟨none, .price, "Unit price"⟩,
    ⟨none, .price, "Total"⟩]

def default : Draft :=
  ⟨none, "", true, "", none, defaultHeader, "Descripcion", "Subtotal", .visual defaultColumns⟩

/-- Opens a stored template. Only its compiled pattern has been kept, so it opens as one that was
written by hand. -/
def ofTemplate (t : Template) : Draft :=
  ⟨t.id, t.name, t.active, ", ".intercalate t.keywords, t.supplier, t.header,
    t.table.startMarker, t.table.endMarker, .expert ⟨t.table.linePattern, t.table.mapping⟩⟩

def isNew (d : Draft) : Bool := d.id.isNone

def trimmedName (d : Draft) : String := String.ofList (Text.strip d.name.toList)

def tableRule (d : Draft) : Except Failure TableRule :=
  d.source.resolve.map fun p => TableRule.ofLinePattern p d.startMarker d.endMarker

def build (d : Draft) : Except Failure Template := do
  let rule ← d.tableRule
  let name ← (Data.checkShortText Settings.maxName (.text d.trimmedName)).inside "name"
    |>.toExcept.mapError .rejected
  return ⟨d.id, name, d.active, Data.splitKeywords d.keywords, d.supplier.bind Data.supplierOf?,
    d.header, rule, none, none⟩

/-- Why the draft cannot be saved, if it cannot. A new template has to have read at least one
product from a sample. -/
def saveFault? (d : Draft) (sample : Option Outcome) : Option SaveFault :=
  let name := d.trimmedName
  let tested := match sample with
    | some (.extracted e) => !e.products.isEmpty
    | _ => false
  if name.isEmpty then some .unnamed
  else if Settings.maxName < name.length then some (.longName name.length Settings.maxName)
  else if d.isNew && !tested then some .untested
  else none

def save (d : Draft) (sample : Option Outcome) : Except Failure Template :=
  match d.saveFault? sample with
  | some f => .error (.save f)
  | none => d.build

/-- The columns of the layout, which can be edited only in visual mode. -/
def columns (d : Draft) : Except Failure (List Column) :=
  match d.source with
  | .visual cs => .ok cs
  | .expert _ => .error .notVisual

/-- Adds a column on the right, unless the layout would not compile any more. -/
def addColumn (d : Draft) (c : Column) : Except Failure Draft := do
  let cs ← d.columns
  let _ ← Layout.compile (cs ++ [c])
  return { d with source := .visual (cs ++ [c]) }

def removeNamed (d : Draft) (id : String) : Except Failure Draft :=
  d.columns.map fun cs => { d with source := .visual (cs.filter fun c => c.id != some id) }

def removeAt (d : Draft) (index : Nat) : Except Failure Draft := do
  let cs ← d.columns
  match (cs[index]?).bind Column.id with
  | some id => d.removeNamed id
  | none => return { d with source := .visual (cs.eraseIdx index) }

def swap (cs : List Column) (i j : Nat) : List Column :=
  match cs[i]?, cs[j]? with
  | some a, some b => (cs.set i b).set j a
  | _, _ => cs

def moveColumn (d : Draft) (index : Int) (left : Bool) : Except Failure Draft := do
  let cs ← d.columns
  let target := if left then index - 1 else index + 1
  if index < 0 || target < 0 then return d
  else return { d with source := .visual (swap cs index.toNat target.toNat) }

def toExpert (d : Draft) : Except Failure Draft :=
  d.source.resolve.map fun p => { d with source := .expert p }

def toVisual (d : Draft) (columns : List Column) : Except Failure Draft :=
  (Layout.compile columns).map fun _ => { d with source := .visual columns }

def setPattern (d : Draft) (pattern : String) : Draft :=
  match d.source with
  | .visual _ => d
  | .expert p => { d with source := .expert { p with pattern := pattern } }

def setMapping (d : Draft) (f : ProductField) (index : Option Nat) : Draft :=
  match d.source with
  | .visual _ => d
  | .expert p => { d with source := .expert { p with mapping := p.mapping.set f index } }

@[simp] theorem toExpert_expert (d : Draft) {p : LinePattern} (h : d.source = .expert p) :
    d.toExpert = .ok d := by
  cases d
  simp_all [toExpert, LineSource.resolve, Except.map]

end Draft

end OrderSheet
