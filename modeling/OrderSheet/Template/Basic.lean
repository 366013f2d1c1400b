import OrderSheet.Data.Moment
import OrderSheet.Template.Layout

/-!
# Templates

A template describes the order sheets of one supplier: the words that identify them, the patterns
of the values in the header, and the table of product lines.
-/

namespace OrderSheet

/-- Patterns for the values that stand outside the table. -/
structure HeaderPatterns where
  order : Option String
  date : Option String
  total : Option String
  supplier : Option String
  deriving DecidableEq, Repr

def HeaderPatterns.empty : HeaderPatterns := ⟨none, none, none, none⟩

structure TableRule where
  /-- Products are listed behind the line that contains this text. -/
  startMarker : String
  endMarker : String
  linePattern : String
  mapping : FieldMapping
  deriving DecidableEq, Repr

namespace TableRule

def empty : TableRule := ⟨"", "", "", FieldMapping.empty⟩

def ofLinePattern (p : LinePattern) (startMarker endMarker : String) : TableRule :=
  ⟨startMarker, endMarker, p.pattern, p.mapping⟩

end TableRule

structure Template where
  id : Option String
  name : String
  active : Bool
  keywords : List String
  supplier : Option String
  header : HeaderPatterns
  table : TableRule
  created : Option Moment
  updated : Option Moment
  deriving DecidableEq, Repr

def Template.title (t : Template) : String := if t.name.isEmpty then "<unnamed>" else t.name

def nonEmpty? (s : String) : Option String := if s.isEmpty then none else some s

end OrderSheet
