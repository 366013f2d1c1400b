import OrderSheet.Extract.Basic
import OrderSheet.Extract.Pattern
import OrderSheet.Number.Amount
import OrderSheet.Template.Basic

/-!
# Header values

Every header pattern is searched in the whole document on its own. A pattern that is refused or a
total that is not an amount leaves a problem with that field only.
-/

namespace OrderSheet

structure Header where
  orderNumber : Option String
  orderDate : Option String
  supplierName : Option String
  total : Option Decimal
  problems : List Problem
  deriving DecidableEq, Repr

def patternProblem (field pattern : String) (fault : Regex.Fault) : Problem :=
  ⟨field, s!"Invalid pattern '{pattern}': {fault.text pattern.toList}", .patternCompile, none⟩

namespace Header

/-- The text that the pattern of a field finds, if there is a pattern and it finds some. -/
def find (text : List Char) (field : String) (pattern : Option String) :
    Activity (Option String × List Problem) := do
  match pattern.bind nonEmpty? with
  | none => return (none, [])
  | some source =>
    match ← Pattern.tryCompile field source with
    | .error fault => return (none, [patternProblem field source fault])
    | .ok r =>
      let found ← Pattern.firstMatch r text none
      return (found.bind nonEmpty?, [])

def readTotal (raw : Option String) : Option Decimal × List Problem :=
  match raw with
  | none => (none, [])
  | some s =>
    match Amount.read? Amount.Format.commaDecimal s.toList with
    | some d => (some d, [])
    | none => (none, [⟨"total", s!"Could not read '{s}' as an amount", .fieldParse, none⟩])

def extract (text : List Char) (p : HeaderPatterns) : Activity Header := do
  let (order, orderProblems) ← find text "order_number" p.order
  let (date, dateProblems) ← find text "order_date" p.date
  let (supplier, supplierProblems) ← find text "supplier_name" p.supplier
  let (raw, totalProblems) ← find text "total" p.total
  let (total, amountProblems) := readTotal raw
  return ⟨order, date, supplier, total,
    orderProblems ++ dateProblems ++ supplierProblems ++ totalProblems ++ amountProblems⟩

end Header

end OrderSheet
