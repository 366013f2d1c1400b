import OrderSheet.Data.Check
import OrderSheet.Number.Rounding

/-!
# Extractions

What a template reads from a document: the values of the header and the product lines, each
independent of the others, with the problems met on the way.
-/

namespace OrderSheet

inductive ProblemKind where
  | patternCompile
  | fieldParse
  | fieldMapping
  deriving DecidableEq, Repr

namespace ProblemKind

def all : List ProblemKind := [patternCompile, fieldParse, fieldMapping]

def code : ProblemKind → String
  | patternCompile => "PATTERN_COMPILE"
  | fieldParse => "FIELD_PARSE"
  | fieldMapping => "FIELD_MAPPING"

end ProblemKind

/-- A problem with one header field or one product line. -/
structure Problem where
  field : String
  message : String
  kind : ProblemKind
  line : Option Nat
  deriving DecidableEq, Repr

structure Product where
  description : String
  quantity : Decimal
  unitPrice : Decimal
  sku : Option String
  lineTotal : Option Decimal
  line : Nat
  deriving DecidableEq, Repr

def Product.total (p : Product) : Except Decimal.ArithmeticError Decimal :=
  match p.lineTotal with
  | some t => .ok t
  | none => p.quantity.mul p.unitPrice

structure Extraction where
  templateName : Option String
  orderNumber : Option String
  orderDate : Option String
  supplierName : Option String
  total : Option Decimal
  products : List Product
  problems : List Problem
  deriving DecidableEq, Repr

namespace Extraction

def isPartial (e : Extraction) : Bool := !e.problems.isEmpty

def productsTotal (e : Extraction) : Except Decimal.ArithmeticError Decimal := do
  Decimal.sum (← e.products.mapM Product.total)

end Extraction

structure Refusal where
  message : String
  templateName : Option String
  deriving DecidableEq, Repr

inductive Outcome where
  | extracted (e : Extraction)
  | refused (r : Refusal)
  deriving DecidableEq, Repr

namespace Data

def checkProblem : Data → Check Problem :=
  checkRecord "FieldError" fun fields =>
    Problem.mk <$> required fields "field" checkText <*> required fields "message" checkText
      <*> required fields "code" (checkOption (ProblemKind.all.map fun k => (k.code, k)))
      <*> given fields "line_number" (checkOptional checkPositive) none

def checkProduct : Data → Check Product :=
  checkRecord "ExtractedItem" fun fields =>
    Product.mk <$> required fields "description" checkText
      <*> required fields "quantity" checkDecimal <*> required fields "unit_price" checkDecimal
      <*> given fields "sku" (checkOptional checkText) none
      <*> given fields "line_total" (checkOptional checkDecimal) none
      <*> required fields "line_number" checkPositive

def checkExtraction : Data → Check Extraction :=
  checkRecord "ExtractionResult" fun fields =>
    let text (name : String) : Check (Option String) :=
      given fields name (checkOptional checkText) none
    Extraction.mk <$> text "template_name" <*> text "order_number" <*> text "order_date"
      <*> text "supplier_name" <*> given fields "total" (checkOptional checkDecimal) none
      <*> given fields "items" (checkList checkProduct) []
      <*> given fields "errors" (checkList checkProblem) []

def checkRefusal : Data → Check Refusal :=
  checkRecord "ExtractionError" fun fields =>
    Refusal.mk <$> required fields "message" checkText
      <*> given fields "template_name" (checkOptional checkText) none

end Data

end OrderSheet
