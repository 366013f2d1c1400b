import OrderSheet.Activity
import OrderSheet.Data.Display
import OrderSheet.Extract.Basic
import OrderSheet.Review.Basic
import OrderSheet.Template.Basic
import OrderSheet.Text.Blank

/-!
# Judging an extraction

An extraction without products, or with products that cannot be bought, is invalid. A declared
total that differs from the sum of the lines, and problems met on the way, are warnings.
-/

namespace OrderSheet.Review

def source : String := "pdf_templates.parsers.extraction_validator"

def finding (severity : Severity) (field code message : String) (product : Option Nat)
    (context : Option (List (String × Detail))) : Finding :=
  ⟨severity, some field, message, some code, product, context⟩

def noProducts (e : Extraction) : List Finding :=
  if e.products.isEmpty then
    [finding .error "items" "NO_ITEMS" "No products found in the document" none none]
  else []

def productFindings (p : Product) (position : Nat) : List Finding :=
  let error (field code what : String) : Finding :=
    finding .error field code (s!"Product {position}: " ++ what) (some position) none
  (if Text.isBlankText p.description.toList then
    [error "description" "MISSING_DESCRIPTION" "missing description"] else []) ++
  (if p.quantity.isNegative || p.quantity.isZero then
    [error "quantity" "INVALID_QUANTITY" s!"invalid quantity {p.quantity.toText}"] else []) ++
  (if p.unitPrice.isNegative then
    [error "unit_price" "INVALID_UNIT_PRICE" s!"invalid unit price {p.unitPrice.toText}"] else [])

def productsFindings (e : Extraction) : List Finding :=
  e.products.zipIdx.flatMap fun (p, i) => productFindings p (i + 1)

def totalFindings (tolerance : Decimal) (e : Extraction) :
    Except Decimal.ArithmeticError (List Finding) := do
  match e.total with
  | none => return []
  | some total =>
    if e.products.isEmpty then return []
    else
      let sum ← e.productsTotal
      let difference ← (← sum.sub total).abs
      if tolerance.lt difference then
        let message := s!"Sum of products ({sum.toText}) does not match the document " ++
          s!"total ({total.toText}). Difference: {difference.toText}"
        return [finding .warning "total" "TOTAL_MISMATCH" message none
          (some [("items_total", .text sum.toText), ("document_total", .text total.toText)])]
      else return []

def problemFindings (e : Extraction) : List Finding :=
  e.problems.map fun p =>
    finding .warning p.field p.kind.code p.message none
      (p.line.map fun n => [("line_number", .int n)])

def countFinding (e : Extraction) : Finding :=
  finding .info "items" "ITEM_COUNT" s!"{e.products.length} product(s) extracted" none
    (some [("count", .int e.products.length)])

def judge (tolerance : Decimal) (e : Extraction) : Except Decimal.ArithmeticError Review := do
  let totals ← totalFindings tolerance e
  return empty.addAll
    (noProducts e ++ productsFindings e ++ totals ++ problemFindings e ++ [countFinding e])

def validate (tolerance : Decimal) (e : Extraction) : Activity Review :=
  match judge tolerance e with
  | .error _ => Activity.fail .arithmetic
  | .ok r => ⟨r.journal source (((e.templateName).bind nonEmpty?).getD "<unnamed>"), .ok r⟩

end OrderSheet.Review
