import OrderSheet.Data.Check
import OrderSheet.Failure

/-!
# Field mappings

A mapping assigns capture groups of a line pattern, counted from 1, to the fields of a product.
-/

namespace OrderSheet

inductive ProductField where
  | description
  | quantity
  | unitPrice
  | sku
  | lineTotal
  deriving DecidableEq, Repr

namespace ProductField

def all : List ProductField := [description, quantity, unitPrice, sku, lineTotal]

def name : ProductField → String
  | description => "description"
  | quantity => "quantity"
  | unitPrice => "unit_price"
  | sku => "sku"
  | lineTotal => "line_total"

def required : List ProductField := [description, quantity, unitPrice]

end ProductField

/-- The groups of the fields. A group is a natural number, also where it is assigned without a
check: a negative one, which no check lets pass, is left out. -/
structure FieldMapping where
  description : Option Nat
  quantity : Option Nat
  unitPrice : Option Nat
  sku : Option Nat
  lineTotal : Option Nat
  deriving DecidableEq, Repr

namespace FieldMapping

def empty : FieldMapping := ⟨none, none, none, none, none⟩

def get (m : FieldMapping) : ProductField → Option Nat
  | .description => m.description
  | .quantity => m.quantity
  | .unitPrice => m.unitPrice
  | .sku => m.sku
  | .lineTotal => m.lineTotal

def set (m : FieldMapping) (f : ProductField) (index : Option Nat) : FieldMapping :=
  match f with
  | .description => { m with description := index }
  | .quantity => { m with quantity := index }
  | .unitPrice => { m with unitPrice := index }
  | .sku => { m with sku := index }
  | .lineTotal => { m with lineTotal := index }

def assigned (m : FieldMapping) : List (ProductField × Nat) :=
  ProductField.all.filterMap fun f => (m.get f).map (f, ·)

def missing (m : FieldMapping) : List ProductField :=
  ProductField.required.filter fun f => (m.get f).isNone

def isEmpty (m : FieldMapping) : Bool := m.assigned.isEmpty

def highest (m : FieldMapping) : Nat := (m.assigned.map (·.2)).foldl max 0

/-- Why the mapping cannot be used with a pattern of so many groups, if it cannot. -/
def fault? (m : FieldMapping) (groups : Nat) : Option MappingFault :=
  if !m.missing.isEmpty then some (.unassigned (m.missing.map ProductField.name))
  else if groups < m.highest then some (.beyond m.highest groups)
  else none

@[simp] theorem get_empty (f : ProductField) : empty.get f = none := by cases f <;> rfl

@[simp] theorem get_set_self (m : FieldMapping) (f : ProductField) (i : Option Nat) :
    (m.set f i).get f = i := by cases f <;> rfl

theorem get_set_of_ne (m : FieldMapping) {f g : ProductField} (i : Option Nat) (h : g ≠ f) :
    (m.set f i).get g = m.get g := by
  cases f <;> cases g <;> first | exact absurd rfl h | rfl

@[simp] theorem assigned_empty : empty.assigned = [] := rfl

end FieldMapping

namespace Data

def checkFieldMapping : Data → Check FieldMapping :=
  checkRecord "FieldMapping" fun fields =>
    let index (f : ProductField) : Check (Option Nat) :=
      given fields f.name (checkOptional checkPositive) none
    FieldMapping.mk <$> index .description <*> index .quantity <*> index .unitPrice
      <*> index .sku <*> index .lineTotal

end Data

end OrderSheet
