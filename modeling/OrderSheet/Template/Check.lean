import OrderSheet.Number.Amount
import OrderSheet.Template.Basic

/-!
# Checking templates

A template is read from raw data field by field, and a single field of it can be assigned anew.
-/

namespace OrderSheet

namespace Data

def checkAmountFormat : Data → Check Amount.Format :=
  checkRecord "NumberFormat" fun fields =>
    Amount.Format.mk <$> required fields "thousands_separator" checkText
      <*> required fields "decimal_separator" checkText

def checkHeaderPatterns : Data → Check HeaderPatterns :=
  checkRecord "HeaderConfig" fun fields =>
    let pattern (name : String) : Check (Option String) :=
      given fields name (checkOptional checkText) none
    HeaderPatterns.mk <$> pattern "order_pattern" <*> pattern "date_pattern"
      <*> pattern "total_pattern" <*> pattern "supplier_pattern"

def checkTableRule : Data → Check TableRule :=
  checkRecord "ProductsConfig" fun fields =>
    TableRule.mk <$> given fields "table_start_marker" checkText ""
      <*> given fields "table_end_marker" checkText ""
      <*> given fields "line_pattern" checkText ""
      <*> given fields "field_mapping" checkFieldMapping FieldMapping.empty

def cleanKeywords (words : List String) : List String :=
  let add (kept : List String) (w : String) : List String :=
    let word := String.ofList (Text.strip w.toList)
    if word.isEmpty || kept.contains word then kept else kept ++ [word]
  words.foldl add []

def elements? : Data → Option (List Data)
  | .list xs | .tuple xs | .set xs => some xs
  | .map entries => some (entries.map (·.1))
  | .bytes bs => some (bs.map fun b => .int b.toNat)
  | .text s => some (s.toList.map fun c => .text c.toString)
  | _ => none

def splitKeywords (s : String) : List String :=
  cleanKeywords ((Text.splitOnChar ',' s.toList).map String.ofList)

def checkKeywords : Data → Check (List String)
  | .null => .pass []
  | .text s => .pass (splitKeywords s)
  | d =>
    match d.elements? with
    | some xs =>
      if xs.any isHuge then .complain .unspelled else .pass (cleanKeywords (xs.map display))
    | none => .fail (.notIterable d.typeName)

def noSupplier : List String := ["", "undefined", "null", "none"]

def supplierOf? (s : String) : Option String :=
  let name := String.ofList (Text.strip s.toList)
  if noSupplier.contains (name.map Char.toLower) then none else some name

def checkSupplier : Data → Check (Option String)
  | .null => .pass none
  | d => if d.isHuge then .complain .unspelled else .pass (supplierOf? d.display)

@[simp] theorem checkSupplier_text (s : String) :
    checkSupplier (.text s) = .pass (supplierOf? s) := rfl

def checkTemplate : Data → Check Template :=
  checkRecord "PDFTemplate" fun fields =>
    Template.mk <$> given fields "id" (checkOptional checkText) none
      <*> given fields "name" (checkShortText Settings.maxName) ""
      <*> given fields "active" checkTruth true
      <*> given fields "detect_keywords" checkKeywords []
      <*> given fields "supplier_id" checkSupplier none
      <*> given fields "header_config" checkHeaderPatterns HeaderPatterns.empty
      <*> given fields "products_config" checkTableRule TableRule.empty
      <*> given fields "created_at" (checkOptional checkMoment) none
      <*> given fields "updated_at" (checkOptional checkMoment) none

end Data

def Template.assign (t : Template) (field : String) (value : Data) : Check Template :=
  Check.inside field <|
    match field with
    | "id" => (value.checkOptional Data.checkText).map fun v => { t with id := v }
    | "name" => (value.checkShortText Settings.maxName).map fun v => { t with name := v }
    | "active" => value.checkTruth.map fun v => { t with active := v }
    | "detect_keywords" => value.checkKeywords.map fun v => { t with keywords := v }
    | "supplier_id" => value.checkSupplier.map fun v => { t with supplier := v }
    | "header_config" => value.checkHeaderPatterns.map fun v => { t with header := v }
    | "products_config" => value.checkTableRule.map fun v => { t with table := v }
    | "created_at" => (value.checkOptional Data.checkMoment).map fun v => { t with created := v }
    | "updated_at" => (value.checkOptional Data.checkMoment).map fun v => { t with updated := v }
    | name => .complain (.noSuchField name)

namespace Template

/-- Setting a field: what comes of it, and the template behind it. A value that is rejected leaves
the template as it is. -/
def set (t : Template) (field : String) (value : Data) : Except Rejection Unit × Template :=
  match t.assign field value with
  | .pass u => (.ok (), u)
  | .fail r => (.error r, t)

def setAll (t : Template) (changes : List (String × Data)) : Template :=
  changes.foldl (fun t change => (t.set change.1 change.2).2) t

@[simp] theorem setAll_nil (t : Template) : t.setAll [] = t := rfl

@[simp] theorem setAll_cons (t : Template) (change : String × Data)
    (changes : List (String × Data)) :
    t.setAll (change :: changes) = (t.set change.1 change.2).2.setAll changes := rfl

end Template

end OrderSheet
