import OrderSheet.Extract.Header
import OrderSheet.Extract.Table

/-!
# Product lines

Each row of the table is searched with the line pattern, and the mapping says which groups fill
the fields of a product. Rows that do not match are passed over.
-/

namespace OrderSheet

structure ProductLines where
  products : List Product
  problems : List Problem
  deriving DecidableEq, Repr

namespace ProductLines

def empty : ProductLines := ⟨[], []⟩

def patternField : String := "line_pattern"

def source : String := "pdf_templates.parsers.line_item_extractor"

/-- The trimmed text of a mapped group, if the field is mapped and the group takes part. -/
def fieldText (m : Regex.Match) (mapping : FieldMapping) (f : ProductField) : Option String :=
  ((mapping.get f).bind m.group?).map Pattern.trimmed

def readField (m : Regex.Match) (mapping : FieldMapping) (line : Nat) (f : ProductField) :
    Option Decimal × List Problem :=
  let raw := fieldText m mapping f
  match raw.bind fun s => Amount.read? Amount.Format.commaDecimal s.toList with
  | some d => (some d, [])
  | none =>
    let shown := raw.getD ""
    (none, [⟨f.name, s!"Could not read '{shown}' as a number", .fieldParse, some line⟩])

/-- The product of a matched line, with the problems of its fields. Without a quantity or a unit
price there is no product. -/
def product (m : Regex.Match) (mapping : FieldMapping) (line : Nat) :
    Option Product × List Problem :=
  let (quantity, quantityProblems) := readField m mapping line .quantity
  let (unitPrice, priceProblems) := readField m mapping line .unitPrice
  let (lineTotal, totalProblems) :=
    if mapping.lineTotal.isSome then readField m mapping line .lineTotal else (none, [])
  let problems := quantityProblems ++ priceProblems ++ totalProblems
  match quantity, unitPrice with
  | some q, some u =>
    (some ⟨(fieldText m mapping .description).getD "", q, u,
      (fieldText m mapping .sku).bind nonEmpty?, lineTotal, line⟩, problems)
  | _, _ => (none, problems)

structure RowResult where
  product : Option Product
  problems : List Problem
  journal : List Record
  deriving DecidableEq, Repr

def unreadableRecord : Record :=
  ⟨.warning, source, "Skipping product line with unreadable numbers"⟩

def readRow (r : Regex) (mapping : FieldMapping) (row : Table.Line) : RowResult :=
  if row.isOversized then ⟨none, [], [Table.oversizedRecord]⟩
  else
    match r.search row.text with
    | none => ⟨none, [], []⟩
    | some m =>
      let (p, problems) := product m mapping row.number
      ⟨p, problems, if p.isNone then [unreadableRecord] else []⟩

def readRows (r : Regex) (mapping : FieldMapping) (rows : List Table.Line) :
    Activity ProductLines :=
  let results := rows.map (readRow r mapping)
  ⟨results.flatMap RowResult.journal,
    .ok ⟨results.filterMap RowResult.product, results.flatMap RowResult.problems⟩⟩

/-- The product lines of a document. An empty pattern gives none; a pattern that is refused or
does not fit the mapping gives a single problem. -/
def extract (text : String) (rule : TableRule) : Activity ProductLines := do
  match nonEmpty? rule.linePattern with
  | none => return empty
  | some pattern =>
    match ← Pattern.tryCompile patternField pattern with
    | .error fault => return ⟨[], [patternProblem patternField pattern fault]⟩
    | .ok r =>
      match rule.mapping.fault? r.groups with
      | some fault => return ⟨[], [⟨"field_mapping", fault.message, .fieldMapping, none⟩]⟩
      | none => readRows r rule.mapping (Table.rows text rule.startMarker rule.endMarker)

end ProductLines

end OrderSheet
