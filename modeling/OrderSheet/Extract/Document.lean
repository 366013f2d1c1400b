import OrderSheet.Data.Display
import OrderSheet.Extract.Lines
import OrderSheet.Paths

/-!
# Reading a document

A document is refused as a whole when it is no text, blank or too long; otherwise its header and
its product lines are read independently of each other.
-/

namespace OrderSheet

namespace Document

def source : String := "TemplateParser"

def summary (title : String) (fields : List (String × String)) : String :=
  s!"Template: {title} | " ++ " | ".intercalate (fields.map fun (k, v) => k ++ "=" ++ v)

def summaryFields (e : Extraction) : List (String × String) :=
  [("order_number", e.orderNumber.getD "None"), ("total", (e.total.map Decimal.toText).getD "None"),
    ("items", toString e.products.length), ("errors", toString e.problems.length)]

def refuse (t : Template) (message : String) : Activity Outcome :=
  ⟨[⟨.error, source, "Extraction failed"⟩], .ok (.refused ⟨message, nonEmpty? t.name⟩)⟩

def extractText (t : Template) (text : String) : Activity Outcome := do
  let cs := text.toList
  let length := cs.length
  if Text.isBlankText cs then refuse t "Document text is empty"
  else if Settings.maxDocument < length then
    refuse t (s!"Document text has {length} characters, " ++
      s!"the limit is {Settings.maxDocument}")
  else
    let header ← Header.extract cs t.header
    let lines ← ProductLines.extract text t.table
    let e : Extraction := ⟨nonEmpty? t.name, header.orderNumber, header.orderDate,
      header.supplierName, header.total, lines.products, header.problems ++ lines.problems⟩
    Activity.note [⟨.info, source, summary t.title (summaryFields e)⟩]
    return .extracted e

def extract (t : Template) (document : Data) : Activity Outcome :=
  match document with
  | .text s => extractText t s
  | d => refuse t s!"Expected document text, got {d.typeName}"

def extractMissingFile (t : Template) (path : String) : Activity Outcome :=
  refuse t ("PDF file not found: " ++ String.ofList (Paths.normal path.toList))

end Document

end OrderSheet
