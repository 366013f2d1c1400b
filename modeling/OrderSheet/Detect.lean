import OrderSheet.Extract.Document
import OrderSheet.Review.Judge
import OrderSheet.Text.Fold

/-!
# Choosing a template

The active template with the most keywords in a document is the one for it; among equals the one
that is listed first. Keywords are found regardless of case.
-/

namespace OrderSheet.Detect

def folded (s : String) : List Nat := s.toList.map Text.fold

def occurs (part : List Nat) : List Nat → Bool
  | [] => part.isEmpty
  | n :: ns => part.isPrefixOf (n :: ns) || occurs part ns

/-- The number of keywords that occur in a document; empty ones do not count. -/
def hits (document : String) (keywords : List String) : Nat :=
  let text := folded document
  keywords.countP fun k => !k.isEmpty && occurs (folded k) text

def search (document keyword : String) : Except Regex.Fault (Option Regex.Match) :=
  (Regex.compileWith [.ignoreCase] (Regex.verbatim keyword)).map (·.search document.toList)

/-- The template with the most hits, with its position. The first argument holds the best one so
far with its hits. -/
def bestFrom (document : String) (best : Option (Nat × Template)) (most position : Nat) :
    List Template → Option (Nat × Template) × Nat
  | [] => (best, most)
  | t :: ts =>
    let n := if t.active then hits document t.keywords else 0
    if most < n then bestFrom document (some (position, t)) n (position + 1) ts
    else bestFrom document best most (position + 1) ts

def best (document : String) (templates : List Template) : Option (Nat × Template) :=
  (bestFrom document none 0 0 templates).1

def source : String := "pdf_templates.parsers.template_detector"

def detect (document : String) (templates : List Template) : Activity (Option (Nat × Template)) :=
  match best document templates with
  | none => ⟨[⟨.warning, source, "No template matched the document"⟩], .ok none⟩
  | some found => ⟨[⟨.info, source, "Template detected"⟩], .ok (some found)⟩

inductive Processed where
  | undetected
  | refused (template : Template) (refusal : Refusal)
  | read (template : Template) (extraction : Extraction) (review : Review)
  deriving Repr

/-- Detects the template of a document, reads the document with it and judges what was read. -/
def process (templates : List Template) (document : String) : Activity Processed := do
  match ← detect document templates with
  | none => return .undetected
  | some (_, t) =>
    match ← Document.extractText t document with
    | .refused r => return .refused t r
    | .extracted e => return .read t e (← Review.validate Settings.tolerance e)

end OrderSheet.Detect
