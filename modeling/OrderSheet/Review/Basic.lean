import OrderSheet.Data.Check
import OrderSheet.Journal

/-!
# Reviews

A review collects findings about an extraction. It is valid as long as no error has been found.
-/

namespace OrderSheet

inductive Detail where
  | text (s : String)
  | int (n : Int)
  | real (x : Binary)
  | truth (b : Bool)
  deriving Repr, DecidableEq

structure Finding where
  severity : Severity
  field : Option String
  message : String
  code : Option String
  product : Option Nat
  context : Option (List (String × Detail))
  deriving Repr, DecidableEq

structure Review where
  valid : Bool
  errors : List Finding
  warnings : List Finding
  notes : List Finding
  deriving Repr, DecidableEq

def Severity.name : Severity → String
  | info => "info"
  | warning => "warning"
  | error => "error"

namespace Review

def empty : Review := ⟨true, [], [], []⟩

def add (r : Review) (f : Finding) : Review :=
  match f.severity with
  | .error => { r with valid := false, errors := r.errors ++ [f] }
  | .warning => { r with warnings := r.warnings ++ [f] }
  | .info => { r with notes := r.notes ++ [f] }

def addAll (r : Review) (fs : List Finding) : Review := fs.foldl add r

@[simp] theorem addAll_nil (r : Review) : r.addAll [] = r := rfl

@[simp] theorem addAll_cons (r : Review) (f : Finding) (fs : List Finding) :
    r.addAll (f :: fs) = (r.add f).addAll fs := rfl

def summary (title : String) (r : Review) : String :=
  let verdict := if r.valid then "PASS" else "FAIL"
  s!"Validation {verdict} | Template: {title} | errors={r.errors.length} " ++
    s!"warnings={r.warnings.length}"

end Review

def Finding.line (f : Finding) : String :=
  let position := match f.product with
    | some n => s!" (product {n})"
    | none => ""
  "  [" ++ f.code.getD "None" ++ "]" ++ position ++ " " ++ f.message

def Review.journal (source title : String) (r : Review) : List Record :=
  ⟨.info, source, r.summary title⟩ ::
    (r.errors ++ r.warnings).map fun f => ⟨f.severity, source, f.line⟩

namespace Data

/-- A text, a number or a truth value; anything else is no value of any of these types. -/
def checkDetail (d : Data) : Check Detail :=
  match d with
  | .text s => .pass (.text s)
  | .int n => .pass (.int n)
  | .real x => .pass (.real x)
  | .bool b => .pass (.truth b)
  | d =>
    match d.checkText with
    | .pass s => .pass (.text s)
    | .fail r =>
      let asText : Check Detail := Check.inside "str" (.fail r)
      (fun t _ _ _ => t) <$> asText
        <*> Check.inside "int" (Detail.int <$> d.checkInteger)
        <*> Check.inside "float" (.complain .notNumber : Check Detail)
        <*> Check.inside "bool" (Detail.truth <$> d.checkTruth)

def keyStep : Data → String
  | .text s => s
  | .bool b => if b then "1" else "0"
  | d => d.spell

def checkDetailEntry (entry : Data × Data) : Check (String × Detail) :=
  Check.inside (keyStep entry.1) <|
    Prod.mk <$> Check.inside "[key]" (checkText entry.1) <*> checkDetail entry.2

def checkDetailEntries : List (Data × Data) → Check (List (String × Detail))
  | [] => .pass []
  | e :: es => List.cons <$> checkDetailEntry e <*> checkDetailEntries es

def putDetail (details : List (String × Detail)) (entry : String × Detail) :
    List (String × Detail) :=
  match details with
  | [] => [entry]
  | e :: es => if e.1 = entry.1 then entry :: es else e :: putDetail es entry

/-- Details by their keys. Different keys can be the same text, and then the later one counts. -/
def checkDetails : Data → Check (List (String × Detail))
  | .map entries => (checkDetailEntries entries).map (·.foldl putDetail [])
  | _ => .complain .notMapping

def checkFinding (severity : Severity) : Data → Check Finding :=
  checkRecord "ValidationMessage" fun fields =>
    Finding.mk severity <$> given fields "field" (checkOptional checkText) none
      <*> required fields "message" checkText
      <*> given fields "code" (checkOptional checkText) none
      <*> given fields "item_index" (checkOptional checkPositive) none
      <*> given fields "context" (checkOptional checkDetails) none

end Data

/-- What a finding is reported with: raw values, null where one is left out. -/
structure Report where
  severity : Severity
  message : Data
  field : Data
  code : Data
  product : Data
  context : Data

namespace Report

def note (message field code context : Data) : Report :=
  ⟨.info, message, field, code, .null, context⟩

def check (call : Report) : Check Finding :=
  Data.checkFinding call.severity <|
    .map [(.text "field", call.field), (.text "message", call.message), (.text "code", call.code),
      (.text "item_index", call.product), (.text "context", call.context)]

end Report

abbrev Reporting := ExceptT Rejection (StateM Review)

namespace Review

def append (r : Review) (s : Severity) (f : Finding) : Review :=
  match s with
  | .error => { r with errors := r.errors ++ [f] }
  | .warning => { r with warnings := r.warnings ++ [f] }
  | .info => { r with notes := r.notes ++ [f] }

def invalidate (r : Review) : Review := { r with valid := false }

/-- Makes the finding, puts it into its list, and invalidates the review if it is an error. -/
def report (call : Report) : Reporting Unit := do
  match call.check with
  | .fail x => throw x
  | .pass f =>
    modify (·.append call.severity f)
    if call.severity = .error then modify invalidate

def reportAll (r : Review) (calls : List Report) : Review :=
  calls.foldl (fun r call => ((report call).run.run r).2) r

@[simp] theorem reportAll_nil (r : Review) : r.reportAll [] = r := rfl

@[simp] theorem reportAll_cons (r : Review) (call : Report) (calls : List Report) :
    r.reportAll (call :: calls) = ((report call).run.run r).2.reportAll calls := rfl

end Review

end OrderSheet
