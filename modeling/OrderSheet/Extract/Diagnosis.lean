import OrderSheet.Extract.Lines

/-!
# Diagnosis of a line pattern

Why no products are found: the line pattern is tried on the first row of the table, and what it
captures there is shown.
-/

namespace OrderSheet

inductive Obstacle where
  | noCandidate
  | noPattern
  | badPattern (detail : String)
  deriving DecidableEq, Repr

namespace Obstacle

def code : Obstacle → String
  | noCandidate => "NO_CANDIDATE_LINE"
  | noPattern => "MISSING_PATTERN"
  | badPattern _ => "PATTERN_ERROR"

def status : Obstacle → String
  | noCandidate => "No product line found after the table start marker."
  | noPattern => "No line pattern configured."
  | badPattern _ => "The line pattern is not a valid regular expression."

def detail? : Obstacle → Option String
  | badPattern d => some d
  | _ => none

end Obstacle

structure LineTrial where
  text : String
  number : Nat
  matched : Bool
  groups : List String
  mapped : List (ProductField × String)
  deriving DecidableEq, Repr

inductive Diagnosis where
  | obstacle (o : Obstacle)
  | trial (t : LineTrial)
  deriving DecidableEq, Repr

namespace Diagnosis

def mappedText (groups : List String) (index : Nat) : String :=
  if index == 0 then groups.getLast?.getD "" else (groups[index - 1]?).getD ""

def mappedTexts (mapping : FieldMapping) (groups : List String) : List (ProductField × String) :=
  (mapping.assigned.filter fun a => a.2 ≤ groups.length).map fun (f, i) => (f, mappedText groups i)

def tryLine (r : Regex) (mapping : FieldMapping) (line : Table.Line) : LineTrial :=
  let text := String.ofList line.text
  match r.search line.text with
  | none => ⟨text, line.number, false, [], []⟩
  | some m =>
    let groups := Pattern.groupTexts m
    ⟨text, line.number, true, groups, mappedTexts mapping groups⟩

def diagnose (text : String) (rule : TableRule) : Activity Diagnosis := do
  let rows := Table.rows text rule.startMarker rule.endMarker
  Activity.note (Table.oversizedRecords (rows.takeWhile Table.Line.isOversized))
  match (Table.candidates rows).head? with
  | none => return .obstacle .noCandidate
  | some line =>
    match nonEmpty? rule.linePattern with
    | none => return .obstacle .noPattern
    | some pattern =>
      match ← Pattern.tryCompile ProductLines.patternField pattern with
      | .error fault => return .obstacle (.badPattern (fault.text pattern.toList))
      | .ok r => return .trial (tryLine r rule.mapping line)

end Diagnosis

end OrderSheet
