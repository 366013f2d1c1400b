import OrderSheet.Activity
import OrderSheet.Regex.Search
import OrderSheet.Text.Blank

/-!
# Patterns of fields

Compiling the pattern of a field, and the text it finds in a document.
-/

namespace OrderSheet.Pattern

def source : String := "pdf_templates.parsers.extractors.regex_extractor"

/-- Compiles the pattern of a field. A pattern that is refused is reported and comes back as its
fault; one that is too large to build stops the activity. -/
def tryCompile (field pattern : String) : Activity (Except Regex.Fault Regex) :=
  match Regex.compile pattern with
  | .ok r => pure (.ok r)
  | .error fault =>
    match fault with
    | .malformed .. | .unsupported _ =>
      ⟨[⟨.warning, source, "Pattern failed to compile"⟩], .ok (.error fault)⟩
    | _ => Activity.fail (.pattern field pattern fault)

def compile (field pattern : String) : Activity Regex := do
  match ← tryCompile field pattern with
  | .ok r => return r
  | .error fault => Activity.fail (.pattern field pattern fault)

def trimmed (cs : List Char) : String := String.ofList (Text.strip cs)

/-- The group that is taken when none is asked for: the first one, or the whole match. -/
def defaultGroup (r : Regex) : Nat := if r.groups == 0 then 0 else 1

/-- The trimmed text of a group in the first match. A group that the pattern does not have is
reported. -/
def firstMatch (r : Regex) (text : List Char) (group : Option Int) : Activity (Option String) :=
  match r.search text with
  | none => pure none
  | some m =>
    let index : Int := group.getD (defaultGroup r)
    if 0 ≤ index && index ≤ r.groups then pure ((m.group? index.toNat).map trimmed)
    else ⟨[⟨.warning, source, "Invalid group index"⟩], .ok none⟩

/-- The groups of a match, where a group that takes no part is empty. -/
def groupTexts (m : Regex.Match) : List String :=
  m.groups.map fun g => String.ofList (g.getD [])

end OrderSheet.Pattern
