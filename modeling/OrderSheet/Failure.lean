import OrderSheet.Data.Check
import OrderSheet.Regex.Fault
import OrderSheet.Number.Rounding

/-!
# Failures

Everything that can stop an operation as a whole, with the name and the sentence that a caller
is shown.
-/

namespace OrderSheet

/-- Why a field mapping cannot be used with a line pattern. -/
inductive MappingFault where
  | unassigned (fields : List String)
  | beyond (index groups : Nat)
  deriving DecidableEq, Repr

def MappingFault.message : MappingFault → String
  | unassigned fields => "No capture group assigned to: " ++ ", ".intercalate fields
  | beyond index groups =>
    s!"Field mapping refers to group {index} but the pattern has only {groups} capture group(s)"

inductive SaveFault where
  | unnamed
  | longName (length limit : Nat)
  | untested
  deriving DecidableEq, Repr

def SaveFault.message : SaveFault → String
  | unnamed => "Template name is required"
  | longName length limit =>
    s!"Template name is {length} characters long; use at most {limit}"
  | untested =>
    "Test the template on a sample document first: " ++
      "at least one product must be extracted before saving"

inductive StoreFault where
  | noDirectory (path : String)
  | noFile (id path : String)
  | unreadable (id : String)
  | invalid (id : String) (rejection : Rejection)
  | unexpected (id detail : String)
  | noId
  | unwritable (id detail : String)
  deriving Repr

def StoreFault.message : StoreFault → String
  | noDirectory path => "Template directory not found: " ++ path
  | noFile id path => s!"Template file not found for '{id}': {path}"
  | unreadable id => s!"Failed to parse YAML for template '{id}': <yaml error>"
  | invalid id r => s!"Invalid template '{id}': {r.message}"
  | unexpected id detail => s!"Unexpected error loading template '{id}': {detail}"
  | noId => "Cannot save a template without an id"
  | unwritable id detail => s!"Failed to write template '{id}': {detail}"

inductive Failure where
  /-- The pattern of a field is not a pattern, or is too large to build. -/
  | pattern (field pattern : String) (fault : Regex.Fault)
  /-- A layout has more columns of a kind than there are fields for it. -/
  | layout (position : Nat) (label kind : String) (limit : Nat)
  | mapping (fault : MappingFault)
  | notVisual
  | save (fault : SaveFault)
  | store (fault : StoreFault)
  | rejected (r : Rejection)
  | arithmetic
  | undecodable
  | value (message : String)
  | noTruth (word : String)
  | noDigits
  | hugeNumber
  /-- A file holds the number of a character that takes more than 31 bits. -/
  | hugeCode
  | nestedMoment
  deriving Repr

namespace Failure

def kind : Failure → String
  | pattern _ _ fault =>
    match fault with
    | .malformed .. | .unsupported _ => "PatternCompileError"
    | .hugeRepeat | .hugeCode => "OverflowError"
    | .hugeNumber _ | .conflictingAlphabets => "ValueError"
  | layout .. => "ColumnConfigurationError"
  | mapping _ => "FieldMappingError"
  | notVisual => "DraftModeError"
  | save _ => "SaveValidationError"
  | store _ => "ConfigurationError"
  | rejected (.issues _) => "ValidationError"
  | rejected (.notIterable _) => "TypeError"
  | arithmetic => "Overflow"
  | undecodable => "UnicodeDecodeError"
  | value _ => "ValueError"
  | noTruth _ => "KeyError"
  | noDigits => "IndexError"
  | hugeNumber | hugeCode => "OverflowError"
  | nestedMoment => "TypeError"

def message : Failure → String
  | pattern field source fault =>
    let text := fault.text source.toList
    match fault with
    | .malformed .. | .unsupported _ => s!"Invalid pattern for '{field}': {text}"
    | _ => text
  | layout position label kind limit =>
    s!"Column {position} ('{label}'): a line can have at most {limit} '{kind}' column(s)"
  | mapping fault => fault.message
  | notVisual =>
    "Columns can only be edited in visual mode; switch back to visual mode first"
  | save fault => fault.message
  | store fault => fault.message
  | rejected r => r.message
  | arithmetic => "[<class 'decimal.Overflow'>]"
  | undecodable => "<decode error>"
  | value message => message
  | noTruth word => Text.quoteString word
  | noDigits => "string index out of range"
  | hugeNumber => "int too large to convert to float"
  | hugeCode => "Python int too large to convert to C int"
  | nestedMoment => "expected string or bytes-like object, got 'list'"

section

variable {α β : Type} {x : Except Failure α} {g : α → β}

theorem map_eq_ok {b : β} : x.map g = .ok b ↔ ∃ a, x = .ok a ∧ g a = b := by
  cases x <;> simp [Except.map]

theorem map_eq_error {f : Failure} : x.map g = .error f ↔ x = .error f := by
  cases x <;> simp [Except.map]

end

end Failure

end OrderSheet
