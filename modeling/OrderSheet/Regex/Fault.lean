import OrderSheet.Text.Quote

/-!
# Faults of patterns

Why a written pattern is refused, and the sentence that says so. Most faults have a position in
the pattern; its line and column are added when the pattern has several lines.
-/

namespace OrderSheet.Regex

inductive Reason where
  | looseBackslash
  | badEscape (escape : String)
  | incompleteEscape (escape : String)
  | largeOctal (escape : String)
  | missing (what : String)
  | unterminatedName (terminator : Char)
  | unknownCharacter (name : String)
  | badGroupName (name : String)
  | unknownGroupName (name : String)
  | openGroup
  | groupOfSameLookbehind
  | noSuchGroup (number : Nat)
  | badGroupNumber
  | groupRedefined (name : String) (number earlier : Nat)
  | tooManyGroups
  | unknownExtension (mark : String)
  | unexpectedEnd
  | unterminatedSet
  | unterminatedComment
  | unterminatedGroup
  | badRange (first last : String)
  | reversedRepeat
  | nothingToRepeat
  | multipleRepeat
  | misplacedFlags
  | unknownFlag
  | localeFlag
  | incompatibleFlags
  | alphabetOff
  | globalOn
  | globalOff
  | onAndOff
  | threeBranches
  | unbalanced
  | unfixedLookbehind
  | longLookbehind
  | repeatInTemplate (operator : String)
  deriving DecidableEq, Repr

def Reason.text : Reason → String
  | looseBackslash => "bad escape (end of pattern)"
  | badEscape e => "bad escape " ++ e
  | incompleteEscape e => "incomplete escape " ++ e
  | largeOctal e => "octal escape value " ++ e ++ " outside of range 0-0o377"
  | missing what => "missing " ++ what
  | unterminatedName c => "missing " ++ c.toString ++ ", unterminated name"
  | unknownCharacter name => "undefined character name " ++ Text.quoteString name
  | badGroupName name => "bad character in group name " ++ Text.quoteString name
  | unknownGroupName name => "unknown group name " ++ Text.quoteString name
  | openGroup => "cannot refer to an open group"
  | groupOfSameLookbehind =>
    "cannot refer to group defined in the same lookbehind subpattern"
  | noSuchGroup n => s!"invalid group reference {n}"
  | badGroupNumber => "bad group number"
  | groupRedefined name n earlier =>
    "redefinition of group name " ++ Text.quoteString name ++ s!" as group {n}; was group {earlier}"
  | tooManyGroups => "too many groups"
  | unknownExtension mark => "unknown extension ?" ++ mark
  | unexpectedEnd => "unexpected end of pattern"
  | unterminatedSet => "unterminated character set"
  | unterminatedComment => "missing ), unterminated comment"
  | unterminatedGroup => "missing ), unterminated subpattern"
  | badRange first last => "bad character range " ++ first ++ "-" ++ last
  | reversedRepeat => "min repeat greater than max repeat"
  | nothingToRepeat => "nothing to repeat"
  | multipleRepeat => "multiple repeat"
  | misplacedFlags => "global flags not at the start of the expression"
  | unknownFlag => "unknown flag"
  | localeFlag => "bad inline flags: cannot use 'L' flag with a str pattern"
  | incompatibleFlags => "bad inline flags: flags 'a', 'u' and 'L' are incompatible"
  | alphabetOff => "bad inline flags: cannot turn off flags 'a', 'u' and 'L'"
  | globalOn => "bad inline flags: cannot turn on global flag"
  | globalOff => "bad inline flags: cannot turn off global flag"
  | onAndOff => "bad inline flags: flag turned on and off"
  | threeBranches => "conditional backref with more than two branches"
  | unbalanced => "unbalanced parenthesis"
  | unfixedLookbehind => "look-behind requires fixed-width pattern"
  | longLookbehind => "looks too much behind"
  | repeatInTemplate op => "internal: unsupported template operator " ++ op

/-- Why a written pattern does not become one that can be matched. The last four cases are not
faults of how the pattern is written but limits of what is built from it. -/
inductive Fault where
  | malformed (reason : Reason) (pos : Nat)
  | unsupported (reason : Reason)
  | hugeRepeat
  | hugeNumber (digits : Nat)
  | hugeCode
  | conflictingAlphabets
  deriving DecidableEq, Repr

def lineAndColumn (pattern : List Char) (pos : Nat) : Nat × Nat :=
  let before := pattern.take pos
  let column := (before.reverse.takeWhile (· != '\n')).length + 1
  (before.count '\n' + 1, column)

def Fault.text (pattern : List Char) : Fault → String
  | malformed reason pos =>
    let located := s!"{reason.text} at position {pos}"
    if pattern.contains '\n' then
      let (line, column) := lineAndColumn pattern pos
      located ++ s!" (line {line}, column {column})"
    else located
  | unsupported reason => reason.text
  | hugeRepeat => "the repetition number is too large"
  | hugeNumber n =>
    s!"Exceeds the limit (4300 digits) for integer string conversion: value has {n} digits; " ++
      "use sys.set_int_max_str_digits() to increase the limit"
  | hugeCode => "Python int too large to convert to C int"
  | conflictingAlphabets => "ASCII and UNICODE flags are incompatible"

end OrderSheet.Regex
