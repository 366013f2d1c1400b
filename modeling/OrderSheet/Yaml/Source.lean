import OrderSheet.Text.Blank

/-!
# Reading a document of a store

The characters ahead with the line and column they stand in, and what the layout so far demands.
Whatever is wrong with the layout of a document makes it malformed.
-/

namespace OrderSheet.Yaml

inductive Fault where
  | malformed
  /-- The text of a number or a moment does not denote one, or a number no character. -/
  | value (message : String)
  | hugeCode
  | notMoment
  /-- A text tagged as a truth value is not one of the words for them. -/
  | noTruth (word : String)
  | noDigits
  /-- A number to the base sixty has too many parts for a binary one. -/
  | manyParts
  | nestedMoment
  deriving DecidableEq, Repr

inductive Token where
  | version (major : Nat)
  | tagShort (handle start : List Char)
  | otherDirective
  | documentStart
  | documentEnd
  | streamEnd
  | blockSequence
  | blockMapping
  | blockEnd
  | openSequence
  | closeSequence
  | openMapping
  | closeMapping
  | key
  | value
  | entry
  | comma
  | alias (name : List Char)
  | anchor (name : List Char)
  | tag (handle : Option (List Char)) (suffix : List Char)
  /-- A text, which is `plain` if it is not quoted and `whole` unless it holds half a surrogate
  pair. -/
  | scalar (text : List Char) ( plain whole : Bool)
  deriving DecidableEq, Repr

structure Stream where
  tokens : List Token
  fault : Fault
  deriving DecidableEq, Repr

/-- A place where a key may have begun that is not marked as one. -/
structure PendingKey where
  before : Nat
  required : Bool
  index : Nat
  line : Nat
  column : Nat
  deriving DecidableEq, Repr

structure Source where
  ahead : List Char
  index : Nat
  line : Nat
  column : Nat
  flow : Nat
  /-- The column of the current block, or -1 outside of blocks. -/
  indent : Int
  outer : List Int
  keyAllowed : Bool
  pending : List (Nat × PendingKey)
  /-- The tokens so far, backwards, and their number. -/
  tokens : List Token
  count : Nat
  deriving Repr

abbrev Scan := StateT Source (Except Fault)

namespace Source

def start (text : List Char) : Source := ⟨text, 0, 0, 0, 0, -1, [], true, [], [], 0⟩

end Source

/-- The end of the text reads as the null character, which no text contains. -/
def endMark : Char := '\x00'

def isBreak (c : Char) : Bool :=
  c == '\n' || c == '\r' || c == '\x85' || c == '\u2028' || c == '\u2029'

def isBreakOrEnd (c : Char) : Bool := isBreak c || c == endMark

def isGap (c : Char) : Bool := isBreakOrEnd c || c == ' ' || c == '\t'

def isFirmGap (c : Char) : Bool := isBreakOrEnd c || c == ' '

def isNameChar (c : Char) : Bool := c.isAlphanum || c == '-' || c == '_'

def isHex (c : Char) : Bool := c.isDigit || ('a' ≤ c && c ≤ 'f') || ('A' ≤ c && c ≤ 'F')

def hexValue (cs : List Char) : Nat :=
  cs.foldl (fun n c => 16 * n + (if c.isDigit then c.toNat - 48 else c.toLower.toNat - 87)) 0

namespace Scan

def refuse {α : Type} : Scan α := fun _ => .error .malformed

def require (b : Bool) : Scan Unit := if b then pure () else refuse

def peekAt (n : Nat) : Scan Char := fun s => .ok (s.ahead.getD n endMark, s)

def peek : Scan Char := peekAt 0

def step (s : Source) : Source :=
  match s.ahead with
  | [] => s
  | c :: cs =>
    let ends := c == '\n' || c == '\x85' || c == '\u2028' || c == '\u2029' ||
      (c == '\r' && cs.head? != some '\n')
    { s with
      ahead := cs
      index := s.index + 1
      line := if ends then s.line + 1 else s.line
      column := if ends then 0 else if c == '\ufeff' then s.column else s.column + 1 }

def stepBy (n : Nat) (s : Source) : Source :=
  match n with
  | 0 => s
  | n + 1 => stepBy n (step s)

def forward (n : Nat) : Scan Unit := modify (stepBy n)

def span (p : Char → Bool) : Scan (List Char) := do
  let s ← get
  let cs := s.ahead.takeWhile p
  forward cs.length
  return cs

def skipSpaces : Scan Unit := do
  let _ ← span (· == ' ')

def skipLine : Scan Unit := do
  let _ ← span fun c => !isBreak c

def lineBreak : Scan (Option Char) := do
  let c ← peek
  if c == '\r' && (← peekAt 1) == '\n' then
    forward 2
    return some '\n'
  else if c == '\r' || c == '\n' || c == '\x85' then
    forward 1
    return some '\n'
  else if c == '\u2028' || c == '\u2029' then
    forward 1
    return some c
  else return none

def atBoundary (mark : Char) : Scan Bool := fun s =>
  .ok (s.ahead.take 3 == [mark, mark, mark] && isGap (s.ahead.getD 3 endMark), s)

def atDocumentBoundary : Scan Bool := do
  return (← atBoundary '-') || (← atBoundary '.')

/-- What may follow a directive or the head of a block text: blanks, a comment and a line break. -/
def restOfLine : Scan Unit := do
  skipSpaces
  if (← peek) == '#' then skipLine
  require (isBreakOrEnd (← peek))
  let _ ← lineBreak

def emit (t : Token) : Scan Unit :=
  modify fun s => { s with tokens := t :: s.tokens, count := s.count + 1 }

/-- Puts a token in front of those from number `before` on. -/
def insert (before : Nat) (t : Token) : Scan Unit :=
  modify fun s =>
    { s with tokens := s.tokens.insertIdx (s.count - before) t, count := s.count + 1 }

end Scan

end OrderSheet.Yaml
