import OrderSheet.Regex.Fault
import OrderSheet.Regex.Node

/-!
# Tokens of a written pattern

A written pattern is a sequence of characters, each alone or behind a backslash. Reading it keeps
the tokens ahead together with what is known about groups and options so far.
-/

namespace OrderSheet.Regex

inductive Mark where
  | plain (c : Char)
  | escaped (c : Char)
  | loose
  deriving DecidableEq, Repr

def Mark.chars : Mark → List Char
  | plain c => [c]
  | escaped c => ['\\', c]
  | loose => ['\\']

def Mark.text (m : Mark) : String := String.ofList m.chars

structure Token where
  pos : Nat
  mark : Mark
  deriving DecidableEq, Repr

def tokensFrom (pos : Nat) : List Char → List Token
  | '\\' :: c :: cs => ⟨pos, .escaped c⟩ :: tokensFrom (pos + 2) cs
  | ['\\'] => [⟨pos, .loose⟩]
  | c :: cs => ⟨pos, .plain c⟩ :: tokensFrom (pos + 1) cs
  | [] => []

/-- Options that apply to the whole pattern or to a part of it. -/
inductive Flag where
  | ignoreCase
  | locale
  | multiLine
  | dotAll
  | verbose
  | ascii
  | template
  | unicode
  deriving DecidableEq, Repr

def Flag.ofChar? : Char → Option Flag
  | 'i' => some ignoreCase
  | 'L' => some locale
  | 'm' => some multiLine
  | 's' => some dotAll
  | 'x' => some verbose
  | 'a' => some ascii
  | 't' => some template
  | 'u' => some unicode
  | _ => none

def Flag.isAlphabet : Flag → Bool
  | ascii | locale | unicode => true
  | _ => false

def combineFlags (flags added removed : List Flag) : List Flag :=
  let kept := if added.any Flag.isAlphabet then flags.filter (!·.isAlphabet) else flags
  (kept ++ added).filter (!removed.contains ·)

/-- How far a pattern has been read, and what is known so far. -/
structure Progress where
  ahead : List Token
  stop : Nat
  /-- The widths of the groups opened so far, from the latest one on; open groups have none. -/
  widths : List (Option Width)
  names : List (String × Nat)
  /-- Inside a lookbehind, groups from this number on belong to it. -/
  lookbehindFrom : Option Nat
  /-- Groups that are asked for by number, each with the place of the first question. -/
  asked : List (Nat × Nat)
  flags : List Flag
  deriving Repr

namespace Progress

def tell (s : Progress) : Nat :=
  match s.ahead with
  | [] => s.stop
  | t :: _ => t.pos

def nextGroup (s : Progress) : Nat := s.widths.length + 1

def groupWidth? (s : Progress) (group : Nat) : Option Width :=
  if group == 0 || group > s.widths.length then none
  else (s.widths[s.widths.length - group]?).join

def closeGroup (s : Progress) (group : Nat) (w : Width) : Progress :=
  { s with widths := s.widths.set (s.widths.length - group) (some w) }

def groupNamed? (s : Progress) (name : String) : Option Nat :=
  (s.names.find? (·.1 == name)).map (·.2)

end Progress

abbrev Parse := StateT Progress (Except Fault)

namespace Parse

/-- Refuses the pattern at the place `back` characters before the next token. -/
def refuseBack {α : Type} (back : Nat) (reason : Reason) : Parse α := fun s =>
  .error (.malformed reason (s.tell - back))

def refuse {α : Type} (reason : Reason) : Parse α := refuseBack 0 reason

def refuseAt {α : Type} (reason : Reason) (pos : Nat) : Parse α := fun _ =>
  .error (.malformed reason pos)

def checkAhead : List Token → Except Fault Unit
  | ⟨pos, .loose⟩ :: _ => .error (.malformed .looseBackslash pos)
  | _ => .ok ()

def peek : Parse (Option Mark) := fun s => .ok (s.ahead.head?.map Token.mark, s)

def advance : Parse Unit := fun s =>
  let rest := s.ahead.tail
  match checkAhead rest with
  | .ok _ => .ok ((), { s with ahead := rest })
  | .error e => .error e

def next : Parse (Option Mark) := do
  let m ← peek
  advance
  return m

def tell : Parse Nat := fun s => .ok (s.tell, s)

def accept (c : Char) : Parse Bool := do
  if (← peek) == some (.plain c) then
    advance
    return true
  else return false

/-- Splits off up to `limit` tokens that satisfy a condition. -/
def spanTokens (p : Mark → Bool) (limit : Nat) (found : List Mark) :
    List Token → Except Fault (List Mark × List Token)
  | [] => .ok (found.reverse, [])
  | t :: ts =>
    match limit with
    | 0 => .ok (found.reverse, t :: ts)
    | limit + 1 =>
      if p t.mark then
        match checkAhead ts with
        | .ok _ => spanTokens p limit (t.mark :: found) ts
        | .error e => .error e
      else .ok (found.reverse, t :: ts)

/-- Consumes up to `limit` tokens that satisfy a condition. -/
def takeWhile (p : Mark → Bool) (limit : Nat) : Parse (List Mark) := fun s =>
  match spanTokens p limit [] s.ahead with
  | .ok (ms, rest) => .ok (ms, { s with ahead := rest })
  | .error e => .error e

def takeUntil (c : Char) : Parse (List Mark) := fun s =>
  takeWhile (· != .plain c) s.ahead.length s

def charsOf (ms : List Mark) : List Char := ms.flatMap Mark.chars

def plainChar? : Mark → Option Char
  | .plain c => some c
  | _ => none

def takeChars (p : Char → Bool) (limit : Nat) : Parse (List Char) := do
  return charsOf (← takeWhile (fun m => (plainChar? m).any p) limit)

def takeName (terminator : Char) (what : String) : Parse String := do
  let name := charsOf (← takeUntil terminator)
  if !(← accept terminator) then
    if name.isEmpty then refuse (.missing what)
    else refuseBack name.length (.unterminatedName terminator)
  else if name.isEmpty then refuseBack 1 (.missing what)
  else return String.ofList name

end Parse

end OrderSheet.Regex
