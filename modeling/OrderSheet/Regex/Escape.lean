import OrderSheet.Regex.Token
import OrderSheet.Text.Name

/-!
# Escapes and character sets

The meaning of a backslash with the character behind it, in a pattern and in a set of characters,
the members of such a set, and how a text is written that is meant literally.
-/

namespace OrderSheet.Regex

def isHexDigit (c : Char) : Bool :=
  c.isDigit || ('a' ≤ c && c ≤ 'f') || ('A' ≤ c && c ≤ 'F')

def isOctalDigit (c : Char) : Bool := '0' ≤ c && c ≤ '7'

def digitOf (c : Char) : Nat :=
  if c.isDigit then c.toNat - 48 else if 'a' ≤ c then c.toNat - 87 else c.toNat - 55

def numberIn (base : Nat) (cs : List Char) : Nat := cs.foldl (fun n c => base * n + digitOf c) 0

def controlOf? : Char → Option Nat
  | 'a' => some 7
  | 'f' => some 12
  | 'n' => some 10
  | 'r' => some 13
  | 't' => some 9
  | 'v' => some 11
  | '\\' => some 92
  | _ => none

/-- Escapes that stand for a class of characters, and whether the class is negated. -/
def categoryOf? : Char → Option (Category × Bool)
  | 'd' => some (.digit, false)
  | 'D' => some (.digit, true)
  | 's' => some (.space, false)
  | 'S' => some (.space, true)
  | 'w' => some (.word, false)
  | 'W' => some (.word, true)
  | _ => none

inductive Escape where
  | code (n : Nat)
  | category (k : Category) (negated : Bool)
  | anchor (a : Anchor)
  | group (number : Nat)
  deriving DecidableEq, Repr

namespace Parse

def escapeText (c : Char) (more : List Char) : String := String.ofList ('\\' :: c :: more)

def codeLimit : Nat := 0x80000000

/-- A character given by exactly `width` hexadecimal digits. -/
def hexEscape (c : Char) (width : Nat) : Parse Nat := do
  let digits ← takeChars isHexDigit width
  let written := escapeText c digits
  if digits.length < width then refuseBack (digits.length + 2) (.incompleteEscape written)
  else
    let n := numberIn 16 digits
    if n ≤ 0x10ffff then return n
    else if n < codeLimit then refuseBack (digits.length + 2) (.badEscape written)
    else throw .hugeCode

def namedEscape : Parse Nat := do
  if !(← accept '{') then refuse (.missing "\x7b")
  else
    let name ← takeName '}' "character name"
    match Text.codeNamed? name with
    | some n => return n
    | none => refuseBack (name.length + 4) (.unknownCharacter name)

def codeEscape (c : Char) : Parse Nat := do
  match c with
  | 'x' => hexEscape c 2
  | 'u' => hexEscape c 4
  | 'U' => hexEscape c 8
  | 'N' => namedEscape
  | c => if c.isAlpha then refuseBack 2 (.badEscape (escapeText c [])) else return c.toNat

def octalEscape (c : Char) (more : List Char) : Parse Nat := do
  let n := numberIn 8 (c :: more)
  if n > 0o377 then refuseBack (more.length + 2) (.largeOctal (escapeText c more)) else return n

def setEscape (ascii : Bool) (c : Char) : Parse Member := do
  if c == 'b' then return .code 8
  else
    match controlOf? c, categoryOf? c with
    | some n, _ => return .code n
    | none, some (k, negated) => return .category k negated ascii
    | none, none =>
      if isOctalDigit c then return .code (← octalEscape c (← takeChars isOctalDigit 2))
      else if c.isDigit then refuseBack 2 (.badEscape (escapeText c []))
      else return .code (← codeEscape c)

def anchorOf? (ascii : Bool) : Char → Option Anchor
  | 'A' => some .textStart
  | 'Z' => some .textEnd
  | 'b' => some (.boundary false ascii)
  | 'B' => some (.boundary true ascii)
  | _ => none

/-- Inside a lookbehind only closed groups from outside can be asked for. -/
def checkLookbehind (group : Nat) : Parse Unit := do
  let s ← get
  match s.lookbehindFrom with
  | none => return
  | some first =>
    if (s.groupWidth? group).isNone then refuse .openGroup
    else if group ≥ first then refuse .groupOfSameLookbehind
    else return

/-- A reference to a group that is written with `width` characters before this place. -/
def groupEscape (number width : Nat) : Parse Escape := do
  let s ← get
  if number < s.nextGroup then
    if (s.groupWidth? number).isNone then refuseBack width .openGroup
    else
      checkLookbehind number
      return .group number
  else refuseBack (width - 1) (.noSuchGroup number)

/-- A backslash and a digit other than zero: three octal digits are a character, anything else is
the number of a group. -/
def digitEscape (c : Char) : Parse Escape := do
  match ← takeChars Char.isDigit 1 with
  | [d] =>
    if isOctalDigit c && isOctalDigit d then
      match ← takeChars isOctalDigit 1 with
      | [] => groupEscape (numberIn 10 [c, d]) 3
      | more => return .code (← octalEscape c (d :: more))
    else groupEscape (numberIn 10 [c, d]) 3
  | _ => groupEscape (digitOf c) 2

def escape (ascii : Bool) (c : Char) : Parse Escape := do
  match anchorOf? ascii c, categoryOf? c, controlOf? c with
  | some a, _, _ => return .anchor a
  | none, some (k, negated), _ => return .category k negated
  | none, none, some n => return .code n
  | none, none, none =>
    if c == '0' then return .code (numberIn 8 (← takeChars isOctalDigit 2))
    else if c.isDigit then digitEscape c
    else return .code (← codeEscape c)

def setMember (ascii : Bool) : Mark → Parse Member
  | .escaped c => setEscape ascii c
  | .plain c => return .code c.toNat
  | .loose => return .code 92

def rangeOf? (first last : Member) : Option Member :=
  match first, last with
  | .code a, .code b => if a ≤ b then some (.range a b) else none
  | _, _ => none

/-- The members of a set up to its closing bracket, where `start` is the place of the opening one
and `found` holds the members so far, backwards. -/
def setMembers (ascii : Bool) (start fuel : Nat) (found : List Member) : Parse (List Member) := do
  match fuel with
  | 0 => refuseAt .unterminatedSet start
  | fuel + 1 =>
    match ← next with
    | none => refuseAt .unterminatedSet start
    | some this =>
      if this == .plain ']' && !found.isEmpty then return found.reverse
      else
        let first ← setMember ascii this
        if ← accept '-' then
          match ← next with
          | none => refuseAt .unterminatedSet start
          | some that =>
            if that == .plain ']' then return (.code 45 :: first :: found).reverse
            else
              let last ← setMember ascii that
              match rangeOf? first last with
              | some r => setMembers ascii start fuel (r :: found)
              | none =>
                refuseBack (this.chars.length + 1 + that.chars.length)
                  (.badRange this.text that.text)
        else setMembers ascii start fuel (first :: found)

end Parse

def marks : List Char :=
  ['(', ')', '[', ']', '\x7b', '\x7d', '?', '*', '+', '-', '|', '^', '$', '\\', '.', '&', '~', '#',
    ' ', '\t', '\n', '\r', '\x0b', '\x0c']

def verbatimChar (c : Char) : List Char := if marks.contains c then ['\\', c] else [c]

def verbatim (s : String) : String := String.ofList (s.toList.flatMap verbatimChar)

end OrderSheet.Regex
