import OrderSheet.Text.Blank
import OrderSheet.Text.Letter
import OrderSheet.Text.Fold

/-!
# Patterns for one character

A literal character, any character, or a set of characters, ranges and classes. Letters are
compared exactly or without regard to case.
-/

namespace OrderSheet.Regex

inductive Casing where
  | exact
  | folded
  | asciiFolded
  deriving DecidableEq, Repr

/-- The classes of characters that have a name of their own. -/
inductive Category where
  | digit
  | space
  | word
  deriving DecidableEq, Repr

def Category.has (k : Category) (ascii : Bool) (c : Char) : Bool :=
  match k, ascii with
  | .digit, false => Text.isDigit c
  | .digit, true => c.isDigit
  | .space, false => Text.isBlank c
  | .space, true => Text.isAsciiBlank c
  | .word, false => Text.isWord c
  | .word, true => Text.isAsciiWord c

/-- An element of a set of characters. Characters are given by code point, so that points that
are no characters can be written and never match. -/
inductive Member where
  | code (n : Nat)
  | range (first last : Nat)
  | category (k : Category) (negated ascii : Bool)
  deriving DecidableEq, Repr

def Casing.codeOf (casing : Casing) (c : Char) : Nat :=
  match casing with
  | .exact => c.toNat
  | .folded => Text.fold c
  | .asciiFolded => Text.asciiFold c

def Casing.normal (casing : Casing) (n : Nat) : Nat :=
  match casing with
  | .exact => n
  | .folded => Text.foldCode n
  | .asciiFolded => if 65 ≤ n && n ≤ 90 then n + 32 else n

/-- Whether some character that agrees with `n` lies in the range. -/
def Casing.inRange (casing : Casing) (first last n : Nat) : Bool :=
  let within (m : Nat) : Bool := first ≤ m && m ≤ last
  match casing with
  | .exact => within n
  | .folded => within n || (Text.sameLetters n).any within
  | .asciiFolded => within n || (97 ≤ n && n ≤ 122 && within (n - 32))

def Member.has (m : Member) (casing : Casing) (c : Char) : Bool :=
  match m with
  | .code n => casing.codeOf c == casing.normal n
  | .range first last => casing.inRange first last (casing.codeOf c)
  | .category k negated ascii => k.has ascii c != negated

inductive Single where
  | literal (casing : Casing) (normal : Nat)
  | inLine
  | anyChar
  | set (casing : Casing) (negated : Bool) (members : List Member)
  deriving DecidableEq, Repr

def Single.accepts (p : Single) (c : Char) : Bool :=
  match p with
  | .literal casing n => casing.codeOf c == n
  | .inLine => c != '\n'
  | .anyChar => true
  | .set casing negated members => members.any (·.has casing c) != negated

end OrderSheet.Regex
