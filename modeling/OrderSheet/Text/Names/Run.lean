import OrderSheet.Text.Blank

/-!
# Runs of names

The names of characters that follow each other mostly have words in common. They are written one
behind the other, and the words that a name shares with the one before it are only counted: a small
letter in front of a name stands for as many first words as its place in the alphabet says, and one
behind it for as many last words.
-/

namespace OrderSheet.Text

/-- The names of consecutive characters, separated by commas. A character without a name has an
empty place. -/
structure NameRun where
  first : Nat
  lines : List String
  deriving Repr

def sharedWords (c : Option Char) : Nat :=
  match c.filter Char.isLower with
  | some c => c.toNat - 96
  | none => 0

/-- The words of a name that is written behind one with the words `before`. -/
def spellName (before : List (List Char)) (written : List Char) : List (List Char) :=
  let front := sharedWords written.head?
  let rest := if front == 0 then written else written.tail
  let back := sharedWords rest.getLast?
  let middle := if back == 0 then rest else rest.dropLast
  let own := if middle.isEmpty then [] else splitOnChar ' ' middle
  before.take front ++ own ++ before.drop (before.length - back)

/-- The code point of a name among written ones, the first of which belongs to `code`. -/
def codeAmong? (wanted before : List (List Char)) (code : Nat) : List (List Char) → Option Nat
  | [] => none
  | [] :: rest => codeAmong? wanted before (code + 1) rest
  | written :: rest =>
    let words := spellName before written
    if words == wanted then some code else codeAmong? wanted words (code + 1) rest

def NameRun.codeOf? (r : NameRun) (wanted : List (List Char)) : Option Nat :=
  codeAmong? wanted [] r.first (r.lines.flatMap fun l => splitOnChar ',' l.toList)

end OrderSheet.Text
