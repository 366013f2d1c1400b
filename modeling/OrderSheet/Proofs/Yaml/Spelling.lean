import Mathlib
import OrderSheet.Proofs.Yaml.Places
import OrderSheet.Yaml.Print
import OrderSheet.Yaml.Scalar

/-!
# Spellings of texts

The ways in which a text can be written so that it reads as intended. Plain and quoted texts may
go on in the next line, which begins with a fixed number of spaces. What a text in single quotes
reads as need not be what was written there: a break that is no line feed may read as one.
-/

namespace OrderSheet.Yaml

open Scan (breakRead foldedBreak)

def lineStart (column : Nat) : List Char := '\n' :: List.replicate column ' '

inductive PlainSpelling (column : Nat) : List Char → List Char → Prop
  | last {c : Char} : isWritable c = true → isGap c = false → c ≠ ':' →
      PlainSpelling column [c] [c]
  | char {c d : Char} {cs xs : List Char} : isWritable c = true → isGap c = false →
      (c = ':' → isGap d = false) → PlainSpelling column (d :: cs) xs →
      PlainSpelling column (c :: d :: cs) (c :: xs)
  | spaces {n : Nat} {d : Char} {cs xs : List Char} : d ≠ ' ' → d ≠ '#' →
      PlainSpelling column (d :: cs) xs →
      PlainSpelling column (List.replicate (n + 1) ' ' ++ d :: cs)
        (List.replicate (n + 1) ' ' ++ xs)
  | fold {d : Char} {cs xs : List Char} : d ≠ ' ' → d ≠ '#' →
      PlainSpelling column (d :: cs) xs →
      PlainSpelling column (' ' :: d :: cs) (lineStart column ++ xs)

/-- What a text between single quotes reads as, and the text. -/
inductive SingleSpelling (column : Nat) : List Char → List Char → Prop
  | nil : SingleSpelling column [] []
  | char {c : Char} {cs xs : List Char} : isWritable c = true → isGap c = false → c ≠ '\'' →
      SingleSpelling column cs xs → SingleSpelling column (c :: cs) (c :: xs)
  | quote {cs xs : List Char} : SingleSpelling column cs xs →
      SingleSpelling column ('\'' :: cs) ('\'' :: '\'' :: xs)
  | space {cs xs : List Char} : (∀ c ∈ xs.head?, isBreak c = false) →
      SingleSpelling column cs xs → SingleSpelling column (' ' :: cs) (' ' :: xs)
  | breaks {b : Char} {bs cs xs : List Char} : isLineEnd b = true →
      (∀ c ∈ bs, isLineEnd c = true) → (∀ c ∈ xs.head?, isGap c = false) →
      SingleSpelling column cs xs →
      SingleSpelling column (foldedBreak (breakRead b) (bs.map breakRead) ++ cs)
        (b :: bs ++ List.replicate column ' ' ++ xs)

/-- A text, and one of the ways to write it between double quotes. -/
inductive DoubleSpelling (column : Nat) : List Char → List Char → Prop
  | nil : DoubleSpelling column [] []
  | char {c : Char} {cs xs : List Char} : Pen.isLiteral c = true →
      DoubleSpelling column cs xs → DoubleSpelling column (c :: cs) (c :: xs)
  | escape {c : Char} {cs xs : List Char} : Pen.isLiteral c = false →
      DoubleSpelling column cs xs → DoubleSpelling column (c :: cs) (Pen.escape c ++ xs)
  | split {cs xs : List Char} : (∀ c ∈ xs.head?, c ≠ ' ') → DoubleSpelling column cs xs →
      DoubleSpelling column cs ('\\' :: lineStart column ++ xs)
  | splitSpace {cs xs : List Char} : DoubleSpelling column cs xs →
      DoubleSpelling column (' ' :: cs) ('\\' :: lineStart column ++ '\\' :: ' ' :: xs)

def rereadPart : List Char → List Char
  | [] => []
  | c :: cs =>
    if c == '\n' then foldedBreak c ((c :: cs).map breakRead)
    else if isLineEnd c then foldedBreak (breakRead c) (cs.map breakRead)
    else c :: cs

def reread (cs : List Char) : List Char :=
  match styleOf cs with
  | .single => (Pen.parts cs).flatMap rereadPart
  | .plain | .double => cs

def Spelled (column : Nat) (cs written : List Char) : Prop :=
  match styleOf cs with
  | .plain => PlainSpelling column cs written
  | .single => ∃ xs, written = '\'' :: xs ++ ['\''] ∧ SingleSpelling column (reread cs) xs
  | .double => ∃ xs, written = '"' :: xs ++ ['"'] ∧ DoubleSpelling column cs xs

end OrderSheet.Yaml
