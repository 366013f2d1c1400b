import OrderSheet.Regex.Single

/-!
# Patterns as trees

A pattern is built from patterns for single characters and tests of the position by sequence,
choice and repetition. Capture groups are numbered from 1.
-/

namespace OrderSheet.Regex

inductive Anchor where
  | textStart
  | lineStart
  | textEnd
  | lastLineEnd
  | lineEnd
  /-- Whether a word begins or ends here, or the opposite if `negated`. -/
  | boundary (negated ascii : Bool)
  deriving DecidableEq, Repr

/-- Which number of repetitions is tried first, and whether others are tried at all. -/
inductive Greed where
  | greedy
  | reluctant
  | possessive
  deriving DecidableEq, Repr

/-- Bounds of the lengths of the texts that a pattern matches. -/
structure Width where
  least : Nat
  most : Nat
  deriving DecidableEq, Repr

namespace Width

def limit : Nat := Nat.pow 2 64

def bounded (least most : Nat) : Width := ⟨min least limit, min most limit⟩

def zero : Width := ⟨0, 0⟩

def add (a b : Width) : Width := bounded (a.least + b.least) (a.most + b.most)

def join (a b : Width) : Width := ⟨min a.least b.least, max a.most b.most⟩

def times (least : Nat) (most : Option Nat) (a : Width) : Width :=
  bounded (a.least * least) <|
    match most with
    | some n => a.most * n
    | none => if a.most == 0 then 0 else limit

end Width

inductive Node where
  | empty
  | one (p : Single)
  | anchor (a : Anchor)
  | seq (a b : Node)
  | alt (a b : Node)
  | run (greed : Greed) (least : Nat) (most : Option Nat) (p : Single)
  | loop (greed : Greed) (least : Nat) (most : Option Nat) (body : Node)
  | group (index : Nat) (body : Node)
  | atomic (body : Node)
  | again (index : Nat) (casing : Casing)
  | ifGroup (index : Nat) (yes no : Node)
  | ahead (negated : Bool) (body : Node)
  | behind (negated : Bool) (width : Width) (body : Node)
  deriving DecidableEq, Repr

namespace Node

def append : Node → Node → Node
  | a, empty => a
  | empty, b => b
  | a, b => seq a b

def ofReversed (nodes : List Node) : Node := nodes.foldl (fun rest n => append n rest) empty

def choiceOfReversed : List Node → Node
  | [] => empty
  | n :: earlier => earlier.foldl (fun rest m => alt m rest) n

def repeated (greed : Greed) (least : Nat) (most : Option Nat) (body : Node) : Node :=
  match body with
  | one p => run greed least most p
  | body => loop greed least most body

/-- The lengths that a pattern matches, where `groupWidth` gives those of the groups. -/
def width (groupWidth : Nat → Width) : Node → Width
  | empty | anchor _ | ahead .. | behind .. => Width.zero
  | one _ => ⟨1, 1⟩
  | seq a b => (a.width groupWidth).add (b.width groupWidth)
  | alt a b => (a.width groupWidth).join (b.width groupWidth)
  | run _ least most _ => Width.times least most ⟨1, 1⟩
  | loop _ least most body => Width.times least most (body.width groupWidth)
  | group _ body | atomic body => body.width groupWidth
  | again i _ => groupWidth i
  | ifGroup _ yes no => (yes.width groupWidth).join (no.width groupWidth)

end Node

end OrderSheet.Regex
