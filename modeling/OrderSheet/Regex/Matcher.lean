import OrderSheet.Regex.Node

/-!
# Matching

A pattern is tried at a position together with a continuation that tries the rest. The ways to
match are tried in the order of preference, and the first one whose continuation succeeds counts.
Loops carry fuel: every repetition beyond the required ones has to consume a character, so the
remaining text bounds their number.
-/

namespace OrderSheet.Regex

/-- What is known about a capture group: where it was last entered, with the text from there on,
and where it was last left. -/
inductive Slot where
  | unset
  | entered (start : Nat) (text : List Char)
  /-- Entered again, while the end of the last time is still known. -/
  | reentered (start : Nat) (text : List Char) (stop : Nat)
  | left (start : Nat) (text : List Char) (stop : Nat)
  deriving DecidableEq, Repr

namespace Slot

def enter (pos : Nat) (text : List Char) : Slot → Slot
  | unset | entered .. => entered pos text
  | reentered _ _ stop | left _ _ stop => reentered pos text stop

def leave (pos : Nat) : Slot → Slot
  | unset => unset
  | entered start text | reentered start text _ | left start text _ => left start text pos

def span? : Slot → Option (Nat × Nat)
  | unset | entered .. => none
  | reentered start _ stop | left start _ stop =>
    if start ≤ stop then some (start, stop) else none

def text? : Slot → Option (List Char)
  | unset | entered .. => none
  | reentered start text stop | left start text stop =>
    if start ≤ stop then some (text.take (stop - start)) else none

@[simp] theorem text?_unset : unset.text? = none := rfl

def enterAt (pos : Nat) (text : List Char) : Nat → List Slot → List Slot
  | _, [] => []
  | 0, s :: ss => s.enter pos text :: ss
  | n + 1, s :: ss => s :: enterAt pos text n ss

def leaveAt (pos : Nat) : Nat → List Slot → List Slot
  | _, [] => []
  | 0, s :: ss => s.leave pos :: ss
  | n + 1, s :: ss => s :: leaveAt pos n ss

end Slot

/-- A position in a text, and the groups captured on the way to it. -/
structure Place where
  /-- The text before the position, backwards. -/
  before : List Char
  after : List Char
  pos : Nat
  slots : List Slot
  deriving Repr

namespace Place

def forward (s : Place) (c : Char) (cs : List Char) : Place :=
  { s with before := c :: s.before, after := cs, pos := s.pos + 1 }

def backward (s : Place) (c : Char) (cs : List Char) : Place :=
  { s with before := cs, after := c :: s.after, pos := s.pos - 1 }

/-- The position `n` characters earlier, if there is one. -/
def back? (n : Nat) (s : Place) : Option Place :=
  match n with
  | 0 => some s
  | n + 1 =>
    match s.before with
    | [] => none
    | c :: cs => back? n (s.backward c cs)

def slot (s : Place) (group : Nat) : Slot := (s.slots[group - 1]?).getD Slot.unset

def enter (s : Place) (group : Nat) : Place :=
  { s with slots := Slot.enterAt s.pos s.after (group - 1) s.slots }

def leave (s : Place) (group : Nat) : Place :=
  { s with slots := Slot.leaveAt s.pos (group - 1) s.slots }

def holds (s : Place) : Anchor → Bool
  | .textStart => s.before.isEmpty
  | .lineStart => s.before.isEmpty || s.before.head? == some '\n'
  | .textEnd => s.after.isEmpty
  | .lastLineEnd => s.after.isEmpty || s.after == ['\n']
  | .lineEnd => s.after.isEmpty || s.after.head? == some '\n'
  | .boundary negated ascii =>
    let word (c : Option Char) : Bool := c.any (Category.word.has ascii)
    !(s.before.isEmpty && s.after.isEmpty) &&
      (word s.before.head? != word s.after.head?) != negated

end Place

abbrev Rest := Place → Option Place

abbrev Step := Place → Rest → Option Place

/-- Consumes up to `limit` characters, and tells how many there are behind the `count` ones so
far. -/
def advance (p : Single) (slots : List Slot) (limit count : Nat) (before : List Char) (pos : Nat)
    (after : List Char) : Nat × Place :=
  match after with
  | [] => (count, ⟨before, [], pos, slots⟩)
  | c :: cs =>
    if count < limit && p.accepts c then
      advance p slots limit (count + 1) (c :: before) (pos + 1) cs
    else (count, ⟨before, c :: cs, pos, slots⟩)

/-- Tries the rest here, and then at up to `n` earlier places. -/
def retreat (rest : Rest) (n : Nat) (s : Place) : Option Place :=
  match rest s with
  | some r => some r
  | none =>
    match n with
    | 0 => none
    | n + 1 =>
      match s.before with
      | [] => none
      | c :: cs => retreat rest n (s.backward c cs)

def consume? (p : Single) (n : Nat) (s : Place) : Option Place :=
  match n with
  | 0 => some s
  | n + 1 =>
    match s.after with
    | [] => none
    | c :: cs => if p.accepts c then consume? p n (s.forward c cs) else none

/-- Tries the rest here, and then behind one more character at a time, up to `n` ones. -/
def creep (p : Single) (rest : Rest) (n : Nat) (s : Place) : Option Place :=
  match rest s with
  | some r => some r
  | none =>
    match n with
    | 0 => none
    | n + 1 =>
      match s.after with
      | [] => none
      | c :: cs => if p.accepts c then creep p rest n (s.forward c cs) else none

/-- Repetition of a pattern for one character in a text of at most `room` characters. -/
def runOf (room : Nat) (greed : Greed) (least : Nat) (most : Option Nat) (p : Single) : Step :=
  fun s rest =>
    let limit := most.getD room
    match greed with
    | .greedy =>
      let (n, t) := advance p s.slots limit 0 s.before s.pos s.after
      if n < least then none else retreat rest (n - least) t
    | .possessive =>
      let (n, t) := advance p s.slots limit 0 s.before s.pos s.after
      if n < least then none else rest t
    | .reluctant =>
      match consume? p least s with
      | none => none
      | some t => creep p rest (limit - least) t

/-- Whether one more repetition may be tried after `count` of them, where `last` is the place of
the latest one that was not required. -/
def mayRepeat (limit count : Nat) (last : Option Nat) (s : Place) : Bool :=
  count < limit &&
    match last with
    | none => true
    | some pos => pos != s.pos

def greedyLoop (step : Step) (least limit : Nat) (rest : Rest) (fuel count : Nat)
    (last : Option Nat) (s : Place) : Option Place :=
  match fuel with
  | 0 => none
  | fuel + 1 =>
    if count < least then step s (greedyLoop step least limit rest fuel (count + 1) last)
    else if mayRepeat limit count last s then
      match step s (greedyLoop step least limit rest fuel (count + 1) (some s.pos)) with
      | some r => some r
      | none => rest s
    else rest s

def reluctantLoop (step : Step) (least limit : Nat) (rest : Rest) (fuel count : Nat)
    (last : Option Nat) (s : Place) : Option Place :=
  match fuel with
  | 0 => none
  | fuel + 1 =>
    if count < least then step s (reluctantLoop step least limit rest fuel (count + 1) last)
    else
      match rest s with
      | some r => some r
      | none =>
        if mayRepeat limit count last s then
          step s (reluctantLoop step least limit rest fuel (count + 1) (some s.pos))
        else none

def possessiveLoop (step : Step) (least limit : Nat) (fuel count : Nat) (last : Option Nat)
    (s : Place) : Option Place :=
  match fuel with
  | 0 => none
  | fuel + 1 =>
    if count < least then
      match step s some with
      | some s => possessiveLoop step least limit fuel (count + 1) last s
      | none => none
    else if mayRepeat limit count last s then
      match step s some with
      | some next => possessiveLoop step least limit fuel (count + 1) (some s.pos) next
      | none => some s
    else some s

/-- Repetition of any pattern in a text of at most `room` characters. -/
def loopOf (room : Nat) (greed : Greed) (least : Nat) (most : Option Nat) (step : Step) : Step :=
  fun s rest =>
    let fuel := least + room + 2
    let limit := most.getD fuel
    match greed with
    | .greedy => greedyLoop step least limit rest fuel 0 none s
    | .reluctant => reluctantLoop step least limit rest fuel 0 none s
    | .possessive => (possessiveLoop step least limit fuel 0 none s).bind rest

def Casing.agree (casing : Casing) (a b : Char) : Bool :=
  match casing with
  | .exact => a == b
  | .folded => Text.smallCode a.toNat == Text.smallCode b.toNat
  | .asciiFolded => Text.asciiFold a == Text.asciiFold b

def consumeText? (casing : Casing) (text : List Char) (s : Place) : Option Place :=
  match text with
  | [] => some s
  | t :: ts =>
    match s.after with
    | [] => none
    | c :: cs => if casing.agree t c then consumeText? casing ts (s.forward c cs) else none

/-- Matches a pattern at a place in a text of at most `room` characters, up to the success of the
rest. -/
def Node.matchAt (room : Nat) : Node → Place → Rest → Option Place
  | .empty, s, rest => rest s
  | .one p, s, rest =>
    match s.after with
    | [] => none
    | c :: cs => if p.accepts c then rest (s.forward c cs) else none
  | .anchor a, s, rest => if s.holds a then rest s else none
  | .seq a b, s, rest => a.matchAt room s fun s => b.matchAt room s rest
  | .alt a b, s, rest =>
    match a.matchAt room s rest with
    | some r => some r
    | none => b.matchAt room s rest
  | .run greed least most p, s, rest => runOf room greed least most p s rest
  | .loop greed least most body, s, rest => loopOf room greed least most (body.matchAt room) s rest
  | .group i body, s, rest => body.matchAt room (s.enter i) fun s => rest (s.leave i)
  | .atomic body, s, rest => (body.matchAt room s some).bind rest
  | .again i casing, s, rest =>
    ((s.slot i).text?.bind fun text => consumeText? casing text s).bind rest
  | .ifGroup i yes no, s, rest =>
    if (s.slot i).span?.isSome then yes.matchAt room s rest else no.matchAt room s rest
  | .ahead negated body, s, rest =>
    match body.matchAt room s some with
    | some r => if negated then none else rest { s with slots := r.slots }
    | none => if negated then rest s else none
  | .behind negated width body, s, rest =>
    match (s.back? width.least).bind fun b => body.matchAt room b some with
    | some r => if negated then none else rest { s with slots := r.slots }
    | none => if negated then rest s else none

/-- The first place from which the pattern matches, with the place where the match ends. -/
def Node.searchFrom (room : Nat) (node : Node) (slots : List Slot) (before : List Char) (pos : Nat)
    (after : List Char) : Option (Nat × List Char × Place) :=
  match node.matchAt room ⟨before, after, pos, slots⟩ some with
  | some s => some (pos, after, s)
  | none =>
    match after with
    | [] => none
    | c :: cs => node.searchFrom room slots (c :: before) (pos + 1) cs

end OrderSheet.Regex
