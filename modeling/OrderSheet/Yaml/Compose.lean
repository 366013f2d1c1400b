import OrderSheet.Yaml.Resolve
import OrderSheet.Yaml.Scanner

/-!
# The tree of a document

Tokens make up a tree of texts, sequences and mappings. An alias stands for the tree that its
anchor names.
-/

namespace OrderSheet.Yaml

inductive Node where
  | scalar (tag : Tag) (text : List Char) (whole : Bool)
  | sequence (tag : Tag) (items : List Node)
  | mapping (tag : Tag) (entries : List (Node × Node))
  | again (anchor : List Char)
  deriving Repr

namespace Node

variable (name : List Char) (m : Node)

mutual

/-- Puts a tree where the collection with an anchor stands inside of itself. -/
def put : Node → Node
  | .scalar tag text whole => .scalar tag text whole
  | .sequence tag items => .sequence tag (putItems items)
  | .mapping tag entries => .mapping tag (putEntries entries)
  | .again anchor => if anchor == name then m else .again anchor

def putItems : List Node → List Node
  | [] => []
  | n :: ns => put n :: putItems ns

def putEntries : List (Node × Node) → List (Node × Node)
  | [] => []
  | (k, v) :: es => (put k, put v) :: putEntries es

end

/-- How often a collection that contains itself is written out. No template is read as deep. -/
def turns : Nat := 6

/-- A collection that contains itself, written out, and empty at the innermost places. -/
def unroll (n : Node) (anchor : List Char) (empty : Node) : Node :=
  Nat.repeat (put anchor · n) turns empty

end Node

/-- Where composing stands: the tokens ahead and the fault behind them, the trees that anchors
name, and the abbreviations for the beginning of tags. -/
structure Composer where
  ahead : List Token
  anchors : List (List Char × Node)
  handles : List (List Char × List Char)
  fault : Fault
  deriving Repr

abbrev Compose := StateT Composer (Except Fault)

namespace Compose

def refuse {α : Type} : Compose α := fun _ => .error .malformed

def peek : Compose Token := fun s =>
  match s.ahead with
  | [] => .error s.fault
  | t :: _ => .ok (t, s)

def advance : Compose Unit := modify fun s => { s with ahead := s.ahead.tail }

def accept (t : Token) : Compose Bool := do
  if (← peek) == t then
    advance
    return true
  else return false

def sees (ts : List Token) : Compose Bool := do
  return ts.contains (← peek)

def nothing : Node := .scalar .null [] true

def fullTag (handle : Option (List Char)) (suffix : List Char) : Compose (List Char) := do
  match handle with
  | none => return suffix
  | some h =>
    let s ← get
    match s.handles.find? (·.1 == h) with
    | some (_, start) => return start ++ suffix
    | none => refuse

def properties : Compose (Option (List Char) × Option (List Char)) := do
  match ← peek with
  | .anchor a =>
    advance
    match ← peek with
    | .tag h s =>
      advance
      return (some a, some (← fullTag h s))
    | _ => return (some a, none)
  | .tag h s =>
    advance
    match ← peek with
    | .anchor a =>
      advance
      return (some a, some (← fullTag h s))
    | _ => return (none, some (← fullTag h s))
  | _ => return (none, none)

def isOpen (tag : Option (List Char)) : Bool := tag.all (· == ['!'])

def tagOr (tag : Option (List Char)) (default : Tag) : Tag :=
  if isOpen tag then default else Tag.ofText (tag.getD [])

def scalarTag (tag : Option (List Char)) ( plain : Bool) (text : List Char) : Tag :=
  match tag with
  | none => if plain then resolve text else .str
  | some t => if t == ['!'] then resolve text else Tag.ofText t

def checkAnchor (anchor : Option (List Char)) : Compose Unit := do
  let s ← get
  if anchor.any fun a => s.anchors.any (·.1 == a) then refuse

def setAnchor (anchor : Option (List Char)) (node : Node) : Compose Unit :=
  match anchor with
  | none => pure ()
  | some a =>
    modify fun s => { s with anchors := (a, node) :: s.anchors }

/-- Makes a collection whose anchor its own parts may refer to. Trees of other anchors that refer
to it are known only now. -/
def collect (anchor : Option (List Char)) (empty : Node) (fill : Compose Node) : Compose Node :=
  match anchor with
  | none => fill
  | some a => do
    setAnchor anchor (.again a)
    let n ← fill
    let whole := n.unroll a empty
    modify fun s => { s with
      anchors := s.anchors.map fun e => (e.1, if e.1 == a then whole else e.2.put a whole) }
    return whole

mutual

/-- A node; outside of brackets it may be a block, and behind a key also a sequence that is not
indented. -/
def node (fuel : Nat) (block unindented : Bool) : Compose Node := do
  match fuel with
  | 0 => refuse
  | fuel + 1 =>
    match ← peek with
    | .alias name =>
      advance
      let s ← get
      match s.anchors.find? (·.1 == name) with
      | some (_, n) => return n
      | none => refuse
    | _ =>
      let (anchor, tag) ← properties
      let first ← peek
      checkAnchor anchor
      let asSequence (items : Compose (List Node)) : Compose Node :=
        collect anchor (.sequence (tagOr tag .seq) []) (Node.sequence (tagOr tag .seq) <$> items)
      let asMapping (entries : Compose (List (Node × Node))) : Compose Node :=
        collect anchor (.mapping (tagOr tag .map) []) (Node.mapping (tagOr tag .map) <$> entries)
      let asText (n : Node) : Compose Node := do
        setAnchor anchor n
        return n
      match first with
      | .scalar text plain whole =>
        advance
        asText (.scalar (scalarTag tag plain text) text whole)
      | .openSequence =>
        advance
        asSequence (flowItems fuel true [])
      | .openMapping =>
        advance
        asMapping (flowEntries fuel true [])
      | t =>
        if unindented && t == .entry then asSequence (unindentedItems fuel [])
        else if block && t == .blockSequence then
          advance
          asSequence (blockItems fuel [])
        else if block && t == .blockMapping then
          advance
          asMapping (blockEntries fuel [])
        else if anchor.isSome || tag.isSome then asText (.scalar (scalarTag tag true []) [] true)
        else refuse

def nodeUnless (fuel : Nat) (ends : List Token) (block unindented : Bool) : Compose Node := do
  match fuel with
  | 0 => refuse
  | fuel + 1 => if ← sees ends then return nothing else node fuel block unindented

def blockItems (fuel : Nat) (found : List Node) : Compose (List Node) := do
  match fuel with
  | 0 => refuse
  | fuel + 1 =>
    if ← accept .entry then
      let n ← nodeUnless fuel [.entry, .blockEnd] true false
      blockItems fuel (n :: found)
    else if ← accept .blockEnd then return found.reverse
    else refuse

def unindentedItems (fuel : Nat) (found : List Node) : Compose (List Node) := do
  match fuel with
  | 0 => refuse
  | fuel + 1 =>
    if ← accept .entry then
      let n ← nodeUnless fuel [.entry, .key, .value, .blockEnd] true false
      unindentedItems fuel (n :: found)
    else return found.reverse

def blockEntries (fuel : Nat) (found : List (Node × Node)) : Compose (List (Node × Node)) := do
  match fuel with
  | 0 => refuse
  | fuel + 1 =>
    if ← accept .key then
      let k ← nodeUnless fuel [.key, .value, .blockEnd] true true
      let v ←
        if ← accept .value then nodeUnless fuel [.key, .value, .blockEnd] true true
        else pure nothing
      blockEntries fuel ((k, v) :: found)
    else if ← accept .blockEnd then return found.reverse
    else refuse

/-- The items between brackets; an item may be a mapping of one entry. -/
def flowItems (fuel : Nat) (first : Bool) (found : List Node) : Compose (List Node) := do
  match fuel with
  | 0 => refuse
  | fuel + 1 =>
    if ← accept .closeSequence then return found.reverse
    else
      if !first then
        if !(← accept .comma) then refuse
      if ← accept .key then
        let k ← nodeUnless fuel [.value, .comma, .closeSequence] false false
        let v ←
          if ← accept .value then nodeUnless fuel [.comma, .closeSequence] false false
          else pure nothing
        flowItems fuel false (.mapping .map [(k, v)] :: found)
      else if ← accept .closeSequence then return found.reverse
      else
        let n ← node fuel false false
        flowItems fuel false (n :: found)

def flowEntries (fuel : Nat) (first : Bool) (found : List (Node × Node)) :
    Compose (List (Node × Node)) := do
  match fuel with
  | 0 => refuse
  | fuel + 1 =>
    if ← accept .closeMapping then return found.reverse
    else
      if !first then
        if !(← accept .comma) then refuse
      if ← accept .key then
        let k ← nodeUnless fuel [.value, .comma, .closeMapping] false false
        let v ←
          if ← accept .value then nodeUnless fuel [.comma, .closeMapping] false false
          else pure nothing
        flowEntries fuel false ((k, v) :: found)
      else if ← accept .closeMapping then return found.reverse
      else
        let k ← node fuel false false
        flowEntries fuel false ((k, nothing) :: found)

end

/-- The directives in front of a document; at most one version, and each abbreviation once. -/
def directives (fuel : Nat) (versioned : Bool) (handles : List (List Char × List Char)) :
    Compose (List (List Char × List Char)) := do
  match fuel with
  | 0 => refuse
  | fuel + 1 =>
    match ← peek with
    | .version major =>
      advance
      if versioned || major != 1 then refuse
      directives fuel true handles
    | .tagShort h start =>
      advance
      if handles.any (·.1 == h) then refuse
      directives fuel versioned ((h, start) :: handles)
    | .otherDirective =>
      advance
      directives fuel versioned handles
    | _ => return handles

def defaultHandles : List (List Char × List Char) := [(['!'], ['!']), (['!', '!'], tagStart)]

def isDirective : Token → Bool
  | .version _ | .tagShort .. | .otherDirective => true
  | _ => false

def skipEnds (fuel : Nat) : Compose Unit := do
  match fuel with
  | 0 => return
  | fuel + 1 => if ← accept .documentEnd then skipEnds fuel

def document (room : Nat) : Compose (Option Node) := do
  let fuel := 4 * room + 8
  if ← accept .streamEnd then return none
  else
    let first ← peek
    let root ←
      if isDirective first || first == .documentStart then
        let declared ← directives fuel false []
        modify fun s => { s with handles := declared ++ defaultHandles }
        if !(← accept .documentStart) then refuse
        let t ← peek
        if isDirective t || t == .documentStart || t == .documentEnd || t == .streamEnd then
          pure nothing
        else node fuel true false
      else
        modify fun s => { s with handles := defaultHandles }
        node fuel true false
    skipEnds fuel
    if ← accept .streamEnd then return some root else refuse

end Compose

/-- The tree of a text that holds a single document, or none if it holds no document. -/
def compose (text : List Char) : Except Fault (Option Node) := do
  let s := tokens text
  return (← Compose.document s.tokens.length ⟨s.tokens, [], [], s.fault⟩).1

end OrderSheet.Yaml
