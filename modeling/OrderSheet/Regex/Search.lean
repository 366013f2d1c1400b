import OrderSheet.Regex.Matcher
import OrderSheet.Regex.Parser

/-!
# Searching a text

A compiled pattern finds its first match in a text, with the texts of its capture groups.
-/

namespace OrderSheet

structure Regex where
  node : Regex.Node
  groups : Nat
  deriving DecidableEq, Repr

namespace Regex

structure Match where
  start : Nat
  stop : Nat
  text : List Char
  /-- The texts of the capture groups in order; a group that takes no part has none. -/
  groups : List (Option (List Char))
  deriving DecidableEq, Repr

def compileWith (flags : List Flag) (pattern : String) : Except Fault Regex :=
  (parse flags pattern.toList).map fun (node, groups) => ⟨node, groups⟩

def compile (pattern : String) : Except Fault Regex := compileWith [] pattern

def search (r : Regex) (text : List Char) : Option Match :=
  let slots := List.replicate r.groups Slot.unset
  (r.node.searchFrom text.length slots [] 0 text).map fun (start, after, s) =>
    ⟨start, s.pos, after.take (s.pos - start), s.slots.map Slot.text?⟩

def Match.group? (m : Match) (index : Nat) : Option (List Char) :=
  if index == 0 then some m.text else (m.groups[index - 1]?).join

end Regex

end OrderSheet
