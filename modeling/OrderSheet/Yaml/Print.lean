import OrderSheet.Text.Quote
import OrderSheet.Yaml.Resolve
import OrderSheet.Yaml.Source

/-!
# Writing a document

Mappings and sequences are written as blocks. A text is written plainly where it would be read
back as the same text, in single quotes where that is enough, and in double quotes otherwise. Long
texts go on in the next line at a space.
-/

namespace OrderSheet.Yaml

inductive Block where
  | text (cs : List Char)
  | bare (cs : List Char)
  | sequence (items : List Block)
  | mapping (entries : List (List Char × Block))
  deriving Repr

inductive Style where
  | plain
  | single
  | double
  deriving DecidableEq, Repr

def isLineEnd (c : Char) : Bool :=
  c == '\n' || c == '\x85' || c == '\u2028' || c == '\u2029'

def isWritable (c : Char) : Bool :=
  let n := c.toNat
  c == '\n' || (32 ≤ n && n ≤ 126) || c == '\x85' ||
    (((160 ≤ n && n ≤ 0xd7ff) || (0xe000 ≤ n && n ≤ 0xfffd) || (0x10000 ≤ n && n < 0x10ffff)) &&
      c != '\ufeff')

def anyNeighbours (p : Char → Char → Bool) (cs : List Char) : Bool :=
  (cs.zip (cs.drop 1)).any fun (a, b) => p a b

def hasLeadingMark (cs : List Char) : Bool :=
  match cs with
  | [] => false
  | c :: rest =>
    let gap := rest.head?.all isGap
    "#,[]\x7b\x7d&*!|>'\"%@`".contains c || ((c == '?' || c == ':' || c == '-') && gap) ||
      "---".toList.isPrefixOf cs || "...".toList.isPrefixOf cs

def hasInnerMark (cs : List Char) : Bool :=
  anyNeighbours (fun a b => (b == '#' && isGap a) || (a == ':' && isGap b)) cs ||
    (1 < cs.length && cs.getLast? == some ':')

def isSpaced (cs : List Char) : Bool :=
  let ends (c : Option Char) : Bool := c.any fun c => c == ' ' || isLineEnd c
  ends cs.head? || ends cs.getLast?

def hasSpaceAtBreak (cs : List Char) : Bool :=
  anyNeighbours (fun a b => (a == ' ' && isLineEnd b) || (isLineEnd a && b == ' ')) cs

def styleOf (cs : List Char) : Style :=
  if !cs.all isWritable || hasSpaceAtBreak cs then .double
  else if cs.isEmpty || isSpaced cs || cs.any isLineEnd || hasLeadingMark cs || hasInnerMark cs ||
      resolve cs != .str then .single
  else .plain

/-- What has been written, and what the latest characters allow. -/
structure Pen where
  /-- The characters written, backwards. -/
  written : List Char
  column : Nat
  spaced : Bool
  /-- Whether nothing but marks and indentation stands on the line. -/
  indenting : Bool
  deriving Repr

namespace Pen

def start : Pen := ⟨[], 0, true, true⟩

def lineWidth : Nat := 80

def put (cs : List Char) (p : Pen) : Pen :=
  { p with written := cs.reverse ++ p.written, column := p.column + cs.length }

def breakLine (c : Char) (p : Pen) : Pen := ⟨c :: p.written, 0, true, true⟩

def toColumn (column : Nat) (p : Pen) : Pen :=
  let p :=
    if !p.indenting || column < p.column || (p.column == column && !p.spaced) then
      p.breakLine '\n'
    else p
  if p.column < column then
    { p.put (List.replicate (column - p.column) ' ') with spaced := true }
  else p

def mark (cs : List Char) ( apart keepsIndent : Bool) (p : Pen) : Pen :=
  let cs := if p.spaced || !apart then cs else ' ' :: cs
  { p.put cs with spaced := false, indenting := p.indenting && keepsIndent }

def kind (c : Char) : Nat := if c == ' ' then 0 else if isLineEnd c then 1 else 2

def parts (cs : List Char) : List (List Char) := cs.splitBy fun a b => kind a == kind b

def foldAt (column : Nat) (p : Pen) : Pen :=
  { p.toColumn column with spaced := false, indenting := false }

def plainParts (column : Nat) (p : Pen) (ps : List (List Char)) : Pen :=
  ps.foldl (fun p part =>
    if part == [' '] && lineWidth < p.column then p.foldAt column else p.put part) p

def plain (column : Nat) (cs : List Char) (p : Pen) : Pen :=
  let p := if p.spaced || cs.isEmpty then p else p.put [' ']
  plainParts column { p with spaced := false, indenting := false } (parts cs)

/-- Writes the parts of a text in single quotes; `first` tells whether nothing has been written. -/
def singleParts (column : Nat) ( first : Bool) (p : Pen) : List (List Char) → Pen
  | [] => p
  | part :: ps =>
    let p :=
      match part with
      | [' '] =>
        if lineWidth < p.column && !first && !ps.isEmpty then p.toColumn column else p.put part
      | c :: _ =>
        if isLineEnd c then
          let p := if c == '\n' then p.breakLine '\n' else p
          (part.foldl (fun p c => p.breakLine c) p).toColumn column
        else p.put (part.flatMap fun c => if c == '\'' then ['\'', '\''] else [c])
      | [] => p
    singleParts column false p ps

def single (column : Nat) (cs : List Char) (p : Pen) : Pen :=
  let p := p.mark ['\''] true false
  (singleParts column true p (parts cs)).mark ['\''] false false

def escapeLetters : List (Char × Char) := [
  ('\x00', '0'), ('\x07', 'a'), ('\x08', 'b'), ('\t', 't'), ('\n', 'n'), ('\x0b', 'v'),
  ('\x0c', 'f'), ('\r', 'r'), ('\x1b', 'e'), ('"', '"'), ('\\', '\\'), ('\x85', 'N'),
  ('\xa0', '_'), ('\u2028', 'L'), ('\u2029', 'P')]

def upperHex (width n : Nat) : List Char := (Text.hex width n).map Char.toUpper

def escape (c : Char) : List Char :=
  let n := c.toNat
  match escapeLetters.find? (·.1 == c) with
  | some (_, l) => ['\\', l]
  | none =>
    if n ≤ 0xff then '\\' :: 'x' :: upperHex 2 n
    else if n ≤ 0xffff then '\\' :: 'u' :: upperHex 4 n
    else '\\' :: 'U' :: upperHex 8 n

def isLiteral (c : Char) : Bool :=
  let n := c.toNat
  !("\"\\\x85\u2028\u2029\ufeff".contains c) &&
    ((32 ≤ n && n ≤ 126) || (160 ≤ n && n ≤ 0xd7ff) || (0xe000 ≤ n && n ≤ 0xfffd))

/-- Breaks the line behind a backslash. A space at the beginning of the next line needs a
backslash of its own. -/
def continueLine (column : Nat) (next : Option Char) (p : Pen) : Pen :=
  let p := (p.put ['\\']).foldAt column
  if next == some ' ' then p.put ['\\'] else p

/-- Writes a text in double quotes, where `waiting` holds the characters before this place that
are still to be written, backwards. -/
def doubleFrom (column length : Nat) (waiting : List Char) (pos : Nat) (p : Pen) : List Char → Pen
  | [] => p.put waiting.reverse
  | c :: cs =>
    let inside := 0 < pos && pos + 1 < length
    if isLiteral c then
      if inside && (c == ' ' || waiting.isEmpty) && lineWidth < p.column + waiting.length then
        doubleFrom column length [c] (pos + 1)
          ((p.put waiting.reverse).continueLine column (some c)) cs
      else doubleFrom column length (c :: waiting) (pos + 1) p cs
    else
      let p := (p.put waiting.reverse).put (escape c)
      if inside && lineWidth + 1 < p.column then
        doubleFrom column length [] (pos + 1) (p.continueLine column cs.head?) cs
      else doubleFrom column length [] (pos + 1) p cs

def double (column : Nat) (cs : List Char) (p : Pen) : Pen :=
  let p := p.mark ['"'] true false
  (doubleFrom column cs.length [] 0 p cs).mark ['"'] false false

def text (column : Nat) (cs : List Char) (p : Pen) : Pen :=
  match styleOf cs with
  | .plain => p.plain column cs
  | .single => p.single column cs
  | .double => p.double column cs

mutual

/-- Writes a block that belongs to one at `column`; `inMapping` tells whether it is the value
under a key. -/
def block (column : Nat) (inMapping : Bool) (p : Pen) : Block → Pen
  | .text cs => p.text (column + 2) cs
  | .bare cs => p.plain (column + 2) cs
  | .sequence [] => (p.mark ['['] true false).put [']']
  | .mapping [] => (p.mark ['\x7b'] true false).put ['\x7d']
  | .sequence items =>
    blockItems (if inMapping && !p.indenting then column else column + 2) p items
  | .mapping entries => blockEntries (column + 2) p entries

def blockItems (column : Nat) (p : Pen) : List Block → Pen
  | [] => p
  | b :: bs =>
    let p := (p.toColumn column).mark ['-'] true true
    blockItems column (block column false p b) bs

def blockEntries (column : Nat) (p : Pen) : List (List Char × Block) → Pen
  | [] => p
  | (k, b) :: es =>
    let p := (((p.toColumn column).text (column + 2) k).mark [':'] false false)
    blockEntries column (block column true p b) es

end

end Pen

def print (entries : List (List Char × Block)) : String :=
  let p := Pen.start
  let p :=
    if entries.isEmpty then p.put ['\x7b', '\x7d'] else Pen.blockEntries 0 p entries
  String.ofList ((({ p with indenting := false }).toColumn 0).written.reverse)

end OrderSheet.Yaml
