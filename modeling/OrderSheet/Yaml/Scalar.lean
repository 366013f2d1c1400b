import OrderSheet.Yaml.Source

/-!
# Texts, names and tags

The tokens that carry text: plain and quoted texts, texts that are set off by a vertical bar or an
angle bracket, anchors, aliases and tags.
-/

namespace OrderSheet.Yaml.Scan

def name : Scan (List Char) := do
  let cs ← span isNameChar
  require !cs.isEmpty
  return cs

def anchorName : Scan (List Char) := do
  forward 1
  let cs ← name
  let c ← peek
  require (isGap c || "?:,]\x7d%@`".contains c)
  return cs

def escapedBytes (fuel : Nat) (found : List UInt8) : Scan (List UInt8) := do
  match fuel with
  | 0 => refuse
  | fuel + 1 =>
    if (← peek) != '%' then return found.reverse
    else
      let a ← peekAt 1
      let b ← peekAt 2
      require (isHex a && isHex b)
      forward 3
      escapedBytes fuel (UInt8.ofNat (hexValue [a, b]) :: found)

def isUriChar (c : Char) : Bool := c.isAlphanum || "-;/?:@&=+$,_.!~*'()[]%".contains c

def uriFrom (fuel : Nat) (found : List Char) : Scan (List Char) := do
  match fuel with
  | 0 => refuse
  | fuel + 1 =>
    let cs ← span fun c => isUriChar c && c != '%'
    if (← peek) == '%' then
      let bytes ← escapedBytes fuel []
      match String.fromUTF8? (ByteArray.mk bytes.toArray) with
      | none => refuse
      | some s => uriFrom fuel (found ++ cs ++ s.toList)
    else return found ++ cs

def uri (room : Nat) : Scan (List Char) := do
  let cs ← uriFrom (room + 1) []
  require !cs.isEmpty
  return cs

/-- A mark that tags are abbreviated by: an exclamation mark, or a name between two of them. -/
def tagHandle : Scan (List Char) := do
  require ((← peek) == '!')
  forward 1
  if (← peek) == ' ' then return ['!']
  else
    let cs ← span isNameChar
    if (← peek) == '!' then
      forward 1
      return '!' :: cs ++ ['!']
    else
      require cs.isEmpty
      refuse

def tag (room : Nat) : Scan Token := do
  let c ← peekAt 1
  let t ←
    if c == '<' then
      forward 2
      let suffix ← uri room
      require ((← peek) == '>')
      forward 1
      pure (Token.tag none suffix)
    else if isGap c then
      forward 1
      pure (Token.tag none ['!'])
    else
      let s ← get
      let word := (s.ahead.drop 1).takeWhile fun c => !isFirmGap c
      if word.contains '!' then
        let handle ← tagHandle
        pure (Token.tag (some handle) (← uri room))
      else
        forward 1
        pure (Token.tag (some ['!']) (← uri room))
  require (isFirmGap (← peek))
  return t

def directive (room : Nat) : Scan Token := do
  forward 1
  let what ← name
  require (isFirmGap (← peek))
  let t ←
    if what == "YAML".toList then
      skipSpaces
      let major ← span Char.isDigit
      require !major.isEmpty
      require ((← peek) == '.')
      forward 1
      let minor ← span Char.isDigit
      require !minor.isEmpty
      require (isFirmGap (← peek))
      pure (Token.version (major.foldl (fun n c => 10 * n + (c.toNat - 48)) 0))
    else if what == "TAG".toList then
      skipSpaces
      let handle ← tagHandle
      require ((← peek) == ' ')
      skipSpaces
      let start ← uri room
      require (isFirmGap (← peek))
      pure (Token.tagShort handle start)
    else
      skipLine
      pure Token.otherDirective
  restOfLine
  return t

/-- The length of the part of a plain text that stands on one line without a gap. -/
def plainLength (inFlow : Bool) (length : Nat) : List Char → Nat
  | [] => length
  | c :: cs =>
    let next := cs.headD endMark
    if isGap c || (c == ':' && (isGap next || (inFlow && ",[]\x7b\x7d".contains next))) ||
        (inFlow && ",?[]\x7b\x7d".contains c) then length
    else plainLength inFlow (length + 1) cs

/-- Line breaks, and the spaces between them; none if the document ends here. -/
def plainBreaks (fuel : Nat) (found : List Char) : Scan (Option (List Char)) := do
  match fuel with
  | 0 => return some found.reverse
  | fuel + 1 =>
    if (← peek) == ' ' then
      forward 1
      plainBreaks fuel found
    else
      match ← lineBreak with
      | none => return some found.reverse
      | some c =>
        if ← atDocumentBoundary then return none
        else plainBreaks fuel (c :: found)

/-- What separates two parts of a text: a single break reads as a space, further ones stay. -/
def foldedBreak (first : Char) (more : List Char) : List Char :=
  if first != '\n' then first :: more else if more.isEmpty then [' '] else more

def plainGap (room : Nat) : Scan (List Char) := do
  let spaces ← span (· == ' ')
  match ← lineBreak with
  | none => return spaces
  | some c =>
    modify fun s => { s with keyAllowed := true }
    if ← atDocumentBoundary then return []
    else
      match ← plainBreaks room [] with
      | none => return []
      | some more => return foldedBreak c more

def pushAll (cs found : List Char) : List Char := cs.reverseAux found

/-- The parts of a plain text, where `gap` separates the next one from those found, which stand
backwards. -/
def plainFrom (room fuel : Nat) (found gap : List Char) : Scan (List Char) := do
  match fuel with
  | 0 => return found.reverse
  | fuel + 1 =>
    let s ← get
    let length := plainLength (s.flow != 0) 0 s.ahead
    if (← peek) == '#' || length == 0 then return found.reverse
    else
      modify fun s => { s with keyAllowed := false }
      forward length
      let found := pushAll (s.ahead.take length) (pushAll gap found)
      let gap ← plainGap room
      let t ← get
      if gap.isEmpty || t.ahead.head? == some '#' ||
          (t.flow == 0 && (t.column : Int) < t.indent + 1) then return found.reverse
      else plainFrom room fuel found gap

def plainText (room : Nat) : Scan Token := do
  return .scalar (← plainFrom room (room + 1) [] []) true true

def escapeOf? : Char → Option Char
  | '0' => some '\x00'
  | 'a' => some '\x07'
  | 'b' => some '\x08'
  | 't' | '\t' => some '\t'
  | 'n' => some '\n'
  | 'v' => some '\x0b'
  | 'f' => some '\x0c'
  | 'r' => some '\r'
  | 'e' => some '\x1b'
  | ' ' => some ' '
  | '"' => some '"'
  | '\\' => some '\\'
  | '/' => some '/'
  | 'N' => some '\x85'
  | '_' => some '\xa0'
  | 'L' => some '\u2028'
  | 'P' => some '\u2029'
  | _ => none

def escapeWidth? : Char → Option Nat
  | 'x' => some 2
  | 'u' => some 4
  | 'U' => some 8
  | _ => none

def quotedBreaks (fuel : Nat) (found : List Char) : Scan (List Char) := do
  match fuel with
  | 0 => refuse
  | fuel + 1 =>
    require !(← atDocumentBoundary)
    let _ ← span fun c => c == ' ' || c == '\t'
    match ← lineBreak with
    | none => return found.reverse
    | some c => quotedBreaks fuel (c :: found)

/-- A part of a quoted text, and whether it has no half of a surrogate pair. -/
structure Part where
  /-- The characters, backwards. -/
  text : List Char
  whole : Bool

def Part.push (a : Part) (cs : List Char) : Part := { a with text := pushAll cs a.text }

def checkCode (n : Nat) : Scan Unit :=
  if n ≤ 0x10ffff then pure ()
  else if n < 0x80000000 then throw (.value "chr() arg not in range(0x110000)")
  else throw .hugeCode

def escapedPart (room : Nat) (found : Part) : Scan Part := do
  forward 1
  let c ← peek
  match escapeOf? c, escapeWidth? c with
  | some d, _ =>
    forward 1
    return found.push [d]
  | none, some width =>
    forward 1
    let s ← get
    let digits := s.ahead.take width
    require (digits.length == width && digits.all isHex)
    forward width
    let n := hexValue digits
    checkCode n
    let whole := !(0xd800 ≤ n && n < 0xe000)
    return { found.push [Char.ofNat n] with whole := found.whole && whole }
  | none, none =>
    match ← lineBreak with
    | none => refuse
    | some _ => return found.push (← quotedBreaks (room + 1) [])

def quotedWord (room : Nat) (double : Bool) (fuel : Nat) (found : Part) : Scan Part := do
  match fuel with
  | 0 => return found
  | fuel + 1 =>
    let cs ← span fun c => !(isGap c || c == '\'' || c == '"' || c == '\\')
    let found := found.push cs
    let c ← peek
    if !double && c == '\'' && (← peekAt 1) == '\'' then
      forward 2
      quotedWord room double fuel (found.push ['\''])
    else if (double && c == '\'') || (!double && (c == '"' || c == '\\')) then
      forward 1
      quotedWord room double fuel (found.push [c])
    else if double && c == '\\' then
      quotedWord room double fuel (← escapedPart room found)
    else return found

def quotedGap (room : Nat) : Scan (List Char) := do
  let blanks ← span fun c => c == ' ' || c == '\t'
  require ((← peek) != endMark)
  match ← lineBreak with
  | none => return blanks
  | some c => return foldedBreak c (← quotedBreaks (room + 1) [])

def quotedFrom (room : Nat) (double : Bool) (fuel : Nat) (found : Part) : Scan Part := do
  match fuel with
  | 0 => refuse
  | fuel + 1 =>
    if (← peek) == (if double then '"' else '\'') then
      forward 1
      return found
    else
      let gap ← quotedGap room
      quotedFrom room double fuel (← quotedWord room double (room + 1) (found.push gap))

def quotedText (room : Nat) (double : Bool) : Scan Token := do
  forward 1
  let word ← quotedWord room double (room + 1) ⟨[], true⟩
  let p ← quotedFrom room double (room + 2) word
  return .scalar p.text.reverse false p.whole

/-- What becomes of the line breaks at the end of a block text. -/
inductive Chomping where
  | strip
  | clip
  | keep
  deriving DecidableEq, Repr

def chomping? : Char → Option Chomping
  | '+' => some .keep
  | '-' => some .strip
  | _ => none

def chompingMark : Scan (Option Chomping) := do
  match chomping? (← peek) with
  | some c =>
    forward 1
    return some c
  | none => return none

def incrementMark : Scan (Option Nat) := do
  let c ← peek
  if c.isDigit then
    require (c != '0')
    forward 1
    return some (c.toNat - 48)
  else return none

def blockHead : Scan (Chomping × Option Nat) := do
  let first ← chompingMark
  let increment ← incrementMark
  let second ← if first.isNone && increment.isSome then chompingMark else pure none
  require (isFirmGap (← peek))
  return ((first <|> second).getD .clip, increment)

/-- Breaks before the first line, and the deepest column among the blanks there. -/
def leadingBreaks (fuel : Nat) (found : List Char) (deepest : Nat) : Scan (List Char × Nat) := do
  match fuel with
  | 0 => return (found.reverse, deepest)
  | fuel + 1 =>
    if (← peek) == ' ' then
      forward 1
      let s ← get
      leadingBreaks fuel found (max deepest s.column)
    else
      match ← lineBreak with
      | none => return (found.reverse, deepest)
      | some c => leadingBreaks fuel (c :: found) deepest

def skipTo (column : Nat) : Scan Unit := do
  let s ← get
  forward ((s.ahead.take (column - s.column)).takeWhile (· == ' ')).length

def blockBreaks (column fuel : Nat) (found : List Char) : Scan (List Char) := do
  match fuel with
  | 0 => return found.reverse
  | fuel + 1 =>
    skipTo column
    match ← lineBreak with
    | none => return found.reverse
    | some c => blockBreaks column fuel (c :: found)

/-- The lines of a block text, backwards, where `breaks` precede the next one. The breaks at its
end come with it: the one of the last line, and those behind it. -/
def blockLines (room : Nat) ( folded : Bool) (column fuel : Nat) (found : List Char)
    (last : List Char) (breaks : List Char) : Scan (List Char × List Char × List Char) := do
  match fuel with
  | 0 => return (found, last, breaks)
  | fuel + 1 =>
    let s ← get
    if s.column != column || s.ahead.isEmpty then return (found, last, breaks)
    else
      let spaced := s.ahead.head? == some ' ' || s.ahead.head? == some '\t'
      let line ← span fun c => !isBreak c
      let found := pushAll line (pushAll breaks found)
      let last := (← lineBreak).toList
      let breaks ← blockBreaks column (room + 1) []
      let t ← get
      if t.column == column && !t.ahead.isEmpty then
        let next := t.ahead.headD endMark
        let joins := folded && last == ['\n'] && !spaced && next != ' ' && next != '\t'
        let joint := if joins then (if breaks.isEmpty then [' '] else []) else last
        blockLines room folded column fuel (pushAll joint found) [] breaks
      else return (found, last, breaks)

def blockText (room : Nat) ( folded : Bool) : Scan Token := do
  forward 1
  let (chomping, increment) ← blockHead
  restOfLine
  let s ← get
  let least := (max (s.indent + 1) 1).toNat
  let (breaks, column) ← match increment with
    | none =>
      let (breaks, deepest) ← leadingBreaks (room + 1) [] 0
      pure (breaks, max least deepest)
    | some n =>
      let column := least + n - 1
      pure (← blockBreaks column (room + 1) [], column)
  let (text, last, more) ← blockLines room folded column (room + 1) [] [] breaks
  let tail := match chomping with
    | .strip => []
    | .clip => last
    | .keep => last ++ more
  return .scalar (text.reverse ++ tail) false true

end OrderSheet.Yaml.Scan
