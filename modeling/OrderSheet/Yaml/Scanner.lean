import OrderSheet.Yaml.Scalar

/-!
# The tokens of a document

Indentation opens and closes blocks, and a colon turns what stood before it on the same line into
a key. Whatever may turn out to be a key is kept as pending until the line ends.
-/

namespace OrderSheet.Yaml.Scan

def keyLimit : Nat := 1024

def dropPending (depth : Nat) (pending : List (Nat × PendingKey)) : List (Nat × PendingKey) :=
  pending.filter (·.1 != depth)

def isStale (s : Source) (k : PendingKey) : Bool :=
  k.line != s.line || keyLimit < s.index - k.index

def dropStale : Scan Unit := do
  let s ← get
  require !(s.pending.any fun p => isStale s p.2 && p.2.required)
  set { s with pending := s.pending.filter fun p => !isStale s p.2 }

def dropKey : Scan Unit := do
  let s ← get
  require !(s.pending.any fun p => p.1 == s.flow && p.2.required)
  set { s with pending := dropPending s.flow s.pending }

def saveKey : Scan Unit := do
  let s ← get
  if s.keyAllowed then
    dropKey
    let key : PendingKey :=
      ⟨s.count, s.flow == 0 && s.indent == (s.column : Int), s.index, s.line, s.column⟩
    modify fun t => { t with pending := (s.flow, key) :: t.pending }

def allowKey (b : Bool) : Scan Unit := modify fun s => { s with keyAllowed := b }

def unwind (column : Int) (fuel : Nat) : Scan Unit := do
  match fuel with
  | 0 => return
  | fuel + 1 =>
    let s ← get
    if s.flow == 0 && column < s.indent then
      set { s with indent := s.outer.headD (-1), outer := s.outer.drop 1 }
      emit .blockEnd
      unwind column fuel

def unwindTo (column : Int) : Scan Unit := do
  let s ← get
  unwind column (s.outer.length + 1)

def openBlock (column : Nat) : Scan Bool := do
  let s ← get
  if s.indent < (column : Int) then
    set { s with indent := (column : Int), outer := s.indent :: s.outer }
    return true
  else return false

/-- Passes blanks, comments and line breaks; outside of brackets a key may begin a line. -/
def toNextToken (fuel : Nat) : Scan Unit := do
  match fuel with
  | 0 => return
  | fuel + 1 =>
    skipSpaces
    if (← peek) == '#' then skipLine
    match ← lineBreak with
    | none => return
    | some _ =>
      let s ← get
      if s.flow == 0 then allowKey true
      toNextToken fuel

def mark (t : Token) : Scan Unit := do
  forward 1
  emit t

def documentMark (t : Token) : Scan Unit := do
  unwindTo (-1)
  dropKey
  allowKey false
  forward 3
  emit t

def openBracket (t : Token) : Scan Unit := do
  saveKey
  modify fun s => { s with flow := s.flow + 1 }
  allowKey true
  mark t

def closeBracket (t : Token) : Scan Unit := do
  dropKey
  modify fun s => { s with flow := s.flow - 1 }
  allowKey false
  mark t

def blockEntry : Scan Unit := do
  let s ← get
  if s.flow == 0 then
    require s.keyAllowed
    if ← openBlock s.column then emit .blockSequence
  allowKey true
  dropKey
  mark .entry

def markedKey : Scan Unit := do
  let s ← get
  if s.flow == 0 then
    require s.keyAllowed
    if ← openBlock s.column then emit .blockMapping
  allowKey (s.flow == 0)
  dropKey
  mark .key

def markedValue : Scan Unit := do
  let s ← get
  match s.pending.find? (·.1 == s.flow) with
  | some (_, key) =>
    set { s with pending := dropPending s.flow s.pending }
    insert key.before .key
    if s.flow == 0 then
      if ← openBlock key.column then insert key.before .blockMapping
    allowKey false
  | none =>
    if s.flow == 0 then
      require s.keyAllowed
      if ← openBlock s.column then emit .blockMapping
    allowKey (s.flow == 0)
    dropKey
  mark .value

def keyLike (t : Scan Token) : Scan Unit := do
  saveKey
  allowKey false
  emit (← t)

def blockScalar (room : Nat) ( folded : Bool) : Scan Unit := do
  allowKey true
  dropKey
  emit (← blockText room folded)

def startsPlain (inFlow : Bool) (c next : Char) : Bool :=
  !(isGap c || "-?:,[]\x7b\x7d#&*!|>'\"%@`".contains c) ||
    (!isGap next && (c == '-' || (!inFlow && (c == '?' || c == ':'))))

/-- Reads the token that begins with a character. Outside of brackets some marks have their meaning
only with a gap behind them. -/
def tokenOf (room : Nat) (inFlow : Bool) (c next : Char) : Scan Unit :=
  if c == '[' then openBracket .openSequence
  else if c == '\x7b' then openBracket .openMapping
  else if c == ']' then closeBracket .closeSequence
  else if c == '\x7d' then closeBracket .closeMapping
  else if c == ',' then do
    allowKey true
    dropKey
    mark .comma
  else if c == '-' && isGap next then blockEntry
  else if c == '?' && (inFlow || isGap next) then markedKey
  else if c == ':' && (inFlow || isGap next) then markedValue
  else if c == '*' then keyLike (Token.alias <$> anchorName)
  else if c == '&' then keyLike (Token.anchor <$> anchorName)
  else if c == '!' then keyLike (tag room)
  else if c == '|' && !inFlow then blockScalar room false
  else if c == '>' && !inFlow then blockScalar room true
  else if c == '\'' then keyLike (quotedText room false)
  else if c == '"' then keyLike (quotedText room true)
  else if startsPlain inFlow c next then keyLike (plainText room)
  else refuse

/-- Reads the token that begins here, and tells whether there are more. -/
def tokenHere (room : Nat) : Scan Bool := do
  let s ← get
  if s.ahead.isEmpty then
    unwindTo (-1)
    dropKey
    emit .streamEnd
    return false
  else
    let c ← peek
    let next ← peekAt 1
    let lineStart := s.column == 0
    if c == '%' && lineStart then
      unwindTo (-1)
      dropKey
      allowKey false
      emit (← directive room)
    else if lineStart && (← atBoundary '-') then documentMark .documentStart
    else if lineStart && (← atBoundary '.') then documentMark .documentEnd
    else tokenOf room (s.flow != 0) c next
    return true

def settle (room : Nat) : Scan Unit := do
  toNextToken (room + 1)
  dropStale
  let s ← get
  unwindTo s.column

def nextToken (room : Nat) : Scan Bool := do
  settle room
  tokenHere room

/-- The tokens that can be given out: those before the first that may still become a key. -/
def settled (s : Source) : List Token :=
  let keys := s.pending.filter fun p => !isStale s p.2
  s.tokens.reverse.take ((keys.map (·.2.before)).min?.getD s.count)

def tokensFrom (room fuel : Nat) (s : Source) : Stream :=
  match fuel with
  | 0 => ⟨settled s, .malformed⟩
  | fuel + 1 =>
    match nextToken room s with
    | .ok (more, t) => if more then tokensFrom room fuel t else ⟨t.tokens.reverse, .malformed⟩
    | .error fault => ⟨settled s, fault⟩

end Scan

def isAllowed (c : Char) : Bool :=
  let n := c.toNat
  n == 9 || n == 10 || n == 13 || (32 ≤ n && n ≤ 126) || n == 133 || (160 ≤ n && n ≤ 0xfffd) ||
    0x10000 ≤ n

def unifyBreaks : List Char → List Char
  | '\r' :: '\n' :: cs => '\n' :: unifyBreaks cs
  | '\r' :: cs => '\n' :: unifyBreaks cs
  | c :: cs => c :: unifyBreaks cs
  | [] => []

def tokens (text : List Char) : Stream :=
  let cs := unifyBreaks text
  if !cs.all isAllowed then ⟨[], .malformed⟩
  else
    let cs := if cs.head? == some '\ufeff' then cs.drop 1 else cs
    Scan.tokensFrom cs.length (cs.length + 2) (Source.start cs)

end OrderSheet.Yaml
