import OrderSheet.Regex.Escape
import OrderSheet.Text.Letter
import OrderSheet.Number.Decimal

/-!
# Reading a pattern

A pattern is a choice between sequences of items. Reading carries fuel: every item takes at least
one token, and a nested choice is opened by a token of its own.
-/

namespace OrderSheet.Regex

/-- What can be done with an item: tests of the position cannot be repeated, and repeated items
cannot be repeated again. -/
inductive ItemKind where
  | ordinary
  | position
  | repeated
  deriving DecidableEq, Repr

structure Item where
  node : Node
  kind : ItemKind
  deriving Repr

structure Count where
  least : Nat
  most : Option Nat
  deriving DecidableEq, Repr

def Count.ofChar? : Char → Option Count
  | '?' => some ⟨0, some 1⟩
  | '*' => some ⟨0, none⟩
  | '+' => some ⟨1, none⟩
  | _ => none

def repeatLimit : Nat := 4294967295

def groupLimit : Nat := 1073741823

def digitLimit : Nat := 4300

def casingOf (flags : List Flag) : Casing :=
  if !flags.contains .ignoreCase then .exact
  else if flags.contains .ascii then .asciiFolded
  else .folded

def literal (flags : List Flag) (n : Nat) : Item :=
  let casing := casingOf flags
  ⟨.one (.literal casing (casing.normal n)), .ordinary⟩

def dot (flags : List Flag) : Item :=
  ⟨.one (if flags.contains .dotAll then .anyChar else .inLine), .ordinary⟩

def caret (flags : List Flag) : Item :=
  ⟨.anchor (if flags.contains .multiLine then .lineStart else .textStart), .position⟩

def dollar (flags : List Flag) : Item :=
  ⟨.anchor (if flags.contains .multiLine then .lineEnd else .lastLineEnd), .position⟩

def itemOf (flags : List Flag) : Escape → Item
  | .code n => literal flags n
  | .category k negated =>
    ⟨.one (.set .exact false [.category k negated (flags.contains .ascii)]), .ordinary⟩
  | .anchor a => ⟨.anchor a, .position⟩
  | .group n => ⟨.again n (casingOf flags), .ordinary⟩

def isSpecial (c : Char) : Bool := ".\\[\x7b()*+?^$|".contains c

/-- The number that a name of digits stands for; signs, whitespace around it, and underscores
between digits are allowed. -/
def groupNumber? (name : List Char) : Option Nat :=
  let (negative, digits) := Decimal.readSign (Text.strip name)
  let parts := Text.splitOnChar '_' digits
  if parts.all fun p => !p.isEmpty && p.all Text.isDigit then
    let n := Text.digitsValue parts.flatten
    if parts.flatten.length > digitLimit || (negative && n != 0) then none else some n
  else none

namespace Parse

def repeatNumber (digits : List Char) : Parse Nat := fun s =>
  if digits.length > digitLimit then .error (.hugeNumber digits.length)
  else
    let n := numberIn 10 digits
    if n ≥ repeatLimit then .error .hugeRepeat else .ok (n, s)

/-- The bounds behind an opening brace, which began the repetition at `here - 1`. Nothing is
consumed unless bounds and a closing brace are there. -/
def bounds? (here : Nat) : Parse (Option Count) := do
  let saved ← get
  if (← peek) == some (.plain '}') then return none
  else
    let lo ← takeChars Char.isDigit saved.ahead.length
    let ranged ← accept ','
    let hi ← if ranged then takeChars Char.isDigit saved.ahead.length else pure lo
    if !(← accept '}') then
      set saved
      return none
    else
      let least ← if lo.isEmpty then pure 0 else repeatNumber lo
      if hi.isEmpty then return some ⟨least, none⟩
      else
        let most ← repeatNumber hi
        let stop ← tell
        if most < least then refuseBack (stop - here) .reversedRepeat
        else return some ⟨least, some most⟩

def greed : Parse Greed := do
  if ← accept '?' then return .reluctant
  else if ← accept '+' then return .possessive
  else return .greedy

/-- Repeats the latest item, where the repetition was written from `here - 1` on. -/
def repeatLast (here : Nat) (count : Count) (items : List Item) : Parse (List Item) := do
  match items with
  | [] => refuseAt .nothingToRepeat (here - 1)
  | item :: earlier =>
    match item.kind with
    | .position => refuseAt .nothingToRepeat (here - 1)
    | .repeated => refuseAt .multipleRepeat (here - 1)
    | .ordinary =>
      let greed ← greed
      return ⟨Node.repeated greed count.least count.most item.node, .repeated⟩ :: earlier

def flagOf? (m : Mark) : Option Flag := (plainChar? m).bind Flag.ofChar?

/-- Refuses a token where a flag or one of the given marks is expected. -/
def refuseFlag {α : Type} (expected : String) (m : Mark) : Parse α :=
  refuseBack m.chars.length <|
    if (plainChar? m).any Text.isLetter then .unknownFlag else .missing expected

/-- The flags from `flag` on, and the mark behind them: a closing parenthesis, a minus sign or a
colon. -/
def addedFlags (fuel : Nat) (flag : Flag) (found : List Flag) : Parse (List Flag × Char) := do
  match fuel with
  | 0 => refuse (.missing "-, : or )")
  | fuel + 1 =>
    if flag == .locale then refuse .localeFlag
    else if flag.isAlphabet && found.any fun f => f.isAlphabet && f != flag then
      refuse .incompatibleFlags
    else
      let found := flag :: found
      match ← next with
      | none => refuse (.missing "-, : or )")
      | some m =>
        match m, flagOf? m with
        | .plain ')', _ => return (found, ')')
        | .plain '-', _ => return (found, '-')
        | .plain ':', _ => return (found, ':')
        | _, some f => addedFlags fuel f found
        | m, none => refuseFlag "-, : or )" m

def removedFlags (fuel : Nat) (flag : Flag) (found : List Flag) : Parse (List Flag) := do
  match fuel with
  | 0 => refuse (.missing ":")
  | fuel + 1 =>
    if flag.isAlphabet then refuse .alphabetOff
    else
      let found := flag :: found
      match ← next with
      | none => refuse (.missing ":")
      | some m =>
        match m, flagOf? m with
        | .plain ':', _ => return found
        | _, some f => removedFlags fuel f found
        | m, none => refuseFlag ":" m

/-- The flags that a group adds and removes, or none if they apply to the whole pattern. -/
def groupFlags (first : Option Flag) : Parse (Option (List Flag × List Flag)) := do
  let s ← get
  let fuel := s.ahead.length + 1
  let (added, mark) ← match first with
    | some f => addedFlags fuel f []
    | none => pure ([], '-')
  if mark == ')' then
    modify fun s => { s with flags := s.flags ++ added }
    return none
  else if added.contains .template then refuseBack 1 .globalOn
  else
    let removed ←
      if mark == '-' then
        match ← next with
        | none => refuse (.missing "flag")
        | some m =>
          match flagOf? m with
          | some f => removedFlags fuel f []
          | none => refuseFlag "flag" m
      else pure []
    if removed.contains .template then refuseBack 1 .globalOff
    else if added.any removed.contains then refuseBack 1 .onAndOff
    else return some (added, removed)

def openGroup (name : Option String) : Parse Nat := do
  let s ← get
  let n := s.nextGroup
  match name with
  | none =>
    if n ≥ groupLimit then refuse .tooManyGroups
    else
      set { s with widths := none :: s.widths }
      return n
  | some name =>
    match s.groupNamed? name with
    | some earlier => refuseBack (name.length + 1) (.groupRedefined name n earlier)
    | none =>
      set { s with widths := none :: s.widths, names := (name, n) :: s.names }
      return n

def widthOf (node : Node) : Parse Width := do
  let s ← get
  return node.width fun i => (s.groupWidth? i).getD Width.zero

def closeGroup (number : Nat) (body : Node) : Parse Node := do
  let w ← widthOf body
  modify fun s => s.closeGroup number w
  return .group number body

def groupName (terminator : Char) : Parse String := do
  let name ← takeName terminator "group name"
  if Text.isIdentifier name.toList then return name
  else refuseBack (name.length + 1) (.badGroupName name)

def namedReference (flags : List Flag) : Parse Item := do
  let name ← groupName ')'
  let s ← get
  match s.groupNamed? name with
  | none => refuseBack (name.length + 1) (.unknownGroupName name)
  | some n =>
    if (s.groupWidth? n).isNone then refuseBack (name.length + 1) .openGroup
    else
      checkLookbehind n
      return itemOf flags (.group n)

def conditionGroup : Parse Nat := do
  let name ← takeName ')' "group name"
  let back := name.length + 1
  let s ← get
  let number ←
    if Text.isIdentifier name.toList then
      match s.groupNamed? name with
      | some n => pure n
      | none => refuseBack back (.unknownGroupName name)
    else
      match groupNumber? name.toList with
      | none => refuseBack back (.badGroupName name)
      | some 0 => refuseBack back .badGroupNumber
      | some n =>
        if n ≥ groupLimit then refuseBack back (.noSuchGroup n)
        else
          if !s.asked.any (·.1 == n) then
            set { s with asked := s.asked ++ [(n, s.tell - back)] }
          pure n
  checkLookbehind number
  return number

/-- Requires the closing parenthesis of what was opened at `start`. -/
def close (start : Nat) : Parse Unit := do
  if ← accept ')' then return else refuseAt .unterminatedGroup start

/-- What follows an opening parenthesis: a part with contents of its own, or a complete item. -/
inductive Opening where
  | capture (name : Option String)
  | scoped (added removed : List Flag)
  | atomic
  | look (backwards negated : Bool)
  | condition (group : Nat)
  | item (item : Item)
  | comment
  | globalFlags
  deriving Repr

/-- Reads the marks behind an opening parenthesis at `start`. -/
def opening (flags : List Flag) (start : Nat) : Parse Opening := do
  if !(← accept '?') then return .capture none
  else
    match ← next with
    | none => refuse .unexpectedEnd
    | some (.plain 'P') =>
      if ← accept '<' then return .capture (some (← groupName '>'))
      else if ← accept '=' then return .item (← namedReference flags)
      else
        match ← next with
        | none => refuse .unexpectedEnd
        | some m => refuseBack (m.chars.length + 2) (.unknownExtension ("P" ++ m.text))
    | some (.plain ':') => return .scoped [] []
    | some (.plain '#') =>
      let _ ← takeUntil ')'
      if ← accept ')' then return .comment else refuseAt .unterminatedComment start
    | some (.plain '=') => return .look false false
    | some (.plain '!') => return .look false true
    | some (.plain '<') =>
      match ← next with
      | none => refuse .unexpectedEnd
      | some (.plain '=') => return .look true false
      | some (.plain '!') => return .look true true
      | some m => refuseBack (m.chars.length + 2) (.unknownExtension ("<" ++ m.text))
    | some (.plain '(') => return .condition (← conditionGroup)
    | some (.plain '>') => return .atomic
    | some m =>
      match m, flagOf? m with
      | .plain '-', _ | _, some _ =>
        match ← groupFlags (flagOf? m) with
        | none => return .globalFlags
        | some (added, removed) => return .scoped added removed
      | m, none => refuseBack (m.chars.length + 1) (.unknownExtension m.text)

/-- Inside a lookbehind, the groups opened from here on are remembered as its own. -/
def enterLookbehind : Parse (Option Nat) := do
  let s ← get
  if s.lookbehindFrom.isNone then set { s with lookbehindFrom := some s.nextGroup }
  return s.lookbehindFrom

def leaveLookbehind (outer : Option Nat) : Parse Unit :=
  modify fun s => { s with lookbehindFrom := if outer.isNone then none else s.lookbehindFrom }

def isLayout (c : Char) : Bool := Text.isAsciiBlank c

mutual

/-- The items up to the end of a sequence, where `items` holds those so far, backwards. Global
flags may only stand at the beginning of the `first` sequence of the pattern. -/
def sequence (fuel : Nat) (flags : List Flag) (first : Bool) (items : List Item) : Parse Node := do
  match fuel with
  | 0 => refuse .unexpectedEnd
  | fuel + 1 =>
    match ← peek with
    | none | some (.plain '|') | some (.plain ')') =>
      return Node.ofReversed (items.map Item.node)
    | some m =>
      advance
      match m with
      | .loose => refuse .looseBackslash
      | .escaped c =>
        let e ← escape (flags.contains .ascii) c
        sequence fuel flags first (itemOf flags e :: items)
      | .plain c =>
        if flags.contains .verbose && isLayout c then sequence fuel flags first items
        else if flags.contains .verbose && c == '#' then
          let _ ← takeUntil '\n'
          let _ ← accept '\n'
          sequence fuel flags first items
        else if !isSpecial c then sequence fuel flags first (literal flags c.toNat :: items)
        else
          let here ← tell
          match c with
          | '[' =>
            let negated ← accept '^'
            let s ← get
            let members ← setMembers (flags.contains .ascii) (here - 1) (s.ahead.length + 1) []
            let set := Single.set (casingOf flags) negated members
            sequence fuel flags first (⟨.one set, .ordinary⟩ :: items)
          | '{' =>
            match ← bounds? here with
            | none => sequence fuel flags first (literal flags c.toNat :: items)
            | some count => sequence fuel flags first (← repeatLast here count items)
          | '.' => sequence fuel flags first (dot flags :: items)
          | '^' => sequence fuel flags first (caret flags :: items)
          | '$' => sequence fuel flags first (dollar flags :: items)
          | '(' =>
            let start := here - 1
            match ← opening flags start with
            | .comment => sequence fuel flags first items
            | .globalFlags =>
              if !first || !items.isEmpty then refuseAt .misplacedFlags start
              else
                let s ← get
                sequence fuel s.flags first items
            | .item item => sequence fuel flags first (item :: items)
            | o =>
              let node ← contents fuel flags start o
              sequence fuel flags first (⟨node, .ordinary⟩ :: items)
          | c =>
            match Count.ofChar? c with
            | some count => sequence fuel flags first (← repeatLast here count items)
            | none => sequence fuel flags first (literal flags c.toNat :: items)

/-- The contents of a part that was opened at `start`, up to its closing parenthesis. -/
def contents (fuel : Nat) (flags : List Flag) (start : Nat) (o : Opening) : Parse Node := do
  match fuel with
  | 0 => refuse .unexpectedEnd
  | fuel + 1 =>
    match o with
    | .capture name =>
      let n ← openGroup name
      let body ← choice fuel flags false []
      close start
      closeGroup n body
    | .scoped added removed =>
      let body ← choice fuel (combineFlags flags added removed) false []
      close start
      return body
    | .atomic =>
      let body ← choice fuel flags false []
      close start
      return .atomic body
    | .look false negated =>
      let body ← choice fuel flags false []
      close start
      return .ahead negated body
    | .look true negated =>
      let outer ← enterLookbehind
      let body ← choice fuel flags false []
      leaveLookbehind outer
      close start
      return .behind negated (← widthOf body) body
    | .condition group =>
      let yes ← sequence fuel flags false []
      let no ←
        if ← accept '|' then
          let no ← sequence fuel flags false []
          if (← peek) == some (.plain '|') then refuse .threeBranches
          pure no
        else pure Node.empty
      close start
      return .ifGroup group yes no
    | .item item => return item.node
    | .comment | .globalFlags => return .empty

/-- The sequences of a choice, where `earlier` holds those so far, backwards. -/
def choice (fuel : Nat) (flags : List Flag) (top : Bool) (earlier : List Node) : Parse Node := do
  match fuel with
  | 0 => refuse .unexpectedEnd
  | fuel + 1 =>
    let node ← sequence fuel flags (top && earlier.isEmpty) []
    if ← accept '|' then
      let s ← get
      choice fuel (if top then s.flags else flags) top (node :: earlier)
    else return Node.choiceOfReversed (node :: earlier)

end

end Parse

def Greed.operator : Greed → String
  | greedy => "MAX_REPEAT"
  | reluctant => "MIN_REPEAT"
  | possessive => "POSSESSIVE_REPEAT"

def lookbehindLimit : Nat := 4294967295

def Node.unsupported? (template : Bool) : Node → Option Reason
  | .empty | .one _ | .anchor _ | .again .. => none
  | .seq a b | .alt a b | .ifGroup _ a b => a.unsupported? template <|> b.unsupported? template
  | .run greed .. => if template then some (.repeatInTemplate greed.operator) else none
  | .loop greed _ _ body =>
    if template then some (.repeatInTemplate greed.operator) else body.unsupported? template
  | .group _ body | .atomic body | .ahead _ body => body.unsupported? template
  | .behind _ w body =>
    if w.least != w.most then some .unfixedLookbehind
    else if w.least > lookbehindLimit then some .longLookbehind
    else body.unsupported? template

/-- Reads a pattern to which some options apply; the number of its groups comes with it. -/
def parse (flags : List Flag) (pattern : List Char) : Except Fault (Node × Nat) := do
  let tokens := tokensFrom 0 pattern
  Parse.checkAhead tokens
  let start : Progress := ⟨tokens, pattern.length, [], [], none, [], flags⟩
  let (node, s) ← Parse.choice (3 * tokens.length + 3) flags true [] start
  if s.flags.contains .ascii && s.flags.contains .unicode then throw .conflictingAlphabets
  if !s.ahead.isEmpty then throw (.malformed .unbalanced s.tell)
  match s.asked.find? fun a => a.1 ≥ s.nextGroup with
  | some (n, pos) => throw (.malformed (.noSuchGroup n) pos)
  | none =>
    match node.unsupported? (s.flags.contains .template) with
    | some reason => throw (.unsupported reason)
    | none => return (node, s.widths.length)

end OrderSheet.Regex
