import OrderSheet.Text.Blank

/-!
# Kinds of plain values

Which kind of value a plain text stands for: nothing, a truth value, a number, a moment, or just
the text itself.
-/

namespace OrderSheet.Yaml

inductive Tag where
  | null
  | bool
  | int
  | float
  | binary
  | timestamp
  | omap
  | pairs
  | set
  | str
  | seq
  | map
  | merge
  | value
  | unknown
  deriving DecidableEq, Repr

def Tag.named : List (String × Tag) := [
  ("null", .null), ("bool", .bool), ("int", .int), ("float", .float), ("binary", .binary),
  ("timestamp", .timestamp), ("omap", .omap), ("pairs", .pairs), ("set", .set), ("str", .str),
  ("seq", .seq), ("map", .map), ("merge", .merge), ("value", .value)]

def tagStart : List Char := "tag:yaml.org,2002:".toList

def Tag.ofText (cs : List Char) : Tag :=
  if tagStart.isPrefixOf cs then
    let name := cs.drop tagStart.length
    ((named.find? fun t => t.1.toList == name).map (·.2)).getD .unknown
  else .unknown

def isDecimal (c : Char) : Bool := c.isDigit

def orMark (p : Char → Bool) (c : Char) : Bool := p c || c == '_'

def someOf (p : Char → Bool) (cs : List Char) : Bool := !cs.isEmpty && cs.all p

def isBinaryDigit (c : Char) : Bool := c == '0' || c == '1'
def isOctal (c : Char) : Bool := '0' ≤ c && c ≤ '7'
def isHexadecimal (c : Char) : Bool :=
  c.isDigit || ('a' ≤ c && c ≤ 'f') || ('A' ≤ c && c ≤ 'F')

def isMarkedNumber : List Char → Bool
  | [] => false
  | c :: cs => c.isDigit && cs.all (orMark isDecimal)

def isSixtieth : List Char → Bool
  | [d] => d.isDigit
  | [c, d] => '0' ≤ c && c ≤ '5' && d.isDigit
  | _ => false

def unsigned : List Char → List Char
  | '+' :: cs | '-' :: cs => cs
  | cs => cs

def isIntText (cs : List Char) : Bool :=
  match unsigned cs with
  | '0' :: 'b' :: ds => someOf (orMark isBinaryDigit) ds
  | '0' :: 'x' :: ds => someOf (orMark isHexadecimal) ds
  | ['0'] => true
  | '0' :: ds => ds.all (orMark isOctal)
  | ds =>
    match Text.splitOnChar ':' ds with
    | [whole] => isMarkedNumber whole
    | whole :: parts => isMarkedNumber whole && parts.all isSixtieth
    | [] => false

def isExponent : List Char → Bool
  | [] => true
  | e :: s :: ds => (e == 'e' || e == 'E') && (s == '+' || s == '-') && someOf isDecimal ds
  | _ => false

def isFloatText (cs : List Char) : Bool :=
  let body := unsigned cs
  let isSigned := body.length < cs.length
  let whole := body.takeWhile (· != '.')
  match body.dropWhile (· != '.') with
  | [] => false
  | _ :: rest =>
    let mantissa := rest.takeWhile (orMark isDecimal)
    let exponent := rest.dropWhile (orMark isDecimal)
    let name := String.ofList rest
    if whole.isEmpty then
      ["inf", "Inf", "INF"].contains name ||
        (!isSigned && (["nan", "NaN", "NAN"].contains name ||
          (isMarkedNumber mantissa && isExponent exponent)))
    else
      match Text.splitOnChar ':' whole with
      | [w] => isMarkedNumber w && isExponent exponent
      | w :: parts => isMarkedNumber w && parts.all isSixtieth && exponent.isEmpty
      | [] => false

/-- Between `least` and `most` digits, as far as they go, and what follows them. -/
def digits? (least most : Nat) (cs : List Char) : Option (List Char × List Char) :=
  let ds := (cs.take most).takeWhile Char.isDigit
  if least ≤ ds.length then some (ds, cs.drop ds.length) else none

def mark? (c : Char) : List Char → Option (List Char)
  | d :: cs => if d == c then some cs else none
  | [] => none

structure WrittenTime where
  hour : Nat
  minute : Nat
  second : Nat
  fraction : List Char
  zone : Option Int
  deriving DecidableEq, Repr

structure WrittenMoment where
  year : Nat
  month : Nat
  day : Nat
  full : Bool
  time : Option WrittenTime
  deriving DecidableEq, Repr

def natOf (ds : List Char) : Nat := ds.foldl (fun n c => 10 * n + (c.toNat - 48)) 0

def isTabOrSpace (c : Char) : Bool := c == ' ' || c == '\t'

def readZone? (cs : List Char) : Option (Option Int) :=
  if cs.isEmpty then some none
  else
    match cs.dropWhile isTabOrSpace with
    | ['Z'] => some (some 0)
    | s :: cs => do
      if s != '+' && s != '-' then none
      let (hours, cs) ← digits? 1 2 cs
      let minutes ← match cs with
        | [] => some []
        | ':' :: cs => do
          let (minutes, cs) ← digits? 2 2 cs
          if cs.isEmpty then some minutes else none
        | _ => none
      let seconds : Int := 3600 * natOf hours + 60 * natOf minutes
      return some (if s == '-' then -seconds else seconds)
    | [] => none

def readTime? (cs : List Char) : Option WrittenTime := do
  let cs ← match cs with
    | 'T' :: cs | 't' :: cs => some cs
    | c :: cs => if isTabOrSpace c then some (cs.dropWhile isTabOrSpace) else none
    | [] => none
  let (hour, cs) ← digits? 1 2 cs
  let cs ← mark? ':' cs
  let (minute, cs) ← digits? 2 2 cs
  let cs ← mark? ':' cs
  let (second, cs) ← digits? 2 2 cs
  let (fraction, cs) := match cs with
    | '.' :: cs => (cs.takeWhile Char.isDigit, cs.dropWhile Char.isDigit)
    | cs => ([], cs)
  let zone ← readZone? cs
  return ⟨natOf hour, natOf minute, natOf second, fraction, zone⟩

def readMoment? (cs : List Char) : Option WrittenMoment := do
  let (year, cs) ← digits? 4 4 cs
  let cs ← mark? '-' cs
  let (month, cs) ← digits? 1 2 cs
  let cs ← mark? '-' cs
  let (day, cs) ← digits? 1 2 cs
  let time ← if cs.isEmpty then some none else (readTime? cs).map some
  return ⟨natOf year, natOf month, natOf day, month.length == 2 && day.length == 2, time⟩

/-- A plain date has two digits for month and day; with a time of the day fewer are enough. -/
def isMomentText (cs : List Char) : Bool :=
  (readMoment? cs).any fun m => m.full || m.time.isSome

def boolOf? (s : String) : Option Bool :=
  if ["yes", "true", "on"].contains s then some true
  else if ["no", "false", "off"].contains s then some false
  else none

def isBoolText (cs : List Char) : Bool :=
  let small := cs.map Char.toLower
  let spellings := [small, small.map Char.toUpper,
    (small.take 1).map Char.toUpper ++ small.drop 1]
  (boolOf? (String.ofList small)).isSome && spellings.contains cs

def isNullText (cs : List Char) : Bool :=
  ["", "~", "null", "Null", "NULL"].contains (String.ofList cs)

def resolveLine (cs : List Char) : Tag :=
  if isBoolText cs then .bool
  else if isFloatText cs then .float
  else if isIntText cs then .int
  else if cs == ['<', '<'] then .merge
  else if isNullText cs then .null
  else if isMomentText cs then .timestamp
  else if cs == ['='] then .value
  else .str

/-- A line feed at the end of a text does not count, unless it is all there is. -/
def withoutEnd (cs : List Char) : List Char :=
  if 1 < cs.length && cs.getLast? == some '\n' then cs.dropLast else cs

def resolve (cs : List Char) : Tag := resolveLine (withoutEnd cs)

end OrderSheet.Yaml
