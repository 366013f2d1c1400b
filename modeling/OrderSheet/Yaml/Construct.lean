import OrderSheet.Data.Display
import OrderSheet.Number.Decimal
import OrderSheet.Yaml.Compose

/-!
# From trees to values

Every node becomes a value of the kind that its tag names. A mapping that is merged into another
one supplies the entries that the other one does not have itself.
-/

namespace OrderSheet.Yaml

abbrev Built := Except Fault

def refuse {α : Type} : Built α := .error .malformed

def digitLimit : Nat := 4300

/-- The value of a digit of any script, or of a letter that continues the digits. -/
def digitOf? (c : Char) : Option Nat :=
  if isHexadecimal c && !c.isDigit then some (c.toLower.toNat - 87) else Text.digitValue? c

def baseMark? : Nat → Option Char
  | 2 => some 'b'
  | 8 => some 'o'
  | 16 => some 'x'
  | _ => none

def withoutMark (base : Nat) : List Char → List Char
  | z :: m :: cs =>
    if Text.digitValue? z == some 0 && baseMark? base == some m.toLower then cs else z :: m :: cs
  | cs => cs

def readInBase (base : Nat) (cs : List Char) : Built Int :=
  let (negative, body) := Decimal.readSign (Text.strip cs)
  let ds := withoutMark base body
  if ds.isEmpty || !ds.all fun c => (digitOf? c).any (· < base) then
    .error (.value (s!"invalid literal for int() with base {base}: " ++
      String.ofList (Text.quote cs)))
  else if base == 10 && digitLimit < ds.length then
    .error (.value (s!"Exceeds the limit (4300 digits) for integer string conversion: value has " ++
      s!"{ds.length} digits; use sys.set_int_max_str_digits() to increase the limit"))
  else
    let n : Int := ds.foldl (fun n c => base * n + (digitOf? c).getD 0) 0
    .ok (if negative then -n else n)

def inSixties (ns : List Int) : Int := ns.foldl (fun n m => 60 * n + m) 0

def withSign (cs : List Char) (n : Int) : Int := if cs.head? == some '-' then -n else n

def buildInt (text : List Char) : Built Int :=
  let cs := text.filter (· != '_')
  let body := unsigned cs
  (withSign cs) <$>
    match body with
    | [] => .error .noDigits
    | ['0'] => .ok 0
    | '0' :: 'b' :: ds => readInBase 2 ds
    | '0' :: 'x' :: ds => readInBase 16 ds
    | '0' :: _ => readInBase 8 body
    | _ =>
      if body.contains ':' then inSixties <$> (Text.splitOnChar ':' body).mapM (readInBase 10)
      else readInBase 10 body

/-- A binary number as it is written in decimal notation, or by one of its names. -/
def readBinary (text : List Char) : Built Binary :=
  let (negative, cs) := Decimal.readSign (Text.strip text)
  let signed (x : Binary) : Binary := if negative then x.neg else x
  let name := String.ofList (cs.map Char.toLower)
  if name == "inf" || name == "infinity" then .ok (signed (.infinite false))
  else if name == "nan" then .ok .nan
  else
    match Decimal.readUnsigned? cs with
    | some (n, e) => .ok (Binary.ofDecimal negative n e)
    | none =>
      .error (.value ("could not convert string to float: " ++ String.ofList (Text.quote text)))

/-- The most parts of a binary number to the base sixty: greater powers of sixty are out of the
range of binary numbers. -/
def partLimit : Nat := 174

def buildFloat (text : List Char) : Built Binary :=
  let cs := (text.filter (· != '_')).map Char.toLower
  let body := unsigned cs
  let signed (x : Binary) : Binary := if cs.head? == some '-' then x.neg else x
  if cs.isEmpty then .error .noDigits
  else if body == ".inf".toList then .ok (signed (.infinite false))
  else if body == ".nan".toList then .ok .nan
  else if body.contains ':' then do
    let parts ← (Text.splitOnChar ':' body).mapM readBinary
    if partLimit < parts.length then .error .manyParts
    let (sum, _) := parts.reverse.foldl
      (fun (sum, base) x => (sum.add (x.mul (Binary.ofNat base)), 60 * base)) (Binary.ofNat 0, 1)
    return signed sum
  else signed <$> readBinary body

def sextet? (c : Char) : Option Nat :=
  if 'A' ≤ c && c ≤ 'Z' then some (c.toNat - 65)
  else if 'a' ≤ c && c ≤ 'z' then some (c.toNat - 71)
  else if c.isDigit then some (c.toNat + 4)
  else if c == '+' then some 62
  else if c == '/' then some 63
  else none

/-- Bytes from letters of six bits each; `filled` letters of the current group make up `bits`.
Other characters are passed over, and enough padding ends the text. -/
def sextets (filled bits pads : Nat) (found : List UInt8) : List Char → Built (List UInt8)
  | [] => if filled == 0 then .ok found.reverse else refuse
  | '=' :: cs =>
    if 2 ≤ filled && 4 ≤ filled + pads + 1 then .ok found.reverse
    else sextets filled bits (if 2 ≤ filled then pads + 1 else pads) found cs
  | c :: cs =>
    match sextet? c with
    | none => sextets filled bits pads found cs
    | some v =>
      match filled with
      | 0 => sextets 1 v 0 found cs
      | 1 => sextets 2 (v % 16) 0 (UInt8.ofNat (bits * 4 + v / 16) :: found) cs
      | 2 => sextets 3 (v % 4) 0 (UInt8.ofNat (bits * 16 + v / 4) :: found) cs
      | _ => sextets 0 0 0 (UInt8.ofNat (bits * 64 + v) :: found) cs

def buildBytes (text : List Char) : Built (List UInt8) :=
  if text.all fun c => c.toNat < 128 then sextets 0 0 0 [] text else refuse

def checkZone (seconds : Int) : Built Unit :=
  if -86400 < seconds && seconds < 86400 then .ok ()
  else .error (.value ("offset must be a timedelta strictly between -timedelta(hours=24) and " ++
    "timedelta(hours=24), not " ++ Data.spellSpan seconds))

def checkDate (d : Date) : Built Unit :=
  if d.year == 0 then .error (.value "year 0 is out of range")
  else if d.month == 0 || 12 < d.month then .error (.value "month must be in 1..12")
  else if d.isValid then .ok ()
  else .error (.value "day is out of range for month")

def checkTime (t : WrittenTime) : Built Unit :=
  if 23 < t.hour then .error (.value "hour must be in 0..23")
  else if 59 < t.minute then .error (.value "minute must be in 0..59")
  else if 59 < t.second then .error (.value "second must be in 0..59")
  else .ok ()

def microOf (ds : List Char) : Nat :=
  let six := ds.take 6
  natOf (six ++ List.replicate (6 - six.length) '0')

def buildMoment (text : List Char) : Built Data := do
  match readMoment? (withoutEnd text) with
  | none => .error .notMoment
  | some m =>
    let d : Date := ⟨m.year, m.month, m.day⟩
    match m.time with
    | none =>
      checkDate d
      return .date d
    | some t =>
      t.zone.forM checkZone
      checkDate d
      checkTime t
      return .moment ⟨d, t.hour, t.minute, t.second, microOf t.fraction, t.zone⟩

/-- A text with half a surrogate pair has no encoding; it stands as a byte that decodes to no
text. -/
def buildText (text : List Char) (whole : Bool) : Data :=
  if whole then .text (String.ofList text) else .bytes [255]

def buildScalar (tag : Tag) (text : List Char) (whole : Bool) : Built Data :=
  match tag with
  | .null => .ok .null
  | .bool =>
    let word := String.ofList (text.map Char.toLower)
    match boolOf? word with
    | some b => .ok (.bool b)
    | none => .error (.noTruth word)
  | .int => Data.int <$> buildInt text
  | .float => Data.real <$> buildFloat text
  | .binary => Data.bytes <$> buildBytes text
  | .timestamp => buildMoment text
  | .str => .ok (buildText text whole)
  | .omap | .pairs | .set | .seq | .map | .merge | .value | .unknown => refuse

def Node.tag : Node → Tag
  | .scalar tag .. | .sequence tag _ | .mapping tag _ => tag
  | .again _ => .unknown

mutual

def textOf? : Node → Option (List Char × Bool)
  | .scalar _ text whole => some (text, whole)
  | .sequence .. | .again _ => none
  | .mapping _ entries => textIn? entries

def textIn? : List (Node × Node) → Option (List Char × Bool)
  | [] => none
  | (k, v) :: rest => if k.tag == .value then textOf? v else textIn? rest

end

def buildWrapped (tag : Tag) (entries : List (Node × Node)) : Built Data :=
  match textIn? entries, tag with
  | none, _ => refuse
  | some _, .timestamp => .error .nestedMoment
  | some (text, whole), tag => buildScalar tag text whole

def buildKey : Node → Built Data
  | .scalar tag text whole => buildScalar (if tag == .value then .str else tag) text whole
  | .mapping tag entries => buildWrapped (if tag == .value then .str else tag) entries
  | .sequence .. | .again _ => refuse

def putAll (entries more : List (Data × Data)) : List (Data × Data) :=
  more.foldl (fun es e => Data.putEntry es e.1 e.2) entries

/-- The entries of a mapping, behind those that are merged into it. -/
structure Parts where
  merged : List (Data × Data)
  own : List (Data × Data)

def Parts.all (p : Parts) : List (Data × Data) := putAll (putAll [] p.merged) p.own

mutual

def build : Node → Built Data
  | .scalar tag text whole => buildScalar tag text whole
  | .sequence tag items =>
    match tag with
    | .seq => Data.list <$> buildAll items
    | .omap | .pairs => Data.list <$> buildPairs items
    | _ => refuse
  | .mapping tag entries =>
    match tag with
    | .map => (fun p => Data.map p.all) <$> buildParts entries
    | .set => (fun p => Data.set (p.all.map (·.1))) <$> buildParts entries
    | _ => buildWrapped tag entries
  | .again _ => refuse

def buildAll : List Node → Built (List Data)
  | [] => .ok []
  | n :: ns => do return (← build n) :: (← buildAll ns)

def buildPairs : List Node → Built (List Data)
  | [] => .ok []
  | .mapping _ [(k, v)] :: ns => do
    let pair := Data.tuple [← build k, ← build v]
    return pair :: (← buildPairs ns)
  | _ :: _ => refuse

def buildParts : List (Node × Node) → Built Parts
  | [] => .ok ⟨[], []⟩
  | (k, v) :: rest => do
    if k.tag == .merge then
      let first ← buildMerged v
      let p ← buildParts rest
      return { p with merged := first ++ p.merged }
    else
      let key ← buildKey k
      let value ← build v
      let p ← buildParts rest
      return { p with own := (key, value) :: p.own }

/-- The entries of a mapping, or of several ones of which the earlier take precedence. -/
def buildMerged : Node → Built (List (Data × Data))
  | .mapping _ entries => Parts.all <$> buildParts entries
  | .sequence _ items => (fun es => es.reverse.flatten) <$> buildMergedAll items
  | .scalar .. | .again _ => refuse

def buildMergedAll : List Node → Built (List (List (Data × Data)))
  | [] => .ok []
  | .mapping _ entries :: ns => do
    let p ← buildParts entries
    return p.all :: (← buildMergedAll ns)
  | _ :: _ => refuse

end

def Tag.isFilledLater : Tag → Bool
  | .omap | .pairs | .set | .seq | .map => true
  | _ => false

def begin (n : Node) : Built (List Node) :=
  if n.tag.isFilledLater then .ok [n] else (fun _ => []) <$> build n

def beginPairs : List Node → Built (List Node)
  | [] => .ok []
  | .mapping _ [(k, v)] :: ns => do return (← begin k) ++ (← begin v) ++ (← beginPairs ns)
  | _ :: _ => refuse

def beginEntries : List (Node × Node) → Built (List Node)
  | [] => .ok []
  | (k, v) :: es => do
    let _ ← buildKey k
    return (← begin v) ++ (← beginEntries es)

mutual

def flatEntries (entries : List (Node × Node)) : Built (List (Node × Node)) := do
  return (← mergedEntries entries) ++ entries.filter fun e => e.1.tag != .merge

def mergedEntries : List (Node × Node) → Built (List (Node × Node))
  | [] => .ok []
  | (k, v) :: rest => do
    if k.tag == .merge then return (← entriesToMerge v) ++ (← mergedEntries rest)
    else mergedEntries rest

def entriesToMerge : Node → Built (List (Node × Node))
  | .mapping _ entries => flatEntries entries
  | .sequence _ items => (fun es => es.reverse.flatten) <$> allToMerge items
  | .scalar .. | .again _ => refuse

def allToMerge : List Node → Built (List (List (Node × Node)))
  | [] => .ok []
  | .mapping _ entries :: ns => do return (← flatEntries entries) :: (← allToMerge ns)
  | _ :: _ => refuse

end

def fill : Node → Built (List Node)
  | .sequence .seq items => List.flatten <$> items.mapM begin
  | .sequence .omap items | .sequence .pairs items => beginPairs items
  | .mapping .map entries | .mapping .set entries => do beginEntries (← flatEntries entries)
  | _ => refuse

def firstFault? (height : Nat) (ns : List Node) : Option Fault :=
  match height with
  | 0 => none
  | height + 1 =>
    match ns.mapM fill with
    | .error fault => some fault
    | .ok later => firstFault? height later.flatten

mutual

def Node.height : Node → Nat
  | .scalar .. | .again _ => 1
  | .sequence _ items => heightOfItems items + 1
  | .mapping _ entries => heightOfEntries entries + 1

def heightOfItems : List Node → Nat
  | [] => 0
  | n :: ns => max n.height (heightOfItems ns)

def heightOfEntries : List (Node × Node) → Nat
  | [] => 0
  | (k, v) :: es => max (max k.height v.height) (heightOfEntries es)

end

def faultOf (n : Node) : Fault :=
  match begin n with
  | .error fault => fault
  | .ok ns => (firstFault? n.height ns).getD .malformed

def load (text : List Char) : Built Data := do
  match ← compose text with
  | none => return .null
  | some n => (build n).mapError fun _ => faultOf n

end OrderSheet.Yaml
