import OrderSheet.Data.Basic
import OrderSheet.Text.Quote

/-!
# Raw data as text

A value is displayed as itself when it is a text, a date or a moment, and spelled out with
brackets, quotes and type names otherwise; inside a collection every value is spelled out.
-/

namespace OrderSheet.Data

/-- Bytes in quotes; only printable ASCII characters stand for themselves. -/
def quoteBytes (bs : List UInt8) : List Char :=
  let cs := bs.map fun b => Char.ofNat b.toNat
  let mark := Text.quoteMark cs
  let byte (c : Char) : List Char :=
    if c.toNat < 127 then Text.quoteChar mark c else Text.codeEscape c.toNat
  'b' :: mark :: cs.flatMap byte ++ [mark]

def commaSeparated (parts : List String) : String := ", ".intercalate parts

def spellDate (d : Date) : String := s!"datetime.date({d.year}, {d.month}, {d.day})"

def spellSpan (seconds : Int) : String :=
  let days := seconds / 86400
  let rest := seconds % 86400
  let parts := (if days == 0 then [] else [s!"days={days}"]) ++
    (if rest == 0 then [] else [s!"seconds={rest}"])
  "datetime.timedelta(" ++ commaSeparated parts ++ ")"

def spellOffset (seconds : Int) : String :=
  if seconds == 0 then "datetime.timezone.utc"
  else "datetime.timezone(" ++ spellSpan seconds ++ ")"

/-- Seconds and millionths are left out when nothing but zeros would follow. -/
def spellMoment (m : Moment) : String :=
  let fields := [m.date.year, m.date.month, m.date.day, m.hour, m.minute] ++
    (if m.micro != 0 then [m.second, m.micro] else if m.second != 0 then [m.second] else [])
  let zone := match m.offset with
    | none => []
    | some s => ["tzinfo=" ++ spellOffset s]
  "datetime.datetime(" ++ commaSeparated (fields.map toString ++ zone) ++ ")"

def spellTruth (b : Bool) : String := if b then "True" else "False"

mutual

def spell : Data → String
  | .null => "None"
  | .bool b => spellTruth b
  | .int n => toString n
  | .real x => x.toText
  | .text s => Text.quoteString s
  | .bytes bs => String.ofList (quoteBytes bs)
  | .date d => spellDate d
  | .moment m => spellMoment m
  | .list xs => "[" ++ commaSeparated (spellAll xs) ++ "]"
  | .tuple xs =>
    match spellAll xs with
    | [x] => "(" ++ x ++ ",)"
    | parts => "(" ++ commaSeparated parts ++ ")"
  | .set xs =>
    match spellAll xs with
    | [] => "set()"
    | parts => "\x7b" ++ commaSeparated parts ++ "\x7d"
  | .map entries => "\x7b" ++ commaSeparated (spellEntries entries) ++ "\x7d"

def spellAll : List Data → List String
  | [] => []
  | x :: xs => spell x :: spellAll xs

def spellEntries : List (Data × Data) → List String
  | [] => []
  | (k, v) :: rest => (spell k ++ ": " ++ spell v) :: spellEntries rest

end

def spellLimit : Nat := 4300

mutual

/-- Whether a value cannot be spelled out because an integer in it has too many digits. -/
def isHuge : Data → Bool
  | .int n => spellLimit < (toString n.natAbs).length
  | .list xs | .tuple xs | .set xs => anyHuge xs
  | .map entries => anyEntryHuge entries
  | _ => false

def anyHuge : List Data → Bool
  | [] => false
  | x :: xs => isHuge x || anyHuge xs

def anyEntryHuge : List (Data × Data) → Bool
  | [] => false
  | (k, v) :: rest => isHuge k || isHuge v || anyEntryHuge rest

end

def display : Data → String
  | .text s => s
  | .date d => String.ofList (Moment.dateChars d)
  | .moment m =>
    String.ofList <| Moment.dateChars m.date ++ ' ' :: m.timeChars ++
      (m.offset.map Moment.offsetChars).getD []
  | x => spell x

end OrderSheet.Data
