import OrderSheet.Number.Binary

/-!
# Dates and moments

A moment is a date and a time of day, possibly with its distance from universal time. The written
form is `2025-03-15T10:00:00.250000+03:00`, with `Z` for universal time and the fraction left out
when it is zero.
-/

namespace OrderSheet

structure Date where
  year : Nat
  month : Nat
  day : Nat
  deriving DecidableEq, Repr, Inhabited

namespace Date

def isLeapYear (y : Nat) : Bool := y % 4 == 0 && (y % 100 != 0 || y % 400 == 0)

def daysInMonth (y m : Nat) : Nat :=
  if m == 2 then (if isLeapYear y then 29 else 28)
  else if m == 4 || m == 6 || m == 9 || m == 11 then 30 else 31

def isValid (d : Date) : Bool :=
  1 ≤ d.year && d.year ≤ 9999 && 1 ≤ d.month && d.month ≤ 12 && 1 ≤ d.day &&
    d.day ≤ daysInMonth d.year d.month

/-- The date so many days after 1 March of the year zero, counting in cycles of 400 years. -/
def ofDays (n : Nat) : Date :=
  let cycle := n / 146097
  let day := n % 146097
  let year := (day - day / 1460 + day / 36524 - day / 146096) / 365
  let rest := day - (365 * year + year / 4 - year / 100)
  let month := (5 * rest + 2) / 153
  let m := if month < 10 then month + 3 else month - 9
  ⟨400 * cycle + year + (if m ≤ 2 then 1 else 0), m, rest - (153 * month + 2) / 5 + 1⟩

end Date

structure Moment where
  date : Date
  hour : Nat
  minute : Nat
  second : Nat
  micro : Nat
  offset : Option Int
  deriving DecidableEq, Repr, Inhabited

namespace Moment

/-- Decimal digits of `n`, filled with zeros to at least `width`. -/
def padded (width n : Nat) : List Char :=
  let ds := Nat.toDigits 10 n
  List.replicate (width - ds.length) '0' ++ ds

def dateChars (d : Date) : List Char :=
  padded 4 d.year ++ '-' :: padded 2 d.month ++ '-' :: padded 2 d.day

def offsetChars (seconds : Int) : List Char :=
  let minutes := seconds.natAbs / 60
  (if seconds < 0 then '-' else '+') :: padded 2 (minutes / 60) ++ ':' :: padded 2 (minutes % 60)

def timeChars (m : Moment) : List Char :=
  padded 2 m.hour ++ ':' :: padded 2 m.minute ++ ':' :: padded 2 m.second ++
    (if m.micro == 0 then [] else '.' :: padded 6 m.micro)

def toText (m : Moment) : String :=
  String.ofList <| dateChars m.date ++ 'T' :: m.timeChars ++
    match m.offset with
    | none => []
    | some 0 => ['Z']
    | some s => offsetChars s

def atMidnight (d : Date) : Moment := ⟨d, 0, 0, 0, 0, none⟩

def digitsNat (cs : List Char) : Nat := cs.foldl (fun n c => 10 * n + (c.toNat - 48)) 0

def readDigits? (n : Nat) (cs : List Char) : Option (Nat × List Char) :=
  let ds := cs.take n
  if ds.length == n && ds.all Char.isDigit then some (digitsNat ds, cs.drop n) else none

def readMark? (p : Char → Bool) : List Char → Option (List Char)
  | c :: cs => if p c then some cs else none
  | [] => none

def readDate? (cs : List Char) : Option (Date × List Char) := do
  let (y, cs) ← readDigits? 4 cs
  let cs ← readMark? (· == '-') cs
  let (m, cs) ← readDigits? 2 cs
  let cs ← readMark? (· == '-') cs
  let (d, cs) ← readDigits? 2 cs
  let date : Date := ⟨y, m, d⟩
  if date.isValid then some (date, cs) else none

def microOf (ds : List Char) : Nat :=
  digitsNat (ds.take 6) * Nat.pow 10 (6 - ds.length)

def readSeconds? : List Char → Option (Nat × Nat × List Char)
  | ':' :: cs => do
    let (s, cs) ← readDigits? 2 cs
    if s > 59 then none
    else match cs with
      | c :: rest =>
        if c == '.' || c == ',' then
          let ds := rest.takeWhile Char.isDigit
          if ds.isEmpty then none else some (s, microOf ds, rest.dropWhile Char.isDigit)
        else some (s, 0, c :: rest)
      | [] => some (s, 0, [])
  | cs => some (0, 0, cs)

/-- A distance from universal time of less than a day, up to the end of the text. -/
def readOffset? : List Char → Option (Option Int)
  | [] => some none
  | ['Z'] => some (some 0)
  | ['z'] => some (some 0)
  | c :: cs => do
    let negative ← if c == '+' then some false else if c == '-' || c == '−' then some true else none
    let (h, cs) ← readDigits? 2 cs
    let cs := (readMark? (· == ':') cs).getD cs
    let (m, cs) ← readDigits? 2 cs
    let seconds : Int := h * 3600 + m * 60
    if !cs.isEmpty || m > 59 || seconds ≥ 86400 then none
    else some (some (if negative then -seconds else seconds))

/-- A date, a separator, and a time of day with optional seconds, fraction and offset. -/
def readFull? (cs : List Char) : Option Moment := do
  let (date, cs) ← readDate? cs
  let cs ← readMark? (fun c => c == 'T' || c == 't' || c == ' ' || c == '_') cs
  let (h, cs) ← readDigits? 2 cs
  let cs ← readMark? (· == ':') cs
  let (m, cs) ← readDigits? 2 cs
  if h > 23 || m > 59 then none
  else
    let (s, micro, cs) ← readSeconds? cs
    let offset ← readOffset? cs
    some ⟨date, h, m, s, micro, offset⟩

def millisecondsFrom : Nat := 20000000000

/-- The moment of universal time so many seconds after the start of 1970, for the years 1600 to
9999. Large numbers count milliseconds. -/
def ofUnix? (n : Int) (micro : Nat) : Option Moment :=
  let (seconds, micro) : Int × Nat :=
    if n.natAbs ≤ millisecondsFrom then (n, micro)
    else (n / 1000, micro + (n % 1000).toNat * 1000)
  let seconds := seconds + micro / 1000000
  let micro := micro % 1000000
  if seconds < -11676096000 || seconds > 253402300799 then none
  else
    let day := (seconds / 86400 + 719468).toNat
    let rest := (seconds % 86400).toNat
    some ⟨Date.ofDays day, rest / 3600, rest / 60 % 60, rest % 60, micro, some 0⟩

def ofBinary? : Binary → Option Moment
  | .finite s m e =>
    let unit := Nat.pow 2 (-e).toNat
    let whole := if e ≥ 0 then m * Nat.pow 2 e.toNat else m / unit
    let micro := if e ≥ 0 then 0 else (2 * (m % unit) * 1000000 + unit) / (2 * unit)
    let exact := e ≥ 0 || m % unit == 0
    let floor : Int := if !s then whole else if exact then -whole else -whole - 1
    ofUnix? floor micro
  | _ => none

def readUnix? (cs : List Char) : Option Moment :=
  let (negative, body) : Bool × List Char := match cs with
    | '-' :: r => (true, r)
    | '+' :: r => (false, r)
    | r => (false, r)
  let whole := body.takeWhile Char.isDigit
  match whole, body.dropWhile Char.isDigit with
  | [], _ => none
  | _, [] => ofUnix? (if negative then -(digitsNat whole : Int) else digitsNat whole) 0
  | _, '.' :: ds =>
    if ds.isEmpty || !ds.all Char.isDigit then none
    else ofBinary? (Binary.ofDecimal negative (digitsNat (whole ++ ds)) (-(ds.length : Int)))
  | _, _ => none

def read? (s : String) : Option Moment :=
  let cs := s.toList
  match readFull? cs with
  | some m => some m
  | none =>
    match readUnix? cs with
    | some m => some m
    | none =>
      match readDate? cs with
      | some (d, []) => some (atMidnight d)
      | _ => none

end Moment

end OrderSheet
