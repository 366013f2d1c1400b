import OrderSheet.Number.Decimal

/-!
# Amounts as suppliers write them

An amount is an optional sign, a whole part of digits, plain or in groups of three, and an
optional fraction. Whitespace and currency signs anywhere in it are ignored. The value is exact:
the coefficient has all the digits that were written.
-/

namespace OrderSheet

namespace Amount

/-- The marks between groups of three digits and in front of the fraction. -/
structure Format where
  thousands : String
  point : String
  deriving DecidableEq, Repr

def Format.commaDecimal : Format := ⟨".", ","⟩

def Format.pointDecimal : Format := ⟨",", "."⟩

def afterMark? : List Char → List Char → Option (List Char)
  | [], cs => some cs
  | _ :: _, [] => none
  | m :: ms, c :: cs => if m == c then afterMark? ms cs else none

/-- The text without the occurrences of `mark`, found from left to right; `skip` characters of
an occurrence are still to be dropped. -/
def dropMark (mark : List Char) (skip : Nat) : List Char → List Char
  | [] => []
  | c :: cs =>
    match skip with
    | n + 1 => dropMark mark n cs
    | 0 =>
      if !mark.isEmpty && mark.isPrefixOf (c :: cs) then dropMark mark (mark.length - 1) cs
      else c :: dropMark mark 0 cs

def isIgnored (c : Char) : Bool := Text.isBlank c || c == '$' || c == '€'

def fraction? (point cs : List Char) : Option (List Char) :=
  match afterMark? point cs with
  | some ds =>
    if !ds.isEmpty && ds.all Text.isDigit then some ds
    else if cs.isEmpty then some []
    else none
  | none => if cs.isEmpty then some [] else none

def afterGroup? (thousands cs : List Char) : Option (List Char) :=
  match afterMark? thousands cs with
  | some (a :: b :: c :: rest) => if [a, b, c].all Text.isDigit then some rest else none
  | _ => none

/-- A way to divide an amount: the length of its whole part, and the rest behind it. -/
abbrev Division := Nat × List Char

/-- Adds to `found` the divisions with more groups behind the first `size` characters, the longest
division in front. -/
def groupDivisions (thousands : List Char) (fuel size : Nat) (found : List Division)
    (cs : List Char) : List Division :=
  match fuel with
  | 0 => found
  | n + 1 =>
    match afterGroup? thousands cs with
    | none => found
    | some rest =>
      let size := size + thousands.length + 3
      groupDivisions thousands n size ((size, rest) :: found) rest

/-- The divisions whose whole part has groups, where `size` digits precede the first mark. -/
def groupedFrom (thousands cs : List Char) (size : Nat) : List Division :=
  let first := cs.take size
  if first.length == size && first.all Text.isDigit then
    groupDivisions thousands cs.length size [] (cs.drop size)
  else []

/-- Adds to `found` the divisions whose whole part is digits only, the longest in front. -/
def plainDivisions (size : Nat) (found : List Division) : List Char → List Division
  | [] => found
  | c :: cs =>
    if Text.isDigit c then plainDivisions (size + 1) ((size + 1, cs) :: found) cs else found

def divisions (f : Format) (cs : List Char) : List Division :=
  let thousands := f.thousands.toList
  groupedFrom thousands cs 3 ++ groupedFrom thousands cs 2 ++ groupedFrom thousands cs 1 ++
    plainDivisions 0 [] cs

/-- The value of a division of `cs`, if the rest is a fraction. An amount whose digits all belong
to the marks has no value. -/
def Division.value? (f : Format) (negative : Bool) (cs : List Char) (d : Division) :
    Option (Option Decimal) :=
  (fraction? f.point.toList d.2).map fun fraction =>
    let whole := dropMark f.thousands.toList 0 (cs.take d.1)
    if whole.isEmpty && fraction.isEmpty then none
    else some ⟨negative, Text.digitsValue (whole ++ fraction), -(fraction.length : Int)⟩

def read? (f : Format) (cs : List Char) : Option Decimal :=
  let (negative, body) := Decimal.readSign (cs.filter (!isIgnored ·))
  ((divisions f body).findSome? (Division.value? f negative body)).join

end Amount

end OrderSheet
