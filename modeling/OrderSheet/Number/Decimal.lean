import OrderSheet.Text.Blank
import OrderSheet.Text.Digit

/-!
# Decimal numbers

A decimal number keeps its sign, also on zero, and its trailing zeros: `2.50` and `2.5` are
different values of the type that compare as equal numbers.
-/

namespace OrderSheet

/-- The number `coefficient * 10 ^ exponent`, negated if `negative`. -/
structure Decimal where
  negative : Bool
  coefficient : Nat
  exponent : Int
  deriving DecidableEq, Repr, Inhabited

namespace Decimal

def zero : Decimal := ⟨false, 0, 0⟩

def ofNat (n : Nat) : Decimal := ⟨false, n, 0⟩

def ofInt (n : Int) : Decimal := ⟨n < 0, n.natAbs, 0⟩

def isZero (d : Decimal) : Bool := d.coefficient == 0

def digits (d : Decimal) : List Char := Nat.toDigits 10 d.coefficient

def leading (d : Decimal) : Int := d.exponent + d.digits.length - 1

def neg (d : Decimal) : Decimal := { d with negative := !d.negative }

def isNegative (d : Decimal) : Bool := d.negative && !d.isZero

/-- The order of two magnitudes: first by the place of the leading digit, then digit by digit. -/
def compareMagnitude (a b : Decimal) : Ordering :=
  if a.isZero || b.isZero then compare a.coefficient b.coefficient
  else match compare a.leading b.leading with
    | .eq =>
      let e := min a.exponent b.exponent
      compare (a.coefficient * Nat.pow 10 (a.exponent - e).toNat)
        (b.coefficient * Nat.pow 10 (b.exponent - e).toNat)
    | o => o

def compare (a b : Decimal) : Ordering :=
  match a.isNegative, b.isNegative with
  | false, false => compareMagnitude a b
  | true, true => compareMagnitude b a
  | true, false => .lt
  | false, true => .gt

def lt (a b : Decimal) : Bool := a.compare b == .lt

/-- Positional notation when no digit left of the point is missing and at most five zeros follow
the point; otherwise one digit before the point and an exponent with its sign. -/
def toText (d : Decimal) : String :=
  let ds := d.digits
  let n : Int := ds.length
  let left := d.exponent + n
  let point := if d.exponent ≤ 0 && left > -6 then left else 1
  let body :=
    if point ≤ 0 then '0' :: '.' :: List.replicate (-point).toNat '0' ++ ds
    else if point ≥ n then ds ++ List.replicate (point - n).toNat '0'
    else ds.take point.toNat ++ '.' :: ds.drop point.toNat
  let power :=
    if left == point then ""
    else (if left ≥ point then "E+" else "E") ++ toString (left - point)
  (if d.negative then "-" else "") ++ String.ofList body ++ power

def greatestExponent : Int := 999999999999999999

def leastExponent : Int := -1999999999999999997

/-- What a text can stand for as a decimal: a number, or one of the values that are not finite. -/
inductive Reading where
  | number (d : Decimal)
  | notFinite
  deriving Repr, DecidableEq

def readSign : List Char → Bool × List Char
  | '-' :: cs => (true, cs)
  | '+' :: cs => (false, cs)
  | cs => (false, cs)

def readInteger? (cs : List Char) : Option Int :=
  let (negative, ds) := readSign cs
  if !ds.isEmpty && ds.all Text.isDigit then
    let n : Int := Text.digitsValue ds
    some (if negative then -n else n)
  else none

def isSpecialName (cs : List Char) : Bool :=
  let low := cs.map Char.toLower
  low == "inf".toList || low == "infinity".toList ||
    (let rest := if low.head? == some 's' then low.drop 1 else low
     rest.take 3 == "nan".toList && (rest.drop 3).all Text.isDigit)

/-- An unsigned number: digits with an optional point among them, then an optional exponent. -/
def readUnsigned? (cs : List Char) : Option (Nat × Int) :=
  let whole := cs.takeWhile Text.isDigit
  let rest := cs.dropWhile Text.isDigit
  let (fraction, rest) := match rest with
    | '.' :: r => (r.takeWhile Text.isDigit, r.dropWhile Text.isDigit)
    | r => ([], r)
  if whole.isEmpty && fraction.isEmpty then none
  else
    let coefficient := Text.digitsValue (whole ++ fraction)
    match rest with
    | [] => some (coefficient, -(fraction.length : Int))
    | e :: power =>
      if e == 'e' || e == 'E' then
        (readInteger? power).map fun p => (coefficient, p - fraction.length)
      else none

/-- Reads a decimal as it is written in data: surrounding whitespace and underscores are ignored. -/
def read? (s : String) : Option Reading :=
  let cs := (Text.strip s.toList).filter (· != '_')
  let (negative, body) := readSign cs
  if isSpecialName body then some .notFinite
  else (readUnsigned? body).bind fun (coefficient, exponent) =>
    let d : Decimal := ⟨negative, coefficient, exponent⟩
    if d.leading ≤ greatestExponent && leastExponent ≤ exponent then some (.number d) else none

end Decimal

end OrderSheet
