import OrderSheet.Number.Decimal

/-!
# Decimal arithmetic with 28 digits

Sums and products are exact when they fit into 28 digits and are rounded half to even otherwise.
A result whose leading digit lies beyond `10 ^ 999999` is an overflow.
-/

namespace OrderSheet.Decimal

def precision : Nat := 28

def maxLeading : Int := 999999

def minExponent : Int := -1000026

/-- The result has no representation within the exponent range. -/
inductive ArithmeticError where
  | overflow
  deriving DecidableEq, Repr

def roundHalfEven (n places : Nat) : Nat :=
  let unit := Nat.pow 10 places
  let q := n / unit
  let r := n % unit
  if 2 * r < unit then q
  else if unit < 2 * r then q + 1
  else if q % 2 == 0 then q else q + 1

def settle (d : Decimal) : Except ArithmeticError Decimal :=
  if d.isZero then .ok { d with exponent := min (max d.exponent minExponent) maxLeading }
  else
    let size : Int := d.digits.length
    if d.leading > maxLeading then .error .overflow
    else
      let least := max (size + d.exponent - precision) minExponent
      if d.exponent < least then
        let dropped := (least - d.exponent).toNat
        let kept := if dropped > d.digits.length then 0 else roundHalfEven d.coefficient dropped
        let rounded : Decimal :=
          if (Nat.toDigits 10 kept).length > precision then ⟨d.negative, kept / 10, least + 1⟩
          else ⟨d.negative, kept, least⟩
        if !rounded.isZero && rounded.leading > maxLeading then .error .overflow else .ok rounded
      else .ok d

def mul (a b : Decimal) : Except ArithmeticError Decimal :=
  settle ⟨a.negative != b.negative, a.coefficient * b.coefficient, a.exponent + b.exponent⟩

/-- A number far below the last digit that matters for a sum is replaced by the least one that
still decides the direction of rounding. -/
def nudge (larger smaller : Decimal) : Decimal :=
  let floor := larger.exponent + min (-1) ((larger.digits.length : Int) - precision - 2)
  if smaller.leading < floor then ⟨smaller.negative, 1, floor⟩ else smaller

def exactSum (a b : Decimal) : Decimal :=
  let e := min a.exponent b.exponent
  let m := a.coefficient * Nat.pow 10 (a.exponent - e).toNat
  let n := b.coefficient * Nat.pow 10 (b.exponent - e).toNat
  if a.negative == b.negative then ⟨a.negative, m + n, e⟩
  else if m == n then ⟨false, 0, e⟩
  else if n < m then ⟨a.negative, m - n, e⟩
  else ⟨b.negative, n - m, e⟩

/-- A number beside zero takes the exponent of zero as far as 29 more digits reach. -/
def sumWithZero (zeroExponent : Int) (b : Decimal) : Decimal :=
  let e := max (min zeroExponent b.exponent) (b.exponent - precision - 1)
  ⟨b.negative, b.coefficient * Nat.pow 10 (b.exponent - e).toNat, e⟩

def add (a b : Decimal) : Except ArithmeticError Decimal :=
  settle <|
    if a.isZero && b.isZero then ⟨a.negative && b.negative, 0, min a.exponent b.exponent⟩
    else if a.isZero then sumWithZero a.exponent b
    else if b.isZero then sumWithZero b.exponent a
    else if a.exponent < b.exponent then exactSum (nudge b a) b
    else exactSum a (nudge a b)

def sub (a b : Decimal) : Except ArithmeticError Decimal := a.add b.neg

def abs (a : Decimal) : Except ArithmeticError Decimal := settle { a with negative := false }

def sum (ds : List Decimal) : Except ArithmeticError Decimal := ds.foldlM add zero

end OrderSheet.Decimal
