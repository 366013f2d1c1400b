/-!
# Binary numbers of double precision

A finite number is a signed multiple of a power of two with 53 bits. Every operation computes
exactly and rounds once, half to even; the text of a number has the fewest digits that read back.
-/

namespace OrderSheet

inductive Binary where
  | finite (negative : Bool) (significand : Nat) (exponent : Int)
  | infinite (negative : Bool)
  | nan
  deriving DecidableEq, Repr, Inhabited

namespace Binary

def minExponent : Int := -1074

def precision : Nat := 53

def bits (n : Nat) : Nat := if n == 0 then 0 else n.log2 + 1

def divideHalfEven (n d : Nat) : Nat :=
  let q := n / d
  let r := n % d
  if 2 * r < d then q
  else if d < 2 * r then q + 1
  else if q % 2 == 0 then q else q + 1

def ofRatio (negative : Bool) (n d : Nat) : Binary :=
  if n == 0 then .finite negative 0 minExponent
  else
    let guess : Int := (bits n : Int) - bits d - precision
    let scaled (e : Int) : Nat × Nat :=
      if e ≥ 0 then (n, d * Nat.pow 2 e.toNat) else (n * Nat.pow 2 (-e).toNat, d)
    let quotient := let (a, b) := scaled guess; a / b
    let e := max (if bits quotient > precision then guess + 1 else guess) minExponent
    let (a, b) := scaled e
    let m := divideHalfEven a b
    let (m, e) := if bits m > precision then (m / 2, e + 1) else (m, e)
    if (bits m : Int) + e > 1024 then .infinite negative else .finite negative m e

def ofScaled (negative : Bool) (n : Nat) (e : Int) : Binary :=
  if e ≥ 0 then ofRatio negative (n * Nat.pow 2 e.toNat) 1
  else ofRatio negative n (Nat.pow 2 (-e).toNat)

def ofDecimal (negative : Bool) (n : Nat) (e : Int) : Binary :=
  let leading : Int := (Nat.toDigits 10 n).length + e
  if n == 0 || leading < -330 then .finite negative 0 minExponent
  else if leading > 310 then .infinite negative
  else if e ≥ 0 then ofRatio negative (n * Nat.pow 10 e.toNat) 1
  else ofRatio negative n (Nat.pow 10 (-e).toNat)

def ofNat (n : Nat) : Binary := ofScaled false n 0

def neg : Binary → Binary
  | .finite s m e => .finite (!s) m e
  | .infinite s => .infinite (!s)
  | .nan => .nan

/-- The signed significand of a finite number over the exponent `e`, which is at most its own. -/
def scaledTo (e : Int) (s : Bool) (m : Nat) (own : Int) : Int :=
  let n : Int := m * Nat.pow 2 (own - e).toNat
  if s then -n else n

def add : Binary → Binary → Binary
  | .nan, _ => .nan
  | _, .nan => .nan
  | .infinite s, .infinite t => if s == t then .infinite s else .nan
  | .infinite s, .finite .. => .infinite s
  | .finite .., .infinite t => .infinite t
  | .finite s m e, .finite t n f =>
    let low := min e f
    let total := scaledTo low s m e + scaledTo low t n f
    if total == 0 then .finite (s && t) 0 minExponent
    else ofScaled (total < 0) total.natAbs low

def mul : Binary → Binary → Binary
  | .nan, _ => .nan
  | _, .nan => .nan
  | .infinite s, .infinite t => .infinite (s != t)
  | .infinite s, .finite t n _ => if n == 0 then .nan else .infinite (s != t)
  | .finite s m _, .infinite t => if m == 0 then .nan else .infinite (s != t)
  | .finite s m e, .finite t n f => ofScaled (s != t) (m * n) (e + f)

def toInt? : Binary → Option Int
  | .finite s m e =>
    let n? : Option Nat :=
      if e ≥ 0 then some (m * Nat.pow 2 e.toNat)
      else if m % Nat.pow 2 (-e).toNat == 0 then some (m / Nat.pow 2 (-e).toNat) else none
    n?.map fun n => if s then -(n : Int) else n
  | _ => none

def isZero : Binary → Bool
  | .finite _ m _ => m == 0
  | _ => false

/-- The power of ten of the leading digit of `m * 2 ^ e`, for a positive `m`. -/
def leadingPower (m : Nat) (e : Int) : Int :=
  if e ≥ 0 then (Nat.toDigits 10 (m * Nat.pow 2 e.toNat)).length - 1
  else (Nat.toDigits 10 (m * Nat.pow 10 400 / Nat.pow 2 (-e).toNat)).length - 401

/-- The multiple of `10 ^ k` nearest to `m * 2 ^ e` that reads back as this number, if there is
one. -/
def onGrid? (m : Nat) (e k : Int) : Option Nat :=
  let twos := (max 0 (2 - e)).toNat
  let tens := (max 0 (-k)).toNat
  let quarter := Nat.pow 2 (e - 2 + twos).toNat * Nat.pow 10 tens
  let unit := Nat.pow 2 twos * Nat.pow 10 (k + tens).toNat
  let value := 4 * m * quarter
  let low := (4 * m - (if m == Nat.pow 2 52 && e > minExponent then 1 else 2)) * quarter
  let high := (4 * m + 2) * quarter
  let readsBack (n : Nat) : Bool :=
    if m % 2 == 0 then low ≤ n * unit && n * unit ≤ high else low < n * unit && n * unit < high
  let below := value / unit
  let above := below + 1
  match readsBack below && 0 < below, readsBack above with
  | true, true =>
    let down := value - below * unit
    let up := above * unit - value
    if down < up || (down == up && below % 2 == 0) then some below else some above
  | true, false => some below
  | false, true => some above
  | false, false => none

/-- The fewest digits that read back as `m * 2 ^ e`, and the power of ten of the last one. -/
def shortest (m : Nat) (e : Int) : Nat × Int :=
  let p := leadingPower m e
  let digitsAt? (n : Nat) : Option (Nat × Int) :=
    (onGrid? m e (p - n)).map fun d => if d % 10 == 0 then (d / 10, p - n + 1) else (d, p - n)
  ((List.range 17).findSome? digitsAt?).getD (m, e)

/-- Positional from `1e-4` up to below `1e16`, with at least one digit behind the point; otherwise
scientific with a signed exponent of at least two digits. -/
def toText : Binary → String
  | .nan => "nan"
  | .infinite s => if s then "-inf" else "inf"
  | .finite s m e =>
    let sign := if s then "-" else ""
    if m == 0 then sign ++ "0.0"
    else
      let (d, k) := shortest m e
      let ds := Nat.toDigits 10 d
      let n : Int := ds.length
      let point := n + k
      let body :=
        if point ≤ -4 || point > 16 then
          let power := point - 1
          let width := Nat.toDigits 10 power.natAbs
          let fraction := if ds.length > 1 then '.' :: ds.drop 1 else []
          ds.take 1 ++ fraction ++ ['e', if power < 0 then '-' else '+'] ++
            (if width.length < 2 then ['0'] else []) ++ width
        else if point ≤ 0 then '0' :: '.' :: List.replicate (-point).toNat '0' ++ ds
        else if point ≥ n then ds ++ List.replicate (point - n).toNat '0' ++ ['.', '0']
        else ds.take point.toNat ++ '.' :: ds.drop point.toNat
      sign ++ String.ofList body

end Binary

end OrderSheet
