import OrderSheet.Data.Moment

/-!
# Raw data

What a configuration file or a form can hold before it is checked: numbers, texts, moments, and
sequences and mappings of such values. Mappings keep their entries in the order of first mention.
-/

namespace OrderSheet

inductive Data where
  | null
  | bool (b : Bool)
  | int (n : Int)
  | real (x : Binary)
  | text (s : String)
  | bytes (bs : List UInt8)
  | date (d : Date)
  | moment (m : Moment)
  | list (xs : List Data)
  | tuple (xs : List Data)
  | set (xs : List Data)
  | map (entries : List (Data × Data))
  deriving Repr, Inhabited

namespace Data

mutual

def same : Data → Data → Bool
  | .null, .null => true
  | .bool a, .bool b => a == b
  | .int m, .int n => m == n
  | .real x, .real y => x == y
  | .text s, .text t => s == t
  | .bytes bs, .bytes cs => bs == cs
  | .date d, .date e => d == e
  | .moment m, .moment n => m == n
  | .list xs, .list ys => sameAll xs ys
  | .tuple xs, .tuple ys => sameAll xs ys
  | .set xs, .set ys => sameAll xs ys
  | .map es, .map fs => sameEntries es fs
  | _, _ => false

def sameAll : List Data → List Data → Bool
  | [], [] => true
  | x :: xs, y :: ys => same x y && sameAll xs ys
  | _, _ => false

def sameEntries : List (Data × Data) → List (Data × Data) → Bool
  | [], [] => true
  | (k, x) :: es, (l, y) :: fs => same k l && same x y && sameEntries es fs
  | _, _ => false

end

instance : BEq Data := ⟨same⟩

def integer? : Data → Option Int
  | .bool b => some (if b then 1 else 0)
  | .int n => some n
  | .real x => x.toInt?
  | _ => none

/-- Keys agree when they are equal; numbers and truth values are compared by value. -/
def sameKey (a b : Data) : Bool :=
  match a.integer?, b.integer? with
  | some m, some n => m == n
  | _, _ => a == b

def putEntry (entries : List (Data × Data)) (key value : Data) : List (Data × Data) :=
  match entries with
  | [] => [(key, value)]
  | (k, v) :: rest =>
    if k.sameKey key then (k, value) :: rest else (k, v) :: putEntry rest key value

def lookup? (entries : List (Data × Data)) (name : String) : Option Data :=
  (entries.find? fun e => match e.1 with | .text s => s == name | _ => false).map (·.2)

def isEmptyValue : Data → Bool
  | .null => true
  | .bool b => !b
  | .int n => n == 0
  | .real x => x.isZero
  | .text s => s.isEmpty
  | .bytes bs => bs.isEmpty
  | .date _ | .moment _ => false
  | .list xs | .tuple xs | .set xs => xs.isEmpty
  | .map entries => entries.isEmpty

def typeName : Data → String
  | .null => "NoneType"
  | .bool _ => "bool"
  | .int _ => "int"
  | .real _ => "float"
  | .text _ => "str"
  | .bytes _ => "bytes"
  | .date _ => "datetime.date"
  | .moment _ => "datetime.datetime"
  | .list _ => "list"
  | .tuple _ => "tuple"
  | .set _ => "set"
  | .map _ => "dict"

end Data

end OrderSheet
