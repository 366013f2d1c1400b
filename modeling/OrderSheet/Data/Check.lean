import OrderSheet.Data.Display
import OrderSheet.Number.Decimal

/-!
# Checking raw data

A check turns raw data into a value of the domain or lists every complaint about it, each with
the path to the part it concerns. Checks of several parts are combined so that no complaint hides
another; only a value that should be listed and cannot be stops a check at once.
-/

namespace OrderSheet

inductive Complaint where
  | missing
  | notText
  | undecodableText
  | longText (limit : Nat)
  | notInteger
  | unreadableInteger
  | hugeInteger
  | fractionalInteger
  | notFinite
  | tooSmall (least : Int)
  | notTruth
  | unreadableTruth
  | notNumber
  | notDecimal
  | unreadableDecimal
  | notList
  | notMapping
  | notRecord (name : String)
  | notTaggedRecord
  | untagged (key : String)
  | unknownTag (key tag : String) (expected : List String)
  | notAmong (options : List String)
  | notMoment
  | unspelled
  | noSuchField (name : String)
  deriving DecidableEq, Repr

namespace Complaint

def inQuotes (s : String) : String := "'" ++ s ++ "'"

/-- The options in quotes, with `or` before the last one. -/
def alternatives (options : List String) : String :=
  match options.reverse with
  | [] => ""
  | [x] => inQuotes x
  | x :: rest => ", ".intercalate (rest.reverse.map inQuotes) ++ " or " ++ inQuotes x

def wording : Complaint → String × String
  | missing => ("Field required", "missing")
  | notText => ("Input should be a valid string", "string_type")
  | undecodableText =>
    ("Input should be a valid string, unable to parse raw data as a unicode string",
      "string_unicode")
  | longText n => (s!"String should have at most {n} characters", "string_too_long")
  | notInteger => ("Input should be a valid integer", "int_type")
  | unreadableInteger =>
    ("Input should be a valid integer, unable to parse string as an integer", "int_parsing")
  | hugeInteger =>
    ("Unable to parse input string as an integer, exceeded maximum size", "int_parsing_size")
  | fractionalInteger =>
    ("Input should be a valid integer, got a number with a fractional part", "int_from_float")
  | notFinite => ("Input should be a finite number", "finite_number")
  | tooSmall n => (s!"Input should be greater than or equal to {n}", "greater_than_equal")
  | notTruth => ("Input should be a valid boolean", "bool_type")
  | unreadableTruth =>
    ("Input should be a valid boolean, unable to interpret input", "bool_parsing")
  | notNumber => ("Input should be a valid number", "float_type")
  | notDecimal =>
    ("Decimal input should be an integer, float, string or Decimal object", "decimal_type")
  | unreadableDecimal => ("Input should be a valid decimal", "decimal_parsing")
  | notList => ("Input should be a valid list", "list_type")
  | notMapping => ("Input should be a valid dictionary", "dict_type")
  | notRecord name =>
    ("Input should be a valid dictionary or instance of " ++ name, "model_type")
  | notTaggedRecord =>
    ("Input should be a valid dictionary or object to extract fields from",
      "model_attributes_type")
  | untagged key =>
    ("Unable to extract tag using discriminator " ++ inQuotes key, "union_tag_not_found")
  | unknownTag key tag expected =>
    ("Input tag " ++ inQuotes tag ++ " found using " ++ inQuotes key ++
      " does not match any of the expected tags: " ++ ", ".intercalate (expected.map inQuotes),
      "union_tag_invalid")
  | notAmong options => ("Input should be " ++ alternatives options, "enum")
  | notMoment => ("invalid datetime", "datetime")
  | unspelled =>
    ("Value error, Exceeds the limit (4300 digits) for integer string conversion; " ++
      "use sys.set_int_max_str_digits() to increase the limit", "value_error")
  | noSuchField name =>
    ("Object has no attribute " ++ inQuotes name, "no_such_attribute")

end Complaint

/-- A complaint about the part of the data that a path leads to. -/
structure Issue where
  path : List String
  complaint : Complaint
  deriving DecidableEq, Repr

def Issue.message (i : Issue) : String :=
  let (sentence, code) := i.complaint.wording
  ".".intercalate i.path ++ ": " ++ sentence ++ " [" ++ code ++ "]"

inductive Rejection where
  | issues (is : List Issue)
  | notIterable (typeName : String)
  deriving DecidableEq, Repr

def Rejection.message : Rejection → String
  | issues is => "; ".intercalate (is.map Issue.message)
  | notIterable t => Complaint.inQuotes t ++ " object is not iterable"

inductive Check (α : Type) where
  | pass (a : α)
  | fail (r : Rejection)
  deriving Repr

namespace Check

variable {α β : Type}

def map (f : α → β) : Check α → Check β
  | pass a => pass (f a)
  | fail r => fail r

/-- Both outcomes together: the issues of both sides are kept in order, and a value that cannot be
listed outweighs issues found before it. -/
def apply (f : Check (α → β)) (x : Check α) : Check β :=
  match f, x with
  | pass f, pass a => pass (f a)
  | pass _, fail r => fail r
  | fail (.issues is), fail (.issues js) => fail (.issues (is ++ js))
  | fail (.issues _), fail (.notIterable t) => fail (.notIterable t)
  | fail r, _ => fail r

instance : Applicative Check where
  pure := pass
  map := map
  seq f x := apply f (x ())

def andThen (x : Check α) (f : α → Check β) : Check β :=
  match x with
  | pass a => f a
  | fail r => fail r

def complain (c : Complaint) : Check α := fail (.issues [⟨[], c⟩])

def inside (step : String) : Check α → Check α
  | fail (.issues is) => fail (.issues (is.map fun i => { i with path := step :: i.path }))
  | x => x

def toExcept : Check α → Except Rejection α
  | pass a => .ok a
  | fail r => .error r

def listFrom (check : Data → Check α) (i : Nat) : List Data → Check (List α)
  | [] => pass []
  | x :: xs => List.cons <$> inside (toString i) (check x) <*> listFrom check (i + 1) xs

@[simp] theorem map_pass (f : α → β) (a : α) : map f (pass a) = pass (f a) := rfl

end Check

namespace Data

variable {α : Type}

def decodeBytes? (bs : List UInt8) : Option String :=
  String.fromUTF8? (ByteArray.mk bs.toArray)

def checkText : Data → Check String
  | .text s => .pass s
  | .bytes bs =>
    match decodeBytes? bs with
    | some s => .pass s
    | none => .complain .undecodableText
  | _ => .complain .notText

def checkShortText (limit : Nat) (d : Data) : Check String :=
  (checkText d).andThen fun s => if s.length ≤ limit then .pass s else .complain (.longText limit)

/-- Whitespace in the stricter sense, which leaves out the separators of data records. -/
def isOuterBlank (c : Char) : Bool := Text.isBlank c && !(28 ≤ c.toNat && c.toNat ≤ 31)

def maxDigits : Nat := 4300

/-- Drops zeros in front of a number, between which underscores may stand, but keeps a last one in
front of a point or at the end. A number starts with a digit. -/
def dropZeros? (cs : List Char) : Option (List Char) :=
  let inFront (c : Char) : Bool := c == '0' || c == '_'
  match cs, cs.dropWhile inFront with
  | '0' :: _, [] => some (cs.drop (cs.length - 1))
  | '0' :: _, '.' :: rest => some (cs.drop (cs.length - rest.length - 2))
  | c :: _, rest =>
    if c.isDigit && (rest.head?.any Char.isDigit) then some rest else none
  | [], _ => none

def dropPointZeros (cs : List Char) : List Char :=
  if ((cs.dropWhile (· != '.')).drop 1).all (· == '0') then cs.takeWhile (· != '.') else cs

/-- A text without the underscores in it, unless one is at an end or two stand together. -/
def dropUnderscores (cs : List Char) : List Char :=
  if cs.head? == some '_' || cs.getLast? == some '_' || Text.hasPart ['_', '_'] cs then cs
  else cs.filter (· != '_')

/-- The parts of an integer in a text: whether it has a minus sign, and its digits with whatever
follows them. Zeros in front are allowed without a minus sign only. -/
def integerParts? (s : String) : Option (Bool × List Char) :=
  let cs := ((s.toList.dropWhile isOuterBlank).reverse.dropWhile isOuterBlank).reverse
  let plain (cs : List Char) : List Char := dropUnderscores (dropPointZeros cs)
  match cs with
  | '-' :: _ => some (true, (plain cs).drop 1)
  | '+' :: body => (dropZeros? body).map fun ds => (false, plain ds)
  | body => (dropZeros? body).map fun ds => (false, plain ds)

def checkIntegerText (s : String) : Check Int :=
  match integerParts? s with
  | none => .complain .unreadableInteger
  | some (negative, cs) =>
    let ds := cs.takeWhile Char.isDigit
    if ds.isEmpty || (ds.head? == some '0' && ds.length > 1) then .complain .unreadableInteger
    else if maxDigits < ds.length + (if negative then 1 else 0) then .complain .hugeInteger
    else if ds.length < cs.length then .complain .unreadableInteger
    else
      let n : Int := Text.digitsValue ds
      .pass (if negative then -n else n)

def checkInteger : Data → Check Int
  | .int n => .pass n
  | .bool b => .pass (if b then 1 else 0)
  | .real x =>
    match x, x.toInt? with
    | _, some n => .pass n
    | .finite .., none => .complain .fractionalInteger
    | _, none => .complain .notFinite
  | .text s => checkIntegerText s
  | .bytes bs =>
    match decodeBytes? bs with
    | some s => checkIntegerText s
    | none => .complain .unreadableInteger
  | _ => .complain .notInteger

def checkPositive (d : Data) : Check Nat :=
  (checkInteger d).andThen fun n => if 1 ≤ n then .pass n.toNat else .complain (.tooSmall 1)

def checkTruthText (s : String) : Check Bool :=
  let low := s.toList.map Char.toLower
  if ["0", "off", "f", "false", "n", "no"].any (·.toList == low) then .pass false
  else if ["1", "on", "t", "true", "y", "yes"].any (·.toList == low) then .pass true
  else .complain .unreadableTruth

def checkTruthNumber (n : Int) : Check Bool :=
  if n == 0 then .pass false else if n == 1 then .pass true else .complain .unreadableTruth

def checkTruth : Data → Check Bool
  | .bool b => .pass b
  | .text s => checkTruthText s
  | .bytes bs =>
    match decodeBytes? bs with
    | some s => checkTruthText s
    | none => .complain .unreadableTruth
  | .int n => checkTruthNumber n
  | .real x =>
    match x.toInt? with
    | some n => checkTruthNumber n
    | none => .complain .notTruth
  | _ => .complain .notTruth

def checkDecimalText (s : String) : Check Decimal :=
  match Decimal.read? s with
  | some (.number d) => .pass d
  | some .notFinite => .complain .notFinite
  | none => .complain .unreadableDecimal

def checkDecimal : Data → Check Decimal
  | .text s => checkDecimalText s
  | .int n => .pass (Decimal.ofInt n)
  | .real x => checkDecimalText x.toText
  | _ => .complain .notDecimal

def checkMomentText (s : String) : Check Moment :=
  match Moment.read? s with
  | some m => .pass m
  | none => .complain .notMoment

def checkMoment : Data → Check Moment
  | .moment m => .pass m
  | .date d => .pass (Moment.atMidnight d)
  | .text s => checkMomentText s
  | .bytes bs =>
    match decodeBytes? bs with
    | some s => checkMomentText s
    | none => .complain .notMoment
  | .int n =>
    match Moment.ofUnix? n 0 with
    | some m => .pass m
    | none => .complain .notMoment
  | .real x =>
    match Moment.ofBinary? x with
    | some m => .pass m
    | none => .complain .notMoment
  | _ => .complain .notMoment

def checkOptional (check : Data → Check α) : Data → Check (Option α)
  | .null => .pass none
  | d => some <$> check d

def checkList (check : Data → Check α) : Data → Check (List α)
  | .list xs | .tuple xs | .set xs => Check.listFrom check 0 xs
  | _ => .complain .notList

def checkOption (options : List (String × α)) (d : Data) : Check α :=
  let found : Option (String × α) := match d with
    | .text s => options.find? fun o => o.1 == s
    | _ => none
  match found with
  | some o => .pass o.2
  | none => .complain (.notAmong (options.map (·.1)))

def required (entries : List (Data × Data)) (name : String) (check : Data → Check α) : Check α :=
  Check.inside name <|
    match lookup? entries name with
    | some d => check d
    | none => .complain .missing

def given (entries : List (Data × Data)) (name : String) (check : Data → Check α) (default : α) :
    Check α :=
  match lookup? entries name with
  | some d => Check.inside name (check d)
  | none => .pass default

def checkRecord (name : String) (fields : List (Data × Data) → Check α) : Data → Check α
  | .map entries => fields entries
  | _ => .complain (.notRecord name)

end Data

end OrderSheet
