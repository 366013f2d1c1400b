/-!
# Blank characters and lines

Which characters are whitespace, how a text is trimmed, and how it falls into lines. A carriage
return followed by a line feed ends one line, and a final line break opens no further line.
-/

namespace OrderSheet.Text

def blanks : List Nat := [
    9, 10, 11, 12, 13, 28, 29, 30, 31, 32, 133, 160, 5760, 8192, 8193, 8194, 8195, 8196, 8197, 8198,
    8199, 8200, 8201, 8202, 8232, 8233, 8239, 8287, 12288]

def isBlank (c : Char) : Bool :=
  let n := c.toNat
  if n < 128 then n == 32 || (9 ≤ n && n ≤ 13) || (28 ≤ n && n ≤ 31) else blanks.contains n

def isAsciiBlank (c : Char) : Bool := c == ' ' || (9 ≤ c.toNat && c.toNat ≤ 13)

def isLineBreak (c : Char) : Bool :=
  let n := c.toNat
  (10 ≤ n && n ≤ 13) || (28 ≤ n && n ≤ 30) || n == 133 || n == 8232 || n == 8233

def stripLeft (cs : List Char) : List Char := cs.dropWhile isBlank

def stripRight (cs : List Char) : List Char := (cs.reverse.dropWhile isBlank).reverse

def strip (cs : List Char) : List Char := stripRight (stripLeft cs)

def isBlankText (cs : List Char) : Bool := cs.all isBlank

/-- The lines of a text, where `line` holds the current line and `done` the earlier ones, both
backwards. -/
def splitLinesFrom (line : List Char) (done : List (List Char)) : List Char → List (List Char)
  | [] => (if line.isEmpty then done else line.reverse :: done).reverse
  | '\r' :: '\n' :: cs => splitLinesFrom [] (line.reverse :: done) cs
  | c :: cs =>
    if isLineBreak c then splitLinesFrom [] (line.reverse :: done) cs
    else splitLinesFrom (c :: line) done cs

def splitLines (cs : List Char) : List (List Char) := splitLinesFrom [] [] cs

def splitOnChar (sep : Char) (cs : List Char) : List (List Char) :=
  cs.foldr (fun c parts => if c == sep then [] :: parts else
    match parts with
    | [] => [[c]]
    | p :: ps => (c :: p) :: ps) [[]]

/-- Whether `part` occurs in the text as a contiguous part. -/
def hasPart (part : List Char) : List Char → Bool
  | [] => part.isEmpty
  | c :: cs => part.isPrefixOf (c :: cs) || hasPart part cs

end OrderSheet.Text
