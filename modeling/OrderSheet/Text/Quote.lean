import OrderSheet.Text.Printable

/-!
# Quoted texts

A quoted text shows every character: quotes, backslashes and characters that are not printable
are written as escapes. Single quotes are used unless only double quotes avoid an escape.
-/

namespace OrderSheet.Text

/-- Hexadecimal digits of `n`, filled with zeros to at least `width`. -/
def hex (width n : Nat) : List Char :=
  let ds := Nat.toDigits 16 n
  List.replicate (width - ds.length) '0' ++ ds

def codeEscape (n : Nat) : List Char :=
  if n < 256 then '\\' :: 'x' :: hex 2 n
  else if n < 65536 then '\\' :: 'u' :: hex 4 n
  else '\\' :: 'U' :: hex 8 n

def quoteMark (cs : List Char) : Char :=
  if cs.contains '\'' && !cs.contains '"' then '"' else '\''

def quoteChar (mark c : Char) : List Char :=
  if c == '\\' || c == mark then ['\\', c]
  else if c == '\n' then ['\\', 'n']
  else if c == '\r' then ['\\', 'r']
  else if c == '\t' then ['\\', 't']
  else if isPrintable c then [c]
  else codeEscape c.toNat

def quote (cs : List Char) : List Char :=
  let mark := quoteMark cs
  mark :: cs.flatMap (quoteChar mark) ++ [mark]

def quoteString (s : String) : String := String.ofList (quote s.toList)

end OrderSheet.Text
