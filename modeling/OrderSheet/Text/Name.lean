import OrderSheet.Text.Names.Letters
import OrderSheet.Text.Names.OldLetters
import OrderSheet.Text.Names.Pictures
import OrderSheet.Text.Names.Syllables
import OrderSheet.Text.Names.Symbols

/-!
# Names of characters

The names that a pattern can use for characters: those of version 14 of the standard, with their
aliases. Ideographs and the syllables of Hangul are named by rules.
-/

namespace OrderSheet.Text

def nameRuns : List NameRun :=
  letterNames ++ symbolNames ++ syllableNames ++ oldLetterNames ++ pictureNames

def aliases : List (Nat × String) := [
  (0x00, "NULL,NUL"), (0x01, "START OF HEADING,SOH"), (0x02, "START OF TEXT,STX"),
  (0x03, "END OF TEXT,ETX"), (0x04, "END OF TRANSMISSION,EOT"), (0x05, "ENQUIRY,ENQ"),
  (0x06, "ACKNOWLEDGE,ACK"), (0x07, "ALERT,BEL"), (0x08, "BACKSPACE,BS"),
  (0x09, "CHARACTER TABULATION,HORIZONTAL TABULATION,HT,TAB"),
  (0x0A, "LINE FEED,NEW LINE,END OF LINE,EOL,LF,NL"),
  (0x0B, "LINE TABULATION,VERTICAL TABULATION,VT"), (0x0C, "FORM FEED,FF"),
  (0x0D, "CARRIAGE RETURN,CR"), (0x0E, "SHIFT OUT,LOCKING-SHIFT ONE,SO"),
  (0x0F, "SHIFT IN,LOCKING-SHIFT ZERO,SI"), (0x10, "DATA LINK ESCAPE,DLE"),
  (0x11, "DEVICE CONTROL ONE,DC1"), (0x12, "DEVICE CONTROL TWO,DC2"),
  (0x13, "DEVICE CONTROL THREE,DC3"), (0x14, "DEVICE CONTROL FOUR,DC4"),
  (0x15, "NEGATIVE ACKNOWLEDGE,NAK"), (0x16, "SYNCHRONOUS IDLE,SYN"),
  (0x17, "END OF TRANSMISSION BLOCK,ETB"), (0x18, "CANCEL,CAN"), (0x19, "END OF MEDIUM,EOM"),
  (0x1A, "SUBSTITUTE,SUB"), (0x1B, "ESCAPE,ESC"),
  (0x1C, "INFORMATION SEPARATOR FOUR,FILE SEPARATOR,FS"),
  (0x1D, "INFORMATION SEPARATOR THREE,GROUP SEPARATOR,GS"),
  (0x1E, "INFORMATION SEPARATOR TWO,RECORD SEPARATOR,RS"),
  (0x1F, "INFORMATION SEPARATOR ONE,UNIT SEPARATOR,US"), (0x20, "SP"), (0x7F, "DELETE,DEL"),
  (0x80, "PADDING CHARACTER,PAD"), (0x81, "HIGH OCTET PRESET,HOP"),
  (0x82, "BREAK PERMITTED HERE,BPH"), (0x83, "NO BREAK HERE,NBH"), (0x84, "INDEX,IND"),
  (0x85, "NEXT LINE,NEL"), (0x86, "START OF SELECTED AREA,SSA"), (0x87, "END OF SELECTED AREA,ESA"),
  (0x88, "CHARACTER TABULATION SET,HORIZONTAL TABULATION SET,HTS"),
  (0x89, "CHARACTER TABULATION WITH JUSTIFICATION,HORIZONTAL TABULATION WITH JUSTIFICATION,HTJ"),
  (0x8A, "LINE TABULATION SET,VERTICAL TABULATION SET,VTS"),
  (0x8B, "PARTIAL LINE FORWARD,PARTIAL LINE DOWN,PLD"),
  (0x8C, "PARTIAL LINE BACKWARD,PARTIAL LINE UP,PLU"), (0x8D, "REVERSE LINE FEED,REVERSE INDEX,RI"),
  (0x8E, "SINGLE SHIFT TWO,SINGLE-SHIFT-2,SS2"), (0x8F, "SINGLE SHIFT THREE,SINGLE-SHIFT-3,SS3"),
  (0x90, "DEVICE CONTROL STRING,DCS"), (0x91, "PRIVATE USE ONE,PRIVATE USE-1,PU1"),
  (0x92, "PRIVATE USE TWO,PRIVATE USE-2,PU2"), (0x93, "SET TRANSMIT STATE,STS"),
  (0x94, "CANCEL CHARACTER,CCH"), (0x95, "MESSAGE WAITING,MW"),
  (0x96, "START OF GUARDED AREA,START OF PROTECTED AREA,SPA"),
  (0x97, "END OF GUARDED AREA,END OF PROTECTED AREA,EPA"), (0x98, "START OF STRING,SOS"),
  (0x99, "SINGLE GRAPHIC CHARACTER INTRODUCER,SGC"), (0x9A, "SINGLE CHARACTER INTRODUCER,SCI"),
  (0x9B, "CONTROL SEQUENCE INTRODUCER,CSI"), (0x9C, "STRING TERMINATOR,ST"),
  (0x9D, "OPERATING SYSTEM COMMAND,OSC"), (0x9E, "PRIVACY MESSAGE,PM"),
  (0x9F, "APPLICATION PROGRAM COMMAND,APC"), (0xA0, "NBSP"), (0xAD, "SHY"),
  (0x1A2, "LATIN CAPITAL LETTER GHA"), (0x1A3, "LATIN SMALL LETTER GHA"), (0x34F, "CGJ"),
  (0x61C, "ALM"), (0x709, "SYRIAC SUBLINEAR COLON SKEWED LEFT"), (0xCDE, "KANNADA LETTER LLLA"),
  (0xE9D, "LAO LETTER FO FON"), (0xE9F, "LAO LETTER FO FAY"), (0xEA3, "LAO LETTER RO"),
  (0xEA5, "LAO LETTER LO"), (0xFD0, "TIBETAN MARK BKA- SHOG GI MGO RGYAN"),
  (0x11EC, "HANGUL JONGSEONG YESIEUNG-KIYEOK"), (0x11ED, "HANGUL JONGSEONG YESIEUNG-SSANGKIYEOK"),
  (0x11EE, "HANGUL JONGSEONG SSANGYESIEUNG"), (0x11EF, "HANGUL JONGSEONG YESIEUNG-KHIEUKH"),
  (0x180B, "FVS1"), (0x180C, "FVS2"), (0x180D, "FVS3"), (0x180E, "MVS"), (0x180F, "FVS4"),
  (0x200B, "ZWSP"), (0x200C, "ZWNJ"), (0x200D, "ZWJ"), (0x200E, "LRM"), (0x200F, "RLM"),
  (0x202A, "LRE"), (0x202B, "RLE"), (0x202C, "PDF"), (0x202D, "LRO"), (0x202E, "RLO"),
  (0x202F, "NNBSP"), (0x205F, "MMSP"), (0x2060, "WJ"), (0x2066, "LRI"), (0x2067, "RLI"),
  (0x2068, "FSI"), (0x2069, "PDI"), (0x2118, "WEIERSTRASS ELLIPTIC FUNCTION"),
  (0x2448, "MICR ON US SYMBOL"), (0x2449, "MICR DASH SYMBOL"),
  (0x2B7A, "LEFTWARDS TRIANGLE-HEADED ARROW WITH DOUBLE VERTICAL STROKE"),
  (0x2B7C, "RIGHTWARDS TRIANGLE-HEADED ARROW WITH DOUBLE VERTICAL STROKE"),
  (0xA015, "YI SYLLABLE ITERATION MARK"), (0xAA6E, "MYANMAR LETTER KHAMTI LLA"),
  (0xFE18, "PRESENTATION FORM FOR VERTICAL RIGHT WHITE LENTICULAR BRACKET"),
  (0xFEFF, "BYTE ORDER MARK,BOM,ZWNBSP"), (0x122D4, "CUNEIFORM SIGN NU11 TENU"),
  (0x122D5, "CUNEIFORM SIGN NU11 OVER NU11 BUR OVER BUR"),
  (0x16E56, "MEDEFAIDRIN CAPITAL LETTER H"), (0x16E57, "MEDEFAIDRIN CAPITAL LETTER NG"),
  (0x16E76, "MEDEFAIDRIN SMALL LETTER H"), (0x16E77, "MEDEFAIDRIN SMALL LETTER NG"),
  (0x1B001, "HENTAIGANA LETTER E-1"),
  (0x1D0C5, "BYZANTINE MUSICAL SYMBOL FTHORA SKLIRON CHROMA VASIS")]

/-- Names of consecutive characters that end in a number, with at least `width` digits. -/
structure NumberedNames where
  start : String
  base : Nat
  width : Nat
  number : Nat
  first : Nat
  count : Nat
  deriving Repr

def numberedNames : List NumberedNames := [
  ⟨"CJK COMPATIBILITY IDEOGRAPH-", 16, 4, 0xF900, 0xF900, 366⟩,
  ⟨"CJK COMPATIBILITY IDEOGRAPH-", 16, 4, 0xFA70, 0xFA70, 106⟩,
  ⟨"CJK COMPATIBILITY IDEOGRAPH-", 16, 5, 0x2F800, 0x2F800, 542⟩,
  ⟨"TANGUT COMPONENT-", 10, 3, 1, 0x18800, 768⟩,
  ⟨"KHITAN SMALL SCRIPT CHARACTER-", 16, 5, 0x18B00, 0x18B00, 470⟩,
  ⟨"NUSHU CHARACTER-", 16, 5, 0x1B170, 0x1B170, 396⟩,
  ⟨"VARIATION SELECTOR-", 10, 1, 1, 0xFE00, 16⟩, ⟨"VARIATION SELECTOR-", 10, 1, 17, 0xE0100, 240⟩,
  ⟨"VS", 10, 1, 1, 0xFE00, 16⟩, ⟨"VS", 10, 1, 17, 0xE0100, 240⟩]

def numeral (base width n : Nat) : List Char :=
  let ds := (Nat.toDigits base n).map Char.toUpper
  List.replicate (width - ds.length) '0' ++ ds

/-- The number that digits stand for, where letters follow the digit nine. -/
def numeralValue (base : Nat) (cs : List Char) : Nat :=
  cs.foldl (fun n c => base * n + (if c.isDigit then c.toNat - 48 else c.toNat - 55)) 0

def NumberedNames.codeOf? (r : NumberedNames) (name : List Char) : Option Nat :=
  let start := r.start.toList
  let n := numeralValue r.base (name.drop start.length)
  if r.number ≤ n && n < r.number + r.count && name == start ++ numeral r.base r.width n then
    some (r.first + (n - r.number))
  else none

def ideographs : List (Nat × Nat) := [(0x3400, 0x4DBF), (0x4E00, 0x9FFF), (0x20000, 0x2A6DF),
  (0x2A700, 0x2B738), (0x2B740, 0x2B81D), (0x2B820, 0x2CEA1), (0x2CEB0, 0x2EBE0),
  (0x30000, 0x3134A)]

def ideograph? (written : List Char) : Option Nat :=
  let n := numeralValue 16 written
  if (written.length == 4 || written.length == 5) &&
      written.all (fun c => c.isDigit || ('A' ≤ c && c ≤ 'F')) &&
      ideographs.any (fun r => r.1 ≤ n && n ≤ r.2) then some n
  else none

def leadingSounds : List String :=
  ["G", "GG", "N", "D", "DD", "R", "M", "B", "BB", "S", "SS", "", "J", "JJ", "C", "K", "T", "P",
    "H"]

def vowelSounds : List String :=
  ["A", "AE", "YA", "YAE", "EO", "E", "YEO", "YE", "O", "WA", "WAE", "OE", "YO", "U", "WEO", "WE",
    "WI", "YU", "EU", "YI", "I"]

def trailingSounds : List String :=
  ["", "G", "GG", "GS", "N", "NJ", "NH", "D", "L", "LG", "LM", "LB", "LS", "LT", "LP", "LH", "M",
    "B", "BS", "S", "SS", "NG", "J", "C", "K", "T", "P", "H"]

/-- The longest of some sounds that the text begins with, by its number, and what follows. -/
def longestSound? (sounds : List String) (cs : List Char) : Option (Nat × List Char) :=
  let found := sounds.zipIdx.filter fun s => s.1.toList.isPrefixOf cs
  let longest := found.foldl (fun best s =>
    if best.all fun b => b.1.length < s.1.length then some s else best) none
  longest.map fun s => (s.2, cs.drop s.1.length)

def hangulSyllable? (written : List Char) : Option Nat := do
  let (l, cs) ← longestSound? leadingSounds written
  let (v, cs) ← longestSound? vowelSounds cs
  let (t, cs) ← longestSound? trailingSounds cs
  if cs.isEmpty then some (0xAC00 + (l * 21 + v) * 28 + t) else none

def hangulStart : List Char := "HANGUL SYLLABLE ".toList

def ideographStart : List Char := "CJK UNIFIED IDEOGRAPH-".toList

/-- The code point of the character with this name, if it has one. Case only matters for names that
are made by rules. -/
def codeNamed? (name : String) : Option Nat :=
  let cs := name.toList
  if hangulStart.isPrefixOf cs then hangulSyllable? (cs.drop hangulStart.length)
  else if ideographStart.isPrefixOf cs then ideograph? (cs.drop ideographStart.length)
  else
    let upper := cs.map Char.toUpper
    let words := splitOnChar ' ' upper
    nameRuns.findSome? (·.codeOf? words) <|> numberedNames.findSome? (·.codeOf? upper) <|>
      (aliases.find? fun a => (splitOnChar ',' a.2.toList).contains upper).map (·.1)

end OrderSheet.Text
