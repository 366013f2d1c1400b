import OrderSheet.Journal
import OrderSheet.Settings
import OrderSheet.Text.Blank

/-!
# The lines of a table

The table of a document begins behind the first line that contains the start marker and ends
before the next line that contains the end marker. Blank lines and rules of dashes separate rows;
lines of excessive length are passed over with a warning.
-/

namespace OrderSheet.Table

/-- A trimmed line with its number in the document, counted from 1. -/
structure Line where
  number : Nat
  text : List Char
  deriving DecidableEq, Repr

def lines (document : List Char) : List Line :=
  (Text.splitLines document).zipIdx.map fun (l, i) => ⟨i + 1, Text.strip l⟩

def Line.contains (l : Line) (part : List Char) : Bool := Text.hasPart part l.text

def Line.isSeparator (l : Line) : Bool := l.text.all fun c => Text.isBlank c || c == '-'

def Line.isOversized (l : Line) : Bool := Settings.maxLine < l.text.length

/-- Goes through the lines from the top, where `inside` says whether the table has begun and `found`
holds its rows so far, backwards. In the table the end marker comes before all else. -/
def rowsFrom (startMarker endMarker : List Char) (inside : Bool) (found : List Line) :
    List Line → List Line
  | [] => found.reverse
  | l :: ls =>
    if !inside then rowsFrom startMarker endMarker (l.contains startMarker) found ls
    else if !endMarker.isEmpty && l.contains endMarker then found.reverse
    else if l.isSeparator then rowsFrom startMarker endMarker true found ls
    else rowsFrom startMarker endMarker true (l :: found) ls

/-- The rows of the table, those of excessive length included. An empty marker bounds nothing. -/
def rows (document startMarker endMarker : String) : List Line :=
  rowsFrom startMarker.toList endMarker.toList startMarker.isEmpty [] (lines document.toList)

def candidates (rows : List Line) : List Line := rows.filter fun l => !l.isOversized

def oversizedRecord : Record :=
  ⟨.warning, "pdf_templates.parsers.extractors.table_scanner", "Skipping oversized line"⟩

def oversizedRecords (rows : List Line) : List Record :=
  (rows.filter Line.isOversized).map fun _ => oversizedRecord

theorem candidates_length_le {rows : List Line} {l : Line} (h : l ∈ candidates rows) :
    l.text.length ≤ Settings.maxLine := by
  simpa [candidates, Line.isOversized] using (List.mem_filter.mp h).2

end OrderSheet.Table
