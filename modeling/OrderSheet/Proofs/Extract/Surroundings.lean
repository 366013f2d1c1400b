import Mathlib
import OrderSheet.Extract.Diagnosis
import OrderSheet.Proofs.Extract.Lines
import OrderSheet.Proofs.Text.Lines

/-!
# What stands around a table

Nothing behind the end of a table changes what is read from it, and whole lines in front of it only
move it down the document, by as many lines as they are.
-/

namespace OrderSheet

section Moved

variable (n : Nat)

/-- The same line, `n` lines further down. What is read from a line moves with it. -/
def Table.Line.moved (l : Table.Line) : Table.Line := { l with number := l.number + n }

def Product.moved (p : Product) : Product := { p with line := p.line + n }

def Problem.moved (p : Problem) : Problem := { p with line := p.line.map (· + n) }

def ProductLines.moved (lines : ProductLines) : ProductLines :=
  ⟨lines.products.map (Product.moved n), lines.problems.map (Problem.moved n)⟩

def ProductLines.RowResult.moved (result : RowResult) : RowResult :=
  { result with
    product := result.product.map (Product.moved n)
    problems := result.problems.map (Problem.moved n) }

def LineTrial.moved (t : LineTrial) : LineTrial := { t with number := t.number + n }

def Diagnosis.moved : Diagnosis → Diagnosis
  | obstacle o => obstacle o
  | trial t => trial (t.moved n)

end Moved

namespace Table

variable {n : Nat} {startMarker endMarker : List Char} {ls : List Line}

theorem lines_append {cs : List Char} (h : Text.WholeLines cs) (rest : List Char) :
    lines (cs ++ rest) =
      lines cs ++ (lines rest).map (Line.moved (Text.splitLines cs).length) := by
  have hshift := @List.zipIdx_eq_map_add _ (Text.splitLines rest) (Text.splitLines cs).length
  rw [lines, lines, lines, Text.splitLines_append h, List.zipIdx_append, List.map_append,
    Nat.zero_add, hshift, List.map_map, List.map_map]
  refine congrArg _ (List.map_congr_left fun l _ => ?_)
  exact congrArg (Line.mk · (Text.strip l.1)) (by omega : _ + l.2 + 1 = l.2 + 1 + _)

/-- A table that has begun within some lines goes on in the lines behind them. -/
theorem behindStart_append (h : behindStart startMarker ls ≠ []) (ms : List Line) :
    behindStart startMarker (ls ++ ms) = behindStart startMarker ls ++ ms := by
  by_cases hempty : startMarker = []
  · rw [behindStart, behindStart, if_pos hempty, if_pos hempty]
  · rw [behindStart, if_neg hempty] at h
    have hfound : ls.dropWhile (fun l => decide ¬ startMarker <:+: l.text) ≠ [] := by
      intro hnil
      rw [hnil] at h
      exact h rfl
    rw [behindStart, behindStart, if_neg hempty, if_neg hempty, List.dropWhile_append,
      if_neg (by simpa using hfound), List.tail_append_of_ne_nil hfound]

theorem beforeEnd_append (hne : endMarker ≠ []) (h : ∃ l ∈ ls, endMarker <:+: l.text)
    (ms : List Line) : beforeEnd endMarker (ls ++ ms) = beforeEnd endMarker ls := by
  induction ls with
  | nil => simp at h
  | cons l ls ih =>
    rw [List.cons_append]
    by_cases hl : endMarker <:+: l.text
    · rw [beforeEnd_cons_of_ends hne hl, beforeEnd_cons_of_ends hne hl]
    · have hrest : ∃ l ∈ ls, endMarker <:+: l.text := by simpa [hl] using h
      rw [beforeEnd_cons_of_not (by simp [hl]), beforeEnd_cons_of_not (by simp [hl]), ih hrest]

theorem between_append (hne : endMarker ≠ [])
    (h : ∃ l ∈ behindStart startMarker ls, endMarker <:+: l.text) (ms : List Line) :
    between startMarker endMarker (ls ++ ms) = between startMarker endMarker ls := by
  obtain ⟨l, hl, -⟩ := id h
  rw [between, behindStart_append (List.ne_nil_of_mem hl), beforeEnd_append hne h, between]

/-- A table that ends within a text has no rows behind it. -/
theorem rows_append_of_ends {text start stop : String} (htext : Text.WholeLines text.toList)
    (hne : stop ≠ "")
    (h : ∃ l ∈ behindStart start.toList (lines text.toList), stop.toList <:+: l.text)
    (rest : String) : rows (text ++ rest) start stop = rows text start stop := by
  rw [rows_eq, rows_eq, String.toList_append, lines_append htext,
    between_append (by simpa using hne) h]

theorem behindStart_append_of_not (hne : startMarker ≠ [])
    (h : ∀ l ∈ ls, ¬ startMarker <:+: l.text) (ms : List Line) :
    behindStart startMarker (ls ++ ms) = behindStart startMarker ms := by
  rw [behindStart, behindStart, if_neg hne, if_neg hne,
    List.dropWhile_append_of_pos fun l hl => by simpa using h l hl]

theorem behindStart_map_moved (ls : List Line) :
    behindStart startMarker (ls.map (Line.moved n)) =
      (behindStart startMarker ls).map (Line.moved n) := by
  rw [behindStart, behindStart]
  split
  · rfl
  · rw [List.dropWhile_map, List.map_tail]
    rfl

theorem beforeEnd_map_moved (ls : List Line) :
    beforeEnd endMarker (ls.map (Line.moved n)) = (beforeEnd endMarker ls).map (Line.moved n) := by
  rw [beforeEnd, beforeEnd]
  split
  · rfl
  · rw [List.takeWhile_map]
    rfl

/-- Whole lines without the start marker only move the rows. -/
theorem rows_append_of_not {before text start stop : String}
    (hbefore : Text.WholeLines before.toList) (hne : start ≠ "")
    (h : ∀ l ∈ lines before.toList, ¬ start.toList <:+: l.text) :
    rows (before ++ text) start stop =
      (rows text start stop).map (Line.moved (Text.splitLines before.toList).length) := by
  rw [rows_eq, rows_eq, String.toList_append, lines_append hbefore, between,
    behindStart_append_of_not (by simpa using hne) h, behindStart_map_moved, beforeEnd_map_moved,
    List.filter_map, between]
  rfl

theorem candidates_map_moved (rows : List Line) :
    candidates (rows.map (Line.moved n)) = (candidates rows).map (Line.moved n) := by
  rw [candidates, List.filter_map]
  rfl

end Table

namespace ProductLines

variable {n : Nat}

theorem readField_moved (m : Regex.Match) (mapping : FieldMapping) (line : Nat)
    (f : ProductField) :
    readField m mapping (line + n) f =
      ((readField m mapping line f).1, (readField m mapping line f).2.map (Problem.moved n)) := by
  rw [readField, readField]
  dsimp only
  split <;> rfl

theorem fieldProblems_moved (m : Regex.Match) (mapping : FieldMapping) (line : Nat)
    (f : ProductField) :
    fieldProblems m mapping (line + n) f =
      (fieldProblems m mapping line f).map (Problem.moved n) := by
  rw [fieldProblems, readField_moved, fieldProblems]

theorem totalProblems_moved (m : Regex.Match) (mapping : FieldMapping) (line : Nat) :
    totalProblems m mapping (line + n) =
      (totalProblems m mapping line).map (Problem.moved n) := by
  rw [totalProblems, totalProblems]
  split
  · exact fieldProblems_moved ..
  · rfl

theorem product_moved (m : Regex.Match) (mapping : FieldMapping) (line : Nat) :
    product m mapping (line + n) = ((product m mapping line).1.map (Product.moved n),
      (product m mapping line).2.map (Problem.moved n)) := by
  rw [product_eq, product_eq, fieldProblems_moved, fieldProblems_moved, totalProblems_moved]
  cases amount? m mapping .quantity <;> cases amount? m mapping .unitPrice <;> simp [Product.moved]

theorem readRow_moved (r : Regex) (mapping : FieldMapping) (row : Table.Line) :
    readRow r mapping (row.moved n) = (readRow r mapping row).moved n := by
  have hsize : (row.moved n).isOversized = row.isOversized := rfl
  have hsearch : r.search (row.moved n).text = r.search row.text := rfl
  rw [readRow, readRow, hsize, hsearch]
  split
  · rfl
  · cases r.search row.text with
    | none => rfl
    | some m =>
      dsimp only [Table.Line.moved]
      rw [product_moved]
      simp [RowResult.moved]

theorem readRows_moved (r : Regex) (mapping : FieldMapping) (rows : List Table.Line) :
    readRows r mapping (rows.map (Table.Line.moved n)) =
      ProductLines.moved n <$> readRows r mapping rows := by
  have hresults : (rows.map (Table.Line.moved n)).map (readRow r mapping) =
      (rows.map (readRow r mapping)).map (RowResult.moved n) := by
    simp [readRow_moved, Function.comp_def]
  rw [readRows, readRows, hresults, Activity.map_ok]
  simp only [ProductLines.moved, List.flatMap_map, List.filterMap_map, List.map_filterMap,
    List.map_flatMap]
  rfl

theorem extract_of_rows_eq {text text' : String} {rule : TableRule}
    (h : Table.rows text' rule.startMarker rule.endMarker =
      Table.rows text rule.startMarker rule.endMarker) :
    extract text' rule = extract text rule := by
  rw [extract, extract, h]

theorem extract_of_rows_moved {text text' : String} {rule : TableRule}
    (h : Table.rows text' rule.startMarker rule.endMarker =
      (Table.rows text rule.startMarker rule.endMarker).map (Table.Line.moved n)) :
    extract text' rule = ProductLines.moved n <$> extract text rule := by
  rw [extract, extract]
  cases nonEmpty? rule.linePattern with
  | none => rfl
  | some pattern =>
    dsimp only
    rw [map_bind]
    congr 1
    funext compiled
    cases compiled with
    | error fault => rfl
    | ok r =>
      dsimp only
      split
      · rfl
      · rw [h, readRows_moved]

end ProductLines

namespace Diagnosis

variable {n : Nat}

theorem tryLine_moved (r : Regex) (mapping : FieldMapping) (l : Table.Line) :
    tryLine r mapping (l.moved n) = (tryLine r mapping l).moved n := by
  have hsearch : r.search (l.moved n).text = r.search l.text := rfl
  rw [tryLine, tryLine, hsearch]
  cases r.search l.text <;> rfl

theorem diagnose_of_rows_eq {text text' : String} {rule : TableRule}
    (h : Table.rows text' rule.startMarker rule.endMarker =
      Table.rows text rule.startMarker rule.endMarker) :
    diagnose text' rule = diagnose text rule := by
  rw [diagnose, diagnose, h]

theorem diagnose_of_rows_moved {text text' : String} {rule : TableRule}
    (h : Table.rows text' rule.startMarker rule.endMarker =
      (Table.rows text rule.startMarker rule.endMarker).map (Table.Line.moved n)) :
    diagnose text' rule = Diagnosis.moved n <$> diagnose text rule := by
  have hnote : Table.oversizedRecords
        ((Table.rows text' rule.startMarker rule.endMarker).takeWhile Table.Line.isOversized) =
      Table.oversizedRecords
        ((Table.rows text rule.startMarker rule.endMarker).takeWhile Table.Line.isOversized) := by
    rw [h, List.takeWhile_map, Table.oversizedRecords, List.filter_map, List.map_map]
    rfl
  rw [diagnose, diagnose, map_bind, hnote, h, Table.candidates_map_moved, List.head?_map]
  congr 1
  funext _
  cases (Table.candidates (Table.rows text rule.startMarker rule.endMarker)).head? with
  | none => rfl
  | some l =>
    dsimp only [Option.map]
    cases nonEmpty? rule.linePattern with
    | none => rfl
    | some pattern =>
      dsimp only
      rw [map_bind]
      congr 1
      funext compiled
      cases compiled with
      | error fault => rfl
      | ok r =>
        dsimp only
        rw [tryLine_moved]
        rfl

end Diagnosis

namespace TableRule

/-- What stands around a table does not matter. If a text of whole lines has the end of its table in
it, then what comes behind the text changes nothing. If no line in front of a text has the start
marker, then they change nothing but the numbers of the lines, which are larger by how many they
are. -/
theorem answers_in_surroundings (rule : TableRule) (before text after after' : String)
    (hbefore : before = "" ∨ before.toList.getLast? = some '\n') :
    (text.toList.getLast? = some '\n' → rule.endMarker ≠ "" →
      (∃ l ∈ Table.behindStart rule.startMarker.toList (Table.lines text.toList),
        rule.endMarker.toList <:+: l.text) →
      ProductLines.extract (text ++ after) rule = ProductLines.extract (text ++ after') rule ∧
        Diagnosis.diagnose (text ++ after) rule = Diagnosis.diagnose (text ++ after') rule) ∧
    (rule.startMarker ≠ "" →
      (∀ l ∈ Text.splitLines before.toList, ¬ rule.startMarker.toList <:+: Text.strip l) →
      let n := (Text.splitLines before.toList).length
      ProductLines.extract (before ++ text) rule =
          ProductLines.moved n <$> ProductLines.extract text rule ∧
        Diagnosis.diagnose (before ++ text) rule =
          Diagnosis.moved n <$> Diagnosis.diagnose text rule) := by
  refine ⟨fun htext hne hend => ?_, fun hne hstart => ?_⟩
  · have hrows (rest : String) := Table.rows_append_of_ends (.inr htext) hne hend rest
    exact ⟨ProductLines.extract_of_rows_eq ((hrows after).trans (hrows after').symm),
      Diagnosis.diagnose_of_rows_eq ((hrows after).trans (hrows after').symm)⟩
  · have hwhole : Text.WholeLines before.toList := hbefore.imp_left (by rintro rfl; rfl)
    have hlines : ∀ l ∈ Table.lines before.toList, ¬ rule.startMarker.toList <:+: l.text := by
      rintro _ hl
      obtain ⟨⟨cs, i⟩, hmem, rfl⟩ := List.mem_map.mp hl
      exact hstart cs (List.fst_mem_of_mem_zipIdx hmem)
    have hrows := @Table.rows_append_of_not before text _ rule.endMarker hwhole hne hlines
    exact ⟨ProductLines.extract_of_rows_moved hrows, Diagnosis.diagnose_of_rows_moved hrows⟩

theorem answers_in_surroundings_one_row :
    let rule : TableRule := ⟨"<", ">", "(a)(1)(2)", ⟨some 1, some 2, some 3, none, none⟩⟩
    let text := "<\na12\n>\n"
    let product : Product := ⟨"a", ⟨false, 1, 0⟩, ⟨false, 2, 0⟩, none, none, 2⟩
    (ProductLines.extract (text ++ "<\na12") rule).outcome = .ok ⟨[product], []⟩ ∧
      (Diagnosis.diagnose (text ++ "<\na12") rule).outcome =
        (Diagnosis.diagnose text rule).outcome ∧
      (ProductLines.extract ("a12\r\n\n" ++ text) rule).outcome =
        .ok ⟨[{ product with line := 4 }], []⟩ ∧
      Diagnosis.diagnose ("a12\r\n\n" ++ text) rule =
        Diagnosis.moved 2 <$> Diagnosis.diagnose text rule := by
  intro rule text product
  have htext : ProductLines.extract text rule = ⟨[], .ok ⟨[product], []⟩⟩ := by cbv
  obtain ⟨hafter, hbefore⟩ :=
    answers_in_surroundings rule "a12\r\n\n" text "<\na12" "" (.inr (by decide))
  obtain ⟨hend, hend'⟩ := hafter (by decide) (by decide) (by decide)
  obtain ⟨hstart, hstart'⟩ := hbefore (by decide) (by decide)
  rw [String.append_empty, htext] at hend
  rw [htext, Activity.map_ok] at hstart
  exact ⟨by rw [hend], by rw [hend', String.append_empty], by rw [hstart]; rfl, hstart'⟩

end TableRule

end OrderSheet
