import Mathlib
import OrderSheet.Text.Blank

/-!
# Lines of a text

A line has no character that ends a line, and lines that are written one after the other, each
with a line feed behind it, are the lines of what is written. What comes behind whole lines falls
into lines by itself.
-/

namespace OrderSheet.Text

def OneLine (cs : List Char) : Prop := ∀ c ∈ cs, isLineBreak c = false

theorem oneLine_nil : OneLine [] := by simp [OneLine]

theorem OneLine.feed_not_mem {cs : List Char} (h : OneLine cs) : '\n' ∉ cs := fun hmem =>
  absurd (h _ hmem) (by decide)

def ofLines (lines : List (List Char)) : List Char := lines.flatMap (· ++ ['\n'])

variable {line cs : List Char} {done lines : List (List Char)}

theorem oneLine_of_mem_splitLinesFrom (hline : OneLine line) (hdone : ∀ l ∈ done, OneLine l) :
    ∀ l ∈ splitLinesFrom line done cs, OneLine l := by
  have hended {line : List Char} {done : List (List Char)} (hline : OneLine line)
      (hdone : ∀ l ∈ done, OneLine l) : ∀ l ∈ line.reverse :: done, OneLine l := by
    intro l hl
    rcases List.mem_cons.mp hl with rfl | hl
    · exact fun c hc => hline c (List.mem_reverse.mp hc)
    · exact hdone l hl
  fun_induction splitLinesFrom line done cs with
  | case1 line done =>
    intro l hl
    rw [List.mem_reverse] at hl
    split at hl
    · exact hdone l hl
    · exact hended hline hdone l hl
  | case2 line done cs ih => exact ih oneLine_nil (hended hline hdone)
  | case3 line done c cs _ hc ih => exact ih oneLine_nil (hended hline hdone)
  | case4 line done c cs _ hc ih =>
    refine ih (fun d hd => ?_) hdone
    rcases List.mem_cons.mp hd with rfl | hd
    · simpa using hc
    · exact hline d hd

theorem oneLine_of_mem_splitLines (h : line ∈ splitLines cs) : OneLine line :=
  oneLine_of_mem_splitLinesFrom oneLine_nil (by simp) line h

theorem sum_length_splitLinesFrom (line : List Char) (done : List (List Char)) (cs : List Char) :
    ((splitLinesFrom line done cs).map fun l => l.length + 1).sum ≤
      (done.map fun l => l.length + 1).sum + line.length + cs.length + 1 := by
  fun_induction splitLinesFrom line done cs with
  | case1 line done =>
    rw [List.map_reverse, List.sum_reverse]
    split
    · exact Nat.le_add_right_of_le (Nat.le_add_right_of_le (Nat.le_add_right ..))
    · simp only [List.map_cons, List.sum_cons, List.length_reverse, List.length_nil]
      omega
  | case2 line done cs ih =>
    simp only [List.map_cons, List.sum_cons, List.length_reverse, List.length_nil,
      List.length_cons] at ih ⊢
    omega
  | case3 line done c cs _ _ ih =>
    simp only [List.map_cons, List.sum_cons, List.length_reverse, List.length_nil,
      List.length_cons] at ih ⊢
    omega
  | case4 line done c cs _ _ ih =>
    simp only [List.length_cons] at ih ⊢
    omega

/-- A text has room for its lines, each but the last with a line break behind it. -/
theorem sum_length_splitLines (cs : List Char) :
    ((splitLines cs).map fun l => l.length + 1).sum ≤ cs.length + 1 := by
  simpa [splitLines] using sum_length_splitLinesFrom [] [] cs

theorem splitLinesFrom_done_append (line : List Char) (done earlier : List (List Char))
    (cs : List Char) :
    splitLinesFrom line (done ++ earlier) cs = earlier.reverse ++ splitLinesFrom line done cs := by
  fun_induction splitLinesFrom line done cs with
  | case1 line done =>
    rw [splitLinesFrom]
    split <;> simp
  | case2 line done cs ih => rw [splitLinesFrom, ← List.cons_append, ih]
  | case3 line done c cs hreturn hc ih =>
    rw [splitLinesFrom.eq_3 _ _ _ _ hreturn, if_pos hc, ← List.cons_append, ih]
  | case4 line done c cs hreturn hc ih =>
    rw [splitLinesFrom.eq_3 _ _ _ _ hreturn, if_neg hc, ih]

/-- What comes behind a line feed is split by itself. -/
theorem splitLinesFrom_feed (line : List Char) (done : List (List Char)) (cs rest : List Char) :
    splitLinesFrom line done (cs ++ '\n' :: rest) =
      splitLinesFrom line done (cs ++ ['\n']) ++ splitLines rest := by
  have hbegin (done : List (List Char)) :
      splitLinesFrom [] done rest = splitLinesFrom [] done [] ++ splitLines rest := by
    simpa [splitLinesFrom, splitLines] using splitLinesFrom_done_append [] [] done rest
  fun_induction splitLinesFrom line done cs with
  | case1 line done => exact hbegin (line.reverse :: done)
  | case2 line done cs ih => exact ih
  | case3 line done c cs hreturn hc ih =>
    by_cases hlone : c = '\r' ∧ cs = []
    · -- a carriage return in front of the line feed ends the same line
      obtain ⟨rfl, rfl⟩ := hlone
      exact hbegin (line.reverse :: done)
    · have hreturn' (rest : List Char) :
          ∀ cs', c = '\r' → cs ++ '\n' :: rest = '\n' :: cs' → False := by
        rintro cs' rfl h
        cases cs with
        | nil => exact hlone ⟨rfl, rfl⟩
        | cons d cs => exact hreturn cs rfl (by rw [(List.cons.inj h).1])
      rw [List.cons_append, List.cons_append, splitLinesFrom.eq_3 _ _ _ _ (hreturn' rest),
        splitLinesFrom.eq_3 _ _ _ _ (hreturn' []), if_pos hc, if_pos hc, ih]
  | case4 line done c cs _ hc ih =>
    have hreturn' (rest : List Char) :
        ∀ cs', c = '\r' → cs ++ '\n' :: rest = '\n' :: cs' → False := by
      rintro cs' rfl
      exact absurd rfl hc
    rw [List.cons_append, List.cons_append, splitLinesFrom.eq_3 _ _ _ _ (hreturn' rest),
      splitLinesFrom.eq_3 _ _ _ _ (hreturn' []), if_neg hc, if_neg hc, ih]

def WholeLines (cs : List Char) : Prop := cs = [] ∨ cs.getLast? = some '\n'

theorem splitLines_append (h : WholeLines cs) (rest : List Char) :
    splitLines (cs ++ rest) = splitLines cs ++ splitLines rest := by
  rcases h with rfl | h
  · rfl
  · obtain ⟨cs, rfl⟩ := List.getLast?_eq_some_iff.mp h
    rw [List.append_assoc, List.singleton_append]
    exact splitLinesFrom_feed [] [] cs rest

end OrderSheet.Text
