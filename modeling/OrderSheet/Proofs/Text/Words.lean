import Mathlib.Data.List.TakeWhile
import OrderSheet.Text.Blank
import OrderSheet.Text.Digit

/-!
# Words and trimmed texts

The words of a text are its longest parts without whitespace. Whitespace between two parts of a
text separates their words, and whitespace at an end of a text is trimmed away.
-/

namespace OrderSheet.Text

def Word (cs : List Char) : Prop := cs ≠ [] ∧ ∀ c ∈ cs, isBlank c = false

def words (cs : List Char) : List (List Char) :=
  (cs.splitOnP isBlank).filter fun w => !w.isEmpty

variable {cs ds gap : List Char} {c : Char}

theorem words_append_blank (hc : isBlank c = true) (cs ds : List Char) :
    words (cs ++ c :: ds) = words cs ++ words ds := by
  rw [words, List.splitOnP_append_cons _ _ hc, List.filter_append]
  rfl

theorem words_append_gap (hne : gap ≠ []) (hgap : ∀ c ∈ gap, isBlank c = true)
    (cs ds : List Char) : words (cs ++ (gap ++ ds)) = words cs ++ words ds := by
  induction gap generalizing cs with
  | nil => exact absurd rfl hne
  | cons c gap ih =>
    rw [List.cons_append, words_append_blank (hgap c (by simp))]
    by_cases hnil : gap = []
    · rw [hnil, List.nil_append]
    · have hrest := ih hnil (fun d hd => hgap d (List.mem_cons_of_mem _ hd)) []
      rw [List.nil_append] at hrest
      rw [hrest]
      rfl

theorem Word.words_eq (h : Word cs) : words cs = [cs] := by
  rw [words, List.splitOnP_eq_singleton h.2]
  simp [h.1]

/-- A text that does not begin with whitespace has a word. -/
theorem words_cons_ne_nil (hc : isBlank c = false) (cs : List Char) : words (c :: cs) ≠ [] := by
  have hw : Word (c :: cs.takeWhile fun d => !isBlank d) := by
    refine ⟨by simp, fun d hd => ?_⟩
    rcases List.mem_cons.mp hd with rfl | hd
    · exact hc
    · simpa using List.mem_takeWhile_imp hd
  have hsplit : c :: cs =
      (c :: cs.takeWhile fun d => !isBlank d) ++ cs.dropWhile fun d => !isBlank d := by
    rw [List.cons_append, List.takeWhile_append_dropWhile]
  rw [hsplit]
  cases hrest : cs.dropWhile fun d => !isBlank d with
  | nil => simp [hw.words_eq]
  | cons b rest =>
    have hb : isBlank b = true := by
      have := List.head_dropWhile_not (fun d => !isBlank d) (l := cs) (by simp [hrest])
      simpa [hrest] using this
    rw [words_append_blank hb, hw.words_eq]
    simp

theorem words_eq_nil_iff : words cs = [] ↔ ∀ c ∈ cs, isBlank c = true := by
  induction cs with
  | nil => exact iff_of_true rfl (by simp)
  | cons c cs ih =>
    cases hc : isBlank c with
    | false => exact iff_of_false (words_cons_ne_nil hc cs) fun h => by simp [hc] at h
    | true =>
      have hcons : words (c :: cs) = words cs := words_append_blank hc [] cs
      rw [hcons, ih, List.forall_mem_cons]
      exact (and_iff_right hc).symm

/-- The first word of a text ends where its whitespace begins. -/
theorem Word.append_cons_inj {f g : List Char} {b d : Char} (hf : Word f) (hg : Word g)
    (hb : isBlank b = true) (hd : isBlank d = true) (h : f ++ b :: cs = g ++ d :: ds) :
    f = g ∧ b :: cs = d :: ds := by
  have htake (w : List Char) (hw : Word w) (a : Char) (ha : isBlank a = true) (t : List Char) :
      (w ++ a :: t).takeWhile (fun c => !isBlank c) = w := by
    rw [List.takeWhile_append_of_pos fun c hc => by simp [hw.2 c hc]]
    simp [ha]
  have hfg : f = g := by rw [← htake f hf b hb cs, h, htake g hg d hd ds]
  subst hfg
  exact ⟨rfl, List.append_cancel_left h⟩

theorem stripLeft_append_of_blank (h : ∀ c ∈ gap, isBlank c = true) (cs : List Char) :
    stripLeft (gap ++ cs) = stripLeft cs := List.dropWhile_append_of_pos h

theorem stripLeft_of_blank (h : ∀ c ∈ gap, isBlank c = true) : stripLeft gap = [] :=
  List.dropWhile_eq_nil_iff.mpr h

theorem stripLeft_cons (hc : isBlank c = false) (cs : List Char) :
    stripLeft (c :: cs) = c :: cs := by
  simp [stripLeft, hc]

theorem Word.stripLeft_append (h : Word cs) (ds : List Char) : stripLeft (cs ++ ds) = cs ++ ds := by
  obtain ⟨c, cs, rfl⟩ := List.exists_cons_of_ne_nil h.1
  exact stripLeft_cons (h.2 c (by simp)) _

/-- A character that is not blank stops the trimming. -/
theorem stripLeft_append_cons (hc : isBlank c = false) (cs ds : List Char) :
    stripLeft (cs ++ c :: ds) = stripLeft cs ++ c :: ds := by
  induction cs with
  | nil => exact stripLeft_cons hc ds
  | cons b cs ih =>
    by_cases hb : isBlank b = true
    · simpa [stripLeft, hb] using ih
    · simp [stripLeft, hb]

theorem stripRight_append_of_blank (h : ∀ c ∈ gap, isBlank c = true) (cs : List Char) :
    stripRight (cs ++ gap) = stripRight cs := by
  rw [stripRight, List.reverse_append,
    List.dropWhile_append_of_pos fun c hc => h c (by simpa using hc)]
  rfl

theorem strip_append_of_blank (h : ∀ c ∈ gap, isBlank c = true) (cs : List Char) :
    strip (cs ++ gap) = strip cs := by
  have hgap : gap.dropWhile isBlank = [] := stripLeft_of_blank h
  rw [strip, strip, stripLeft, stripLeft, List.dropWhile_append]
  split
  · next hempty => rw [hgap, List.isEmpty_iff.mp hempty]
  · exact stripRight_append_of_blank h _

/-- Trimming leaves nothing of a text that is all whitespace. -/
theorem strip_eq_nil_iff : strip cs = [] ↔ ∀ c ∈ cs, isBlank c = true := by
  constructor
  · intro h
    rw [strip, stripRight, List.reverse_eq_nil_iff, List.dropWhile_eq_nil_iff] at h
    have hleft : ∀ c ∈ stripLeft cs, isBlank c = true := fun c hc => h c (List.mem_reverse.mpr hc)
    rw [← List.dropWhile_eq_nil_iff]
    by_contra hne
    have hhead := List.head_dropWhile_not isBlank hne
    rw [hleft _ (List.head_mem hne)] at hhead
    cases hhead
  · intro h
    rw [strip, stripLeft_of_blank h]
    rfl

theorem stripRight_isPrefix (cs : List Char) : stripRight cs <+: cs := by
  rw [stripRight, ← List.reverse_suffix, List.reverse_reverse]
  exact List.dropWhile_suffix _

theorem strip_isInfix (cs : List Char) : strip cs <:+: cs :=
  (stripRight_isPrefix _).isInfix.trans (List.dropWhile_suffix _).isInfix

theorem strip_sublist (cs : List Char) : (strip cs).Sublist cs := (strip_isInfix cs).sublist

theorem stripLeft_eq_self_iff : stripLeft cs = cs ↔ ∀ c ∈ cs.head?, isBlank c = false := by
  cases cs <;> simp [stripLeft]

theorem stripRight_eq_self_iff :
    stripRight cs = cs ↔ ∀ c ∈ cs.getLast?, isBlank c = false := by
  have h : stripLeft cs.reverse = cs.reverse ↔ _ := stripLeft_eq_self_iff
  rw [List.head?_reverse] at h
  rw [← h, stripRight, stripLeft, List.reverse_eq_iff]

theorem strip_eq_self_iff : strip cs = cs ↔
    (∀ c ∈ cs.head?, isBlank c = false) ∧ ∀ c ∈ cs.getLast?, isBlank c = false := by
  rw [← stripLeft_eq_self_iff, ← stripRight_eq_self_iff]
  constructor
  · intro h
    have hleft : stripLeft cs = cs := by
      refine (List.dropWhile_sublist _).eq_of_length_le ?_
      calc cs.length = (strip cs).length := by rw [h]
        _ ≤ (stripLeft cs).length := (stripRight_isPrefix _).length_le
    exact ⟨hleft, by rwa [strip, hleft] at h⟩
  · rintro ⟨hleft, hright⟩
    rw [strip, hleft, hright]

theorem strip_strip (cs : List Char) : strip (strip cs) = strip cs := by
  have hlast (ds : List Char) : ∀ c ∈ (stripRight ds).getLast?, isBlank c = false := by
    intro c hc
    rw [stripRight, List.getLast?_reverse] at hc
    have h := List.head?_dropWhile_not isBlank ds.reverse
    rw [Option.mem_def.mp hc] at h
    simpa using h
  have hfirst (ds : List Char) (h : ∀ c ∈ ds.head?, isBlank c = false) :
      ∀ c ∈ (stripRight ds).head?, isBlank c = false := by
    intro c hc
    obtain ⟨es, hes⟩ := stripRight_isPrefix ds
    refine h c ?_
    rw [← hes, List.head?_append, Option.mem_def.mp hc]
    rfl
  refine strip_eq_self_iff.mpr ⟨hfirst _ fun c hc => ?_, hlast _⟩
  have h := List.head?_dropWhile_not isBlank cs
  rw [stripLeft] at hc
  rw [Option.mem_def.mp hc] at h
  simpa using h

theorem Word.strip_eq (h : Word cs) : strip cs = cs :=
  strip_eq_self_iff.mpr ⟨fun c hc => h.2 c (List.mem_of_mem_head? hc),
    fun c hc => h.2 c (List.mem_of_mem_getLast? hc)⟩

theorem digitValueAt?_eq_none_of_blank {n : Nat} (h : n ∈ blanks) :
    digitValueAt? zeros n = none := by
  revert n
  decide

theorem toNat_mem_blanks (h : isBlank c = true) : c.toNat ∈ blanks := by
  have hascii : ∀ n < 128, (n == 32 || (9 ≤ n && n ≤ 13) || (28 ≤ n && n ≤ 31)) = true →
      n ∈ blanks := by decide
  simp only [isBlank] at h
  split at h
  · next hlt => exact hascii _ hlt h
  · exact List.contains_iff_mem.mp h

theorem isBlank_of_isDigit (h : isDigit c = true) : isBlank c = false := by
  by_contra hblank
  have hnone := digitValueAt?_eq_none_of_blank (toNat_mem_blanks (by simpa using hblank))
  simp [isDigit, digitValue?, hnone] at h

end OrderSheet.Text
