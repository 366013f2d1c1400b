import Mathlib
import OrderSheet.Proofs.Text.Parts
import OrderSheet.Proofs.Text.Words
import OrderSheet.Proofs.Yaml.Trees

/-!
# What a written document holds

Truth values and numbers are read as what they denote, and a mapping with different keys as the
list of its entries.
-/

namespace OrderSheet.Yaml

variable {column : Nat} {cs ds : List Char}

theorem toNat_of_alphanum {c : Char} (h : c.isAlphanum = true) :
    48 ≤ c.toNat ∧ c.toNat ≤ 122 := by
  have hval : c.toNat = c.val.toNat := rfl
  simp only [Char.isAlphanum, Char.isAlpha, Char.isUpper, Char.isLower, Char.isDigit,
    Bool.or_eq_true, Bool.and_eq_true, decide_eq_true_eq, ge_iff_le, UInt32.le_iff_toNat_le] at h
  have hbounds : 'A'.val.toNat = 65 ∧ 'Z'.val.toNat = 90 ∧ 'a'.val.toNat = 97 ∧
      'z'.val.toNat = 122 ∧ '0'.val.toNat = 48 ∧ '9'.val.toNat = 57 := by decide
  omega

theorem ne_of_alphanum {c d : Char} (h : c.isAlphanum = true) (hd : d.isAlphanum = false) :
    c ≠ d := by
  rintro rfl
  simp [h] at hd

theorem not_isGap_of_alphanum {c : Char} (h : c.isAlphanum = true) : isGap c = false :=
  not_isGap_of_class h (by simp; decide)

/-- The characters with which something else than a plain text may begin. -/
def leadingMarks : List Char :=
  ['#', ',', '[', ']', '{', '}', '&', '*', '!', '|', '>', '\'', '"', '%', '@', '\x60', '?', ':',
    '-', '.']

theorem hasLeadingMark_of_marks (h : ∀ c ∈ cs, ∀ m ∈ leadingMarks, c ≠ m) :
    hasLeadingMark cs = false := by
  cases cs with
  | nil => rfl
  | cons d ds =>
    have hmarks := h d (by simp)
    simp [leadingMarks] at hmarks
    simp [hasLeadingMark, String.contains_char_eq, List.isPrefixOf, hmarks, Ne.symm]

theorem hasLeadingMark_of_alphanum (h : ∀ c ∈ cs, c.isAlphanum = true) :
    hasLeadingMark cs = false :=
  hasLeadingMark_of_marks fun c hc m hm => ne_of_alphanum (h c hc) (by
    have hnone : leadingMarks.all (!Char.isAlphanum ·) = true := by decide
    simpa using List.all_eq_true.mp hnone m hm)

theorem bareText_of_alphanum (hne : cs ≠ []) (h : ∀ c ∈ cs, c.isAlphanum = true) :
    BareText cs := by
  have hchain : cs.IsChain fun a b => ((b == '#' && isGap a) || (a == ':' && isGap b)) = false := by
    refine List.Pairwise.isChain (List.pairwise_of_forall_mem_list fun a ha b hb => ?_)
    have hcomment : b ≠ '#' := ne_of_alphanum (h b hb) (by decide)
    have hcolon : a ≠ ':' := ne_of_alphanum (h a ha) (by decide)
    simp [hcomment, hcolon]
  refine ⟨⟨fun c hc => ?_, fun c hc hgap => ?_, hchain, fun c hc => ?_⟩,
    hasLeadingMark_of_alphanum h, hne, fun hhead => ?_⟩
  · have := toNat_of_alphanum (h c hc)
    simp only [isWritable, Bool.or_eq_true, Bool.and_eq_true, decide_eq_true_eq]
    omega
  · rw [not_isGap_of_alphanum (h c hc)] at hgap
    cases hgap
  · have hlast := h c (List.mem_of_mem_getLast? hc)
    exact ⟨ne_of_alphanum hlast (by decide), ne_of_alphanum hlast (by decide)⟩
  · exact ne_of_alphanum (h ' ' (List.mem_of_mem_head? hhead)) (by decide) rfl

theorem alphanum_of_isDigit {c : Char} (h : c.isDigit = true) : c.isAlphanum = true := by
  simp [Char.isAlphanum, h]

theorem Stands.truth (b : Bool) :
    Stands column (.bare (if b then "true" else "false").toList) (.bool b) := by
  have hwords : "true".toList.all Char.isAlphanum = true ∧
      "false".toList.all Char.isAlphanum = true := ⟨rfl, rfl⟩
  cases b with
  | true => exact ⟨bareText_of_alphanum (by simp) (List.all_eq_true.mp hwords.1), rfl⟩
  | false => exact ⟨bareText_of_alphanum (by simp) (List.all_eq_true.mp hwords.2), rfl⟩

structure Numeral (ds : List Char) : Prop where
  digits : ∀ c ∈ ds, c.isDigit = true
  nonempty : ds ≠ []
  head : ds.head? ≠ some '0'

theorem head_toDigits {n : Nat} (h : 0 < n) : (Nat.toDigits 10 n).head? ≠ some '0' := by
  induction n using Nat.strong_induction_on with
  | _ n ih =>
    by_cases hn : n < 10
    · rw [Nat.toDigits_of_lt_base hn]
      simp
      omega
    · rw [Nat.toDigits_of_base_le (by omega) (by omega), List.head?_append]
      have hrec := ih (n / 10) (by omega) (by omega)
      cases hds : Nat.toDigits 10 (n / 10) with
      | nil => exact absurd hds Nat.toDigits_ne_nil
      | cons d ds => simpa [hds] using hrec

theorem numeral_toDigits {n : Nat} (h : 0 < n) : Numeral (Nat.toDigits 10 n) :=
  ⟨fun _ hc => Nat.isDigit_of_mem_toDigits (by decide) (by decide) hc, Nat.toDigits_ne_nil,
    head_toDigits h⟩

theorem Numeral.not_mem (h : Numeral ds) {c : Char} (hc : c.isDigit = false) : c ∉ ds := by
  intro hmem
  simp [h.digits c hmem] at hc

theorem Numeral.unsigned_eq (h : Numeral ds) : unsigned ds = ds := by
  have hplus := h.not_mem (show '+'.isDigit = false by decide)
  have hminus := h.not_mem (show '-'.isDigit = false by decide)
  unfold unsigned
  split
  · simp at hplus
  · simp at hminus
  · rfl

theorem Numeral.splitOnChar_eq (h : Numeral ds) : Text.splitOnChar ':' ds = [ds] :=
  Text.splitOnChar_of_not_mem (h.not_mem (by decide))

theorem Numeral.isIntText_eq (h : Numeral ds) : isIntText ds = true := by
  have hhead := h.head
  have hmarked : isMarkedNumber ds = true := by
    obtain ⟨d, ds, rfl⟩ := List.exists_cons_of_ne_nil h.nonempty
    simp only [isMarkedNumber, Bool.and_eq_true, List.all_eq_true, orMark, isDecimal,
      Bool.or_eq_true]
    exact ⟨h.digits d (by simp), fun c hc => .inl (h.digits c (by simp [hc]))⟩
  rw [isIntText, h.unsigned_eq]
  split
  · simp at hhead
  · simp at hhead
  · simp at hhead
  · simp at hhead
  · rw [h.splitOnChar_eq]
    exact hmarked

theorem toLower_of_isDigit {c : Char} (h : c.isDigit = true) : c.toLower = c := by
  have hbounds : '0'.val.toNat = 48 ∧ '9'.val.toNat = 57 ∧ 'A'.val.toNat = 65 := by decide
  simp only [Char.isDigit, Bool.and_eq_true, decide_eq_true_eq, ge_iff_le,
    UInt32.le_iff_toNat_le] at h
  have hupper : ¬ (c.val ≥ 'A'.val ∧ c.val ≤ 'Z'.val) := by
    rw [ge_iff_le, UInt32.le_iff_toNat_le]
    omega
  rw [Char.toLower, dif_neg hupper]

theorem Numeral.not_bool (h : Numeral ds) : isBoolText ds = false := by
  obtain ⟨d, ds, rfl⟩ := List.exists_cons_of_ne_nil h.nonempty
  have hd := h.digits d (by simp)
  have hnone : boolOf? (String.ofList ((d :: ds).map Char.toLower)) = none := by
    have hlower : d.toLower = d := toLower_of_isDigit hd
    have hfirst : (String.ofList ((d :: ds).map Char.toLower)).toList.head? = some d := by
      simp [hlower]
    generalize String.ofList ((d :: ds).map Char.toLower) = w at hfirst
    have hword : ∀ v ∈ ["yes", "true", "on", "no", "false", "off"], w ≠ v := by
      intro v hv heq
      rw [heq] at hfirst
      simp only [List.mem_cons, List.not_mem_nil, or_false] at hv
      rcases hv with rfl | rfl | rfl | rfl | rfl | rfl <;>
        · obtain rfl := by simpa using hfirst
          exact absurd hd (by decide)
    simp only [List.mem_cons, List.not_mem_nil, or_false, forall_eq_or_imp, forall_eq] at hword
    simp [boolOf?, hword]
  rw [isBoolText, hnone]
  rfl

theorem Numeral.not_float (h : Numeral ds) : isFloatText ds = false := by
  have hpoint : ds.dropWhile (· != '.') = [] := by
    rw [List.dropWhile_eq_nil_iff]
    intro c hc
    have hne : c ≠ '.' := fun heq => h.not_mem (by decide) (heq ▸ hc)
    simpa using hne
  rw [isFloatText, h.unsigned_eq]
  dsimp only
  rw [hpoint]

theorem withoutEnd_of_not_mem (h : '\n' ∉ cs) : withoutEnd cs = cs := by
  have hlast : (cs.getLast? == some '\n') = false := by
    rw [beq_eq_false_iff_ne]
    exact fun hlast => h (List.mem_of_mem_getLast? hlast)
  rw [withoutEnd, hlast, Bool.and_false, if_neg (by simp)]

theorem Numeral.resolve_eq (h : Numeral ds) : resolve ds = .int := by
  rw [resolve, withoutEnd_of_not_mem (h.not_mem (by decide)), resolveLine, h.not_bool, h.not_float,
    h.isIntText_eq]
  rfl

theorem isBlank_of_isDigit {c : Char} (h : c.isDigit = true) : Text.isBlank c = false := by
  have hbounds := toNat_of_alphanum (alphanum_of_isDigit h)
  simp only [Text.isBlank]
  rw [if_pos (by omega)]
  simp
  omega

theorem digitValue?_of_isDigit {c : Char} (h : c.isDigit = true) :
    Text.digitValue? c = some (c.toNat - '0'.toNat) := by
  have hval : c.toNat = c.val.toNat := rfl
  have hbounds : '0'.val.toNat = 48 ∧ '9'.val.toNat = 57 := by decide
  simp only [Char.isDigit, Bool.and_eq_true, decide_eq_true_eq, ge_iff_le,
    UInt32.le_iff_toNat_le] at h
  rw [Text.digitValue?, Text.zeros, Text.digitValueAt?, if_neg (by omega), if_pos (by omega)]
  rfl

theorem digitOf?_of_isDigit {c : Char} (h : c.isDigit = true) :
    digitOf? c = some (c.toNat - '0'.toNat) := by
  rw [digitOf?, h, Bool.not_true, Bool.and_false, if_neg (by simp), digitValue?_of_isDigit h]

theorem foldl_digits (h : ∀ c ∈ ds, c.isDigit = true) (m : Nat) :
    ds.foldl (fun (n : Int) c => ((10 : Nat) : Int) * n + ((digitOf? c).getD 0 : Nat)) m =
      Nat.ofDigitChars 10 ds m := by
  induction ds generalizing m with
  | nil => rfl
  | cons c ds ih =>
    have hc := digitOf?_of_isDigit (h c (by simp))
    rw [List.foldl_cons, Nat.ofDigitChars_cons, hc, Option.getD_some,
      ← ih fun d hd => h d (by simp [hd])]
    push_cast
    rfl

theorem withoutMark_ten (cs : List Char) : withoutMark 10 cs = cs := by
  unfold withoutMark
  split
  · simp [baseMark?]
  · rfl

theorem Numeral.readInBase_eq (h : Numeral ds) (hlength : ds.length ≤ digitLimit) :
    readInBase 10 ds = .ok (Nat.ofDigitChars 10 ds 0 : Int) := by
  have hstrip : Text.strip ds = ds := Text.strip_eq_self_iff.mpr
    ⟨fun c hc => isBlank_of_isDigit (h.digits c (List.mem_of_mem_head? hc)),
      fun c hc => isBlank_of_isDigit (h.digits c (List.mem_of_mem_getLast? hc))⟩
  have hsign : Decimal.readSign ds = (false, ds) := by
    have hplus := h.not_mem (show '+'.isDigit = false by decide)
    have hminus := h.not_mem (show '-'.isDigit = false by decide)
    unfold Decimal.readSign
    split
    · simp at hminus
    · simp at hplus
    · rfl
  have hdigits : (ds.isEmpty || !ds.all fun c => (digitOf? c).any (· < 10)) = false := by
    have hall : ∀ c ∈ ds, ((digitOf? c).any (· < 10)) = true := by
      intro c hc
      have hvalue := digitValue?_of_isDigit (h.digits c hc)
      rw [digitOf?_of_isDigit (h.digits c hc), Option.any_some, decide_eq_true_eq]
      exact Text.digitValue?_lt hvalue
    rw [List.all_eq_true.mpr hall]
    simpa using h.nonempty
  have hlimit : ¬ (((10 : Nat) == 10 && decide (digitLimit < ds.length)) = true) := by
    simpa using hlength
  rw [readInBase, hstrip, hsign]
  dsimp only
  rw [withoutMark_ten, hdigits, if_neg (by simp), if_neg hlimit, if_neg (by simp)]
  exact congrArg Except.ok (foldl_digits h.digits 0)

theorem Numeral.buildInt_eq (h : Numeral ds) (hlength : ds.length ≤ digitLimit) :
    buildInt ds = .ok (Nat.ofDigitChars 10 ds 0 : Int) := by
  have hhead := h.head
  have hfilter : ds.filter (· != '_') = ds := by
    rw [List.filter_eq_self]
    intro c hc
    have hne : c ≠ '_' := fun heq => h.not_mem (by decide) (heq ▸ hc)
    simpa using hne
  have hsign : ds.head? ≠ some '-' := fun hminus =>
    h.not_mem (show '-'.isDigit = false by decide) (List.mem_of_mem_head? hminus)
  have hcolon : ds.contains ':' = false := by
    simpa using h.not_mem (show ':'.isDigit = false by decide)
  rw [buildInt, hfilter, h.unsigned_eq]
  split
  · exact absurd rfl h.nonempty
  · simp at hhead
  · simp at hhead
  · simp at hhead
  · simp at hhead
  · rw [hcolon, if_neg (by simp), h.readInBase_eq hlength]
    simp [withSign, hsign, Functor.map, Except.map]

theorem Stands.number {n : Nat} (h : 0 < n) (hlength : (toString n).length ≤ digitLimit) :
    Stands column (.bare (toString n).toList) (.int n) := by
  have hdigits : (toString n).toList = Nat.toDigits 10 n := by simp
  have hnumeral := numeral_toDigits h
  rw [← String.length_toList, hdigits] at hlength
  rw [hdigits]
  refine ⟨bareText_of_alphanum hnumeral.nonempty fun c hc =>
    alphanum_of_isDigit (hnumeral.digits c hc), ?_⟩
  rw [Block.tree, hnumeral.resolve_eq, build, buildScalar, hnumeral.buildInt_eq hlength,
    Nat.ofDigitChars_ten_toDigits]
  rfl

def reservedWords : List String := ["yes", "true", "on", "no", "false", "off", "null"]

section

variable {k : List Char}

theorem isLower_toLower {c : Char} (h : Scan.isNameLetter c = true) : c.toLower = c := by
  have hupper : ¬ (c.val ≥ 'A'.val ∧ c.val ≤ 'Z'.val) := by
    have hbounds : 'A'.val.toNat = 65 ∧ 'Z'.val.toNat = 90 ∧ 'a'.val.toNat = 97 ∧
        '_'.val.toNat = 95 := by decide
    simp only [Scan.isNameLetter, Char.isLower, Bool.or_eq_true, Bool.and_eq_true,
      decide_eq_true_eq, ge_iff_le, UInt32.le_iff_toNat_le, beq_iff_eq] at h ⊢
    rcases h with h | rfl
    · omega
    · omega
  rw [Char.toLower, dif_neg hupper]

theorem not_bool_of_name (hk : ∀ c ∈ k, Scan.isNameLetter c = true)
    (hword : String.ofList k ∉ reservedWords) : isBoolText k = false := by
  have hlower : k.map Char.toLower = k := by
    conv_rhs => rw [← List.map_id k]
    exact List.map_congr_left fun c hc => isLower_toLower (hk c hc)
  have hnone : boolOf? (String.ofList k) = none := by
    simp only [reservedWords, List.mem_cons, List.not_mem_nil, or_false, not_or] at hword
    simp [boolOf?, hword]
  rw [isBoolText, hlower, hnone]
  rfl

theorem unsigned_of_name (hk : ∀ c ∈ k, Scan.isNameLetter c = true) : unsigned k = k := by
  unfold unsigned
  split
  · exact absurd (hk '+' (by simp)) (by decide)
  · exact absurd (hk '-' (by simp)) (by decide)
  · rfl

theorem not_float_of_name (hk : ∀ c ∈ k, Scan.isNameLetter c = true) : isFloatText k = false := by
  have hpoint : k.dropWhile (· != '.') = [] := by
    rw [List.dropWhile_eq_nil_iff]
    intro c hc
    simpa using Scan.ne_of_letter (hk c hc) (by decide : Scan.isNameLetter '.' = false)
  rw [isFloatText, unsigned_of_name hk]
  dsimp only
  rw [hpoint]

theorem not_isDigit_of_letter {c : Char} (h : Scan.isNameLetter c = true) : c.isDigit = false := by
  by_contra hdigit
  have hbounds : '9'.val.toNat = 57 ∧ 'a'.val.toNat = 97 ∧ '_'.val.toNat = 95 := by decide
  simp only [Scan.isNameLetter, Char.isLower, Char.isDigit, Bool.not_eq_false, Bool.or_eq_true,
    Bool.and_eq_true, decide_eq_true_eq, ge_iff_le, UInt32.le_iff_toNat_le, beq_iff_eq]
    at h hdigit
  rcases h with h | rfl
  · omega
  · omega

theorem not_int_of_name (hk : ∀ c ∈ k, Scan.isNameLetter c = true) : isIntText k = false := by
  have hzero : ∀ ds, k ≠ '0' :: ds := by
    rintro ds rfl
    exact absurd (hk '0' (by simp)) (by decide)
  have hcolon : ':' ∉ k := fun h => absurd (hk ':' h) (by decide)
  have hnumber : isMarkedNumber k = false := by
    cases k with
    | nil => rfl
    | cons c cs => rw [isMarkedNumber, not_isDigit_of_letter (hk c (by simp)), Bool.false_and]
  rw [isIntText, unsigned_of_name hk]
  split
  · exact absurd rfl (hzero _)
  · exact absurd rfl (hzero _)
  · exact absurd rfl (hzero _)
  · exact absurd rfl (hzero _)
  · rw [Text.splitOnChar_of_not_mem hcolon]
    exact hnumber

theorem not_moment_of_name (hk : ∀ c ∈ k, Scan.isNameLetter c = true) :
    isMomentText k = false := by
  have hdigits : (k.take 4).takeWhile Char.isDigit = [] := by
    cases k with
    | nil => rfl
    | cons c cs => simp [not_isDigit_of_letter (hk c (by simp))]
  have hyear : digits? 4 4 k = none := by
    rw [digits?, hdigits]
    rfl
  rw [isMomentText, readMoment?, hyear]
  rfl

/-- Names other than the reserved words are plain texts. -/
theorem resolve_name (hk : ∀ c ∈ k, Scan.isNameLetter c = true)
    (hne : k ≠ []) (hword : String.ofList k ∉ reservedWords) : resolve k = .str := by
  have hmerge : (k == ['<', '<']) = false := beq_false_of_ne fun heq =>
    absurd (hk '<' (by simp [heq])) (by decide)
  have hvalue : (k == ['=']) = false := beq_false_of_ne fun heq =>
    absurd (hk '=' (by simp [heq])) (by decide)
  have hnull : isNullText k = false := by
    have hnone : ∀ w ∈ ["", "~", "null", "Null", "NULL"], String.ofList k ≠ w := by
      intro w hw heq
      have hchars : k = w.toList := by rw [← heq, String.toList_ofList]
      simp only [List.mem_cons, List.not_mem_nil, or_false] at hw
      rcases hw with rfl | rfl | rfl | rfl | rfl
      · exact hne (by simpa using hchars)
      · exact absurd (hk '~' (by simp [hchars])) (by decide)
      · exact hword (by simp [heq, reservedWords])
      · exact absurd (hk 'N' (by simp [hchars])) (by decide)
      · exact absurd (hk 'N' (by simp [hchars])) (by decide)
    have hmem : String.ofList k ∉ ["", "~", "null", "Null", "NULL"] := fun h => hnone _ h rfl
    rw [isNullText, List.contains_eq_mem, decide_eq_false hmem]
  have hend : '\n' ∉ k := fun h => absurd (hk '\n' h) (by decide)
  rw [resolve, withoutEnd_of_not_mem hend, resolveLine, not_bool_of_name hk hword, not_float_of_name hk, not_int_of_name hk, hmerge, hnull,
    not_moment_of_name hk, hvalue]
  rfl

theorem isWritable_of_letter {c : Char} (h : Scan.isNameLetter c = true) : isWritable c = true := by
  have hval : c.toNat = c.val.toNat := rfl
  have hbounds : 'a'.val.toNat = 97 ∧ 'z'.val.toNat = 122 ∧ '_'.val.toNat = 95 := by decide
  simp only [Scan.isNameLetter, Char.isLower, Bool.or_eq_true, Bool.and_eq_true,
    decide_eq_true_eq, ge_iff_le, UInt32.le_iff_toNat_le, beq_iff_eq] at h
  simp only [isWritable, Bool.or_eq_true, Bool.and_eq_true, decide_eq_true_eq]
  rcases h with h | rfl
  · omega
  · omega

theorem anyNeighbours_of_forall {p : Char → Char → Bool}
    (h : ∀ a ∈ k, ∀ b ∈ k, p a b = false) : anyNeighbours p k = false :=
  anyNeighbours_eq_false.mpr (List.Pairwise.isChain (List.pairwise_of_forall_mem_list h))

theorem not_end_of_letter {c : Char} (h : Scan.isNameLetter c = true) :
    (c == ' ' || isLineEnd c) = false := by
  have hspace : c ≠ ' ' := Scan.ne_of_letter h (by decide)
  simp [hspace, not_isLineEnd_of_not_isGap (Scan.not_isGap_of_letter h)]

theorem not_double_of_name (hk : ∀ c ∈ k, Scan.isNameLetter c = true) :
    (!k.all isWritable || hasSpaceAtBreak k) = false := by
  have hall : k.all isWritable = true :=
    List.all_eq_true.mpr fun c hc => isWritable_of_letter (hk c hc)
  rw [hall, hasSpaceAtBreak, anyNeighbours_of_forall fun a ha b hb => ?_]
  · rfl
  · have := not_end_of_letter (hk a ha)
    have := not_end_of_letter (hk b hb)
    simp_all

theorem hasLeadingMark_of_name (hk : ∀ c ∈ k, Scan.isNameLetter c = true) :
    hasLeadingMark k = false :=
  hasLeadingMark_of_marks fun c hc m hm => Scan.ne_of_letter (hk c hc) (by
    have hnone : leadingMarks.all (!Scan.isNameLetter ·) = true := by decide
    simpa using List.all_eq_true.mp hnone m hm)

theorem hasInnerMark_of_name (hk : ∀ c ∈ k, Scan.isNameLetter c = true) :
    hasInnerMark k = false := by
  rw [hasInnerMark, anyNeighbours_of_forall fun a ha b hb => ?_, Bool.false_or,
    Bool.and_eq_false_iff]
  · right
    rw [beq_eq_false_iff_ne]
    intro hlast
    exact absurd (hk ':' (List.mem_of_mem_getLast? hlast)) (by decide)
  · have hcomment : b ≠ '#' := Scan.ne_of_letter (hk b hb) (by decide)
    have hcolon : a ≠ ':' := Scan.ne_of_letter (hk a ha) (by decide)
    simp [hcomment, hcolon]

theorem isSpaced_of_name (hk : ∀ c ∈ k, Scan.isNameLetter c = true) : isSpaced k = false := by
  have hends {o : Option Char} (ho : ∀ c ∈ o, c ∈ k) :
      (o.any fun c => c == ' ' || isLineEnd c) = false := by
    cases o with
    | none => rfl
    | some c => exact not_end_of_letter (hk c (ho c rfl))
  rw [isSpaced]
  dsimp only
  rw [hends fun c hc => List.mem_of_mem_head? hc, hends fun c hc => List.mem_of_mem_getLast? hc]
  rfl

/-- Names other than the reserved words are written plainly. -/
theorem style_name (hk : Scan.IsName k) (hword : String.ofList k ∉ reservedWords) :
    styleOf k = .plain := by
  have hletter := hk.letters
  have hbreaks : k.any isLineEnd = false := by
    rw [List.any_eq_false]
    intro c hc hbreak
    have := not_end_of_letter (hletter c hc)
    simp [hbreak] at this
  have hempty : k.isEmpty = false := by simpa using hk.nonempty
  rw [styleOf, not_double_of_name hletter, if_neg (by simp), hempty, isSpaced_of_name hletter,
    hbreaks, hasLeadingMark_of_name hletter, hasInnerMark_of_name hletter,
    resolve_name hletter hk.nonempty hword]
  rfl

end

theorem buildAll_texts (ss : List String) :
    buildAll (Block.itemTrees (ss.map fun s => .text s.toList)) =
      .ok (ss.map fun s => .text (String.ofList (reread s.toList))) := by
  induction ss with
  | nil => rfl
  | cons s ss ih =>
    rw [List.map_cons, Block.itemTrees, buildAll, ih]
    rfl

theorem Stands.texts (ss : List String) (hcolumn : column + 2 < Pen.lineWidth) :
    Stands column (.sequence (ss.map fun s => .text s.toList))
      (.list (ss.map fun s => .text (String.ofList (reread s.toList)))) := by
  refine ⟨⟨hcolumn, fun b hb => ?_⟩, ?_⟩
  · obtain ⟨s, -, rfl⟩ := List.mem_map.mp hb
    exact ⟨_, rfl⟩
  · rw [Block.tree, build, buildAll_texts]
    rfl

def Fields (column : Nat) (es : List (List Char × Block)) (fs : List (Data × Data)) : Prop :=
  List.Forall₂ (fun e f => (Scan.IsName e.1 ∧ styleOf e.1 = .plain) ∧
    f.1 = .text (String.ofList e.1) ∧ Stands column e.2 f.2) es fs

theorem putEntry_of_new {es : List (Data × Data)} {key value : Data}
    (h : ∀ e ∈ es, e.1.sameKey key = false) :
    Data.putEntry es key value = es ++ [(key, value)] := by
  induction es with
  | nil => rfl
  | cons e es ih =>
    rw [Data.putEntry, h e (by simp), if_neg (by simp), ih fun e' he' => h e' (by simp [he'])]
    rfl

theorem putAll_of_distinct {es fs : List (Data × Data)}
    (h : (es ++ fs).Pairwise fun a b => a.1.sameKey b.1 = false) : putAll es fs = es ++ fs := by
  induction fs generalizing es with
  | nil => simp [putAll]
  | cons f fs ih =>
    have hnew : ∀ e ∈ es, e.1.sameKey f.1 = false := fun e he =>
      (List.pairwise_append.mp h).2.2 e he f (by simp)
    have hrec : putAll (es ++ [f]) fs = es ++ [f] ++ fs := ih (by simpa using h)
    rw [putAll, List.foldl_cons, putEntry_of_new hnew]
    refine hrec.trans ?_
    rw [List.append_assoc, List.singleton_append]

theorem Fields.buildParts_eq {es : List (List Char × Block)} {fs : List (Data × Data)}
    (h : Fields column es fs) : buildParts (Block.entryTrees es) = .ok ⟨[], fs⟩ := by
  induction h with
  | nil => rfl
  | @cons e f es fs hentry _ ih =>
    obtain ⟨k, b⟩ := e
    obtain ⟨key, d⟩ := f
    obtain ⟨-, hkey, -, hvalue⟩ := hentry
    obtain rfl : key = .text (String.ofList k) := hkey
    rw [Block.entryTrees, buildParts, ih, hvalue]
    rfl

theorem Fields.keys_eq {es : List (List Char × Block)} {fs : List (Data × Data)}
    (h : Fields column es fs) : fs.map (·.1) = es.map fun e => .text (String.ofList e.1) := by
  induction h with
  | nil => rfl
  | cons hentry _ ih => rw [List.map_cons, List.map_cons, ih, hentry.2.1]

theorem Fields.readable {es : List (List Char × Block)} {fs : List (Data × Data)}
    (h : Fields column es fs) : Block.ReadableEntries column es := by
  induction h with
  | nil => trivial
  | @cons e f es fs hentry _ ih => exact ⟨hentry.1, hentry.2.2.1, ih⟩

theorem Fields.build_eq {es : List (List Char × Block)} {fs : List (Data × Data)}
    (h : Fields column es fs) (hkeys : (es.map (·.1)).Nodup) :
    build (Block.mapping es).tree = .ok (.map fs) := by
  have hdistinct : fs.Pairwise fun a b => a.1.sameKey b.1 = false := by
    have hnames : (es.map fun e => Data.text (String.ofList e.1)).Pairwise
        fun a b => a.sameKey b = false := by
      rw [List.pairwise_map]
      refine (List.pairwise_map.mp hkeys).imp fun {e f} hne => ?_
      change (String.ofList e.1 == String.ofList f.1) = false
      exact beq_false_of_ne fun heq => hne (String.ofList_injective heq)
    rw [← h.keys_eq, List.pairwise_map] at hnames
    exact hnames
  have hall : Parts.all ⟨[], fs⟩ = fs := by
    have hfs := @putAll_of_distinct [] _ hdistinct
    simpa [Parts.all, putAll] using hfs
  rw [Block.tree, build, h.buildParts_eq]
  exact congrArg (fun fs => Except.ok (Data.map fs)) hall

theorem Stands.mapping {es : List (List Char × Block)} {fs : List (Data × Data)}
    (h : Fields (column + 2) es fs) (hkeys : (es.map (·.1)).Nodup) :
    Stands column (.mapping es) (.map fs) :=
  ⟨h.readable, h.build_eq hkeys⟩

/-- A written document is read as the fields that its entries stand for. -/
theorem load_print {es : List (List Char × Block)} {fs : List (Data × Data)}
    (h : Fields 0 es fs) (hkeys : (es.map (·.1)).Nodup) (hne : es ≠ []) :
    load (print es).toList = .ok (.map fs) := by
  rw [load, compose_print hne h.readable]
  change (build _).mapError _ = _
  rw [h.build_eq hkeys]
  rfl

end OrderSheet.Yaml
