import Mathlib
import OrderSheet.Number.Amount

/-!
# The grammar of amounts

With two marks that cannot be taken for anything else, a text is an amount just if it is an optional
sign, a whole part with its groups, and an optional fraction. What stands for the amount is then
determined by the text, whichever way of dividing the text is tried first.
-/

namespace OrderSheet

namespace Amount

structure IsMark (c : Char) : Prop where
  not_digit : Text.isDigit c = false
  not_ignored : isIgnored c = false
  not_plus : c ≠ '+'
  not_minus : c ≠ '-'

structure Marks where
  thousands : Char
  point : Char
  ne : thousands ≠ point
  isMark_thousands : IsMark thousands
  isMark_point : IsMark point

namespace Marks

def format (m : Marks) : Format := ⟨String.singleton m.thousands, String.singleton m.point⟩

def swap (m : Marks) : Marks :=
  ⟨m.point, m.thousands, m.ne.symm, m.isMark_point, m.isMark_thousands⟩

def exchange (m : Marks) (c : Char) : Char :=
  if c = m.thousands then m.point else if c = m.point then m.thousands else c

def commaDecimal : Marks :=
  ⟨'.', ',', by decide, ⟨by decide, by decide, by decide, by decide⟩,
    ⟨by decide, by decide, by decide, by decide⟩⟩

end Marks

structure Digits (cs : List Char) : Prop where
  ne_nil : cs ≠ []
  isDigit : ∀ c ∈ cs, Text.isDigit c = true

structure IsGroup (cs : List Char) : Prop where
  length : cs.length = 3
  isDigit : ∀ c ∈ cs, Text.isDigit c = true

/-- An optional sign, and whether it makes an amount negative. -/
inductive Sign : List Char → Bool → Prop
  | none : Sign [] false
  | plus : Sign ['+'] false
  | minus : Sign ['-'] true

inductive Whole (mark : Char) : List Char → List Char → Prop
  | plain {ds : List Char} (h : Digits ds) : Whole mark ds ds
  | grouped {first : List Char} {groups : List (List Char)} (hfirst : Digits first)
      (hlength : first.length ≤ 3) (hne : groups ≠ []) (hgroups : ∀ g ∈ groups, IsGroup g) :
      Whole mark (first ++ groups.flatMap (mark :: ·)) (first ++ groups.flatten)

inductive Fraction (point : Char) : List Char → List Char → Prop
  | absent : Fraction point [] []
  | present {ds : List Char} (h : Digits ds) : Fraction point (point :: ds) ds

/-- An unsigned amount, with the digits of its whole part and those of its fraction. -/
inductive Unsigned (m : Marks) : List Char → List Char → List Char → Prop
  | intro {whole fraction digits places : List Char} (hwhole : Whole m.thousands whole digits)
      (hfraction : Fraction m.point fraction places) :
      Unsigned m (whole ++ fraction) digits places

/-- An amount without whitespace and currency signs, and its exact value. -/
inductive Written (m : Marks) : List Char → Decimal → Prop
  | intro {sign body digits places : List Char} {negative : Bool} (hsign : Sign sign negative)
      (hbody : Unsigned m body digits places) :
      Written m (sign ++ body)
        ⟨negative, Text.digitsValue (digits ++ places), -(places.length : Int)⟩

variable {m : Marks} {mark c d : Char} {cs ds body rest whole fraction digits places digits' places' :
  List Char} {found : List Division} {size fuel : Nat} {p : Division} {negative : Bool}

theorem ne_of_isDigit (hc : Text.isDigit c = true) (hd : Text.isDigit d = false) : c ≠ d := by
  rintro rfl
  rw [hc] at hd
  cases hd

theorem isDigit_flatten {groups : List (List Char)} (h : ∀ g ∈ groups, IsGroup g) :
    ∀ c ∈ groups.flatten, Text.isDigit c = true := by
  intro c hc
  obtain ⟨g, hg, hcg⟩ := List.mem_flatten.mp hc
  exact (h g hg).isDigit c hcg

theorem Whole.isDigits (h : Whole mark whole digits) : Digits digits := by
  cases h with
  | plain h => exact h
  | grouped hfirst _ _ hgroups =>
    refine ⟨List.append_ne_nil_of_left_ne_nil hfirst.ne_nil _, fun c hc => ?_⟩
    rcases List.mem_append.mp hc with hc | hc
    · exact hfirst.isDigit c hc
    · exact isDigit_flatten hgroups c hc

theorem filter_flatMap {q : Char → Bool} (hmark : q mark = false) {groups : List (List Char)}
    (h : ∀ c ∈ groups.flatten, q c = true) :
    (groups.flatMap (mark :: ·)).filter q = groups.flatten := by
  induction groups with
  | nil => rfl
  | cons g groups ih =>
    rw [List.flatten_cons, List.forall_mem_append] at h
    rw [List.flatMap_cons, List.cons_append, List.filter_cons_of_neg (by simp [hmark]),
      List.filter_append, ih h.2, List.filter_eq_self.mpr h.1, List.flatten_cons]

/-- The digits of a whole part are what is left of it without its marks. -/
theorem Whole.filter_eq (h : Whole mark whole digits) {q : Char → Bool} (hmark : q mark = false)
    (hdigit : ∀ c, Text.isDigit c = true → q c = true) : whole.filter q = digits := by
  cases h with
  | plain h => exact List.filter_eq_self.mpr fun c hc => hdigit c (h.isDigit c hc)
  | grouped hfirst _ _ hgroups =>
    rw [List.filter_append,
      List.filter_eq_self.mpr fun c hc => hdigit c (hfirst.isDigit c hc),
      filter_flatMap hmark fun c hc => hdigit c (isDigit_flatten hgroups c hc)]

theorem Whole.mem (h : Whole mark whole digits) (hc : c ∈ whole) :
    c = mark ∨ Text.isDigit c = true := by
  cases h with
  | plain h => exact .inr (h.isDigit c hc)
  | grouped hfirst _ _ hgroups =>
    rcases List.mem_append.mp hc with hc | hc
    · exact .inr (hfirst.isDigit c hc)
    · obtain ⟨g, hg, hcg⟩ := List.mem_flatMap.mp hc
      rcases List.mem_cons.mp hcg with rfl | hcg
      · exact .inl rfl
      · exact .inr ((hgroups g hg).isDigit c hcg)

theorem Whole.exists_cons (h : Whole mark whole digits) :
    ∃ c cs, whole = c :: cs ∧ Text.isDigit c = true := by
  have hcons {ds : List Char} (h : Digits ds) (cs : List Char) :
      ∃ c cs', ds ++ cs = c :: cs' ∧ Text.isDigit c = true := by
    obtain ⟨c, ds, rfl⟩ := List.exists_cons_of_ne_nil h.ne_nil
    exact ⟨c, ds ++ cs, rfl, h.isDigit c (List.mem_cons_self ..)⟩
  cases h with
  | plain h => simpa using hcons h []
  | grouped hfirst _ _ _ => exact hcons hfirst _

/-- The fraction of an unsigned amount begins at the point. -/
theorem Unsigned.digits_eq (h : Unsigned m cs digits places) :
    digits = (cs.takeWhile (· != m.point)).filter Text.isDigit ∧
      places = (cs.dropWhile (· != m.point)).filter Text.isDigit := by
  cases h with
  | @intro whole fraction digits places hwhole hfraction =>
    have hpoint : ∀ c ∈ whole, (c != m.point) = true := by
      intro c hc
      rcases hwhole.mem hc with rfl | hdigit
      · exact bne_iff_ne.mpr m.ne
      · exact bne_iff_ne.mpr (ne_of_isDigit hdigit m.isMark_point.not_digit)
    have hdigits := hwhole.filter_eq m.isMark_thousands.not_digit fun _ hc => hc
    rw [List.takeWhile_append_of_pos hpoint, List.dropWhile_append_of_pos hpoint,
      List.filter_append, hdigits]
    cases hfraction with
    | absent => simp
    | present h =>
      rw [List.takeWhile_cons_of_neg (by simp), List.dropWhile_cons_of_neg (by simp),
        List.filter_cons_of_neg (by simp [m.isMark_point.not_digit]),
        List.filter_eq_self.mpr h.isDigit]
      simp

theorem Unsigned.exists_cons (h : Unsigned m cs digits places) :
    ∃ c cs', cs = c :: cs' ∧ Text.isDigit c = true := by
  cases h with
  | intro hwhole _ =>
    obtain ⟨c, whole, rfl, hc⟩ := hwhole.exists_cons
    exact ⟨c, _, List.cons_append .., hc⟩

theorem readSign_of_isDigit (hc : Text.isDigit c = true) (cs : List Char) :
    Decimal.readSign (c :: cs) = (false, c :: cs) := by
  unfold Decimal.readSign
  split
  · next heq => exact absurd (List.cons.inj heq).1 (ne_of_isDigit hc (by decide))
  · next heq => exact absurd (List.cons.inj heq).1 (ne_of_isDigit hc (by decide))
  · rfl

/-- The sign is read off in front of an unsigned amount. -/
theorem readSign_append {sign : List Char} (h : Sign sign negative)
    (hbody : Unsigned m body digits places) :
    Decimal.readSign (sign ++ body) = (negative, body) := by
  obtain ⟨c, cs, rfl, hc⟩ := hbody.exists_cons
  cases h with
  | none => exact readSign_of_isDigit hc cs
  | plus => rfl
  | minus => rfl

theorem exists_sign (cs : List Char) :
    ∃ sign, Sign sign (Decimal.readSign cs).1 ∧ cs = sign ++ (Decimal.readSign cs).2 := by
  unfold Decimal.readSign
  split
  · exact ⟨_, .minus, rfl⟩
  · exact ⟨_, .plus, rfl⟩
  · exact ⟨_, .none, rfl⟩

/-- A text is a written amount if an unsigned amount follows its sign. -/
theorem written_iff {d : Decimal} : Written m cs d ↔ ∃ digits places,
    Unsigned m (Decimal.readSign cs).2 digits places ∧
      d = ⟨(Decimal.readSign cs).1, Text.digitsValue (digits ++ places),
        -(places.length : Int)⟩ := by
  constructor
  · rintro ⟨hsign, hbody⟩
    rw [readSign_append hsign hbody]
    exact ⟨_, _, hbody, rfl⟩
  · rintro ⟨digits, places, hbody, rfl⟩
    obtain ⟨sign, hsign, hcs⟩ := exists_sign cs
    have hwritten := Written.intro hsign hbody
    rwa [← hcs] at hwritten

theorem afterMark?_eq_some_iff {mark : List Char} :
    afterMark? mark cs = some rest ↔ cs = mark ++ rest := by
  fun_induction afterMark? mark cs with
  | case1 cs => simp
  | case2 => simp
  | case3 m mark c cs heq ih =>
    obtain rfl := eq_of_beq heq
    rw [ih, List.cons_append, List.cons_inj_right]
  | case4 m mark c cs hne =>
    have : c ≠ m := fun h => hne (by simp [h])
    simp [this]

theorem afterGroup?_eq_some_iff {mark : List Char} :
    afterGroup? mark cs = some rest ↔ ∃ g, IsGroup g ∧ cs = mark ++ (g ++ rest) := by
  constructor
  · intro h
    rw [afterGroup?] at h
    split at h
    · next a b c tail hafter =>
      obtain ⟨hdigits, htail⟩ := Option.ite_none_right_eq_some.mp h
      obtain rfl := Option.some.inj htail
      exact ⟨[a, b, c], ⟨rfl, List.all_eq_true.mp hdigits⟩, afterMark?_eq_some_iff.mp hafter⟩
    · cases h
  · rintro ⟨g, hg, rfl⟩
    obtain ⟨a, b, c, rfl⟩ := List.length_eq_three.mp hg.length
    rw [afterGroup?, afterMark?_eq_some_iff.mpr rfl]
    exact if_pos (List.all_eq_true.mpr hg.isDigit)

theorem append_group_inj {g g' rest' : List Char} {mark : List Char} (hg : IsGroup g)
    (hg' : IsGroup g') (h : mark ++ (g ++ rest) = mark ++ (g' ++ rest')) : g = g' ∧ rest = rest' :=
  List.append_inj (List.append_cancel_left h) (hg.length.trans hg'.length.symm)

abbrev marked (mark : Char) (groups : List (List Char)) : List Char := groups.flatMap (mark :: ·)

theorem marked_cons_append (mark : Char) (g : List Char) (groups : List (List Char))
    (rest : List Char) :
    marked mark (g :: groups) ++ rest = [mark] ++ (g ++ (marked mark groups ++ rest)) := by
  simp [marked]

theorem length_marked_cons {g : List Char} (hg : IsGroup g) (mark : Char)
    (groups : List (List Char)) :
    (marked mark (g :: groups)).length = [mark].length + 3 + (marked mark groups).length := by
  simp only [marked, List.flatMap_cons, List.length_append, List.length_cons, List.length_nil,
    hg.length]

theorem length_groups_le (mark : Char) (groups : List (List Char)) :
    groups.length ≤ (marked mark groups).length := by
  induction groups with
  | nil => exact Nat.le_refl 0
  | cons g groups ih =>
    simp only [marked, List.flatMap_cons, List.length_append, List.length_cons] at ih ⊢
    omega

/-- The divisions with more groups are those found before and one for each number of groups. -/
theorem mem_groupDivisions_iff : p ∈ groupDivisions [mark] fuel size found cs ↔
    p ∈ found ∨ ∃ groups, groups ≠ [] ∧ groups.length ≤ fuel ∧ (∀ g ∈ groups, IsGroup g) ∧
      cs = marked mark groups ++ p.2 ∧ p.1 = size + (marked mark groups).length := by
  induction fuel generalizing size found cs with
  | zero =>
    rw [groupDivisions]
    refine ⟨.inl, ?_⟩
    rintro (h | ⟨groups, hne, hlength, -⟩)
    · exact h
    · exact absurd (List.eq_nil_of_length_eq_zero (Nat.le_zero.mp hlength)) hne
  | succ fuel ih =>
    rw [groupDivisions]
    cases hafter : afterGroup? [mark] cs with
    | none =>
      refine ⟨.inl, ?_⟩
      rintro (h | ⟨groups, hne, -, hgroups, rfl, -⟩)
      · exact h
      · obtain ⟨g, groups, rfl⟩ := List.exists_cons_of_ne_nil hne
        have hsome := afterGroup?_eq_some_iff.mpr
          ⟨g, hgroups g (List.mem_cons_self ..), marked_cons_append mark g groups p.2⟩
        rw [hafter] at hsome
        cases hsome
    | some rest =>
      obtain ⟨g, hg, rfl⟩ := afterGroup?_eq_some_iff.mp hafter
      rw [ih, List.mem_cons]
      constructor
      · rintro ((rfl | h) | ⟨groups, -, hlength, hgroups, rfl, hp⟩)
        · exact .inr ⟨[g], by simp, by simp, by simpa using hg, by simp [marked],
            (length_marked_cons hg mark []).symm ▸ Nat.add_assoc ..⟩
        · exact .inl h
        · refine .inr ⟨g :: groups, by simp, by simpa using hlength,
            List.forall_mem_cons.mpr ⟨hg, hgroups⟩, (marked_cons_append ..).symm, ?_⟩
          rw [hp, length_marked_cons hg]
          omega
      · rintro (h | ⟨groups, hne, hlength, hgroups, hcs, hp⟩)
        · exact .inl (.inr h)
        · obtain ⟨g', groups, rfl⟩ := List.exists_cons_of_ne_nil hne
          obtain ⟨hg', htail⟩ := List.forall_mem_cons.mp hgroups
          rw [marked_cons_append] at hcs
          obtain ⟨rfl, rfl⟩ := append_group_inj hg hg' hcs
          rw [length_marked_cons hg, ← Nat.add_assoc, ← Nat.add_assoc] at hp
          cases groups with
          | nil => exact .inl (.inl (Prod.ext hp rfl))
          | cons g₂ groups =>
            exact .inr ⟨g₂ :: groups, by simp, by simpa using hlength, htail, rfl, hp⟩

/-- The divisions with `size` digits in front of the first mark. -/
theorem mem_groupedFrom_iff : p ∈ groupedFrom [mark] cs size ↔
    ∃ first groups, first.length = size ∧ (∀ c ∈ first, Text.isDigit c = true) ∧ groups ≠ [] ∧
      (∀ g ∈ groups, IsGroup g) ∧ cs = first ++ marked mark groups ++ p.2 ∧
      p.1 = (first ++ marked mark groups).length := by
  rw [groupedFrom]
  constructor
  · intro h
    split at h
    · next hfirst =>
      simp only [Bool.and_eq_true, beq_iff_eq, List.all_eq_true] at hfirst
      rw [mem_groupDivisions_iff] at h
      rcases h with h | ⟨groups, hne, -, hgroups, hcs, hp⟩
      · cases h
      · refine ⟨cs.take size, groups, hfirst.1, hfirst.2, hne, hgroups, ?_, ?_⟩
        · rw [List.append_assoc, ← hcs, List.take_append_drop]
        · rw [hp, List.length_append, hfirst.1]
    · cases h
  · rintro ⟨first, groups, rfl, hfirst, hne, hgroups, rfl, hp⟩
    have hlength := length_groups_le mark groups
    rw [List.append_assoc, List.take_left, List.drop_left, if_pos (by simpa using hfirst),
      mem_groupDivisions_iff]
    refine .inr ⟨groups, hne, ?_, hgroups, rfl, by rw [hp, List.length_append]⟩
    simp only [List.length_append]
    omega

theorem mem_plainDivisions_iff : p ∈ plainDivisions size found cs ↔
    p ∈ found ∨ ∃ ds, Digits ds ∧ cs = ds ++ p.2 ∧ p.1 = size + ds.length := by
  induction cs generalizing size found with
  | nil =>
    rw [plainDivisions]
    refine ⟨.inl, ?_⟩
    rintro (h | ⟨ds, hds, hcs, -⟩)
    · exact h
    · exact absurd (List.append_eq_nil_iff.mp hcs.symm).1 hds.ne_nil
  | cons c cs ih =>
    rw [plainDivisions]
    split
    · next hc =>
      rw [ih, List.mem_cons]
      constructor
      · rintro ((rfl | h) | ⟨ds, hds, rfl, hp⟩)
        · exact .inr ⟨[c], ⟨by simp, by simpa using hc⟩, rfl, rfl⟩
        · exact .inl h
        · refine .inr ⟨c :: ds, ⟨by simp, List.forall_mem_cons.mpr ⟨hc, hds.isDigit⟩⟩, rfl, ?_⟩
          rw [hp, List.length_cons]
          omega
      · rintro (h | ⟨ds, hds, hcs, hp⟩)
        · exact .inl (.inr h)
        · obtain ⟨d, ds, rfl⟩ := List.exists_cons_of_ne_nil hds.ne_nil
          obtain ⟨rfl, rfl⟩ := List.cons.inj hcs
          rw [List.length_cons] at hp
          by_cases hnil : ds = []
          · subst hnil
            exact .inl (.inl (Prod.ext hp rfl))
          · refine .inr ⟨ds, ⟨hnil, (List.forall_mem_cons.mp hds.isDigit).2⟩, rfl, ?_⟩
            omega
    · next hc =>
      refine ⟨.inl, ?_⟩
      rintro (h | ⟨ds, hds, hcs, -⟩)
      · exact h
      · obtain ⟨d, ds, rfl⟩ := List.exists_cons_of_ne_nil hds.ne_nil
        obtain ⟨rfl, -⟩ := List.cons.inj hcs
        exact absurd (hds.isDigit c (List.mem_cons_self ..)) hc

/-- The divisions of a text are the whole parts that it can begin with. -/
theorem mem_divisions_iff : p ∈ divisions m.format cs ↔
    ∃ whole digits, Whole m.thousands whole digits ∧ cs = whole ++ p.2 ∧ p.1 = whole.length := by
  have hgrouped : (∃ size ∈ [3, 2, 1], p ∈ groupedFrom [m.thousands] cs size) ↔
      ∃ first groups, Digits first ∧ first.length ≤ 3 ∧ groups ≠ [] ∧ (∀ g ∈ groups, IsGroup g) ∧
        cs = first ++ marked m.thousands groups ++ p.2 ∧
        p.1 = (first ++ marked m.thousands groups).length := by
    constructor
    · rintro ⟨size, hsize, h⟩
      obtain ⟨first, groups, rfl, hfirst, hrest⟩ := mem_groupedFrom_iff.mp h
      simp only [List.mem_cons, List.not_mem_nil, or_false] at hsize
      refine ⟨first, groups, ⟨?_, hfirst⟩, by omega, hrest⟩
      rintro rfl
      simp at hsize
    · rintro ⟨first, groups, hfirst, hlength, hrest⟩
      have hpos := List.length_pos_iff.mpr hfirst.ne_nil
      refine ⟨first.length, ?_, mem_groupedFrom_iff.mpr
        ⟨first, groups, rfl, hfirst.isDigit, hrest⟩⟩
      simp only [List.mem_cons, List.not_mem_nil, or_false]
      omega
  have hmark : m.format.thousands.toList = [m.thousands] := String.toList_singleton _
  simp only [divisions, hmark, List.mem_append, mem_plainDivisions_iff, List.not_mem_nil,
    false_or, Nat.zero_add]
  simp only [List.mem_cons, List.not_mem_nil, or_false, exists_eq_or_imp, exists_eq_left]
    at hgrouped
  rw [← or_assoc] at hgrouped
  rw [hgrouped]
  constructor
  · rintro (⟨first, groups, hfirst, hlength, hne, hgroups, hcs, hp⟩ | ⟨ds, hds, hcs, hp⟩)
    · exact ⟨_, _, .grouped hfirst hlength hne hgroups, hcs, hp⟩
    · exact ⟨_, _, .plain hds, hcs, hp⟩
  · rintro ⟨whole, digits, hwhole, hcs, hp⟩
    cases hwhole with
    | plain hds => exact .inr ⟨_, hds, hcs, hp⟩
    | grouped hfirst hlength hne hgroups =>
      exact .inl ⟨_, _, hfirst, hlength, hne, hgroups, hcs, hp⟩

theorem fraction?_eq_some_iff : fraction? [c] cs = some places ↔ Fraction c cs places := by
  constructor
  · intro h
    have hempty (h : (if cs.isEmpty then some [] else none) = some places) :
        Fraction c cs places := by
      obtain ⟨hcs, hplaces⟩ := Option.ite_none_right_eq_some.mp h
      rw [List.isEmpty_iff.mp hcs, ← Option.some.inj hplaces]
      exact .absent
    rw [fraction?] at h
    split at h
    · next ds hafter =>
      split at h
      · next hds =>
        simp only [Bool.and_eq_true, Bool.not_eq_true', List.isEmpty_eq_false_iff,
          List.all_eq_true] at hds
        rw [afterMark?_eq_some_iff.mp hafter, ← Option.some.inj h]
        exact .present ⟨hds.1, hds.2⟩
      · exact hempty h
    · exact hempty h
  · rintro (_ | h)
    · rfl
    · rw [fraction?, afterMark?_eq_some_iff.mpr (List.singleton_append ..).symm]
      exact if_pos (by simpa [h.ne_nil] using h.isDigit)

theorem dropMark_eq_filter (mark : Char) (cs : List Char) :
    dropMark [mark] 0 cs = cs.filter (· != mark) := by
  induction cs with
  | nil => rfl
  | cons c cs ih =>
    rw [dropMark]
    by_cases hc : c = mark
    · subst hc
      simpa using ih
    · simp [hc, Ne.symm hc, ih]

theorem value?_eq (hwhole : Whole m.thousands whole digits) (hcs : cs = whole ++ p.2)
    (hp : p.1 = whole.length) : p.value? m.format negative cs =
      (fraction? [m.point] p.2).map fun places =>
        some ⟨negative, Text.digitsValue (digits ++ places), -(places.length : Int)⟩ := by
  have hthousands : m.format.thousands.toList = [m.thousands] := String.toList_singleton _
  have hpoint : m.format.point.toList = [m.point] := String.toList_singleton _
  have hdigits : dropMark [m.thousands] 0 (cs.take p.1) = digits := by
    rw [dropMark_eq_filter, hcs, hp, List.take_left]
    exact hwhole.filter_eq (by simp) fun c hc =>
      bne_iff_ne.mpr (ne_of_isDigit hc m.isMark_thousands.not_digit)
  rw [Division.value?, hthousands, hpoint, hdigits]
  simp [hwhole.isDigits.ne_nil]

/-- What is found for a text is the value of an unsigned amount. -/
theorem unsigned_of_findSome? {o : Option Decimal}
    (h : (divisions m.format cs).findSome? (Division.value? m.format negative cs) = some o) :
    ∃ digits places, Unsigned m cs digits places ∧
      o = some ⟨negative, Text.digitsValue (digits ++ places), -(places.length : Int)⟩ := by
  obtain ⟨p, hp, hvalue⟩ := List.exists_of_findSome?_eq_some h
  obtain ⟨whole, digits, hwhole, hcs, hlength⟩ := mem_divisions_iff.mp hp
  rw [value?_eq hwhole hcs hlength] at hvalue
  obtain ⟨places, hplaces, rfl⟩ := Option.map_eq_some_iff.mp hvalue
  rw [hcs]
  exact ⟨digits, places, .intro hwhole (fraction?_eq_some_iff.mp hplaces), rfl⟩

/-- Whichever division is tried first, the value found for an unsigned amount is its own. -/
theorem Unsigned.findSome?_eq (h : Unsigned m cs digits places) (negative : Bool) :
    (divisions m.format cs).findSome? (Division.value? m.format negative cs) =
      some (some ⟨negative, Text.digitsValue (digits ++ places), -(places.length : Int)⟩) := by
  have hsome : ((divisions m.format cs).findSome?
      (Division.value? m.format negative cs)).isSome := by
    rw [List.isSome_findSome?, List.any_eq_true]
    cases h with
    | @intro whole fraction _ _ hwhole hfraction =>
      let p : Division := (whole.length, fraction)
      refine ⟨p, mem_divisions_iff.mpr ⟨_, _, hwhole, rfl, rfl⟩, ?_⟩
      rw [value?_eq (p := p) hwhole rfl rfl, fraction?_eq_some_iff.mpr hfraction]
      rfl
  obtain ⟨o, ho⟩ := Option.isSome_iff_exists.mp hsome
  obtain ⟨digits', places', h', rfl⟩ := unsigned_of_findSome? ho
  obtain ⟨hdigits, hplaces⟩ := h.digits_eq
  obtain ⟨hdigits', hplaces'⟩ := h'.digits_eq
  rw [ho, hdigits, hdigits', hplaces, hplaces']

theorem read?_eq_some_iff {d : Decimal} : read? m.format cs = some d ↔
    Written m (cs.filter (!isIgnored ·)) d := by
  rw [read?, Option.join_eq_some_iff, written_iff]
  constructor
  · intro h
    obtain ⟨digits, places, hunsigned, hd⟩ := unsigned_of_findSome? h
    exact ⟨digits, places, hunsigned, Option.some.inj hd⟩
  · rintro ⟨digits, places, hunsigned, rfl⟩
    exact hunsigned.findSome?_eq _

theorem exchange_thousands (m : Marks) : m.exchange m.thousands = m.point := if_pos rfl

theorem exchange_point (m : Marks) : m.exchange m.point = m.thousands := by
  rw [Marks.exchange, if_neg m.ne.symm, if_pos rfl]

theorem exchange_of_ne (hthousands : c ≠ m.thousands) (hpoint : c ≠ m.point) :
    m.exchange c = c := by
  rw [Marks.exchange, if_neg hthousands, if_neg hpoint]

theorem exchange_exchange (m : Marks) (c : Char) : m.exchange (m.exchange c) = c := by
  by_cases hthousands : c = m.thousands
  · rw [hthousands, exchange_thousands, exchange_point]
  · by_cases hpoint : c = m.point
    · rw [hpoint, exchange_point, exchange_thousands]
    · rw [exchange_of_ne hthousands hpoint, exchange_of_ne hthousands hpoint]

theorem exchange_swap (m : Marks) : m.swap.exchange = m.exchange := by
  funext c
  by_cases hthousands : c = m.thousands
  · rw [hthousands, exchange_thousands]
    exact exchange_point m.swap
  · by_cases hpoint : c = m.point
    · rw [hpoint, exchange_point]
      exact exchange_thousands m.swap
    · rw [exchange_of_ne hthousands hpoint]
      exact exchange_of_ne hpoint hthousands

theorem map_exchange_of_isDigit (h : ∀ c ∈ cs, Text.isDigit c = true) :
    cs.map m.exchange = cs := by
  have hfixed : ∀ c ∈ cs, m.exchange c = c := fun c hc =>
    exchange_of_ne (ne_of_isDigit (h c hc) m.isMark_thousands.not_digit)
      (ne_of_isDigit (h c hc) m.isMark_point.not_digit)
  exact (List.map_congr_left hfixed).trans (List.map_id cs)

theorem isIgnored_exchange (m : Marks) (c : Char) :
    isIgnored (m.exchange c) = isIgnored c := by
  by_cases hthousands : c = m.thousands
  · rw [hthousands, exchange_thousands, m.isMark_point.not_ignored,
      m.isMark_thousands.not_ignored]
  · by_cases hpoint : c = m.point
    · rw [hpoint, exchange_point, m.isMark_point.not_ignored, m.isMark_thousands.not_ignored]
    · rw [exchange_of_ne hthousands hpoint]

theorem Whole.exchange (h : Whole m.thousands whole digits) :
    Whole m.swap.thousands (whole.map m.exchange) digits := by
  cases h with
  | plain h =>
    rw [map_exchange_of_isDigit h.isDigit]
    exact .plain h
  | @grouped first groups hfirst hlength hne hgroups =>
    have hmarked : (marked m.thousands groups).map m.exchange = marked m.point groups := by
      rw [marked, List.map_flatMap]
      refine List.flatMap_congr fun g hg => ?_
      rw [List.map_cons, exchange_thousands, map_exchange_of_isDigit (hgroups g hg).isDigit]
    rw [List.map_append, map_exchange_of_isDigit hfirst.isDigit, hmarked]
    exact .grouped hfirst hlength hne hgroups

theorem Fraction.exchange (h : Fraction m.point fraction places) :
    Fraction m.swap.point (fraction.map m.exchange) places := by
  cases h with
  | absent => exact .absent
  | present h =>
    rw [List.map_cons, exchange_point, map_exchange_of_isDigit h.isDigit]
    exact .present h

theorem Sign.map_exchange {sign : List Char} (h : Sign sign negative) (m : Marks) :
    sign.map m.exchange = sign := by
  have hplus : m.exchange '+' = '+' :=
    exchange_of_ne m.isMark_thousands.not_plus.symm m.isMark_point.not_plus.symm
  have hminus : m.exchange '-' = '-' :=
    exchange_of_ne m.isMark_thousands.not_minus.symm m.isMark_point.not_minus.symm
  cases h with
  | none => rfl
  | plus => rw [List.map_singleton, hplus]
  | minus => rw [List.map_singleton, hminus]

/-- An amount with its marks exchanged has the same value for the exchanged marks. -/
theorem Written.exchange {d : Decimal} (h : Written m cs d) :
    Written m.swap (cs.map m.exchange) d := by
  cases h with
  | intro hsign hbody =>
    cases hbody with
    | intro hwhole hfraction =>
      rw [List.map_append, hsign.map_exchange, List.map_append]
      exact .intro hsign (.intro hwhole.exchange hfraction.exchange)

theorem written_exchange_iff {d : Decimal} :
    Written m.swap (cs.map m.exchange) d ↔ Written m cs d := by
  refine ⟨fun h => ?_, Written.exchange⟩
  have hback := h.exchange
  rw [exchange_swap, List.map_map] at hback
  have hid : m.exchange ∘ m.exchange = id := funext (exchange_exchange m)
  rw [hid, List.map_id] at hback
  exact hback

theorem filter_exchange (m : Marks) (cs : List Char) :
    (cs.map m.exchange).filter (!isIgnored ·) = (cs.filter (!isIgnored ·)).map m.exchange := by
  rw [List.filter_map]
  congr 1
  refine List.filter_congr fun c _ => ?_
  rw [Function.comp_apply, isIgnored_exchange]

/-- A text is read as an amount just if it is written as one, apart from whitespace and currency
signs, and then its value is exact. No division of a text is left without digits, and it does not
matter which of the two marks has which meaning. -/
theorem read?_iff_written (m : Marks) (cs : List Char) :
    (∀ d, read? m.format cs = some d ↔ Written m (cs.filter (!isIgnored ·)) d) ∧
      (∀ negative body, ∀ p ∈ divisions m.format body,
        p.value? m.format negative body ≠ some none) ∧
      read? m.swap.format (cs.map m.exchange) = read? m.format cs := by
  refine ⟨fun d => read?_eq_some_iff, fun negative body p hp hnone => ?_,
    Option.ext fun d => ?_⟩
  · obtain ⟨whole, digits, hwhole, hcs, hlength⟩ := mem_divisions_iff.mp hp
    rw [value?_eq hwhole hcs hlength] at hnone
    obtain ⟨places, -, hplaces⟩ := Option.map_eq_some_iff.mp hnone
    cases hplaces
  · rw [read?_eq_some_iff, read?_eq_some_iff, filter_exchange, written_exchange_iff]

example : Marks.commaDecimal.format = .commaDecimal ∧
    Marks.commaDecimal.swap.format = .pointDecimal ∧
    read? .commaDecimal "$ -1.234,50".toList = some ⟨true, 123450, -2⟩ := by decide

end Amount

end OrderSheet
