import OrderSheet.Proofs.Layout.Reading
import OrderSheet.Proofs.Template.Mapping

/-!
# The mapping of a layout

A layout that compiles has at most as many columns of a kind as the kind has fields. The mapping
assigns to each field the capture group of the column that fills it.
-/

namespace OrderSheet

/-- The columns that fill a field, and how many of their kind come before the one that does. -/
def ProductField.source : ProductField → ColumnKind × Nat
  | description => (.text, 0)
  | quantity => (.number, 0)
  | unitPrice => (.price, 0)
  | sku => (.code, 0)
  | lineTotal => (.price, 1)

namespace ColumnKind

theorem getElem?_fields_eq_some {k : ColumnKind} {j : Nat} {f : ProductField} :
    k.fields[j]? = some f ↔ f.source = (k, j) := by
  rcases j with _ | _ | j <;> cases k <;> cases f <;> simp [fields, ProductField.source]

theorem captures_source (f : ProductField) : f.source.1.captures = true := by
  cases f <;> rfl

end ColumnKind

namespace Layout

def count (k : ColumnKind) (columns : List Column) : Nat :=
  columns.countP fun c => c.kind = k

/-- The capture group of the column of a kind that has `j` others of that kind before it. -/
def groupOf (k : ColumnKind) : Nat → List Column → Option Nat
  | _, [] => none
  | j, c :: cs =>
    if c.kind = k then
      match j with
      | 0 => some 1
      | j + 1 => (groupOf k j cs).map (· + 1)
    else (groupOf k j cs).map (· + if c.kind.captures then 1 else 0)

def captured (columns : List Column) (fs : List (List Char)) : List (List Char) :=
  ((columns.zip fs).filter fun p => p.1.kind.captures).map Prod.snd

def textsOf (k : ColumnKind) (columns : List Column) (fs : List (List Char)) :
    List (List Char) :=
  ((columns.zip fs).filter fun p => p.1.kind = k).map Prod.snd

variable {columns cs : List Column} {c : Column} {k : ColumnKind} {used : List ColumnKind}
  {m m' : FieldMapping} {position group : Nat}

theorem count_cons (k : ColumnKind) (c : Column) (cs : List Column) :
    count k (c :: cs) = count k cs + if c.kind = k then 1 else 0 := by
  simp [count, List.countP_cons]

theorem captured_cons (c : Column) (cs : List Column) (f : List Char) (fs : List (List Char)) :
    captured (c :: cs) (f :: fs) =
      if c.kind.captures then f :: captured cs fs else captured cs fs := by
  by_cases h : c.kind.captures <;> simp [captured, h]

theorem textsOf_cons (k : ColumnKind) (c : Column) (cs : List Column) (f : List Char)
    (fs : List (List Char)) :
    textsOf k (c :: cs) (f :: fs) =
      if c.kind = k then f :: textsOf k cs fs else textsOf k cs fs := by
  by_cases h : c.kind = k <;> simp [textsOf, h]

/-- The columns of a layout that captures are of four kinds. -/
theorem groups_eq_count (columns : List Column) :
    groups columns =
      count .text columns + count .number columns + count .price columns + count .code columns := by
  induction columns with
  | nil => rfl
  | cons c cs ih =>
    simp only [groups_cons, count_cons, ih]
    cases c.kind <;> simp [ColumnKind.captures, ColumnKind.fields] <;> omega

theorem mappingFrom_captures (hc : c.kind.captures = true)
    (h : mappingFrom position group used m (c :: cs) = .ok m') :
    ∃ f, f.source = (c.kind, used.count c.kind) ∧
      mappingFrom (position + 1) (group + 1) (c.kind :: used) (m.set f (some group)) cs =
        .ok m' := by
  rw [mappingFrom, if_pos hc] at h
  cases hf : c.kind.fields[used.count c.kind]? with
  | none => simp [hf] at h
  | some f => exact ⟨f, ColumnKind.getElem?_fields_eq_some.mp hf, by simpa [hf] using h⟩

theorem mappingFrom_ignored (hc : c.kind.captures = false) :
    mappingFrom position group used m (c :: cs) =
      mappingFrom (position + 1) group used m cs := by
  rw [mappingFrom, if_neg (by simp [hc])]

theorem count_le_of_mappingFrom (h : mappingFrom position group used m columns = .ok m')
    (hk : k.captures = true) (hused : used.count k ≤ k.fields.length) :
    used.count k + count k columns ≤ k.fields.length := by
  induction columns generalizing position group used m with
  | nil => simpa [count] using hused
  | cons c cs ih =>
    rw [count_cons]
    cases hc : c.kind.captures with
    | true =>
      obtain ⟨f, hf, h⟩ := mappingFrom_captures hc h
      have hlt := (List.getElem?_eq_some_iff.mp (ColumnKind.getElem?_fields_eq_some.mpr hf)).1
      by_cases hck : c.kind = k
      · subst hck
        have := ih h (by rw [List.count_cons_self]; omega)
        rw [List.count_cons_self] at this
        simpa [Nat.add_assoc, Nat.add_comm] using this
      · have := ih h (by rwa [List.count_cons_of_ne hck])
        rw [List.count_cons_of_ne hck] at this
        simpa [hck] using this
    | false =>
      rw [mappingFrom_ignored hc] at h
      have hck : c.kind ≠ k := by
        rintro rfl
        simp [hk] at hc
      simpa [hck] using ih h hused

theorem compile_eq_ok_iff {p : LinePattern} :
    compile columns = .ok p ↔ ∃ m, mapping columns = .ok m ∧ p = ⟨pattern columns, m⟩ := by
  unfold compile
  cases mapping columns <;> simp [Except.map, eq_comm]

/-- The fields of a kind bound the number of its columns. -/
theorem count_le_of_compile {p : LinePattern} (h : compile columns = .ok p)
    (hk : k.captures = true) : count k columns ≤ k.fields.length := by
  obtain ⟨m, hm, -⟩ := compile_eq_ok_iff.mp h
  simpa using count_le_of_mappingFrom hm hk (Nat.zero_le _)

theorem groups_le_of_compile {p : LinePattern} (h : compile columns = .ok p) :
    groups columns ≤ ProductField.all.length := by
  have htext := count_le_of_compile (k := .text) h rfl
  have hnumber := count_le_of_compile (k := .number) h rfl
  have hprice := count_le_of_compile (k := .price) h rfl
  have hcode := count_le_of_compile (k := .code) h rfl
  simp only [ColumnKind.fields, List.length_cons, List.length_nil] at htext hnumber hprice hcode
  simp only [groups_eq_count, ProductField.all, List.length_cons, List.length_nil]
  omega

variable {f : ProductField} {n : Nat}

theorem source_injective {f g : ProductField} (h : f.source = g.source) : f = g := by
  cases f <;> cases g <;> first | rfl | cases h

@[simp] theorem groupOf_nil (k : ColumnKind) (j : Nat) : groupOf k j [] = none := by
  cases j <;> rfl

theorem groupOf_zero (hc : c.kind = k) : groupOf k 0 (c :: cs) = some 1 := by
  simp [groupOf, hc]

theorem groupOf_succ (hc : c.kind = k) (j : Nat) :
    groupOf k (j + 1) (c :: cs) = (groupOf k j cs).map (· + 1) := by
  simp [groupOf, hc]

theorem groupOf_of_ne (hc : c.kind ≠ k) (j : Nat) :
    groupOf k j (c :: cs) =
      (groupOf k j cs).map (· + if c.kind.captures then 1 else 0) := by
  rw [groupOf.eq_def]
  simp [hc]

/-- A field whose column has been met keeps its group. -/
theorem get_mappingFrom_of_lt (h : mappingFrom position group used m columns = .ok m')
    (hf : f.source.2 < used.count f.source.1) : m'.get f = m.get f := by
  induction columns generalizing position group used m with
  | nil =>
    obtain rfl : m = m' := Except.ok.inj h
    rfl
  | cons c cs ih =>
    cases hc : c.kind.captures with
    | true =>
      obtain ⟨g, hg, h⟩ := mappingFrom_captures hc h
      have hne : f ≠ g := by
        rintro rfl
        simp [hg] at hf
      rw [ih h (Nat.lt_of_lt_of_le hf (List.count_le_count_cons ..)),
        FieldMapping.get_set_of_ne _ _ hne]
    | false =>
      rw [mappingFrom_ignored hc] at h
      exact ih h hf

/-- A field whose column has not been met gets the group of that column. -/
theorem get_mappingFrom_of_le (h : mappingFrom position (n + 1) used m columns = .ok m')
    (hf : used.count f.source.1 ≤ f.source.2) (hm : m.get f = none) :
    m'.get f =
      (groupOf f.source.1 (f.source.2 - used.count f.source.1) columns).map (n + ·) := by
  induction columns generalizing position n used m with
  | nil =>
    obtain rfl : m = m' := Except.ok.inj h
    rw [groupOf_nil, hm, Option.map_none]
  | cons c cs ih =>
    cases hc : c.kind.captures with
    | true =>
      obtain ⟨g, hg, h⟩ := mappingFrom_captures hc h
      by_cases hck : c.kind = f.source.1
      · by_cases hj : used.count f.source.1 = f.source.2
        · obtain rfl : g = f := source_injective (by rw [hg, hck, hj])
          rw [get_mappingFrom_of_lt h (by rw [hck, List.count_cons_self]; omega),
            FieldMapping.get_set_self, hj, Nat.sub_self, groupOf_zero hck, Option.map_some]
        · have hne : f ≠ g := by
            rintro rfl
            exact hj (by rw [← hck]; exact (congrArg Prod.snd hg).symm)
          rw [ih h (by rw [hck, List.count_cons_self]; omega)
            (by rw [FieldMapping.get_set_of_ne _ _ hne, hm]), hck, List.count_cons_self,
            show f.source.2 - used.count f.source.1 =
              f.source.2 - (used.count f.source.1 + 1) + 1 by omega, groupOf_succ hck,
            Option.map_map]
          exact Option.map_congr fun i _ => by simp only [Function.comp_apply]; omega
      · have hne : f ≠ g := by
          rintro rfl
          exact hck (congrArg Prod.fst hg).symm
        rw [ih h (by rwa [List.count_cons_of_ne hck])
          (by rw [FieldMapping.get_set_of_ne _ _ hne, hm]), List.count_cons_of_ne hck,
          groupOf_of_ne hck, if_pos hc, Option.map_map]
        exact Option.map_congr fun i _ => by simp only [Function.comp_apply]; omega
    | false =>
      have hck : c.kind ≠ f.source.1 := by
        intro hck
        rw [hck, ColumnKind.captures_source] at hc
        cases hc
      rw [mappingFrom_ignored hc] at h
      rw [ih h hf hm, groupOf_of_ne hck, hc]
      simp

/-- The mapping of a layout assigns to a field the group of its column. -/
theorem get_mapping (h : mapping columns = .ok m) (f : ProductField) :
    m.get f = groupOf f.source.1 f.source.2 columns := by
  have := get_mappingFrom_of_le (n := 0) h (Nat.zero_le _) (FieldMapping.get_empty f)
  simpa using this

theorem groupOf_pos {j i : Nat} (h : groupOf k j columns = some i) : 0 < i := by
  induction columns generalizing i j with
  | nil => simp at h
  | cons c cs ih =>
    by_cases hc : c.kind = k
    · cases j with
      | zero =>
        rw [groupOf_zero hc] at h
        obtain rfl := Option.some.inj h
        exact Nat.one_pos
      | succ j =>
        rw [groupOf_succ hc] at h
        obtain ⟨n, -, rfl⟩ := Option.map_eq_some_iff.mp h
        exact Nat.succ_pos n
    · rw [groupOf_of_ne hc] at h
      obtain ⟨n, hn, rfl⟩ := Option.map_eq_some_iff.mp h
      exact Nat.lt_of_lt_of_le (ih hn) (Nat.le_add_right ..)

/-- The groups of a compiled layout are counted from 1. -/
theorem positive_of_compile {p : LinePattern} (h : compile columns = .ok p) :
    ∀ e ∈ p.mapping.assigned, 0 < e.2 := by
  obtain ⟨m, hm, rfl⟩ := compile_eq_ok_iff.mp h
  rintro ⟨f, i⟩ he
  rw [FieldMapping.mem_assigned, get_mapping hm] at he
  exact groupOf_pos he

theorem isSome_groupOf (k : ColumnKind) (j : Nat) (columns : List Column) :
    (groupOf k j columns).isSome = true ↔ j < count k columns := by
  induction columns generalizing j with
  | nil => simp [count]
  | cons c cs ih =>
    rw [count_cons]
    by_cases hc : c.kind = k
    · cases j with
      | zero => simp [groupOf_zero hc, hc]
      | succ j => simp [groupOf_succ hc, hc, ih]
    · simp [groupOf_of_ne hc, hc, ih]

theorem groupOf_le {j i : Nat} (hk : k.captures = true) (h : groupOf k j columns = some i) :
    i ≤ groups columns := by
  induction columns generalizing i j with
  | nil => simp at h
  | cons c cs ih =>
    rw [groups_cons]
    by_cases hc : c.kind = k
    · cases j with
      | zero =>
        rw [groupOf_zero hc] at h
        obtain rfl := Option.some.inj h
        rw [hc, if_pos hk]
        exact Nat.le_add_left 1 _
      | succ j =>
        rw [groupOf_succ hc] at h
        obtain ⟨n, hn, rfl⟩ := Option.map_eq_some_iff.mp h
        rw [hc, if_pos hk]
        exact Nat.succ_le_succ (ih hn)
    · rw [groupOf_of_ne hc] at h
      obtain ⟨n, hn, rfl⟩ := Option.map_eq_some_iff.mp h
      exact Nat.add_le_add_right (ih hn) _

/-- Behind a column that captures, the groups are counted on. -/
theorem bind_groupOf_succ (j : Nat) (columns : List Column) (f : List Char)
    (fs : List (List Char)) :
    ((groupOf k j columns).map (· + 1)).bind (fun i => (f :: fs)[i - 1]?) =
      (groupOf k j columns).bind fun i => fs[i - 1]? := by
  cases h : groupOf k j columns with
  | none => rfl
  | some i =>
    obtain ⟨n, rfl⟩ := Nat.exists_eq_add_of_lt (groupOf_pos h)
    simp

/-- The text of the group of a column is the text of that column. -/
theorem captured_groupOf (hk : k.captures = true) (j : Nat) (columns : List Column)
    (fs : List (List Char)) :
    (groupOf k j columns).bind (fun i => (captured columns fs)[i - 1]?) =
      (textsOf k columns fs)[j]? := by
  induction columns generalizing fs j with
  | nil => simp [textsOf]
  | cons c cs ih =>
    cases fs with
    | nil => simp [captured, textsOf]
    | cons f fs =>
      rw [captured_cons, textsOf_cons]
      by_cases hck : c.kind = k
      · rw [if_pos hck, if_pos (hck ▸ hk)]
        cases j with
        | zero => rw [groupOf_zero hck]; rfl
        | succ j =>
          rw [groupOf_succ hck, List.getElem?_cons_succ, ← ih]
          exact bind_groupOf_succ ..
      · rw [if_neg hck, groupOf_of_ne hck, ← ih]
        by_cases hc : c.kind.captures
        · simp only [hc, if_true]
          exact bind_groupOf_succ ..
        · simp [hc]

/-- The mapping of a layout never points past the groups of its pattern. -/
theorem highest_le_groups (h : mapping columns = .ok m) : m.highest ≤ groups columns := by
  refine FieldMapping.highest_le_iff.mpr fun ⟨f, i⟩ hmem => ?_
  rw [FieldMapping.mem_assigned, get_mapping h] at hmem
  exact groupOf_le (ColumnKind.captures_source f) hmem

/-- The mapping of a layout fits a pattern with the layout's groups if the layout has the columns
of the required fields. -/
theorem fault?_mapping (h : mapping columns = .ok m)
    (hrequired : ∀ f ∈ ProductField.required, f.source.2 < count f.source.1 columns) :
    m.fault? (groups columns) = none := by
  refine FieldMapping.fault?_eq_none_iff.mpr
    ⟨fun f hf => ?_, FieldMapping.highest_le_iff.mp (highest_le_groups h)⟩
  rw [get_mapping h, isSome_groupOf]
  exact hrequired f hf

end Layout

end OrderSheet
