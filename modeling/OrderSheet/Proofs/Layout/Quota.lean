import OrderSheet.Proofs.Layout.Mapping

/-!
# Quotas of a layout

A layout compiles just when no kind of column is used more often than its quota allows. Otherwise
the first column that is one too many is named.
-/

namespace OrderSheet

/-- How many columns of a kind a layout may have; words that are read over are not counted. -/
def ColumnKind.quota : ColumnKind → Option Nat
  | text | number | code => some 1
  | price => some 2
  | ignored => none

theorem ColumnKind.quota_eq_some_iff {k : ColumnKind} {n : Nat} :
    k.quota = some n ↔ k.captures = true ∧ k.fields.length = n := by
  cases k <;> simp [quota, captures, fields]

namespace Layout

def WithinQuotas (columns : List Column) : Prop :=
  ∀ k, ∀ n ∈ k.quota, count k columns ≤ n

variable {columns cs before after : List Column} {c : Column} {k : ColumnKind}
  {used : List ColumnKind} {m : FieldMapping} {position group : Nat} {f : Failure}

theorem count_append (k : ColumnKind) (before after : List Column) :
    count k (before ++ after) = count k before + count k after := List.countP_append

/-- The columns in front of the first one that finds no field. -/
theorem mappingFrom_eq_error (h : mappingFrom position group used m columns = .error f) :
    ∃ before c after, columns = before ++ c :: after ∧ c.kind.captures = true ∧
      (∃ m', mappingFrom position group used m before = .ok m') ∧
      c.kind.fields.length ≤ used.count c.kind + count c.kind before ∧
      f = .layout (position + before.length) c.label c.kind.name c.kind.fields.length := by
  induction columns generalizing position group used m with
  | nil => cases h
  | cons c cs ih =>
    cases hc : c.kind.captures with
    | true =>
      rw [mappingFrom, if_pos hc] at h
      cases hf : c.kind.fields[used.count c.kind]? with
      | none =>
        rw [hf] at h
        obtain rfl := Except.error.inj h
        exact ⟨[], c, cs, rfl, hc, ⟨m, rfl⟩, List.getElem?_eq_none_iff.mp hf, rfl⟩
      | some field =>
        rw [hf] at h
        obtain ⟨before, d, after, rfl, hd, ⟨m', hm'⟩, hcount, rfl⟩ := ih h
        refine ⟨c :: before, d, after, rfl, hd, ⟨m', ?_⟩, ?_, ?_⟩
        · rw [mappingFrom, if_pos hc, hf]
          exact hm'
        · rw [count_cons]
          rw [List.count_cons] at hcount
          simp only [beq_iff_eq] at hcount
          omega
        · rw [List.length_cons, Nat.add_right_comm, Nat.add_assoc]
    | false =>
      rw [mappingFrom_ignored hc] at h
      obtain ⟨before, d, after, rfl, hd, ⟨m', hm'⟩, hcount, rfl⟩ := ih h
      refine ⟨c :: before, d, after, rfl, hd, ⟨m', ?_⟩, ?_, ?_⟩
      · rw [mappingFrom_ignored hc]
        exact hm'
      · rw [count_cons]
        omega
      · rw [List.length_cons, Nat.add_right_comm, Nat.add_assoc]

theorem compile_eq_ok_iff_withinQuotas : (∃ p, compile columns = .ok p) ↔ WithinQuotas columns := by
  constructor
  · rintro ⟨p, hp⟩ k n hn
    obtain ⟨hk, rfl⟩ := ColumnKind.quota_eq_some_iff.mp hn
    exact count_le_of_compile hp hk
  · intro h
    cases hm : mapping columns with
    | ok m => exact ⟨_, compile_eq_ok_iff.mpr ⟨m, hm, rfl⟩⟩
    | error f =>
      obtain ⟨before, c, after, rfl, hc, -, hcount, -⟩ := mappingFrom_eq_error hm
      have hle := h c.kind _ (ColumnKind.quota_eq_some_iff.mpr ⟨hc, rfl⟩)
      rw [count_append, count_cons, if_pos rfl] at hle
      rw [List.count_nil] at hcount
      omega

def Exceeds (columns : List Column) (f : Failure) : Prop :=
  ∃ before c after n, columns = before ++ c :: after ∧ WithinQuotas before ∧
    c.kind.quota = some n ∧ count c.kind before = n ∧
    f = .layout (before.length + 1) c.label c.kind.name n

theorem WithinQuotas.of_sublist (h : WithinQuotas columns) (hcs : cs.Sublist columns) :
    WithinQuotas cs := fun k n hn => hcs.countP_le.trans (h k n hn)

theorem WithinQuotas.of_perm (h : WithinQuotas columns) (hcs : cs.Perm columns) :
    WithinQuotas cs := fun k n hn => (hcs.countP_eq _).trans_le (h k n hn)

/-- One more column fits just when its quota is not used up. -/
theorem withinQuotas_append_singleton :
    WithinQuotas (cs ++ [c]) ↔ WithinQuotas cs ∧ ∀ n ∈ c.kind.quota, count c.kind cs < n := by
  have hcount (k : ColumnKind) : count k (cs ++ [c]) = count k cs + if c.kind = k then 1 else 0 := by
    rw [count_append, count_cons]
    simp [count]
  constructor
  · refine fun h => ⟨h.of_sublist (List.sublist_append_left ..), fun n hn => ?_⟩
    have hle := h c.kind n hn
    rw [hcount, if_pos rfl] at hle
    exact hle
  · rintro ⟨hcs, hc⟩ k n hn
    rw [hcount]
    split
    · next hk =>
      subst hk
      exact hc n hn
    · exact hcs k n hn

/-- A column whose quota is used up in front of it is one too many. -/
theorem not_withinQuotas_of_excess {n : Nat} (hn : c.kind.quota = some n)
    (hcount : count c.kind before = n) : ¬ WithinQuotas (before ++ c :: after) := by
  intro h
  have hle := h c.kind n hn
  rw [count_append, count_cons, if_pos rfl] at hle
  omega

theorem Exceeds.unique {f' : Failure} (h : Exceeds columns f) (h' : Exceeds columns f') :
    f = f' := by
  obtain ⟨before, c, after, n, rfl, hbefore, hn, hcount, rfl⟩ := h
  obtain ⟨before', c', after', n', heq, hbefore', hn', hcount', rfl⟩ := h'
  rcases List.append_eq_append_iff.mp heq with ⟨between, rfl, hrest⟩ | ⟨between, rfl, hrest⟩
  · cases between with
    | nil =>
      obtain ⟨rfl, -⟩ := List.cons.inj hrest
      obtain rfl := Option.some.inj (hn.symm.trans hn')
      rw [List.append_nil]
    | cons d between =>
      obtain ⟨rfl, -⟩ := List.cons.inj hrest
      exact absurd hbefore' (not_withinQuotas_of_excess hn hcount)
  · cases between with
    | nil =>
      obtain ⟨rfl, -⟩ := List.cons.inj hrest
      obtain rfl := Option.some.inj (hn.symm.trans hn')
      rw [List.append_nil]
    | cons d between =>
      obtain ⟨rfl, -⟩ := List.cons.inj hrest
      exact absurd hbefore (not_withinQuotas_of_excess hn' hcount')

theorem exceeds_of_compile_eq_error (h : compile columns = .error f) : Exceeds columns f := by
  obtain ⟨before, c, after, rfl, hc, ⟨m, hbefore⟩, hcount, rfl⟩ :=
    mappingFrom_eq_error (Failure.map_eq_error.mp h)
  have hwithin : WithinQuotas before :=
    compile_eq_ok_iff_withinQuotas.mp ⟨_, compile_eq_ok_iff.mpr ⟨m, hbefore, rfl⟩⟩
  have hquota : c.kind.quota = some c.kind.fields.length :=
    ColumnKind.quota_eq_some_iff.mpr ⟨hc, rfl⟩
  rw [List.count_nil, Nat.zero_add] at hcount
  exact ⟨before, c, after, _, rfl, hwithin, hquota,
    Nat.le_antisymm (hwithin _ _ hquota) hcount, by rw [Nat.add_comm]⟩

/-- A layout fails to compile for the first column that is one too many. -/
theorem compile_eq_error_iff : compile columns = .error f ↔ Exceeds columns f := by
  refine ⟨exceeds_of_compile_eq_error, fun h => ?_⟩
  cases hcompile : compile columns with
  | error f' => rw [(exceeds_of_compile_eq_error hcompile).unique h]
  | ok p =>
    obtain ⟨before, c, after, n, rfl, -, hn, hcount, -⟩ := h
    exact absurd (compile_eq_ok_iff_withinQuotas.mp ⟨p, hcompile⟩)
      (not_withinQuotas_of_excess hn hcount)

/-- Behind a layout that compiles, a column is one too many just when its quota is used up. -/
theorem exceeds_append_singleton (h : WithinQuotas cs) : Exceeds (cs ++ [c]) f ↔
    ∃ n, c.kind.quota = some n ∧ count c.kind cs = n ∧
      f = .layout (cs.length + 1) c.label c.kind.name n := by
  constructor
  · rintro ⟨before, d, after, m, heq, hbefore, hm, hcount, rfl⟩
    have hover : ¬ WithinQuotas (cs ++ [c]) := by
      rw [heq]
      exact not_withinQuotas_of_excess hm hcount
    rw [withinQuotas_append_singleton, not_and] at hover
    push Not at hover
    obtain ⟨n, hn, hle⟩ := hover h
    have hused : count c.kind cs = n := Nat.le_antisymm (h c.kind n hn) hle
    exact ⟨n, hn, hused, Exceeds.unique ⟨before, d, after, m, heq, hbefore, hm, hcount, rfl⟩
      ⟨cs, c, [], n, rfl, h, hn, hused, rfl⟩⟩
  · rintro ⟨n, hn, hused, rfl⟩
    exact ⟨cs, c, [], n, rfl, h, hn, hused, rfl⟩

end Layout

end OrderSheet
