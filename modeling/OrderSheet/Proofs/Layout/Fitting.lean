import OrderSheet.Proofs.Extract.Lines
import OrderSheet.Proofs.Layout.Grammar
import OrderSheet.Proofs.Layout.Quota

/-!
# Pattern and mapping of a layout

The pattern of a layout and its mapping fit each other: the columns that capture are the groups of
the pattern, counted from the left, and the mapping gives every one of them to the field that the
column fills. What a layout still lacks for reading products is a column, never a group.
-/

namespace OrderSheet

namespace ColumnKind

theorem captures_iff {k : ColumnKind} : k.captures = true ↔ k ≠ ignored := by
  cases k <;> simp [captures, fields]

end ColumnKind

namespace Layout

variable {columns before after : List Column} {c : Column} {k : ColumnKind} {m : FieldMapping}
  {p : LinePattern} {f : ProductField} {i j : Nat}

/-- A field is filled by the column of its kind with the right number of its kind in front of it,
and its group is the place of that column among those that capture. -/
def Fills (columns : List Column) (f : ProductField) (i : Nat) : Prop :=
  ∃ before c after, columns = before ++ c :: after ∧
    f.source = (c.kind, count c.kind before) ∧ i = groups before + 1

/-- The group of a column is its place among the columns that capture. -/
theorem groupOf_eq_some_iff (hk : k.captures = true) : groupOf k j columns = some i ↔
    ∃ before c after, columns = before ++ c :: after ∧ c.kind = k ∧ count k before = j ∧
      i = groups before + 1 := by
  induction columns generalizing i j with
  | nil => simp
  | cons d ds ih =>
    constructor
    · intro h
      by_cases hd : d.kind = k
      · cases j with
        | zero =>
          rw [groupOf_zero hd] at h
          obtain rfl := Option.some.inj h
          exact ⟨[], d, ds, rfl, hd, rfl, rfl⟩
        | succ j =>
          rw [groupOf_succ hd] at h
          obtain ⟨n, hn, rfl⟩ := Option.map_eq_some_iff.mp h
          obtain ⟨before, c, after, rfl, hc, rfl, rfl⟩ := ih.mp hn
          refine ⟨d :: before, c, after, rfl, hc, ?_, ?_⟩
          · rw [count_cons, if_pos hd]
          · rw [groups_cons, hd, if_pos hk]
      · rw [groupOf_of_ne hd] at h
        obtain ⟨n, hn, rfl⟩ := Option.map_eq_some_iff.mp h
        obtain ⟨before, c, after, rfl, hc, rfl, rfl⟩ := ih.mp hn
        refine ⟨d :: before, c, after, rfl, hc, ?_, ?_⟩
        · rw [count_cons, if_neg hd, Nat.add_zero]
        · rw [groups_cons, Nat.add_right_comm]
    · rintro ⟨before, c, after, heq, hc, rfl, rfl⟩
      cases before with
      | nil =>
        obtain ⟨rfl, rfl⟩ := List.cons.inj heq
        exact groupOf_zero hc
      | cons e before =>
        rw [List.cons_append] at heq
        obtain ⟨rfl, rfl⟩ := List.cons.inj heq
        have hrest : groupOf k (count k before) (before ++ c :: after) = some (groups before + 1) :=
          ih.mpr ⟨before, c, after, rfl, hc, rfl, rfl⟩
        rw [count_cons, groups_cons]
        by_cases hd : d.kind = k
        · rw [if_pos hd, groupOf_succ hd, hrest, hd, if_pos hk]
          rfl
        · rw [if_neg hd, Nat.add_zero, groupOf_of_ne hd, hrest, Option.map_some,
            Nat.add_right_comm]

theorem get_mapping_eq_some_iff (h : mapping columns = .ok m) :
    m.get f = some i ↔ Fills columns f i := by
  rw [get_mapping h, groupOf_eq_some_iff (ColumnKind.captures_source f)]
  constructor
  · rintro ⟨before, c, after, rfl, hc, hcount, hi⟩
    exact ⟨before, c, after, rfl, by rw [hc, hcount], hi⟩
  · rintro ⟨before, c, after, rfl, hsource, hi⟩
    have hc : f.source.1 = c.kind := congrArg Prod.fst hsource
    refine ⟨before, c, after, rfl, hc.symm, ?_, hi⟩
    rw [hc, hsource]

/-- Within the quotas there is a field for every column that captures. -/
theorem exists_source (h : WithinQuotas (before ++ c :: after)) (hc : c.kind.captures = true) :
    ∃ f : ProductField, f.source = (c.kind, count c.kind before) := by
  have hlt : count c.kind before < c.kind.fields.length := by
    have hle := h c.kind _ (ColumnKind.quota_eq_some_iff.mpr ⟨hc, rfl⟩)
    rw [count_append, count_cons, if_pos rfl] at hle
    omega
  exact ⟨_, ColumnKind.getElem?_fields_eq_some.mp (List.getElem?_eq_getElem hlt)⟩

/-- The mapping of a layout fits its pattern just if no column of a required field is missing. -/
theorem fault?_mapping_eq_none_iff (h : mapping columns = .ok m) :
    m.fault? (groups columns) = none ↔
      0 < count .text columns ∧ 0 < count .number columns ∧ 0 < count .price columns := by
  have hsource : (∀ f ∈ ProductField.required, f.source.2 < count f.source.1 columns) ↔
      0 < count .text columns ∧ 0 < count .number columns ∧ 0 < count .price columns := by
    simp [ProductField.required, ProductField.source]
  rw [← hsource]
  refine ⟨fun hfit f hf => ?_, fault?_mapping h⟩
  have hassigned := (FieldMapping.fault?_eq_none_iff.mp hfit).1 f hf
  rwa [get_mapping h, isSome_groupOf] at hassigned

theorem fault?_mapping_eq_some {fault : MappingFault} (h : mapping columns = .ok m)
    (hfault : m.fault? (groups columns) = some fault) :
    fault = .unassigned (m.missing.map ProductField.name) := by
  rw [FieldMapping.fault?, if_neg (Nat.not_lt.mpr (highest_le_groups h))] at hfault
  split at hfault
  · exact (Option.some.inj hfault).symm
  · cases hfault

theorem pattern_eq_empty_iff : pattern columns = "" ↔ columns = [] := by
  constructor
  · intro h
    by_contra hne
    have hchars := toList_pattern hne
    rw [h] at hchars
    cases hchars
  · rintro rfl
    rfl

/-- The empty pattern is that of the layout without columns. -/
theorem compile_pattern_nil : Regex.compile (pattern []) = .ok ⟨.empty, 0⟩ := by cbv

theorem exists_regex (h : compile columns = .ok p) :
    ∃ r, Regex.compile p.pattern = .ok r ∧ r.groups = groups columns := by
  by_cases hne : columns = []
  · subst hne
    obtain rfl := Except.ok.inj h
    exact ⟨_, compile_pattern_nil, rfl⟩
  · exact ⟨_, compile_pattern_of_compile hne h, rfl⟩

end Layout

namespace ProductLines

variable {r : Regex} {m : Regex.Match} {mapping : FieldMapping} {row : Table.Line} {q : Problem}

/-- A line that is read can only have problems with its numbers. -/
theorem kind_of_mem_contribution (h : q ∈ (contribution r mapping row).2) :
    q.kind = .fieldParse := by
  obtain ⟨m, -, hq⟩ := exists_of_mem_contribution h
  exact (of_mem_product hq).2.1

end ProductLines

namespace Layout

variable {columns : List Column} {p : LinePattern} {start stop : String}

def lacking (m : FieldMapping) : Problem :=
  ⟨"field_mapping", (MappingFault.unassigned (m.missing.map ProductField.name)).message,
    .fieldMapping, none⟩

/-- Reading with a layout always answers. Its problems are with numbers, or with a column that the
layout lacks. -/
theorem exists_extract (h : compile columns = .ok p) (text start stop : String) :
    ∃ lines, (ProductLines.extract text (.ofLinePattern p start stop)).outcome = .ok lines ∧
      ∀ q ∈ lines.problems, q.kind = .fieldParse ∨ q = lacking p.mapping := by
  obtain ⟨r, hr, hgroups⟩ := exists_regex h
  obtain ⟨m, hm, rfl⟩ := compile_eq_ok_iff.mp h
  generalize hrule : TableRule.ofLinePattern ⟨pattern columns, m⟩ start stop = rule
  have hpattern : rule.linePattern = pattern columns := by rw [← hrule]; rfl
  have hmapping : rule.mapping = m := by rw [← hrule]; rfl
  rw [← hpattern] at hr
  by_cases hempty : rule.linePattern = ""
  · refine ⟨.empty, ?_, nofun⟩
    rw [ProductLines.extract_of_empty hempty]
    rfl
  · cases hfault : rule.mapping.fault? r.groups with
    | some fault =>
      refine ⟨⟨[], [lacking m]⟩, ?_, by simp⟩
      rw [ProductLines.extract_of_misfit text rule hempty hr hfault]
      rw [hmapping, hgroups] at hfault
      rw [fault?_mapping_eq_some hm hfault]
      rfl
    | none =>
      rw [ProductLines.extract_of_fit text rule hempty hr hfault, ProductLines.outcome_readRows]
      refine ⟨_, rfl, fun q hq => .inl ?_⟩
      obtain ⟨row, -, hq⟩ := List.mem_flatMap.mp hq
      exact ProductLines.kind_of_mem_contribution hq

/-- How the pattern of a layout, its mapping and what is read with them fit each other. -/
structure Fits (columns : List Column) (p : LinePattern) (r : Regex) : Prop where
  pattern_eq : p.pattern = "" ↔ columns = []
  compiles : Regex.compile p.pattern = .ok r
  groups_eq : r.groups = columns.countP fun c => c.kind ≠ .ignored
  /-- Every column that is not ignored fills a field, with the group that is its place among these
  columns. -/
  assigned : ∀ before c after, columns = before ++ c :: after → c.kind ≠ .ignored →
    ∃ f : ProductField, f.source = (c.kind, count c.kind before) ∧
      p.mapping.get f = some (groups before + 1)
  get_iff : ∀ f i, p.mapping.get f = some i ↔ Fills columns f i
  le_groups : ∀ f i, p.mapping.get f = some i → 1 ≤ i ∧ i ≤ r.groups
  usable : p.mapping.fault? r.groups = none ↔
    0 < count .text columns ∧ 0 < count .number columns ∧ 0 < count .price columns
  reads : ∀ text start stop,
    ∃ lines, (ProductLines.extract text (.ofLinePattern p start stop)).outcome = .ok lines ∧
      ∀ q ∈ lines.problems, q.kind = .fieldParse ∨ q = lacking p.mapping

theorem exists_fits (h : compile columns = .ok p) : ∃ r, Fits columns p r := by
  obtain ⟨r, hr, hgroups⟩ := exists_regex h
  obtain ⟨m, hm, rfl⟩ := compile_eq_ok_iff.mp h
  refine ⟨r, ?_⟩
  constructor
  · exact pattern_eq_empty_iff
  · exact hr
  · rw [hgroups, groups]
    exact List.countP_congr fun c _ => by simp [ColumnKind.captures_iff]
  · rintro before c after rfl hc
    obtain ⟨f, hf⟩ := exists_source (compile_eq_ok_iff_withinQuotas.mp ⟨_, h⟩)
      (ColumnKind.captures_iff.mpr hc)
    exact ⟨f, hf, (get_mapping_eq_some_iff hm).mpr ⟨before, c, after, rfl, hf, rfl⟩⟩
  · exact fun f i => get_mapping_eq_some_iff hm
  · intro f i hi
    rw [get_mapping hm] at hi
    exact ⟨groupOf_pos hi, hgroups ▸ groupOf_le (ColumnKind.captures_source f) hi⟩
  · rw [hgroups]
    exact fault?_mapping_eq_none_iff hm
  · exact exists_extract h

theorem withinQuotas_iff : WithinQuotas columns ↔ count .text columns ≤ 1 ∧
    count .number columns ≤ 1 ∧ count .code columns ≤ 1 ∧ count .price columns ≤ 2 := by
  constructor
  · exact fun h => ⟨h .text 1 rfl, h .number 1 rfl, h .code 1 rfl, h .price 2 rfl⟩
  · rintro ⟨htext, hnumber, hcode, hprice⟩ k n hn
    cases k with
    | text | number | code | price =>
      obtain rfl := Option.some.inj hn
      assumption
    | ignored => cases hn

/-- A layout compiles just within its quotas, in whatever order its columns stand, and then its
pattern and its mapping fit each other. Otherwise the first column beyond its quota is named. -/
theorem fits_or_exceeds (columns : List Column) :
    ((∃ f, compile columns = .error f) ↔ 1 < count .text columns ∨ 1 < count .number columns ∨
      1 < count .code columns ∨ 2 < count .price columns) ∧
    (∀ f, compile columns = .error f ↔ Exceeds columns f) ∧
    (∀ others, others.Perm columns →
      ((∃ p, compile others = .ok p) ↔ ∃ p, compile columns = .ok p)) ∧
    ∀ p, compile columns = .ok p → ∃ r, Fits columns p r := by
  refine ⟨?_, fun f => compile_eq_error_iff, fun others hperm => ?_, fun p => exists_fits⟩
  · have hok : (∃ f, compile columns = .error f) ↔ ¬ WithinQuotas columns := by
      rw [← compile_eq_ok_iff_withinQuotas]
      cases compile columns <;> simp
    rw [hok, withinQuotas_iff]
    omega
  · rw [compile_eq_ok_iff_withinQuotas, compile_eq_ok_iff_withinQuotas]
    exact ⟨fun h => h.of_perm hperm.symm, fun h => h.of_perm hperm⟩

end Layout

end OrderSheet
