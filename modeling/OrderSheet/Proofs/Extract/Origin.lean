import OrderSheet.Proofs.Extract.Document
import OrderSheet.Proofs.Regex.Slots
import OrderSheet.Proofs.Text.Words

/-!
# Where extracted values come from

Nothing is made up. Every value of a header is a part of the document, and every value of a product
is a part of the line that the product names, which is a line of the table.
-/

namespace OrderSheet

namespace Text

variable {part whole cs : List Char}

structure IsTrimmedPart (part whole : List Char) : Prop where
  isInfix : part <:+: whole
  strip_eq : strip part = part

theorem IsTrimmedPart.nil (whole : List Char) : IsTrimmedPart [] whole :=
  ⟨List.nil_infix, rfl⟩

theorem IsTrimmedPart.trimmed (h : part <:+: whole) :
    IsTrimmedPart (Pattern.trimmed part).toList whole := by
  rw [Pattern.trimmed, String.toList_ofList]
  exact ⟨(strip_isInfix part).trans h, strip_strip part⟩

end Text

open Text (IsTrimmedPart)

theorem nonEmpty?_eq_some_iff {s v : String} : nonEmpty? s = some v ↔ s = v ∧ v ≠ "" := by
  rw [nonEmpty?]
  split
  · next h => simpa using fun hv => hv ▸ (by simpa using h)
  · next h => simpa using fun hv => hv ▸ (by simpa using h)

def Amount.StandsIn (whole : List Char) (d : Decimal) : Prop :=
  ∃ s : String, IsTrimmedPart s.toList whole ∧ read? .commaDecimal s.toList = some d

namespace Header

variable {cs : List Char} {pattern : Option String} {s source : String}

/-- A pattern finds a text: its first match in the document has that text, trimmed and not blank, in
its first group, or as a whole if the pattern has no groups. -/
def Finds (cs : List Char) (pattern : Option String) (s : String) : Prop :=
  ∃ source r m part, pattern = some source ∧ source ≠ "" ∧ Regex.compile source = .ok r ∧
    r.search cs = some m ∧ m.group? (if r.groups = 0 then 0 else 1) = some part ∧
    Text.strip part ≠ [] ∧ s = String.ofList (Text.strip part)

theorem bind_nonEmpty?_eq_some_iff :
    pattern.bind nonEmpty? = some source ↔ pattern = some source ∧ source ≠ "" := by
  constructor
  · intro h
    obtain ⟨v, hv, hsource⟩ := Option.bind_eq_some_iff.mp h
    obtain ⟨rfl, hne⟩ := nonEmpty?_eq_some_iff.mp hsource
    exact ⟨hv, hne⟩
  · rintro ⟨rfl, hne⟩
    exact nonEmpty?_eq_some_iff.mpr ⟨rfl, hne⟩

theorem value_eq_some_iff : value cs pattern = some s ↔ Finds cs pattern s := by
  rw [value]
  constructor
  · intro h
    split at h
    · cases h
    · next source hsource =>
      obtain ⟨hpattern, hne⟩ := bind_nonEmpty?_eq_some_iff.mp hsource
      split at h
      · cases h
      · next r hc =>
        obtain ⟨v, hv, hs⟩ := Option.bind_eq_some_iff.mp h
        obtain ⟨rfl, hs⟩ := nonEmpty?_eq_some_iff.mp hs
        obtain ⟨m, hm, hgroup⟩ := Option.bind_eq_some_iff.mp hv
        obtain ⟨part, hpart, rfl⟩ := Option.map_eq_some_iff.mp hgroup
        refine ⟨source, r, m, part, hpattern, hne, hc, hm, ?_, ?_, rfl⟩
        · simpa [Pattern.defaultGroup] using hpart
        · simpa [Pattern.trimmed] using hs
  · rintro ⟨source, r, m, part, hpattern, hne, hc, hm, hpart, hblank, rfl⟩
    have hgroup : m.group? (Pattern.defaultGroup r) = some part := by
      simpa [Pattern.defaultGroup] using hpart
    simp only [bind_nonEmpty?_eq_some_iff.mpr ⟨hpattern, hne⟩, hc, hm, Option.bind_some, hgroup,
      Option.map_some]
    exact nonEmpty?_eq_some_iff.mpr ⟨rfl, by simpa [Pattern.trimmed] using hblank⟩

theorem value_isTrimmedPart (h : value cs pattern = some s) :
    s ≠ "" ∧ IsTrimmedPart s.toList cs := by
  obtain ⟨source, r, m, part, -, -, -, hm, hpart, hblank, rfl⟩ := value_eq_some_iff.mp h
  exact ⟨by simpa using hblank, .trimmed (Regex.isInfix_of_group? hm hpart)⟩

theorem readTotal_eq_some {raw : Option String} {d : Decimal} (h : (readTotal raw).1 = some d) :
    ∃ s, raw = some s ∧ Amount.read? .commaDecimal s.toList = some d := by
  cases raw with
  | none => cases h
  | some s =>
    rw [readTotal] at h
    cases hread : Amount.read? .commaDecimal s.toList with
    | none => simp [hread] at h
    | some d' =>
      obtain rfl : d' = d := by simpa [hread] using h
      exact ⟨s, rfl, hread⟩

end Header

namespace Table

variable {ls : List Line} {l : Line} {startMarker endMarker : List Char}

/-- A line has the number of its place in the document. -/
theorem exists_raw_of_mem_lines {document : List Char} (h : l ∈ lines document) :
    1 ≤ l.number ∧ ∃ raw, (Text.splitLines document)[l.number - 1]? = some raw ∧
      l.text = Text.strip raw := by
  obtain ⟨⟨raw, i⟩, hmem, rfl⟩ := List.mem_map.mp h
  exact ⟨Nat.le_add_left 1 i, raw, by simpa using List.mem_zipIdx_iff_getElem?.mp hmem, rfl⟩

theorem not_isInfix_of_mem_between (hne : endMarker ≠ [])
    (h : l ∈ between startMarker endMarker ls) : ¬ endMarker <:+: l.text := by
  rw [between, beforeEnd, if_neg hne] at h
  simpa using List.mem_takeWhile_imp h

structure IsRow (text : String) (rule : TableRule) (l : Line) : Prop where
  mem : l ∈ candidates (rows text rule.startMarker rule.endMarker)
  number_pos : 1 ≤ l.number
  exists_raw : ∃ raw, (Text.splitLines text.toList)[l.number - 1]? = some raw ∧
    l.text = Text.strip raw
  length_le : l.text.length ≤ 2000
  not_end : rule.endMarker ≠ "" → ¬ rule.endMarker.toList <:+: l.text

theorem isRow_of_mem {text : String} {rule : TableRule}
    (h : l ∈ candidates (rows text rule.startMarker rule.endMarker)) : IsRow text rule l := by
  have hrow := (List.mem_filter.mp h).1
  rw [rows_eq] at hrow
  have hbetween := (List.mem_filter.mp hrow).1
  obtain ⟨hpos, hraw⟩ := exists_raw_of_mem_lines ((between_sublist ..).mem hbetween)
  exact ⟨h, hpos, hraw, candidates_length_le h, fun hne =>
    not_isInfix_of_mem_between (by simpa using hne) hbetween⟩

end Table

structure Product.StandsIn (row : Table.Line) (p : Product) : Prop where
  line_eq : p.line = row.number
  description : IsTrimmedPart p.description.toList row.text
  sku : ∀ s, p.sku = some s → s ≠ "" ∧ IsTrimmedPart s.toList row.text
  quantity : Amount.StandsIn row.text p.quantity
  unitPrice : Amount.StandsIn row.text p.unitPrice
  lineTotal : ∀ d, p.lineTotal = some d → Amount.StandsIn row.text d

namespace ProductLines

variable {r : Regex} {m : Regex.Match} {mapping : FieldMapping} {f : ProductField}
  {row : Table.Line} {p : Product}

theorem fieldText_isTrimmedPart (hm : r.search row.text = some m) {s : String}
    (h : fieldText m mapping f = some s) : IsTrimmedPart s.toList row.text := by
  obtain ⟨part, hgroup, rfl⟩ := Option.map_eq_some_iff.mp h
  obtain ⟨i, -, hpart⟩ := Option.bind_eq_some_iff.mp hgroup
  exact .trimmed (Regex.isInfix_of_group? hm hpart)

theorem amount?_standsIn (hm : r.search row.text = some m) {d : Decimal}
    (h : amount? m mapping f = some d) : Amount.StandsIn row.text d := by
  obtain ⟨s, hs, hread⟩ := Option.bind_eq_some_iff.mp h
  exact ⟨s, fieldText_isTrimmedPart hm hs, hread⟩

theorem standsIn_of_contribution (h : (contribution r mapping row).1 = some p) :
    p.StandsIn row := by
  obtain ⟨m, hm, hproduct⟩ := exists_of_contribution h
  obtain ⟨q, u, hq, hu, rfl⟩ := product_eq_some_iff.mp hproduct
  refine ⟨rfl, ?_, fun s hs => ?_, amount?_standsIn hm hq, amount?_standsIn hm hu,
    fun d hd => amount?_standsIn hm hd⟩
  · cases hdescription : fieldText m mapping .description with
    | none => exact .nil _
    | some s => exact fieldText_isTrimmedPart hm hdescription
  · obtain ⟨v, hv, hs⟩ := Option.bind_eq_some_iff.mp hs
    obtain ⟨rfl, hne⟩ := nonEmpty?_eq_some_iff.mp hs
    exact ⟨hne, fieldText_isTrimmedPart hm hv⟩

theorem exists_row_of_mem_products {text : String} {rule : TableRule} {lines : ProductLines}
    (h : (extract text rule).outcome = .ok lines) (hp : p ∈ lines.products) :
    ∃ row, Table.IsRow text rule row ∧ p.StandsIn row := by
  rcases outcome_extract_cases h with ⟨-, rfl⟩ | ⟨_, -, -, rfl⟩ | ⟨_, _, -, -, -, rfl⟩ |
    ⟨r, -, -, -, rfl⟩
  · cases hp
  · cases hp
  · cases hp
  · obtain ⟨row, hrow, hcontribution⟩ := List.mem_filterMap.mp hp
    exact ⟨row, Table.isRow_of_mem hrow, standsIn_of_contribution hcontribution⟩

end ProductLines

namespace Document

/-- Every value of an extraction stands in the document: a text of the header, and the amount that
is its total, in the document as a whole, and the values of a product in one line of the table,
the one with the number of the product. -/
theorem extracted_standsIn (t : Template) (text : String) (e : Extraction)
    (h : (extractText t text).outcome = .ok (.extracted e)) :
    (∀ s, some s ∈ [e.orderNumber, e.orderDate, e.supplierName] →
      s ≠ "" ∧ IsTrimmedPart s.toList text.toList) ∧
    (∀ d, e.total = some d → ∃ s, s ≠ "" ∧ IsTrimmedPart s.toList text.toList ∧
      Amount.read? .commaDecimal s.toList = some d) ∧
    ∀ p ∈ e.products, ∃ row, Table.IsRow text t.table row ∧ p.StandsIn row := by
  obtain ⟨-, header, lines, hheader, hlines, rfl⟩ := outcome_eq_extracted_iff.mp h
  obtain ⟨-, rfl⟩ := Header.outcome_extract_eq_ok_iff.mp hheader
  refine ⟨fun s hs => ?_, fun d hd => ?_, fun p hp =>
    ProductLines.exists_row_of_mem_products hlines hp⟩
  · obtain ⟨pattern, hvalue⟩ : ∃ pattern, Header.value text.toList pattern = some s := by
      simp only [List.mem_cons, List.not_mem_nil, or_false] at hs
      rcases hs with hs | hs | hs <;> exact ⟨_, hs.symm⟩
    exact Header.value_isTrimmedPart hvalue
  · obtain ⟨s, hs, hread⟩ := Header.readTotal_eq_some hd
    obtain ⟨hne, hpart⟩ := Header.value_isTrimmedPart hs
    exact ⟨s, hne, hpart, hread⟩

theorem extracted_standsIn_one_line :
    let t : Template := ⟨none, "t", true, [], none, ⟨some "a", none, some "2", none⟩,
      ⟨"", "", "(a)(1)(2)", ⟨some 1, some 2, some 3, none, none⟩⟩, none, none⟩
    let p : Product := ⟨"a", ⟨false, 1, 0⟩, ⟨false, 2, 0⟩, none, none, 1⟩
    (extractText t "a12").outcome =
        .ok (.extracted ⟨some "t", some "a", none, none, some ⟨false, 2, 0⟩, [p], []⟩) ∧
      IsTrimmedPart "a".toList "a12".toList ∧
      ∃ row, Table.IsRow "a12" t.table row ∧ p.StandsIn row := by
  intro t p
  have h : (extractText t "a12").outcome =
      .ok (.extracted ⟨some "t", some "a", none, none, some ⟨false, 2, 0⟩, [p], []⟩) := by cbv
  obtain ⟨hheader, -, hproducts⟩ := extracted_standsIn t "a12" _ h
  exact ⟨h, (hheader "a" (by simp)).2, hproducts p (by simp)⟩

end Document

end OrderSheet
