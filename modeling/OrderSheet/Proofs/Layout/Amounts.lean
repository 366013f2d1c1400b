import OrderSheet.Proofs.Layout.Omission
import OrderSheet.Proofs.Number.Saturation
import OrderSheet.Proofs.Review.Totals

/-!
# Amounts of a layout

The texts of number and price columns are digits, points and commas, so that no amount read from
them has a sign. The products of a layout therefore have no negative amounts, their sum is not
negative either, and a review of them only objects to quantities that are zero.
-/

namespace OrderSheet

namespace Decimal

theorem readSign_of_hyphen_not_mem {cs : List Char} (h : '-' ∉ cs) : (readSign cs).1 = false := by
  rw [readSign.eq_def]
  split
  · simp at h
  · rfl
  · rfl

end Decimal

namespace Amount

variable {f : Format} {cs : List Char} {d : Decimal}

theorem negative_of_value? {negative : Bool} {p : Division}
    (h : p.value? f negative cs = some (some d)) : d.negative = negative := by
  obtain ⟨fraction, -, hvalue⟩ := Option.map_eq_some_iff.mp h
  obtain ⟨-, hd⟩ := Option.ite_none_left_eq_some.mp hvalue
  rw [← Option.some.inj hd]

/-- An amount that is written without a hyphen has no sign. -/
theorem negative_of_read? (h : read? f cs = some d) (hcs : '-' ∉ cs) : d.negative = false := by
  rw [read?] at h
  obtain ⟨p, -, hvalue⟩ := List.exists_of_findSome?_eq_some (Option.join_eq_some_iff.mp h)
  rw [negative_of_value? hvalue]
  exact Decimal.readSign_of_hyphen_not_mem fun hmem => hcs (List.mem_filter.mp hmem).1

end Amount

/-- The amounts of a product have no sign, and its total is far below the limits of results. -/
structure Product.Unsigned (p : Product) : Prop where
  quantity : p.quantity.negative = false
  unitPrice : p.unitPrice.negative = false
  lineTotal : ∀ d, p.lineTotal = some d → d.negative = false
  total : ∃ d, p.total = .ok d ∧ d.magnitude ≤ 10 ^ (4001 : ℤ)

structure Product.Nonnegative (p : Product) : Prop where
  quantity : 0 ≤ p.quantity.toRat
  unitPrice : 0 ≤ p.unitPrice.toRat
  lineTotal : ∀ d, p.lineTotal = some d → 0 ≤ d.toRat

theorem Decimal.toRat_nonneg {d : Decimal} (h : d.negative = false) : 0 ≤ d.toRat := by
  rw [toRat_of_not_negative h]
  exact d.magnitude_nonneg

namespace Product.Unsigned

variable {p : Product}

theorem nonnegative (h : p.Unsigned) : p.Nonnegative where
  quantity := Decimal.toRat_nonneg h.quantity
  unitPrice := Decimal.toRat_nonneg h.unitPrice
  lineTotal d hd := Decimal.toRat_nonneg (h.lineTotal d hd)

theorem negative_total {d : Decimal} (h : p.Unsigned) (hd : p.total = .ok d) :
    d.negative = false := by
  rw [Product.total] at hd
  cases htotal : p.lineTotal with
  | some t =>
    rw [htotal] at hd
    cases hd
    exact h.lineTotal d htotal
  | none =>
    rw [htotal] at hd
    exact Decimal.negative_mul h.quantity h.unitPrice hd

end Product.Unsigned

namespace Extraction

variable {e : Extraction}

/-- The sum of products without signs is never out of range, however many they are. -/
theorem exists_unsigned_sum (h : ∀ p ∈ e.products, p.Unsigned) :
    ∃ sum, e.productsTotal = .ok sum ∧ sum.negative = false ∧
      sum.magnitude ≤ Decimal.full 4002 := by
  obtain ⟨ds, hds, -, hall⟩ := exists_all_totals
    (P := fun d => d.negative = false ∧ d.magnitude ≤ 10 ^ (4001 : ℤ)) fun p hp => by
      obtain ⟨d, hd, hsmall⟩ := (h p hp).total
      exact ⟨d, hd, (h p hp).negative_total hd, hsmall⟩
  obtain ⟨sum, hsum, hnegative, hbounded⟩ :=
    Decimal.sum_bounded (k := 4002) (by decide) (by decide) hall
  refine ⟨sum, ?_, hnegative, hbounded⟩
  rw [productsTotal, hds]
  exact hsum

end Extraction

namespace Layout

variable {columns : List Column} {p : LinePattern} {k : ColumnKind} {line f : List Char}
  {fs : List (List Char)} {m : Regex.Match} {mapping : FieldMapping} {field : ProductField}
  {text start stop : String} {lines : ProductLines} {d : Decimal} {row : Table.Line}
  {product : Product}

theorem hyphen_not_mem_of_admits (hk : k = .number ∨ k = .price) (hf : k.Admits f) : '-' ∉ f := by
  obtain ⟨c, cs, rfl, hc, hcs⟩ :
      ∃ c cs, f = c :: cs ∧ Text.isDigit c = true ∧
        ∀ d ∈ cs, Text.isDigit d = true ∨ d = '.' ∨ d = ',' := by
    rcases hk with rfl | rfl <;> exact hf
  intro hmem
  rcases List.mem_cons.mp hmem with rfl | hmem
  · exact absurd hc (by decide)
  · exact absurd (hcs _ hmem) (by decide)

/-- What a number or price column captures has no sign. -/
theorem negative_of_captured (hmapping : Layout.mapping columns = .ok mapping)
    (h : Splits columns line fs) (hgroups : m.groups = (captured columns fs).map some)
    (hk : field.source.1 = .number ∨ field.source.1 = .price)
    (hd : ProductLines.amount? m mapping field = some d) : d.negative = false := by
  rw [amount?_of_captured hmapping hgroups, textsOf_map_strip, List.getElem?_map] at hd
  obtain ⟨_, hstripped, hread⟩ := Option.bind_eq_some_iff.mp hd
  obtain ⟨g, hg, rfl⟩ := Option.map_eq_some_iff.mp hstripped
  have hadmits := (h.admits g (List.mem_of_getElem? hg)).1
  refine Amount.negative_of_read? hread fun hmem => ?_
  exact hyphen_not_mem_of_admits hk hadmits ((Text.strip_sublist g).subset hmem)

/-- A row that a layout reads has no signs in its amounts. -/
theorem unsigned_of_contribution (hmapping : Layout.mapping columns = .ok mapping)
    (hne : columns ≠ []) (hrow : Table.IsRow text (.ofLinePattern p start stop) row)
    (h : (ProductLines.contribution ⟨node columns, groups columns⟩ mapping row).1 =
      some product) : product.Unsigned := by
  have hstands := ProductLines.standsIn_of_contribution h
  obtain ⟨m, hm, hproduct⟩ := ProductLines.exists_of_contribution h
  obtain ⟨-, -, -, fs, hsplits, hgroups⟩ := splits_of_search hne hrow.oneLine.feed_not_mem hm
  have hnegative {field : ProductField} {d : Decimal}
      (hk : field.source.1 = .number ∨ field.source.1 = .price)
      (hd : ProductLines.amount? m mapping field = some d) : d.negative = false :=
    negative_of_captured hmapping hsplits hgroups hk hd
  obtain ⟨d, hd, hwithin⟩ := hstands.exists_total hrow.length_le
  obtain ⟨q, u, hq, hu, rfl⟩ := ProductLines.product_eq_some_iff.mp hproduct
  exact ⟨hnegative (.inl rfl) hq, hnegative (.inr rfl) hu, fun t ht => hnegative (.inr rfl) ht,
    d, hd, hwithin.magnitude_lt.le⟩

theorem unsigned_of_mem_products (hcompile : compile columns = .ok p)
    (hlines : (ProductLines.extract text (.ofLinePattern p start stop)).outcome = .ok lines)
    (hproduct : product ∈ lines.products) : product.Unsigned := by
  obtain ⟨mapping, hmapping, rfl⟩ := compile_eq_ok_iff.mp hcompile
  rcases ProductLines.outcome_extract_cases hlines with ⟨-, rfl⟩ | ⟨_, -, -, rfl⟩ |
    ⟨_, _, -, -, -, rfl⟩ | ⟨r, hpattern, hr, -, rfl⟩
  · cases hproduct
  · cases hproduct
  · cases hproduct
  · have hne : columns ≠ [] := fun hnil => hpattern (pattern_eq_empty_iff.mpr hnil)
    obtain rfl := Except.ok.inj ((compile_pattern_of_compile hne hcompile).symm.trans hr)
    obtain ⟨row, hrow, hcontribution⟩ := List.mem_filterMap.mp hproduct
    exact unsigned_of_contribution hmapping hne (Table.isRow_of_mem hrow) hcontribution

end Layout

namespace Review

variable {e : Extraction} {tolerance : Decimal} {r : Review}

/-- The totals can be compared if the declared one is within the range of results. -/
theorem comparable_of_unsigned (h : ∀ p ∈ e.products, p.Unsigned)
    (htotal : ∀ total, e.total = some total → total.magnitude ≤ Decimal.largest) :
    Comparable e := by
  intro total hdeclared _
  obtain ⟨sum, hsum, -, hbounded⟩ := Extraction.exists_unsigned_sum h
  have hsmall : sum.magnitude ≤ 10 ^ (Decimal.maxLeading + 1 - Decimal.precision - 1) := by
    refine hbounded.trans ((Decimal.full_lt 4002).le.trans ?_)
    exact Decimal.zpow_le_iff.mpr (by decide)
  obtain ⟨difference, size, hdifference, hsize⟩ := Decimal.difference_bounded (by decide)
    (by decide) hsmall (htotal total hdeclared)
  exact ⟨sum, difference, size, hsum, hdifference, hsize⟩

end Review

namespace Layout

/-- A layout never reads a negative amount. Whatever the markers and the text, the quantity, the
unit price and the total of every product are at least zero. Any number of the products, in any
extraction, has a sum, which is at least zero, and a review of the extraction never objects to a
unit price, and to a quantity just if it is zero. There is a review for every tolerance unless the
declared total is out of the range of results. -/
theorem extract_nonnegative {columns : List Column} {p : LinePattern}
    (hcompile : compile columns = .ok p) (text start stop : String) :
    ∃ lines, (ProductLines.extract text (.ofLinePattern p start stop)).outcome = .ok lines ∧
      (∀ product ∈ lines.products, product.Nonnegative) ∧
      ∀ e : Extraction, (∀ product ∈ e.products, product ∈ lines.products) →
        (∃ sum, e.productsTotal = .ok sum ∧ 0 ≤ sum.toRat) ∧
        ∀ tolerance,
          ((∀ total, e.total = some total → total.magnitude ≤ Decimal.largest) →
            ∃ r, (Review.validate tolerance e).outcome = .ok r) ∧
          ∀ r, (Review.validate tolerance e).outcome = .ok r →
            (∀ s, ∀ f ∈ r.reported s, f.code ≠ some "INVALID_UNIT_PRICE") ∧
            ∀ i product, e.products[i]? = some product →
              ((∃ f ∈ r.errors, f.code = some "INVALID_QUANTITY" ∧ f.product = some (i + 1)) ↔
                product.quantity.toRat = 0) := by
  obtain ⟨lines, hlines, -⟩ := exists_extract hcompile text start stop
  have hunsigned : ∀ product ∈ lines.products, product.Unsigned := fun product hproduct =>
    unsigned_of_mem_products hcompile hlines hproduct
  refine ⟨lines, hlines, fun product hproduct => (hunsigned product hproduct).nonnegative,
    fun e he => ?_⟩
  have hproducts : ∀ product ∈ e.products, product.Unsigned := fun product hproduct =>
    hunsigned product (he product hproduct)
  refine ⟨?_, fun tolerance => ⟨fun htotal => ?_, fun r hr => ⟨fun s f hf hcode => ?_,
    fun i product hproduct => ?_⟩⟩⟩
  · obtain ⟨sum, hsum, hnegative, -⟩ := Extraction.exists_unsigned_sum hproducts
    exact ⟨sum, hsum, Decimal.toRat_nonneg hnegative⟩
  · rw [Review.exists_validate_iff]
    exact Review.comparable_of_unsigned hproducts htotal
  · obtain ⟨product, hproduct, hnegative⟩ :=
      (Review.verdict_of_validate hr).exists_affected .unitPrice hf hcode
    exact not_lt_of_ge (hproducts product hproduct).nonnegative.unitPrice hnegative
  · have hnonneg := (hproducts product (List.mem_of_getElem? hproduct)).nonnegative.quantity
    refine ((Review.verdict_of_validate hr).exists_error_iff hproduct .quantity).trans ?_
    exact ⟨fun hle => le_antisymm hle hnonneg, le_of_eq⟩

theorem extract_nonnegative_zero_quantity :
    let columns : List Column :=
      [⟨none, .text, "Text"⟩, ⟨none, .number, "Number"⟩, ⟨none, .price, "Price"⟩]
    let product : Product := ⟨"a", ⟨false, 0, 0⟩, ⟨false, 5, 0⟩, none, none, 1⟩
    let e : Extraction := ⟨none, none, none, none, none, [product], []⟩
    ∃ p sum r, compile columns = .ok p ∧
      (ProductLines.extract "a 0 5" (.ofLinePattern p "" "")).outcome = .ok ⟨[product], []⟩ ∧
      e.productsTotal = .ok sum ∧ 0 ≤ sum.toRat ∧
      (Review.validate Decimal.zero e).outcome = .ok r ∧
      ∃ f ∈ r.errors, f.code = some "INVALID_QUANTITY" ∧ f.product = some 1 := by
  intro columns product e
  have hcompile : compile columns =
      .ok ⟨pattern columns, ⟨some 1, some 2, some 3, none, none⟩⟩ := rfl
  have hregex := compile_pattern_of_compile (List.cons_ne_nil _ _) hcompile
  have hextract : (ProductLines.extract "a 0 5"
      (.ofLinePattern ⟨pattern columns, ⟨some 1, some 2, some 3, none, none⟩⟩ "" "")).outcome =
        .ok ⟨[product], []⟩ := by
    rw [ProductLines.extract_of_fit _ (.ofLinePattern ⟨pattern columns, _⟩ "" "") (by decide) hregex
      rfl]
    cbv
  obtain ⟨lines, hlines, -, hreview⟩ := extract_nonnegative hcompile "a 0 5" "" ""
  obtain rfl := Except.ok.inj (hextract.symm.trans hlines)
  obtain ⟨⟨sum, hsum, hnonneg⟩, hvalidate⟩ := hreview e (fun q hq => hq)
  obtain ⟨hexists, hverdict⟩ := hvalidate Decimal.zero
  obtain ⟨r, hr⟩ := hexists fun total htotal => by cases htotal
  have hzero : product.quantity.toRat = 0 := Decimal.toRat_eq_zero_iff.mpr rfl
  exact ⟨_, sum, r, hcompile, hextract, hsum, hnonneg, hr,
    ((hverdict r hr).2 0 product rfl).mpr hzero⟩

end Layout

end OrderSheet
