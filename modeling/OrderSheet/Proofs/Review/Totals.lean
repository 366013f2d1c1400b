import OrderSheet.Proofs.Extract.Origin
import OrderSheet.Proofs.Number.Amount
import OrderSheet.Proofs.Review.Verdict
import OrderSheet.Proofs.Text.Lines

/-!
# Totals of an extraction

The limits on documents and lines keep all arithmetic in range. An amount has no more digits than
its line has characters, and a product takes up at least two characters of the document, so that
neither a single total nor the sum of all of them can overflow, however many lines there are.
-/

namespace OrderSheet

theorem Amount.StandsIn.within {whole : List Char} {d : Decimal} (h : StandsIn whole d) :
    d.Within whole.length whole.length := by
  obtain ⟨s, hs, hread⟩ := h
  exact (read?_within hread).mono hs.isInfix.length_le hs.isInfix.length_le

namespace Table

/-- Every line but a separator has a character. -/
theorem two_mul_length_le (ls : List Line) :
    2 * (ls.filter fun l => !l.isSeparator).length ≤ (ls.map fun l => l.text.length + 1).sum := by
  induction ls with
  | nil => exact Nat.le_refl _
  | cons l ls ih =>
    rw [List.map_cons, List.sum_cons, List.filter_cons]
    split
    · next hl =>
      have hpos : 0 < l.text.length := by
        rw [List.length_pos_iff]
        intro hnil
        simp [Line.isSeparator, hnil] at hl
      rw [List.length_cons]
      omega
    · omega

theorem map_text_lines (document : List Char) :
    (lines document).map Line.text = (Text.splitLines document).map Text.strip := by
  rw [lines, List.map_map]
  calc (Text.splitLines document).zipIdx.map (Line.text ∘ fun p => ⟨p.2 + 1, Text.strip p.1⟩)
      = ((Text.splitLines document).zipIdx.map Prod.fst).map Text.strip := by
        rw [List.map_map]
        rfl
    _ = (Text.splitLines document).map Text.strip := by rw [List.zipIdx_map_fst]

theorem sum_length_lines (document : List Char) :
    ((lines document).map fun l => l.text.length + 1).sum ≤ document.length + 1 := by
  calc ((lines document).map fun l => l.text.length + 1).sum
      = (((lines document).map Line.text).map fun cs => cs.length + 1).sum := by
        rw [List.map_map]
        rfl
    _ = ((Text.splitLines document).map fun cs => (Text.strip cs).length + 1).sum := by
        rw [map_text_lines, List.map_map]
        rfl
    _ ≤ ((Text.splitLines document).map fun cs => cs.length + 1).sum :=
        List.sum_le_sum fun cs _ => Nat.succ_le_succ (Text.strip_sublist cs).length_le
    _ ≤ document.length + 1 := Text.sum_length_splitLines document

theorem two_mul_length_rows_le (document startMarker endMarker : String) :
    2 * (rows document startMarker endMarker).length ≤ document.length + 1 := by
  have hrows := (List.Sublist.filter (fun l => !l.isSeparator)
    (between_sublist startMarker.toList endMarker.toList (lines document.toList))).length_le
  have hlines := two_mul_length_le (lines document.toList)
  have hsum := sum_length_lines document.toList
  rw [String.length_toList] at hsum
  rw [rows_eq]
  omega

end Table

theorem ProductLines.two_mul_length_products_le {text : String} {rule : TableRule}
    {lines : ProductLines} (h : (extract text rule).outcome = .ok lines) :
    2 * lines.products.length ≤ text.length + 1 := by
  rcases outcome_extract_cases h with ⟨-, rfl⟩ | ⟨_, -, -, rfl⟩ | ⟨_, _, -, -, -, rfl⟩ |
    ⟨r, -, -, -, rfl⟩
  · exact Nat.zero_le _
  · exact Nat.zero_le _
  · exact Nat.zero_le _
  · have hproducts := List.length_filterMap_le (fun row => (contribution r rule.mapping row).1)
      (Table.candidates (Table.rows text rule.startMarker rule.endMarker))
    have hcandidates := List.length_filter_le (fun l => !l.isOversized)
      (Table.rows text rule.startMarker rule.endMarker)
    have hrows := Table.two_mul_length_rows_le text rule.startMarker rule.endMarker
    dsimp only [Table.candidates] at hproducts ⊢
    omega

/-- The total of a product whose line is not too long. -/
theorem Product.StandsIn.exists_total {row : Table.Line} {p : Product} (h : p.StandsIn row)
    (hlength : row.text.length ≤ 2000) :
    ∃ d, p.total = .ok d ∧ d.Within 4000 4001 := by
  have hamount {d : Decimal} (hd : Amount.StandsIn row.text d) : d.Within 2000 2000 :=
    hd.within.mono hlength hlength
  rw [Product.total]
  cases htotal : p.lineTotal with
  | some d => exact ⟨d, rfl, (hamount (h.lineTotal d htotal)).mono (by decide) (by decide)⟩
  | none => exact Decimal.mul_within (hamount h.quantity) (hamount h.unitPrice) (by decide)

namespace Extraction

/-- If every product has a total, so do all of them, one for each product. -/
theorem exists_totals {P : Product → Decimal → Prop} {ps : List Product}
    (h : ∀ p ∈ ps, ∃ d, p.total = .ok d ∧ P p d) :
    ∃ ds, ps.mapM Product.total = .ok ds ∧ List.Forall₂ P ps ds := by
  induction ps with
  | nil => exact ⟨[], rfl, .nil⟩
  | cons p ps ih =>
    obtain ⟨⟨d, hd, hp⟩, hps⟩ := List.forall_mem_cons.mp h
    obtain ⟨ds, hds, hall⟩ := ih hps
    refine ⟨d :: ds, ?_, .cons hp hall⟩
    rw [List.mapM_cons, hd, hds]
    rfl

theorem exists_all_totals {P : Decimal → Prop} {ps : List Product}
    (h : ∀ p ∈ ps, ∃ d, p.total = .ok d ∧ P d) :
    ∃ ds, ps.mapM Product.total = .ok ds ∧ ds.length = ps.length ∧ ∀ d ∈ ds, P d := by
  obtain ⟨ds, hds, hall⟩ := exists_totals (P := fun _ d => P d) h
  refine ⟨ds, hds, hall.length_eq.symm, ?_⟩
  clear h hds
  induction hall with
  | nil => simp
  | cons hd _ ih => exact List.forall_mem_cons.mpr ⟨hd, ih⟩

/-- The sum of products that each have a total in range. -/
theorem exists_productsTotal {e : Extraction} {low high : Nat}
    (htotal : ∀ p ∈ e.products, ∃ d, p.total = .ok d ∧ d.Within low high)
    (hroom : high + 2 * e.products.length ≤ 999999) :
    ∃ d, e.productsTotal = .ok d ∧ d.Within low (high + 2 * e.products.length) := by
  obtain ⟨ds, hds, hlength, hall⟩ := exists_all_totals htotal
  obtain ⟨d, hd, hwithin⟩ := Decimal.sum_within hall (by rwa [hlength])
  refine ⟨d, ?_, by rwa [hlength] at hwithin⟩
  rw [productsTotal, hds]
  exact hd

end Extraction

namespace Document

variable {t : Template} {text : String} {e : Extraction} {total : Decimal}

theorem length_le_of_extracted (h : (extractText t text).outcome = .ok (.extracted e)) :
    text.length ≤ 500000 := by
  have hreadable := (outcome_eq_extracted_iff.mp h).1
  rw [IsUnreadable, not_or, Settings.maxDocument] at hreadable
  exact Nat.le_of_not_lt hreadable.2

theorem two_mul_length_products_le (h : (extractText t text).outcome = .ok (.extracted e)) :
    2 * e.products.length ≤ 500001 := by
  obtain ⟨-, header, lines, -, hlines, rfl⟩ := outcome_eq_extracted_iff.mp h
  have hlength := length_le_of_extracted h
  have hle := ProductLines.two_mul_length_products_le hlines
  dsimp only [Extraction.ofParts]
  omega

theorem exists_total_within (h : (extractText t text).outcome = .ok (.extracted e)) {p : Product}
    (hp : p ∈ e.products) : ∃ d, p.total = .ok d ∧ d.Within 4000 4001 := by
  obtain ⟨row, hrow, hstands⟩ := (extracted_standsIn t text e h).2.2 p hp
  exact hstands.exists_total hrow.length_le

theorem exists_sum_within (h : (extractText t text).outcome = .ok (.extracted e))
    {ps : List Product} (hps : ps <+: e.products) :
    ∃ d, { e with products := ps }.productsTotal = .ok d ∧ d.Within 4000 504002 := by
  have hcount := two_mul_length_products_le h
  have hle := hps.length_le
  obtain ⟨d, hd, hwithin⟩ := Extraction.exists_productsTotal (e := { e with products := ps })
    (fun p hp => exists_total_within h (hps.subset hp)) (by dsimp only; omega)
  exact ⟨d, hd, hwithin.mono (Nat.le_refl _) (by dsimp only; omega)⟩

theorem total_within (h : (extractText t text).outcome = .ok (.extracted e))
    (htotal : e.total = some total) : total.Within 500000 500000 := by
  have hlength := length_le_of_extracted h
  obtain ⟨s, -, hs, hread⟩ := (extracted_standsIn t text e h).2.1 total htotal
  have hstands : Amount.StandsIn text.toList total := ⟨s, hs, hread⟩
  rw [← String.length_toList] at hlength
  exact hstands.within.mono hlength hlength

theorem exists_difference_within (h : (extractText t text).outcome = .ok (.extracted e))
    (htotal : e.total = some total) :
    ∃ sum difference size, e.productsTotal = .ok sum ∧
      sum.sub total = .ok difference ∧ difference.Within 500000 504004 ∧
      difference.abs = .ok size ∧ size.Within 500000 504005 := by
  obtain ⟨sum, hsum, hwithin⟩ := exists_sum_within h List.prefix_rfl
  have hsumwithin : sum.Within 500000 504002 := hwithin.mono (by decide) (Nat.le_refl _)
  have htotalwithin : total.Within 500000 504002 :=
    (total_within h htotal).mono (Nat.le_refl _) (by decide)
  obtain ⟨difference, hdifference, hdwithin⟩ :=
    Decimal.sub_within hsumwithin htotalwithin (by decide)
  obtain ⟨size, hsize, hswithin⟩ := Decimal.abs_within hdwithin (by decide)
  exact ⟨sum, difference, size, hsum, hdifference, hdwithin, hsize, hswithin⟩

end Document

namespace Review

/-- A review only fails when it cannot compare the totals. -/
theorem exists_validate {e : Extraction} {tolerance : Decimal}
    (h : ∀ total, e.total = some total → ∃ sum difference size, e.productsTotal = .ok sum ∧
      sum.sub total = .ok difference ∧ difference.abs = .ok size) :
    ∃ r, (validate tolerance e).outcome = .ok r := by
  rw [exists_validate_iff]
  exact fun total htotal _ => h total htotal

/-- No review of an extraction meets an arithmetic error. Every product has a total, so do the
first products taken together, however many, and the difference between the sum of all and the
declared total can be computed; all these numbers are in range. So every tolerance gives a
review. -/
theorem validate_extracted (t : Template) (text : String) (e : Extraction)
    (h : (Document.extractText t text).outcome = .ok (.extracted e)) :
    (∀ p ∈ e.products, ∃ d, p.total = .ok d ∧ d.InRange) ∧
    (∀ ps, ps <+: e.products →
      ∃ d, { e with products := ps }.productsTotal = .ok d ∧ d.InRange) ∧
    (∀ total, e.total = some total → ∃ sum difference size, e.productsTotal = .ok sum ∧
      sum.sub total = .ok difference ∧ difference.InRange ∧
      difference.abs = .ok size ∧ size.InRange) ∧
    ∀ tolerance, ∃ r, (validate tolerance e).outcome = .ok r := by
  refine ⟨fun p hp => ?_, fun ps hps => ?_, fun total htotal => ?_, fun tolerance =>
    exists_validate fun total htotal => ?_⟩
  · obtain ⟨d, hd, hwithin⟩ := Document.exists_total_within h hp
    exact ⟨d, hd, hwithin.inRange (by decide) (by decide)⟩
  · obtain ⟨d, hd, hwithin⟩ := Document.exists_sum_within h hps
    exact ⟨d, hd, hwithin.inRange (by decide) (by decide)⟩
  · obtain ⟨sum, difference, size, hsum, hdifference, hdwithin, hsize, hswithin⟩ :=
      Document.exists_difference_within h htotal
    exact ⟨sum, difference, size, hsum, hdifference, hdwithin.inRange (by decide) (by decide),
      hsize, hswithin.inRange (by decide) (by decide)⟩
  · obtain ⟨sum, difference, size, hsum, hdifference, -, hsize, -⟩ :=
      Document.exists_difference_within h htotal
    exact ⟨sum, difference, size, hsum, hdifference, hsize⟩

theorem validate_extracted_other_total :
    let t : Template := ⟨none, "t", true, [], none, ⟨none, none, some "12", none⟩,
      ⟨"", "", "(a)(1)(2)", ⟨some 1, some 2, some 3, none, none⟩⟩, none, none⟩
    let p : Product := ⟨"a", ⟨false, 1, 0⟩, ⟨false, 2, 0⟩, none, none, 1⟩
    let e : Extraction := ⟨some "t", none, none, none, some ⟨false, 12, 0⟩, [p], []⟩
    (Document.extractText t "a12").outcome = .ok (.extracted e) ∧
      (∃ d, p.total = .ok d ∧ d.InRange) ∧ ∃ r, (validate Decimal.zero e).outcome = .ok r := by
  intro t p e
  have h : (Document.extractText t "a12").outcome = .ok (.extracted e) := by cbv
  obtain ⟨hproducts, -, -, hreview⟩ := validate_extracted t "a12" e h
  exact ⟨h, hproducts p (List.mem_singleton_self p), hreview Decimal.zero⟩

end Review

end OrderSheet
