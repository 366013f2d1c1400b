import OrderSheet.Proofs.Number.Exact
import OrderSheet.Proofs.Review.Totals

/-!
# The balance of an extraction

As long as 28 digits can write the products that are used, every running sum and the difference to
the declared total, nothing is rounded: the sum of the lines is the exact sum, and the review warns
of the declared total exactly if it differs from this sum by more than the tolerance. The sum is
the same in every order, so the order of the lines does not matter then.
-/

namespace OrderSheet

open Decimal (Representable)

variable {p : Product} {e : Extraction} {total tolerance : Decimal} {r : Review}

def Product.exactTotal (p : Product) : ℚ :=
  match p.lineTotal with
  | some d => d.toRat
  | none => p.quantity.toRat * p.unitPrice.toRat

namespace Extraction

def exactTotal (e : Extraction) : ℚ := (e.products.map Product.exactTotal).sum

/-- 28 digits can write all numbers that a review compares with a declared total. -/
structure Exact (e : Extraction) (total : Decimal) : Prop where
  products : ∀ p ∈ e.products, p.lineTotal = none →
    Representable (p.quantity.toRat * p.unitPrice.toRat)
  sums : ∀ ps, ps <+: e.products → Representable (ps.map Product.exactTotal).sum
  difference : Representable (e.exactTotal - total.toRat)

theorem exists_exact_total (h : p.lineTotal = none →
    Representable (p.quantity.toRat * p.unitPrice.toRat)) :
    ∃ d, p.total = .ok d ∧ d.toRat = p.exactTotal := by
  rw [Product.total, Product.exactTotal]
  cases htotal : p.lineTotal with
  | some d => exact ⟨d, rfl, rfl⟩
  | none => exact Decimal.mul_exact (h htotal)

theorem Exact.exists_productsTotal (h : e.Exact total) :
    ∃ sum, e.productsTotal = .ok sum ∧ sum.toRat = e.exactTotal := by
  obtain ⟨ds, hds, hall⟩ := exists_totals fun p hp => exists_exact_total (h.products p hp)
  have hvalues : ds.map Decimal.toRat = e.products.map Product.exactTotal := by
    rw [← List.forall₂_eq_eq_eq, List.forall₂_map_left_iff, List.forall₂_map_right_iff]
    exact hall.flip
  have hsums (qs : List Decimal) (hqs : qs <+: ds) :
      Representable (qs.map Decimal.toRat).sum := by
    -- the first totals are the totals of the first products
    have hfirst : qs.map Decimal.toRat = (e.products.take qs.length).map Product.exactTotal := by
      rw [List.map_take, ← hvalues, ← List.map_take, ← List.prefix_iff_eq_take.mp hqs]
    rw [hfirst]
    exact h.sums _ (List.take_prefix _ _)
  obtain ⟨sum, hsum, hvalue⟩ := Decimal.sum_exact hsums
  refine ⟨sum, ?_, by rw [hvalue, hvalues, exactTotal]⟩
  rw [productsTotal, hds]
  exact hsum

end Extraction

namespace Review

/-- Nothing that is needed to compare the totals is rounded. -/
theorem exists_size (h : e.Exact total) : ∃ sum difference size, e.productsTotal = .ok sum ∧
    sum.sub total = .ok difference ∧ difference.abs = .ok size ∧
      size.toRat = |e.exactTotal - total.toRat| := by
  obtain ⟨sum, hsum, hexact⟩ := h.exists_productsTotal
  obtain ⟨difference, hdifference, hgap⟩ := Decimal.sub_exact (a := sum) (b := total) <| by
    rw [hexact]
    exact h.difference
  rw [hexact] at hgap
  obtain ⟨size, hsize, habs⟩ := Decimal.abs_exact (d := difference) <| by
    rw [hgap]
    exact h.difference
  exact ⟨sum, difference, size, hsum, hdifference, hsize, by rw [habs, hgap]⟩

/-- An exact comparison gives a review, which warns of every total outside the tolerance and of no
other. -/
theorem exists_validate_exact (tolerance : Decimal) (htotal : e.total = some total)
    (hne : e.products ≠ []) (h : e.Exact total) :
    ∃ r, (validate tolerance e).outcome = .ok r ∧ Verdict tolerance e r ∧
      (r.WarnsOfTotal ↔ tolerance.toRat < |e.exactTotal - total.toRat|) := by
  obtain ⟨sum, difference, size, hsum, hdifference, hsize, hvalue⟩ := exists_size h
  obtain ⟨r, hr⟩ : ∃ r, (validate tolerance e).outcome = .ok r := by
    refine exists_validate fun total' htotal' => ?_
    cases htotal.symm.trans htotal'
    exact ⟨sum, difference, size, hsum, hdifference, hsize⟩
  have hverdict := verdict_of_validate hr
  refine ⟨r, hr, hverdict, hverdict.warnsOfTotal_iff.trans ?_⟩
  rw [exists_mismatch_iff htotal hne hsum hdifference hsize, hvalue]

/-- The total check is exact. If 28 digits can write every product that is used, every running sum
and the difference to the declared total, then the sum of the lines is the exact sum, and a review
with any tolerance warns of the total exactly if the exact difference is strictly larger than the
tolerance. In every other order of the lines for which the same holds, there is a review with the
same verdict. -/
theorem validate_exact (tolerance total : Decimal) (e : Extraction)
    (htotal : e.total = some total) (hne : e.products ≠ []) (h : e.Exact total) :
    (∃ sum, e.productsTotal = .ok sum ∧ sum.toRat = e.exactTotal) ∧
    ∃ r, (validate tolerance e).outcome = .ok r ∧
      (r.WarnsOfTotal ↔ tolerance.toRat < |e.exactTotal - total.toRat|) ∧
      ∀ ps, ps.Perm e.products → { e with products := ps }.Exact total →
        ∃ r', (validate tolerance { e with products := ps }).outcome = .ok r' ∧
          r'.valid = r.valid ∧ (r'.WarnsOfTotal ↔ r.WarnsOfTotal) := by
  obtain ⟨r, hr, hverdict, hwarns⟩ := exists_validate_exact tolerance htotal hne h
  refine ⟨h.exists_productsTotal, r, hr, hwarns, fun ps hps hexact => ?_⟩
  have hne' : ps ≠ [] := fun hnil => hne (List.nil_perm.mp (hnil ▸ hps))
  obtain ⟨r', hr', hverdict', hwarns'⟩ :=
    exists_validate_exact tolerance (e := { e with products := ps }) htotal hne' hexact
  have hsum : ({ e with products := ps } : Extraction).exactTotal = e.exactTotal :=
    (hps.map Product.exactTotal).sum_eq
  refine ⟨r', hr', ?_, by rw [hwarns', hwarns, hsum]⟩
  rw [Bool.eq_iff_iff, hverdict'.valid_iff, hverdict.valid_iff]
  simp [hps.mem_iff, hne, hne']

/-- A gap of exactly the tolerance is accepted. -/
theorem validate_exact_at_tolerance :
    let p : Product := ⟨"a", ⟨false, 3, 0⟩, ⟨false, 10, -2⟩, none, none, 1⟩
    let q : Product := ⟨"b", ⟨false, 1, 0⟩, ⟨false, 7, 0⟩, none, some ⟨true, 5, -2⟩, 2⟩
    let total : Decimal := ⟨false, 3, -1⟩
    let e : Extraction := ⟨none, none, none, none, some total, [p, q], []⟩
    e.total = some total ∧ e.products ≠ [] ∧ e.Exact total ∧
      ∃ r, (validate ⟨false, 5, -2⟩ e).outcome = .ok r ∧ ¬ r.WarnsOfTotal := by
  intro p q total e
  have hp : p.exactTotal = 3 / 10 := by
    norm_num [p, Product.exactTotal, Decimal.toRat, Decimal.magnitude]
  have hq : q.exactTotal = -(1 / 20) := by
    norm_num [q, Product.exactTotal, Decimal.toRat, Decimal.magnitude]
  have htotal : total.toRat = 3 / 10 := by norm_num [total, Decimal.toRat, Decimal.magnitude]
  have hsum : e.exactTotal = 1 / 4 := by norm_num [e, Extraction.exactTotal, hp, hq]
  have hwritten (d : Decimal) {x : ℚ} (hx : d.toRat = x)
      (h : d.digits.length ≤ Decimal.precision ∧ -Decimal.maxLeading ≤ d.leading ∧
        d.leading ≤ Decimal.maxLeading) : Representable x := ⟨d, hx, h.1, .inr h.2⟩
  have h : e.Exact total := by
    refine ⟨fun x hx hnone => ?_, fun ps hps => ?_, ?_⟩
    · obtain rfl | rfl := List.mem_pair.mp hx
      · exact hwritten total (htotal.trans hp.symm) (by decide)
      · cases hnone
    · obtain rfl | ⟨_, rfl, rfl | rfl⟩ :
          ps = [] ∨ ∃ t, ps = p :: t ∧ (t = [] ∨ t = [q]) := by
        simpa [e, List.prefix_cons_iff] using hps
      · exact ⟨Decimal.zero, Decimal.toRat_eq_zero_iff.mpr rfl, by decide, .inl rfl⟩
      · exact hwritten total (by simp [hp, htotal]) (by decide)
      · refine hwritten ⟨false, 25, -2⟩ ?_ (by decide)
        norm_num [hp, hq, Decimal.toRat, Decimal.magnitude]
    · refine hwritten ⟨true, 5, -2⟩ ?_ (by decide)
      rw [hsum, htotal]
      norm_num [Decimal.toRat, Decimal.magnitude]
  refine ⟨rfl, by simp [e], h, ?_⟩
  obtain ⟨-, r, hr, hwarns, -⟩ := validate_exact ⟨false, 5, -2⟩ total e rfl (by simp [e]) h
  refine ⟨r, hr, ?_⟩
  rw [hwarns, hsum, htotal]
  norm_num [Decimal.toRat, Decimal.magnitude, abs_of_nonneg]

end Review

end OrderSheet
