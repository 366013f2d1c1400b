import Mathlib.Data.List.Forall2
import OrderSheet.Proofs.Extract.Lines
import OrderSheet.Proofs.Layout.Division
import OrderSheet.Proofs.Text.Lines

/-!
# Reading written tables

A table that is written by a layout, one product on a line with any whitespace between its columns,
is read back by the pattern of the layout as the products that were written.
-/

namespace OrderSheet

open Text

namespace Layout

structure Row where
  line : List Char
  texts : List (List Char)
  deriving DecidableEq, Repr

def amountOf? (f : List Char) : Option Decimal := Amount.read? Amount.Format.commaDecimal f

structure Writes (columns : List Column) (row : Row) : Prop where
  splits : Splits columns row.line row.texts
  trimmed : ∀ f ∈ textsOf .text columns row.texts, strip f = f
  quantities : ∀ f ∈ textsOf .number columns row.texts, (amountOf? f).isSome
  prices : ∀ f ∈ textsOf .price columns row.texts, (amountOf? f).isSome
  short : row.line.length ≤ Settings.maxLine

/-- A product on line `number` that has the texts of the columns as its fields. -/
structure Shows (columns : List Column) (texts : List (List Char)) (number : Nat) (p : Product) :
    Prop where
  description : textsOf .text columns texts = [p.description.toList]
  quantity : ∃ f, textsOf .number columns texts = [f] ∧ amountOf? f = some p.quantity
  unitPrice : ∃ f, (textsOf .price columns texts)[0]? = some f ∧ amountOf? f = some p.unitPrice
  lineTotal : p.lineTotal = (textsOf .price columns texts)[1]?.bind amountOf?
  sku : p.sku = (textsOf .code columns texts)[0]?.map String.ofList
  line : p.line = number

variable {columns : List Column} {line : List Char} {fs gs : List (List Char)} {k : ColumnKind}
  {row : Row} {p : LinePattern} {m : Regex.Match} {mapping : FieldMapping}

theorem textsOf_map_strip (k : ColumnKind) (columns : List Column) (fs : List (List Char)) :
    textsOf k columns (fs.map strip) = (textsOf k columns fs).map strip := by
  simp [textsOf, List.zip_map_right, List.filter_map, Function.comp_def]

theorem length_textsOf (h : fs.length = columns.length) :
    (textsOf k columns fs).length = count k columns := by
  induction columns generalizing fs with
  | nil => simp [textsOf, count]
  | cons c cs ih =>
    obtain ⟨f, fs, rfl⟩ := List.exists_cons_of_length_eq_add_one h
    rw [textsOf_cons, count_cons, ← ih (by simpa using h)]
    split <;> simp

namespace Splits

theorem admits (h : Splits columns line fs) :
    ∀ f ∈ textsOf k columns fs, k.Admits f ∧ ∀ c ∈ f, c ∈ line := by
  induction h with
  | @last c f hf =>
    intro g hg
    rw [textsOf_cons] at hg
    split at hg
    · next hc =>
      obtain rfl : g = f := by simpa [textsOf] using hg
      exact ⟨hc ▸ hf, fun _ => id⟩
    · simp [textsOf] at hg
  | @cons c cs f gap line fs hf _ _ ih =>
    have hrest : ∀ g ∈ textsOf k cs fs, k.Admits g ∧ ∀ c ∈ g, c ∈ f ++ (gap ++ line) := by
      intro g hg
      refine ⟨(ih g hg).1, fun c hc => ?_⟩
      exact List.mem_append_right _ (List.mem_append_right _ ((ih g hg).2 c hc))
    intro g hg
    rw [textsOf_cons] at hg
    split at hg
    · next hc =>
      rcases List.mem_cons.mp hg with rfl | hg
      · exact ⟨hc ▸ hf, fun c hc => List.mem_append_left _ hc⟩
      · exact hrest g hg
    · exact hrest g hg

theorem admits_ne_nil {k : ColumnKind} {f : List Char} (h : k.Admits f) : f ≠ [] := by
  rintro rfl
  cases k with
  | text => simp [ColumnKind.Admits] at h
  | number | price =>
    obtain ⟨d, ds, hnil, -⟩ := h
    cases hnil
  | code | ignored => exact h.1 rfl

theorem strip_eq_of_admits {c : Column} {f : List Char} (hf : c.kind.Admits f)
    (htext : c.kind = .text → strip f = f) : strip f = f := by
  by_cases hc : c.kind = .text
  · exact htext hc
  · exact (ColumnKind.word_of_admits hc hf).strip_eq

/-- The texts of a division have no whitespace around them if those of its text columns have
none. -/
theorem strip_eq (h : Splits columns line fs)
    (htext : ∀ f ∈ textsOf .text columns fs, strip f = f) : ∀ f ∈ fs, strip f = f := by
  induction h with
  | last hf =>
    intro g hg
    obtain rfl := List.mem_singleton.mp hg
    exact strip_eq_of_admits hf fun hc => htext g (by simp [textsOf_cons, hc])
  | cons hf _ _ ih =>
    intro g hg
    rcases List.mem_cons.mp hg with rfl | hg
    · exact strip_eq_of_admits hf fun hc => htext g (by simp [textsOf_cons, hc])
    · refine ih (fun f hf => htext f ?_) g hg
      rw [textsOf_cons]
      split
      · exact List.mem_cons_of_mem _ hf
      · exact hf

theorem line_ne_nil (h : Splits columns line fs) : line ≠ [] := by
  cases h with
  | last hf => exact admits_ne_nil hf
  | cons hf => exact List.append_ne_nil_of_left_ne_nil (admits_ne_nil hf) _

/-- A line whose texts have no whitespace around them has none either. -/
theorem strip_line_eq (h : Splits columns line fs) (hfs : ∀ f ∈ fs, strip f = f) :
    strip line = line := by
  induction h with
  | last => exact hfs _ (by simp)
  | @cons c cs f gap line fs hf _ hrest ih =>
    have hfirst := strip_eq_self_iff.mp (hfs f (by simp))
    have hlast := strip_eq_self_iff.mp (ih fun g hg => hfs g (List.mem_cons_of_mem _ hg))
    refine strip_eq_self_iff.mpr ⟨?_, ?_⟩
    · rw [List.head?_append_of_ne_nil _ (admits_ne_nil hf)]
      exact hfirst.1
    · rw [← List.append_assoc, List.getLast?_append_of_ne_nil _ hrest.line_ne_nil]
      exact hlast.2

end Splits

theorem count_text_le (h : compile columns = .ok p) : count .text columns ≤ 1 :=
  count_le_of_compile h rfl

/-- Every division of a written row has the texts that were written, up to whitespace around
them. -/
theorem map_strip_of_writes (hcompile : compile columns = .ok p) (h : Writes columns row)
    (hsplits : Splits columns row.line gs) : gs.map strip = row.texts := by
  rw [← h.splits.strip_unique (count_text_le hcompile) hsplits rfl]
  calc row.texts.map strip = row.texts.map id :=
        List.map_congr_left fun f hf => h.splits.strip_eq h.trimmed f hf
    _ = row.texts := List.map_id _

theorem fieldText_of_captured (hmapping : Layout.mapping columns = .ok mapping)
    (hgroups : m.groups = (captured columns gs).map some) (f : ProductField) :
    ProductLines.fieldText m mapping f =
      (textsOf f.source.1 columns (gs.map strip))[f.source.2]?.map String.ofList := by
  have hgroup (i : Nat) (hi : 0 < i) : m.group? i = (captured columns gs)[i - 1]? := by
    rw [Regex.Match.group?, if_neg (by simp; omega), hgroups, List.getElem?_map]
    cases (captured columns gs)[i - 1]? <;> rfl
  have hbind : (groupOf f.source.1 f.source.2 columns).bind m.group? =
      (textsOf f.source.1 columns gs)[f.source.2]? := by
    rw [← captured_groupOf (ColumnKind.captures_source f)]
    cases h : groupOf f.source.1 f.source.2 columns with
    | none => rfl
    | some i => exact hgroup i (groupOf_pos h)
  rw [ProductLines.fieldText, get_mapping hmapping, hbind, textsOf_map_strip, List.getElem?_map,
    Option.map_map]
  rfl

theorem amount?_of_captured (hmapping : Layout.mapping columns = .ok mapping)
    (hgroups : m.groups = (captured columns gs).map some) (f : ProductField) :
    ProductLines.amount? m mapping f =
      (textsOf f.source.1 columns (gs.map strip))[f.source.2]?.bind amountOf? := by
  rw [ProductLines.amount?, fieldText_of_captured hmapping hgroups, Option.bind_map]
  congr 1
  funext f
  simp [amountOf?]

theorem bind_nonEmpty?_code (h : Splits columns line fs) :
    ((textsOf .code columns fs)[0]?.map String.ofList).bind nonEmpty? =
      (textsOf .code columns fs)[0]?.map String.ofList := by
  cases hf : (textsOf .code columns fs)[0]? with
  | none => rfl
  | some f =>
    have hne := Splits.admits_ne_nil (h.admits f (List.mem_of_getElem? hf)).1
    simp [nonEmpty?, hne]

variable {number : Nat}

/-- The total of a written row is not a problem: it is not mapped, or it can be read. -/
theorem totalProblems_of_writes (hmapping : Layout.mapping columns = .ok mapping)
    (h : Writes columns row) (hgroups : m.groups = (captured columns gs).map some)
    (htexts : gs.map strip = row.texts) : ProductLines.totalProblems m mapping number = [] := by
  unfold ProductLines.totalProblems
  split
  · next hmapped =>
    change (mapping.get .lineTotal).isSome = true at hmapped
    rw [get_mapping hmapping, isSome_groupOf, ← length_textsOf h.splits.length_eq] at hmapped
    obtain ⟨d, hd⟩ := Option.isSome_iff_exists.mp (h.prices _ (List.getElem_mem hmapped))
    refine ProductLines.fieldProblems_of_amount (d := d) ?_
    rw [amount?_of_captured hmapping hgroups, htexts, ← hd]
    exact congrArg (Option.bind · amountOf?) (List.getElem?_eq_getElem hmapped)
  · rfl

/-- A match that has the texts of a written row in its groups is the product of the row. -/
theorem shows_product (hmapping : Layout.mapping columns = .ok mapping) (h : Writes columns row)
    (htext : count .text columns = 1) (hnumber : count .number columns = 1)
    (hprice : count .price columns ≠ 0) (hgroups : m.groups = (captured columns gs).map some)
    (htexts : gs.map strip = row.texts) :
    ∃ product, ProductLines.product m mapping number = (some product, []) ∧
      Shows columns row.texts number product := by
  have hlen (k : ColumnKind) := length_textsOf (k := k) h.splits.length_eq
  have hamount := amount?_of_captured hmapping hgroups
  have hfield := fieldText_of_captured hmapping hgroups
  rw [htexts] at hamount hfield
  obtain ⟨description, hdescription⟩ := List.length_eq_one_iff.mp ((hlen .text).trans htext)
  obtain ⟨quantity, hquantity⟩ := List.length_eq_one_iff.mp ((hlen .number).trans hnumber)
  obtain ⟨price, prices, hprices⟩ : ∃ f fs, textsOf .price columns row.texts = f :: fs := by
    refine List.exists_cons_of_ne_nil fun hnil => hprice ?_
    rw [← hlen, hnil, List.length_nil]
  obtain ⟨q, hq⟩ := Option.isSome_iff_exists.mp (h.quantities quantity (by simp [hquantity]))
  obtain ⟨u, hu⟩ := Option.isSome_iff_exists.mp (h.prices price (by simp [hprices]))
  have hqread : ProductLines.amount? m mapping .quantity = some q := by
    rw [hamount, ← hq]
    exact congrArg (fun fs : List (List Char) => fs[0]?.bind amountOf?) hquantity
  have huread : ProductLines.amount? m mapping .unitPrice = some u := by
    rw [hamount, ← hu]
    exact congrArg (fun fs : List (List Char) => fs[0]?.bind amountOf?) hprices
  rw [ProductLines.product_eq, hqread, huread, ProductLines.fieldProblems_of_amount hqread,
    ProductLines.fieldProblems_of_amount huread, totalProblems_of_writes hmapping h hgroups htexts]
  refine ⟨_, rfl, ?_, ⟨quantity, hquantity, hq⟩, ⟨price, by simp [hprices], hu⟩, ?_, ?_, rfl⟩
  · rw [hfield]
    simp [ProductField.source, hdescription]
  · exact hamount .lineTotal
  · change (ProductLines.fieldText m mapping .sku).bind nonEmpty? = _
    rw [hfield]
    exact bind_nonEmpty?_code h.splits

/-- The pattern of a layout reads a written row, with nothing to report. -/
theorem contribution_of_writes (hcompile : compile columns = .ok p) (h : Writes columns row)
    (htext : count .text columns = 1) (hnumber : count .number columns = 1)
    (hprice : count .price columns ≠ 0) (hline : OneLine row.line) (number : Nat) :
    ∃ product, ProductLines.contribution ⟨node columns, groups columns⟩ p.mapping
        ⟨number, row.line⟩ = (some product, []) ∧ Shows columns row.texts number product := by
  obtain ⟨mapping, hmapping, rfl⟩ := compile_eq_ok_iff.mp hcompile
  have hfeed := hline.feed_not_mem
  obtain ⟨m, hm⟩ := Option.isSome_iff_exists.mp (isSome_search h.splits hfeed)
  obtain ⟨-, -, -, gs, hsplits, hgroups⟩ := splits_of_search h.splits.columns_ne_nil hfeed hm
  rw [ProductLines.contribution_of_search hm]
  exact shows_product hmapping h htext hnumber hprice hgroups
    (map_strip_of_writes hcompile h hsplits)

theorem isSeparator_of_writes (h : Writes columns row) (hnumber : count .number columns ≠ 0)
    (number : Nat) : Table.Line.isSeparator ⟨number, row.line⟩ = false := by
  obtain ⟨f, hf⟩ : ∃ f, f ∈ textsOf .number columns row.texts := by
    refine List.exists_mem_of_ne_nil _ fun hnil => hnumber ?_
    rw [← length_textsOf h.splits.length_eq, hnil, List.length_nil]
  obtain ⟨⟨d, ds, rfl, hd, -⟩, hmem⟩ := h.splits.admits f hf
  refine List.all_eq_false.mpr ⟨d, hmem d (by simp), ?_⟩
  have hdash : d ≠ '-' := by
    rintro rfl
    revert hd
    decide
  simp [isBlank_of_isDigit hd, hdash]

end Layout

namespace Table

/-- Lines with their numbers, where `n` lines come before them. -/
def numbered (n : Nat) (ls : List (List Char)) : List Line :=
  (ls.zipIdx n).map fun (l, i) => ⟨i + 1, strip l⟩

variable {n : Nat} {start stop top bottom : List Char} {before body after ls : List (List Char)}

theorem numbered_cons (n : Nat) (l : List Char) (ls : List (List Char)) :
    numbered n (l :: ls) = ⟨n + 1, strip l⟩ :: numbered (n + 1) ls := rfl

theorem numbered_append (n : Nat) (ls ms : List (List Char)) :
    numbered n (ls ++ ms) = numbered n ls ++ numbered (n + ls.length) ms := by
  simp [numbered, List.zipIdx_append]

theorem forall_mem_numbered {P : List Char → Prop} (h : ∀ l ∈ ls, P (strip l)) :
    ∀ l ∈ numbered n ls, P l.text := by
  intro l hl
  obtain ⟨⟨cs, i⟩, hmem, rfl⟩ := List.mem_map.mp hl
  exact h cs (List.fst_mem_of_mem_zipIdx hmem)

theorem between_eq (hstart : start ≠ []) (hstop : stop ≠ [])
    (hbefore : ∀ l ∈ before, hasPart start (strip l) = false)
    (htop : hasPart start (strip top) = true) (hbody : ∀ l ∈ body, hasPart stop (strip l) = false)
    (hbottom : hasPart stop (strip bottom) = true) :
    between start stop (numbered 0 (before ++ top :: (body ++ bottom :: after))) =
      numbered (before.length + 1) body := by
  have hskip : ∀ l ∈ numbered 0 before, decide (¬ start <:+: l.text) = true :=
    forall_mem_numbered (P := fun cs => decide (¬ start <:+: cs) = true) fun l hl =>
      decide_eq_true (hasPart_iff.not.mp (by simp [hbefore l hl]))
  have hkeep : ∀ l ∈ numbered (before.length + 1) body, decide (¬ stop <:+: l.text) = true :=
    forall_mem_numbered (P := fun cs => decide (¬ stop <:+: cs) = true) fun l hl =>
      decide_eq_true (hasPart_iff.not.mp (by simp [hbody l hl]))
  rw [numbered_append, Nat.zero_add, numbered_cons, numbered_append, numbered_cons, between,
    beforeEnd, if_neg hstop, behindStart, if_neg hstart, List.dropWhile_append_of_pos hskip,
    List.dropWhile_cons_of_neg (by simpa using hasPart_iff.mp htop), List.tail_cons,
    List.takeWhile_append_of_pos hkeep,
    List.takeWhile_cons_of_neg (by simpa using hasPart_iff.mp hbottom), List.append_nil]

end Table

namespace Layout

variable {rows : List Row} {before after : List (List Char)} {top bottom : List Char}
  {text start stop : String}

/-- The rows of a written table are the lines that its pattern is tried on. -/
theorem candidates_of_writes (hnumber : count .number columns ≠ 0) (n : Nat)
    (hrows : ∀ row ∈ rows, Writes columns row) :
    Table.candidates ((Table.numbered n (rows.map Row.line)).filter fun l => !l.isSeparator) =
      (rows.zipIdx (n + 1)).map fun (row, i) => ⟨i, row.line⟩ := by
  induction rows generalizing n with
  | nil => rfl
  | cons row rows ih =>
    have h := hrows row (by simp)
    have hstrip : strip row.line = row.line := h.splits.strip_line_eq (h.splits.strip_eq h.trimmed)
    have hshort : Table.Line.isOversized ⟨n + 1, row.line⟩ = false := by
      simpa [Table.Line.isOversized] using h.short
    rw [List.map_cons, Table.numbered_cons, hstrip, List.filter_cons_of_pos (by
      simp [isSeparator_of_writes h hnumber]), Table.candidates,
      List.filter_cons_of_pos (by simp [hshort]), List.zipIdx_cons, List.map_cons]
    exact congrArg _ (ih (n + 1) fun r hr => hrows r (List.mem_cons_of_mem _ hr))

/-- Rows that are read one by one give their products in order. -/
theorem forall₂_contribution {r : Regex} {mapping : FieldMapping} (n : Nat)
    (hrows : ∀ row ∈ rows, ∀ number, ∃ product,
      ProductLines.contribution r mapping ⟨number, row.line⟩ = (some product, []) ∧
        Shows columns row.texts number product) :
    let lines := (rows.zipIdx n).map fun (row, i) => (⟨i, row.line⟩ : Table.Line)
    (lines.flatMap fun l => (ProductLines.contribution r mapping l).2) = [] ∧
      List.Forall₂ (fun row product => Shows columns row.1.texts row.2 product) (rows.zipIdx n)
        (lines.filterMap fun l => (ProductLines.contribution r mapping l).1) := by
  induction rows generalizing n with
  | nil => exact ⟨rfl, .nil⟩
  | cons row rows ih =>
    obtain ⟨product, hproduct, hshows⟩ := hrows row (by simp) n
    obtain ⟨hproblems, hproducts⟩ := ih (n + 1) fun r hr => hrows r (List.mem_cons_of_mem _ hr)
    simp only [List.zipIdx_cons, List.map_cons, List.flatMap_cons, List.filterMap_cons, hproduct,
      hproblems]
    exact ⟨rfl, .cons hshows hproducts⟩

/-- A table that is written by a layout between its markers is read as the products of its rows,
in order and with their lines, and without a problem. -/
theorem extract_written (hcompile : compile columns = .ok p) (htext : count .text columns ≠ 0)
    (hnumber : count .number columns ≠ 0) (hprice : count .price columns ≠ 0)
    (hstart : start ≠ "") (hstop : stop ≠ "")
    (hlines : splitLines text.toList = before ++ top :: (rows.map Row.line ++ bottom :: after))
    (hbefore : ∀ l ∈ before, hasPart start.toList (strip l) = false)
    (htop : hasPart start.toList (strip top) = true)
    (hbottom : hasPart stop.toList (strip bottom) = true)
    (hrows : ∀ row ∈ rows, Writes columns row ∧ hasPart stop.toList row.line = false) :
    ∃ products, (ProductLines.extract text (TableRule.ofLinePattern p start stop)).outcome =
        .ok ⟨products, []⟩ ∧
      List.Forall₂ (fun row product => Shows columns row.1.texts row.2 product)
        (rows.zipIdx (before.length + 2)) products := by
  have hone : count .text columns = 1 := by
    have := count_text_le hcompile
    omega
  have honly : count .number columns = 1 := by
    have : count .number columns ≤ 1 := count_le_of_compile hcompile rfl
    omega
  have hne : columns ≠ [] := by
    rintro rfl
    exact htext rfl
  have hregex := compile_pattern_of_compile hne hcompile
  obtain ⟨mapping, hmapping, rfl⟩ := compile_eq_ok_iff.mp hcompile
  have hfit : mapping.fault? (groups columns) = none := by
    refine fault?_mapping hmapping fun f hf => ?_
    simp only [ProductField.required, List.mem_cons, List.not_mem_nil, or_false] at hf
    rcases hf with rfl | rfl | rfl <;> simp only [ProductField.source] <;> omega
  have hpattern : pattern columns ≠ "" := by
    intro hempty
    have := toList_pattern hne
    rw [hempty] at this
    cases this
  have hrow : ∀ row ∈ rows, row.line ∈ splitLines text.toList ∧ strip row.line = row.line := by
    intro row hmem
    have h := (hrows row hmem).1
    refine ⟨?_, h.splits.strip_line_eq (h.splits.strip_eq h.trimmed)⟩
    rw [hlines]
    simp only [List.mem_append, List.mem_cons, List.mem_map]
    exact Or.inr (Or.inr (Or.inl ⟨row, hmem, rfl⟩))
  have hcandidates : Table.candidates (Table.rows text start stop) =
      (rows.zipIdx (before.length + 2)).map fun (row, i) => ⟨i, row.line⟩ := by
    have hlist : Table.lines text.toList = Table.numbered 0 (splitLines text.toList) := rfl
    rw [Table.rows_eq, hlist, hlines, Table.between_eq (by simpa using hstart) (by simpa using hstop)
      hbefore htop ?_ hbottom]
    · exact candidates_of_writes hnumber _ fun row hmem => (hrows row hmem).1
    · intro l hl
      obtain ⟨row, hmem, rfl⟩ := List.mem_map.mp hl
      rw [(hrow row hmem).2]
      exact (hrows row hmem).2
  obtain ⟨hproblems, hproducts⟩ := forall₂_contribution (before.length + 2)
    fun row hmem number => contribution_of_writes hcompile (hrows row hmem).1 hone honly hprice
      (oneLine_of_mem_splitLines (hrow row hmem).1) number
  refine ⟨_, ?_, hproducts⟩
  rw [ProductLines.extract_of_fit text (TableRule.ofLinePattern ⟨pattern columns, mapping⟩ ..)
    hpattern hregex hfit, ProductLines.outcome_readRows]
  simp only [TableRule.ofLinePattern, hcandidates, hproblems]

theorem extract_written_single :
    ∃ product, (ProductLines.extract
      (String.ofList (ofLines [['<'], ['4', ' ', 'x', ' ', '2', ' ', '9', ',', '5'], ['>']]))
      (TableRule.ofLinePattern
        ⟨pattern [⟨none, .text, "Text"⟩, ⟨none, .number, "Number"⟩, ⟨none, .price, "Price"⟩],
          ⟨some 1, some 2, some 3, none, none⟩⟩ "<" ">")).outcome = .ok ⟨[product], []⟩ := by
  have hsplits : Splits
      [⟨none, .text, "Text"⟩, ⟨none, .number, "Number"⟩, ⟨none, .price, "Price"⟩]
      (['4', ' ', 'x'] ++ ([' '] ++ (['2'] ++ ([' '] ++ ['9', ',', '5']))))
      [['4', ' ', 'x'], ['2'], ['9', ',', '5']] := by
    refine .cons ⟨by decide, by decide⟩ gap_space
      (.cons ⟨'2', [], rfl, by decide, by simp⟩ gap_space
        (.last ⟨'9', [',', '5'], rfl, by decide, ?_⟩))
    intro c hc
    rcases List.mem_pair.mp hc with rfl | rfl
    · exact Or.inr (Or.inr rfl)
    · exact Or.inl (by decide)
  have hcompile :
      compile [⟨none, .text, "Text"⟩, ⟨none, .number, "Number"⟩, ⟨none, .price, "Price"⟩] =
        .ok ⟨pattern [⟨none, .text, "Text"⟩, ⟨none, .number, "Number"⟩, ⟨none, .price, "Price"⟩],
          ⟨some 1, some 2, some 3, none, none⟩⟩ := rfl
  have hlines : splitLines
      (String.ofList (ofLines [['<'], ['4', ' ', 'x', ' ', '2', ' ', '9', ',', '5'], ['>']])).toList =
      [] ++ ['<'] :: ([(⟨['4', ' ', 'x', ' ', '2', ' ', '9', ',', '5'],
        [['4', ' ', 'x'], ['2'], ['9', ',', '5']]⟩ : Row)].map Row.line ++ ['>'] :: []) := by
    rw [String.toList_ofList]
    decide
  obtain ⟨products, houtcome, hshows⟩ := extract_written hcompile (by decide) (by decide)
    (by decide) (show "<" ≠ "" by decide) (show ">" ≠ "" by decide) hlines nofun (by decide)
    (by decide) (by
      rintro row (_ | ⟨_, ⟨⟩⟩)
      exact ⟨⟨hsplits, by decide, by decide, by decide, by decide⟩, by decide⟩)
  cases hshows with
  | cons hshow hrest =>
    cases hrest
    exact ⟨_, houtcome⟩

end Layout

end OrderSheet
