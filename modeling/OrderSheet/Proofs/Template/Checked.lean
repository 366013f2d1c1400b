import Mathlib
import OrderSheet.Proofs.Template.Mapping
import OrderSheet.Proofs.Text.Words
import OrderSheet.Template.Check

/-!
# Templates that have passed their check

A check that passes says something about every field of the template, and checking the field once
more would not change it.
-/

namespace OrderSheet

variable {α β : Type}

namespace Check

theorem seq_eq_pass {f : Check (α → β)} {x : Check α} {b : β} :
    f <*> x = .pass b ↔ ∃ g a, f = .pass g ∧ x = .pass a ∧ g a = b := by
  constructor
  · intro h
    have happly : apply f x = .pass b := h
    unfold apply at happly
    split at happly
    · exact ⟨_, _, rfl, rfl, by simpa using happly⟩
    all_goals cases happly
  · rintro ⟨g, a, rfl, rfl, rfl⟩
    rfl

theorem map_eq_pass {f : α → β} {x : Check α} {b : β} :
    f <$> x = .pass b ↔ ∃ a, x = .pass a ∧ f a = b := by
  cases x <;> simp [Functor.map, map]

theorem inside_eq_pass {step : String} {x : Check α} {a : α} :
    inside step x = .pass a ↔ x = .pass a := by
  rcases x with a | r
  · rfl
  · cases r <;> simp [inside]

end Check

namespace Data

theorem given_eq_pass {entries : List (Data × Data)} {name : String} {check : Data → Check α}
    {default a : α} (h : given entries name check default = .pass a) :
    a = default ∨ ∃ d, check d = .pass a := by
  rw [given] at h
  split at h
  · exact .inr ⟨_, Check.inside_eq_pass.mp h⟩
  · exact .inl (by simpa using h.symm)

theorem length_of_checkShortText {limit : Nat} {d : Data} {s : String}
    (h : checkShortText limit d = .pass s) : s.length ≤ limit := by
  rw [checkShortText] at h
  cases hd : checkText d with
  | fail r => simp [hd, Check.andThen] at h
  | pass t =>
    rw [hd, Check.andThen] at h
    split at h
    · obtain rfl := by simpa using h
      assumption
    · simp [Check.complain] at h

theorem positive_of_checkPositive {d : Data} {n : Nat} (h : checkPositive d = .pass n) : 0 < n := by
  rw [checkPositive] at h
  cases hd : checkInteger d with
  | fail r => simp [hd, Check.andThen] at h
  | pass i =>
    rw [hd, Check.andThen] at h
    split at h
    · obtain rfl := by simpa using h
      omega
    · simp [Check.complain] at h

theorem of_checkOptional {check : Data → Check α} {d : Data} {o : Option α}
    (h : checkOptional check d = .pass o) : ∀ a ∈ o, ∃ d, check d = .pass a := by
  intro a ha
  unfold checkOptional at h
  split at h
  · obtain rfl := by simpa using h
    simp at ha
  · obtain ⟨b, hb, rfl⟩ := Check.map_eq_pass.mp h
    obtain rfl : b = a := by simpa using ha
    exact ⟨_, hb⟩

/-- Adds a word to those kept, trimmed, unless it is blank or among them. -/
def keepWord (kept : List String) (w : String) : List String :=
  let word := String.ofList (Text.strip w.toList)
  if word.isEmpty || kept.contains word then kept else kept ++ [word]

theorem cleanKeywords_eq (ws : List String) : cleanKeywords ws = ws.foldl keepWord [] := rfl

/-- Trimmed words, none of them blank and none of them twice. -/
structure CleanWords (ws : List String) : Prop where
  trimmed : ∀ w ∈ ws, Text.strip w.toList = w.toList
  nonempty : ∀ w ∈ ws, w.isEmpty = false
  nodup : ws.Nodup

theorem CleanWords.keepWord {kept : List String} (h : CleanWords kept) (w : String) :
    CleanWords (keepWord kept w) := by
  unfold Data.keepWord
  dsimp only
  split
  · exact h
  · rename_i hnew
    simp only [Bool.or_eq_true, not_or, Bool.not_eq_true, List.contains_eq_mem,
      decide_eq_false_iff_not] at hnew
    refine ⟨fun v hv => ?_, fun v hv => ?_, ?_⟩
    · rcases List.mem_append.mp hv with hv | hv
      · exact h.trimmed v hv
      · obtain rfl := List.mem_singleton.mp hv
        rw [String.toList_ofList, Text.strip_strip]
    · rcases List.mem_append.mp hv with hv | hv
      · exact h.nonempty v hv
      · obtain rfl := List.mem_singleton.mp hv
        exact hnew.1
    · rw [List.nodup_append]
      refine ⟨h.nodup, by simp, fun a ha b hb => ?_⟩
      obtain rfl := List.mem_singleton.mp hb
      exact fun heq => hnew.2 (heq ▸ ha)

theorem cleanWords_cleanKeywords (ws : List String) : CleanWords (cleanKeywords ws) := by
  have hfold : ∀ (vs kept : List String),
      CleanWords kept → CleanWords (vs.foldl keepWord kept) := by
    intro vs
    induction vs with
    | nil => exact fun kept h => h
    | cons v vs ih =>
      intro kept h
      rw [List.foldl_cons]
      exact ih _ (h.keepWord v)
  exact hfold ws [] ⟨by simp, by simp, by simp⟩

theorem CleanWords.cleanKeywords_eq {ws : List String} (h : CleanWords ws) :
    cleanKeywords ws = ws := by
  have hfold : ∀ (vs kept : List String), CleanWords (kept ++ vs) →
      vs.foldl Data.keepWord kept = kept ++ vs := by
    intro vs
    induction vs with
    | nil => simp
    | cons v vs ih =>
      intro kept hclean
      have htrimmed : String.ofList (Text.strip v.toList) = v := by
        rw [hclean.trimmed v (by simp), String.ofList_toList]
      have hempty : v.isEmpty = false := hclean.nonempty v (by simp)
      have hnew : v ∉ kept := fun hv =>
        (List.nodup_append.mp hclean.nodup).2.2 v hv v (by simp) rfl
      have hkeep : Data.keepWord kept v = kept ++ [v] := by
        simp [Data.keepWord, htrimmed, hempty, hnew]
      rw [List.foldl_cons, hkeep, ih (kept ++ [v]) (by simpa using hclean)]
      simp
  exact hfold ws [] h

def trimmed (w : String) : String := String.ofList (Text.strip w.toList)

theorem mem_keepWord {kept : List String} {v w : String} :
    w ∈ keepWord kept v ↔ w ∈ kept ∨ w.isEmpty = false ∧ w = trimmed v := by
  unfold keepWord
  dsimp only
  rw [← trimmed]
  split
  · rename_i hdropped
    refine ⟨.inl, fun h => ?_⟩
    rcases h with h | ⟨hne, rfl⟩
    · exact h
    · simpa [hne] using hdropped
  · rename_i hnew
    simp only [Bool.or_eq_true, not_or, Bool.not_eq_true] at hnew
    rw [List.mem_append, List.mem_singleton]
    exact or_congr_right ⟨fun h => ⟨h ▸ hnew.1, h⟩, And.right⟩

/-- What is left of some words are those that are not blank, trimmed. -/
theorem mem_cleanKeywords_iff {ws : List String} {w : String} :
    w ∈ cleanKeywords ws ↔ w.isEmpty = false ∧ ∃ v ∈ ws, w = trimmed v := by
  have hfold (vs kept : List String) : w ∈ vs.foldl keepWord kept ↔
      w ∈ kept ∨ w.isEmpty = false ∧ ∃ v ∈ vs, w = trimmed v := by
    induction vs generalizing kept with
    | nil => simp
    | cons v vs ih =>
      rw [List.foldl_cons, ih, mem_keepWord]
      simp only [List.mem_cons, exists_eq_or_imp, and_or_left, or_assoc]
  rw [Data.cleanKeywords_eq, hfold ws []]
  simp

theorem mem_cleanKeywords {ws : List String} {w : String} (h : w ∈ cleanKeywords ws) :
    ∃ v ∈ ws, w = String.ofList (Text.strip v.toList) := (mem_cleanKeywords_iff.mp h).2

theorem supplierOf_eq_some {s t : String} (h : supplierOf? s = some t) :
    supplierOf? t = some t ∧ Text.strip t.toList = t.toList := by
  unfold supplierOf? at h
  dsimp only at h
  split at h
  · cases h
  · rename_i hnone
    obtain rfl := Option.some.inj h
    have htrimmed : Text.strip (String.ofList (Text.strip s.toList)).toList =
        (String.ofList (Text.strip s.toList)).toList := by
      rw [String.toList_ofList, Text.strip_strip]
    refine ⟨?_, htrimmed⟩
    unfold supplierOf?
    dsimp only
    rw [htrimmed, String.ofList_toList, if_neg hnone]

theorem supplier_of_checkSupplier {d : Data} {o : Option String} (h : checkSupplier d = .pass o) :
    ∀ s ∈ o, supplierOf? s = some s := by
  intro s hs
  unfold checkSupplier at h
  split at h
  · obtain rfl := by simpa using h
    simp at hs
  · split at h
    · cases h
    · obtain rfl := by simpa using h
      exact (supplierOf_eq_some hs).1

theorem clean_of_checkKeywords {d : Data} {ws : List String} (h : checkKeywords d = .pass ws) :
    CleanWords ws := by
  unfold checkKeywords at h
  split at h
  · obtain rfl := by simpa using h
    exact ⟨by simp, by simp, by simp⟩
  · obtain rfl := by simpa using h
    exact cleanWords_cleanKeywords _
  · split at h
    · split at h
      · cases h
      · obtain rfl := by simpa using h
        exact cleanWords_cleanKeywords _
    · cases h

end Data

structure Template.IsChecked (t : Template) : Prop where
  name : t.name.length ≤ Settings.maxName
  keywords : Data.CleanWords t.keywords
  supplier : ∀ s ∈ t.supplier, Data.supplierOf? s = some s
  mapping : ∀ e ∈ t.table.mapping.assigned, 0 < e.2

namespace Data

theorem positive_of_checkFieldMapping {d : Data} {m : FieldMapping}
    (h : checkFieldMapping d = .pass m) : ∀ e ∈ m.assigned, 0 < e.2 := by
  have hindex {entries : List (Data × Data)} {f : ProductField} {o : Option Nat}
      (ho : given entries f.name (checkOptional checkPositive) none = .pass o) :
      ∀ n ∈ o, 0 < n := by
    rcases given_eq_pass ho with rfl | ⟨d, hd⟩
    · simp
    · intro n hn
      obtain ⟨d, hd⟩ := of_checkOptional hd n hn
      exact positive_of_checkPositive hd
  unfold checkFieldMapping checkRecord at h
  split at h
  · simp only [Check.seq_eq_pass, Check.map_eq_pass] at h
    obtain ⟨_, lineTotal, ⟨_, sku, ⟨_, unitPrice, ⟨_, quantity, ⟨description, h1, rfl⟩, h2, rfl⟩,
      h3, rfl⟩, h4, rfl⟩, h5, rfl⟩ := h
    rintro ⟨f, n⟩ he
    have hn := FieldMapping.mem_assigned.mp he
    cases f with
    | description => exact hindex h1 _ hn
    | quantity => exact hindex h2 _ hn
    | unitPrice => exact hindex h3 _ hn
    | sku => exact hindex h4 _ hn
    | lineTotal => exact hindex h5 _ hn
  · cases h

theorem mapping_of_checkTableRule {d : Data} {r : TableRule} (h : checkTableRule d = .pass r) :
    ∀ e ∈ r.mapping.assigned, 0 < e.2 := by
  unfold checkTableRule checkRecord at h
  split at h
  · simp only [Check.seq_eq_pass, Check.map_eq_pass] at h
    obtain ⟨_, m, ⟨_, _, ⟨_, _, ⟨_, -, rfl⟩, -, rfl⟩, -, rfl⟩, hm, rfl⟩ := h
    rcases given_eq_pass hm with rfl | ⟨d, hd⟩
    · simp
    · exact positive_of_checkFieldMapping hd
  · cases h

structure TemplateFrom (fields : List (Data × Data)) (t : Template) : Prop where
  id : given fields "id" (checkOptional checkText) none = .pass t.id
  name : given fields "name" (checkShortText Settings.maxName) "" = .pass t.name
  active : given fields "active" checkTruth true = .pass t.active
  keywords : given fields "detect_keywords" checkKeywords [] = .pass t.keywords
  supplier : given fields "supplier_id" checkSupplier none = .pass t.supplier
  header : given fields "header_config" checkHeaderPatterns .empty = .pass t.header
  table : given fields "products_config" checkTableRule .empty = .pass t.table
  created : given fields "created_at" (checkOptional checkMoment) none = .pass t.created
  updated : given fields "updated_at" (checkOptional checkMoment) none = .pass t.updated

theorem templateFrom_of_check {d : Data} {t : Template} (h : checkTemplate d = .pass t) :
    ∃ fields, d = .map fields ∧ TemplateFrom fields t := by
  unfold checkTemplate checkRecord at h
  split at h
  · next fields =>
    simp only [Check.seq_eq_pass, Check.map_eq_pass] at h
    obtain ⟨_, _, ⟨_, _, ⟨_, _, ⟨_, _, ⟨_, _, ⟨_, _, ⟨_, _, ⟨_, _, ⟨_, hid, rfl⟩, hname, rfl⟩, hactive,
      rfl⟩, hkeywords, rfl⟩, hsupplier, rfl⟩, hheader, rfl⟩, htable, rfl⟩, hcreated, rfl⟩, hupdated,
      rfl⟩ := h
    exact ⟨fields, rfl, hid, hname, hactive, hkeywords, hsupplier, hheader, htable, hcreated,
      hupdated⟩
  · cases h

theorem isChecked_of_checkTemplate {d : Data} {t : Template} (h : checkTemplate d = .pass t) :
    t.IsChecked := by
  obtain ⟨fields, -, hread⟩ := templateFrom_of_check h
  refine ⟨?_, ?_, ?_, ?_⟩
  · rcases given_eq_pass hread.name with hname | ⟨d, hd⟩
    · rw [hname]
      exact Nat.zero_le _
    · exact length_of_checkShortText hd
  · rcases given_eq_pass hread.keywords with hkeywords | ⟨d, hd⟩
    · rw [hkeywords]
      exact ⟨by simp, by simp, by simp⟩
    · exact clean_of_checkKeywords hd
  · rcases given_eq_pass hread.supplier with hsupplier | ⟨d, hd⟩
    · rw [hsupplier]
      simp
    · exact supplier_of_checkSupplier hd
  · rcases given_eq_pass hread.table with htable | ⟨d, hd⟩
    · simp [htable, TableRule.empty]
    · exact mapping_of_checkTableRule hd

end Data

namespace Template

/-- What assigning a value to a field makes of a template: the field holds what the value has been
read as. -/
inductive Assigned (t : Template) (value : Data) : String → Template → Prop where
  | id {v : Option String} (h : value.checkOptional Data.checkText = .pass v) :
    Assigned t value "id" { t with id := v }
  | name {v : String} (h : value.checkShortText Settings.maxName = .pass v) :
    Assigned t value "name" { t with name := v }
  | active {v : Bool} (h : value.checkTruth = .pass v) :
    Assigned t value "active" { t with active := v }
  | keywords {v : List String} (h : value.checkKeywords = .pass v) :
    Assigned t value "detect_keywords" { t with keywords := v }
  | supplier {v : Option String} (h : value.checkSupplier = .pass v) :
    Assigned t value "supplier_id" { t with supplier := v }
  | header {v : HeaderPatterns} (h : value.checkHeaderPatterns = .pass v) :
    Assigned t value "header_config" { t with header := v }
  | table {v : TableRule} (h : value.checkTableRule = .pass v) :
    Assigned t value "products_config" { t with table := v }
  | created {v : Option Moment} (h : value.checkOptional Data.checkMoment = .pass v) :
    Assigned t value "created_at" { t with created := v }
  | updated {v : Option Moment} (h : value.checkOptional Data.checkMoment = .pass v) :
    Assigned t value "updated_at" { t with updated := v }

variable {t u : Template} {field : String} {value : Data}

theorem assigned_of_assign (h : t.assign field value = .pass u) : Assigned t value field u := by
  unfold assign at h
  rw [Check.inside_eq_pass] at h
  split at h
  · obtain ⟨v, hv, rfl⟩ := Check.map_eq_pass.mp h
    exact .id hv
  · obtain ⟨v, hv, rfl⟩ := Check.map_eq_pass.mp h
    exact .name hv
  · obtain ⟨v, hv, rfl⟩ := Check.map_eq_pass.mp h
    exact .active hv
  · obtain ⟨v, hv, rfl⟩ := Check.map_eq_pass.mp h
    exact .keywords hv
  · obtain ⟨v, hv, rfl⟩ := Check.map_eq_pass.mp h
    exact .supplier hv
  · obtain ⟨v, hv, rfl⟩ := Check.map_eq_pass.mp h
    exact .header hv
  · obtain ⟨v, hv, rfl⟩ := Check.map_eq_pass.mp h
    exact .table hv
  · obtain ⟨v, hv, rfl⟩ := Check.map_eq_pass.mp h
    exact .created hv
  · obtain ⟨v, hv, rfl⟩ := Check.map_eq_pass.mp h
    exact .updated hv
  · cases h

theorem IsChecked.assigned (ht : t.IsChecked) (h : Assigned t value field u) : u.IsChecked := by
  cases h with
  | name h => exact ⟨Data.length_of_checkShortText h, ht.keywords, ht.supplier, ht.mapping⟩
  | keywords h => exact ⟨ht.name, Data.clean_of_checkKeywords h, ht.supplier, ht.mapping⟩
  | supplier h => exact ⟨ht.name, ht.keywords, Data.supplier_of_checkSupplier h, ht.mapping⟩
  | table h =>
    exact ⟨ht.name, ht.keywords, ht.supplier, Data.mapping_of_checkTableRule h⟩
  | id | active | header | created | updated =>
    exact ⟨ht.name, ht.keywords, ht.supplier, ht.mapping⟩

end Template

end OrderSheet
