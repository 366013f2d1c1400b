import Mathlib
import OrderSheet.Proofs.Draft.Keywords
import OrderSheet.Proofs.Template.Checked
import OrderSheet.Proofs.Template.Halting
import OrderSheet.Proofs.Text.Casing

/-!
# Templates under assignment

The fields of a template can be set one by one, with whatever values. A value that passes its check
replaces its field and nothing else, and any other value changes nothing. So what the first check of
a template says about its fields stays true.
-/

namespace OrderSheet

namespace Data

variable {d : Data} {s : String} {ws entries : List String}

/-- The entries trimmed, in the order of their first occurrences and without blank ones. -/
def distinctWords (entries : List String) : List String :=
  ((entries.map trimmed).filter (· ≠ "")).eraseDups

theorem distinctWords_concat (ws : List String) (w : String) :
    distinctWords (ws ++ [w]) = keepWord (distinctWords ws) w := by
  rw [keepWord, ← trimmed, distinctWords, distinctWords, List.map_append, List.filter_append,
    List.eraseDups_append]
  generalize (ws.map trimmed).filter (· ≠ "") = kept
  by_cases hblank : trimmed w = ""
  · simp [hblank]
  · by_cases hkept : trimmed w ∈ kept
    · simp [hblank, hkept, List.removeAll]
    · simp [hblank, hkept, List.removeAll, List.eraseDups_cons]

theorem cleanKeywords_eq_distinctWords (ws : List String) :
    cleanKeywords ws = distinctWords ws := by
  rw [cleanKeywords_eq]
  induction ws using List.reverseRecOn with
  | nil => rfl
  | append_singleton ws w ih =>
    rw [List.foldl_append, ih, List.foldl_cons, List.foldl_nil, distinctWords_concat]

/-- The entries that a value lists: those of a collection, as they are displayed, or the parts of a
text between its commas. -/
inductive Lists : Data → List String → Prop where
  | null : Lists .null []
  | text {parts : List String} (hne : parts ≠ []) (hparts : ∀ p ∈ parts, ',' ∉ p.toList) :
    Lists (.text (",".intercalate parts)) parts
  | collection {d : Data} {xs : List Data} (helements : d.elements? = some xs)
    (htext : ∀ s, d ≠ .text s) (hspelled : xs.any isHuge = false) : Lists d (xs.map display)

theorem lists_commaParts (s : String) : Lists (.text s) (commaParts s) := by
  have htext := Lists.text (commaParts_ne_nil s) fun p hp => comma_not_mem_commaParts hp
  rwa [intercalate_commaParts] at htext

/-- The keywords that a value is read as are those that it lists. A value that lists nothing is
rejected. -/
theorem checkKeywords_eq_pass_iff :
    checkKeywords d = .pass ws ↔ ∃ entries, Lists d entries ∧ ws = distinctWords entries := by
  constructor
  · intro h
    rw [checkKeywords.eq_def] at h
    split at h
    · obtain rfl := Check.pass.inj h
      exact ⟨[], .null, rfl⟩
    · obtain rfl := Check.pass.inj h
      exact ⟨_, lists_commaParts _, cleanKeywords_eq_distinctWords _⟩
    · next hnull htext =>
      split at h
      · next xs helements =>
        split at h
        · cases h
        · next hspelled =>
          obtain rfl := Check.pass.inj h
          exact ⟨_, .collection helements htext (by simpa using hspelled),
            cleanKeywords_eq_distinctWords _⟩
      · cases h
  · rintro ⟨entries, hlists, rfl⟩
    rw [← cleanKeywords_eq_distinctWords]
    cases hlists with
    | null => rfl
    | text hne hparts =>
      have hparts := commaParts_intercalate hne hparts
      exact congrArg (fun parts => Check.pass (cleanKeywords parts)) hparts
    | collection helements htext hspelled =>
      rw [checkKeywords.eq_def]
      split
      · cases helements
      · exact absurd rfl (htext _)
      · simp [helements, hspelled]

/-- A trimmed text that is not empty, and in lower case none of the texts that stand for no
supplier. -/
structure NamesSupplier (s : String) : Prop where
  trimmed : Text.strip s.toList = s.toList
  nonempty : s ≠ ""
  named : ∀ w ∈ noSupplier, ¬ Text.Lowered s.toList (w.toList.map Char.toNat)

/-- For these texts it is enough to know the capitals of the ASCII range. -/
theorem lowered_noSupplier_iff {w : String} (hw : w ∈ noSupplier) :
    Text.Lowered s.toList (w.toList.map Char.toNat) ↔ s.map Char.toLower = w := by
  have hplain : ∀ w ∈ noSupplier, ∀ n ∈ w.toList.map Char.toNat, n < 128 ∧ n ≠ 107 := by decide
  rw [Text.lowered_iff (hplain w hw), ← String.toList_inj, String.toList_map,
    ← List.map_inj_right fun _ _ => Char.toNat_inj.mp, List.map_map]
  rfl

theorem supplierOf?_eq_some_iff {t : String} :
    supplierOf? s = some t ↔ trimmed s = t ∧ NamesSupplier t := by
  have hnone (name : String) : noSupplier.contains (name.map Char.toLower) = true ↔
      ∃ w ∈ noSupplier, Text.Lowered name.toList (w.toList.map Char.toNat) := by
    rw [List.contains_iff_mem]
    constructor
    · exact fun h => ⟨_, h, (lowered_noSupplier_iff h).mpr rfl⟩
    · rintro ⟨w, hw, hlow⟩
      rwa [(lowered_noSupplier_iff hw).mp hlow]
  rw [supplierOf?, ← trimmed]
  constructor
  · intro h
    split at h
    · cases h
    · next hnamed =>
      obtain rfl := Option.some.inj h
      rw [hnone] at hnamed
      push Not at hnamed
      refine ⟨rfl, ?_, fun hempty => ?_, hnamed⟩
      · rw [trimmed, String.toList_ofList, Text.strip_strip]
      · refine hnamed "" (by decide) ?_
        rw [hempty]
        exact .nil
  · rintro ⟨rfl, hname⟩
    rw [if_neg]
    rw [hnone]
    rintro ⟨w, hw, hlow⟩
    exact hname.named w hw hlow

theorem supplierOf?_eq_self_iff : supplierOf? s = some s ↔ NamesSupplier s := by
  rw [supplierOf?_eq_some_iff, and_iff_right_iff_imp]
  intro h
  rw [trimmed, h.trimmed, String.ofList_toList]

end Data

namespace Template

variable {t u : Template} {field : String} {value : Data}

structure SameBut (field : String) (t u : Template) : Prop where
  id : field ≠ "id" → u.id = t.id
  name : field ≠ "name" → u.name = t.name
  active : field ≠ "active" → u.active = t.active
  keywords : field ≠ "detect_keywords" → u.keywords = t.keywords
  supplier : field ≠ "supplier_id" → u.supplier = t.supplier
  header : field ≠ "header_config" → u.header = t.header
  table : field ≠ "products_config" → u.table = t.table
  created : field ≠ "created_at" → u.created = t.created
  updated : field ≠ "updated_at" → u.updated = t.updated

theorem Assigned.sameBut (h : Assigned t value field u) : SameBut field t u := by
  cases h <;> constructor <;> simp

/-- What setting a field can come to: the value passes and only the field changes, or the template
stays as it is, because of issues with the value at the field, or because the value should list
keywords and cannot be gone through. -/
inductive Attempt (t : Template) (field : String) (value : Data) :
    Except Rejection Unit × Template → Prop where
  | passed {u : Template} (h : SameBut field t u) : Attempt t field value (.ok (), u)
  | rejected {is : List Issue} (h : ∀ i ∈ is, i.path.head? = some field) :
    Attempt t field value (.error (.issues is), t)
  | stopped (hfield : field = "detect_keywords") (hvalue : value.elements? = none) :
    Attempt t field value (.error (.notIterable value.typeName), t)

theorem head_path_of_inside {α : Type} {x : Check α} {is : List Issue}
    (h : Check.inside field x = .fail (.issues is)) : ∀ i ∈ is, i.path.head? = some field := by
  rcases x with a | js | name
  · cases h
  · obtain rfl := Rejection.issues.inj (Check.fail.inj h)
    intro i hi
    obtain ⟨j, -, rfl⟩ := List.mem_map.mp hi
    rfl
  · cases h

/-- Only a value for the keywords can be one that cannot be gone through. -/
theorem halt?_assign {name : String} (h : (t.assign field value).halt? = some name) :
    field = "detect_keywords" ∧ value.elements? = none ∧ name = value.typeName := by
  have hother {α : Type} {x : Check α} {f : α → Template} (hx : x.halt? = none) :
      ¬ (x.map f).halt? = some name := by
    change ¬ (f <$> x).halt? = some name
    rw [Check.halt?_map, hx]
    exact Option.some_ne_none name ∘ Eq.symm
  rw [assign.eq_def, Check.halt?_inside] at h
  split at h
  · exact absurd h (hother (Data.goesOn_checkText.optional value))
  · exact absurd h (hother (Data.goesOn_checkShortText _ value))
  · exact absurd h (hother (Data.goesOn_checkTruth value))
  · have hstopped : (value.checkKeywords.map fun v => { t with keywords := v }).halt? =
        value.checkKeywords.halt? := Check.halt?_map _ _
    rw [hstopped, Data.halt?_checkKeywords_eq_some_iff] at h
    exact ⟨rfl, h.2⟩
  · exact absurd h (hother (Data.goesOn_checkSupplier value))
  · exact absurd h (hother (Data.goesOn_checkHeaderPatterns value))
  · exact absurd h (hother (Data.goesOn_checkTableRule value))
  · exact absurd h (hother (Data.goesOn_checkMoment.optional value))
  · exact absurd h (hother (Data.goesOn_checkMoment.optional value))
  · cases h

theorem attempt_set (t : Template) (field : String) (value : Data) :
    Attempt t field value (t.set field value) := by
  rw [set]
  cases h : t.assign field value with
  | pass u => exact .passed (assigned_of_assign h).sameBut
  | fail r =>
    cases r with
    | issues is => exact .rejected (head_path_of_inside h)
    | notIterable name =>
      obtain ⟨hfield, hvalue, rfl⟩ := halt?_assign (Check.halt?_eq_some_iff.mpr h)
      exact .stopped hfield hvalue

theorem IsChecked.set (h : t.IsChecked) (field : String) (value : Data) :
    (t.set field value).2.IsChecked := by
  rw [Template.set]
  cases hassign : t.assign field value with
  | pass u => exact h.assigned (assigned_of_assign hassign)
  | fail r => exact h

theorem set_eq_ok_iff : t.set field value = (.ok (), u) ↔ t.assign field value = .pass u := by
  rw [set]
  cases t.assign field value <;> simp

theorem set_keywords_iff : t.set "detect_keywords" value = (.ok (), u) ↔ ∃ entries,
    Data.Lists value entries ∧ u = { t with keywords := Data.distinctWords entries } := by
  have hassign : t.assign "detect_keywords" value = Check.inside "detect_keywords"
      ((fun v => { t with keywords := v }) <$> value.checkKeywords) := rfl
  rw [set_eq_ok_iff, hassign, Check.inside_eq_pass, Check.map_eq_pass]
  simp only [Data.checkKeywords_eq_pass_iff]
  constructor
  · rintro ⟨-, ⟨entries, hlists, rfl⟩, rfl⟩
    exact ⟨entries, hlists, rfl⟩
  · rintro ⟨entries, hlists, rfl⟩
    exact ⟨_, ⟨entries, hlists, rfl⟩, rfl⟩

theorem IsChecked.set_own_keywords (h : t.IsChecked) :
    t.set "detect_keywords" (.list (t.keywords.map .text)) = (.ok (), t) := by
  refine set_keywords_iff.mpr ⟨(t.keywords.map Data.text).map Data.display, ?_, ?_⟩
  · exact .collection rfl (by simp) (by simp [Data.isHuge])
  · have hdisplay : (t.keywords.map Data.text).map Data.display = t.keywords := by
      rw [List.map_map]
      exact List.map_id _
    rw [hdisplay, ← Data.cleanKeywords_eq_distinctWords, h.keywords.cleanKeywords_eq]

theorem IsChecked.set_own_supplier (h : t.IsChecked) :
    t.set "supplier_id" (t.supplier.elim .null .text) = (.ok (), t) := by
  have hcheck : (t.supplier.elim .null .text : Data).checkSupplier = .pass t.supplier := by
    cases hs : t.supplier with
    | none => rfl
    | some s => exact congrArg Check.pass (h.supplier s hs)
  rw [set_eq_ok_iff, assign, hcheck]
  rfl

theorem IsChecked.setAll (h : t.IsChecked) (changes : List (String × Data)) :
    (t.setAll changes).IsChecked := by
  induction changes generalizing t with
  | nil => exact h
  | cons change changes ih => exact ih (h.set change.1 change.2)

theorem keywords_of_checkTemplate {data : Data} (h : Data.checkTemplate data = .pass t) :
    ∃ fields, data = .map fields ∧ ∃ entries,
      Data.Lists ((Data.lookup? fields "detect_keywords").getD .null) entries ∧
        t.keywords = Data.distinctWords entries := by
  obtain ⟨fields, rfl, hread⟩ := Data.templateFrom_of_check h
  have hkeywords := hread.keywords
  refine ⟨fields, rfl, ?_⟩
  rw [Data.given] at hkeywords
  split at hkeywords
  · next d hd =>
    rw [hd]
    exact Data.checkKeywords_eq_pass_iff.mp (Check.inside_eq_pass.mp hkeywords)
  · next hd =>
    rw [hd, ← Check.pass.inj hkeywords]
    exact ⟨[], .null, rfl⟩

/-- The rules for the fields of a template, and what setting one of them comes to. -/
structure KeepsRules (t : Template) : Prop where
  name : t.name.length ≤ 255
  keywords : Data.CleanWords t.keywords
  supplier : ∀ s ∈ t.supplier, Data.NamesSupplier s
  attempt : ∀ field value, Attempt t field value (t.set field value)
  own_keywords : t.set "detect_keywords" (.list (t.keywords.map .text)) = (.ok (), t)
  own_supplier : t.set "supplier_id" (t.supplier.elim .null .text) = (.ok (), t)
  keywords_iff : ∀ value u, t.set "detect_keywords" value = (.ok (), u) ↔ ∃ entries,
    Data.Lists value entries ∧ u = { t with keywords := Data.distinctWords entries }

theorem IsChecked.keepsRules (h : t.IsChecked) : t.KeepsRules where
  name := h.name
  keywords := h.keywords
  supplier s hs := Data.supplierOf?_eq_self_iff.mp (h.supplier s hs)
  attempt := attempt_set t
  own_keywords := h.set_own_keywords
  own_supplier := h.set_own_supplier
  keywords_iff _ _ := set_keywords_iff

/-- A template keeps the rules for its fields. Whatever is set in a template that has passed its
check, in whatever order and with whatever values, its name stays short, its keywords stay trimmed
and distinct, and its supplier names one. Each value that is set next changes its own field or
nothing, the template's own keywords and supplier change nothing at all, and keywords that are set
or come with the data are the distinct words among the entries that their value lists. -/
theorem setAll_keeps {data : Data} (h : Data.checkTemplate data = .pass t)
    (changes : List (String × Data)) :
    (t.setAll changes).KeepsRules ∧ ∃ fields, data = .map fields ∧ ∃ entries,
      Data.Lists ((Data.lookup? fields "detect_keywords").getD .null) entries ∧
        t.keywords = Data.distinctWords entries :=
  ⟨((Data.isChecked_of_checkTemplate h).setAll changes).keepsRules, keywords_of_checkTemplate h⟩

theorem setAll_keeps_some_rejected :
    let data : Data := .map [(.text "name", .text "D&G"), (.text "detect_keywords", .text " b,a,b")]
    let t : Template := ⟨none, "D&G", true, ["b", "a"], none, .empty, .empty, none, none⟩
    let changes : List (String × Data) := [("detect_keywords", .int 5), ("name", .null),
      ("supplier_id", .text " sup-42 "), ("keywords", .text "c")]
    let u : Template := { t with supplier := some "sup-42" }
    Data.checkTemplate data = .pass t ∧ t.setAll changes = u ∧ Data.NamesSupplier "sup-42" ∧
      u.set "detect_keywords" (.list [.text "b", .text "a"]) = (.ok (), u) := by
  intro data t changes u
  have hcheck : Data.checkTemplate data = .pass t := by cbv
  have hrun : t.setAll changes = u := by cbv
  have hkeeps := (setAll_keeps hcheck changes).1
  rw [hrun] at hkeeps
  exact ⟨hcheck, hrun, hkeeps.supplier _ rfl, hkeeps.own_keywords⟩

end Template

end OrderSheet
