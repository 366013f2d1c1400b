import Mathlib
import OrderSheet.Proofs.Detect.Hits
import OrderSheet.Proofs.Draft.Building
import OrderSheet.Proofs.Text.Parts

/-!
# Keywords in a draft

A draft keeps its keywords in one text with commas between them, and building it takes the text
apart at the commas. A keyword that has a comma itself does not survive that, and then there is a
document for which it makes a difference.
-/

namespace OrderSheet

namespace Data

variable {s w : String} {vs ws : List String}

def commaParts (w : String) : List String := (Text.splitOnChar ',' w.toList).map String.ofList

theorem commaParts_of_not_mem (h : ',' ∉ w.toList) : commaParts w = [w] := by
  rw [commaParts, Text.splitOnChar_of_not_mem h, List.map_singleton, String.ofList_toList]

theorem commaParts_ne_nil (s : String) : commaParts s ≠ [] := by
  rw [commaParts, Text.splitOnChar_eq_splitOnP, Ne, List.map_eq_nil_iff]
  exact List.splitOnP_ne_nil _ _

theorem comma_not_mem_commaParts {p : String} (h : p ∈ commaParts s) : ',' ∉ p.toList := by
  obtain ⟨part, hpart, rfl⟩ := List.mem_map.mp h
  rw [String.toList_ofList]
  exact Text.not_mem_of_mem_splitOnChar hpart

theorem intercalate_commaParts (s : String) : ",".intercalate (commaParts s) = s := by
  refine String.toList_injective ?_
  rw [String.toList_intercalate, commaParts, List.map_map, Text.splitOnChar_eq_splitOnP]
  simp only [Function.comp_def, String.toList_ofList, List.map_id']
  exact List.intercalate_splitOn ','

theorem commaParts_intercalate {parts : List String} (hne : parts ≠ [])
    (hparts : ∀ p ∈ parts, ',' ∉ p.toList) : commaParts (",".intercalate parts) = parts := by
  have hsplit : ([','].intercalate (parts.map String.toList)).splitOn ',' =
      parts.map String.toList :=
    List.splitOn_intercalate ',' (by simpa using hparts) (by simpa using hne)
  have hcomma : ",".toList = [','] := rfl
  rw [List.splitOn] at hsplit
  rw [commaParts, String.toList_intercalate, Text.splitOnChar_eq_splitOnP, hcomma, hsplit,
    List.map_map]
  simp [Function.comp_def]

/-- Only what is left of the words when they are trimmed matters. -/
theorem cleanKeywords_congr (h : vs.map trimmed = ws.map trimmed) :
    cleanKeywords vs = cleanKeywords ws := by
  have hkeep : (fun kept w => keepWord kept (trimmed w)) = keepWord := by
    funext kept w
    simp only [keepWord, trimmed, String.toList_ofList, Text.strip_strip]
  rw [cleanKeywords_eq, cleanKeywords_eq, ← hkeep, ← List.foldl_map, h, List.foldl_map]

theorem trimmed_cons_space (part : List Char) :
    trimmed (String.ofList (' ' :: part)) = trimmed (String.ofList part) := by
  rw [trimmed, trimmed, String.toList_ofList, String.toList_ofList]
  rfl

theorem trimmed_commaParts_append (w s : String) :
    (commaParts (w ++ ", " ++ s)).map trimmed =
      (commaParts w).map trimmed ++ (commaParts s).map trimmed := by
  have hjoined : (w ++ ", " ++ s).toList = w.toList ++ ',' :: ' ' :: s.toList := by simp
  rw [commaParts, hjoined, Text.splitOnChar_append, Text.splitOnChar_cons (by decide),
    List.map_append, List.map_append]
  congr 1
  rw [commaParts]
  cases Text.splitOnChar ',' s.toList with
  | nil => rfl
  | cons p ps => simp only [List.modifyHead_cons, List.map_cons, trimmed_cons_space]

/-- Splitting the joined text takes every word apart at its own commas as well. -/
theorem splitKeywords_join (ws : List String) :
    splitKeywords (", ".intercalate ws) = cleanKeywords (ws.flatMap commaParts) := by
  cases ws with
  | nil => rfl
  | cons w ws =>
    refine cleanKeywords_congr ?_
    change (commaParts (", ".intercalate (w :: ws))).map trimmed = _
    induction ws generalizing w with
    | nil => simp
    | cons v ws ih =>
      rw [String.intercalate_cons_cons, trimmed_commaParts_append, List.flatMap_cons,
        List.map_append, ih v]

theorem comma_not_mem_of_mem (h : w ∈ cleanKeywords (ws.flatMap commaParts)) : ',' ∉ w.toList := by
  obtain ⟨-, v, hv, rfl⟩ := mem_cleanKeywords_iff.mp h
  obtain ⟨u, -, hu⟩ := List.mem_flatMap.mp hv
  rw [trimmed, String.toList_ofList]
  exact fun hmem => comma_not_mem_commaParts hu ((Text.strip_sublist _).subset hmem)

theorem CleanWords.mem_cleanKeywords_commaParts (h : CleanWords ws) (hw : w ∈ ws)
    (hcomma : ',' ∉ w.toList) : w ∈ cleanKeywords (ws.flatMap commaParts) := by
  refine mem_cleanKeywords_iff.mpr ⟨h.nonempty w hw, w, ?_, ?_⟩
  · exact List.mem_flatMap.mpr ⟨w, hw, by simp [commaParts_of_not_mem hcomma]⟩
  · rw [Data.trimmed, h.trimmed w hw, String.ofList_toList]

theorem CleanWords.cleanKeywords_commaParts_iff (h : CleanWords ws) :
    cleanKeywords (ws.flatMap commaParts) = ws ↔ ∀ w ∈ ws, ',' ∉ w.toList := by
  constructor
  · intro heq w hw
    rw [← heq] at hw
    exact comma_not_mem_of_mem hw
  · intro hcomma
    have hparts : ws.flatMap commaParts = ws := by
      rw [List.flatMap_congr fun w hw => commaParts_of_not_mem (hcomma w hw)]
      simp
    rw [hparts, h.cleanKeywords_eq]

/-- A word with a comma makes a difference for the document that is a new word, if there is one, and
for the document that is the word itself otherwise. -/
theorem CleanWords.hits_commaParts_iff (h : CleanWords ws) :
    (∀ text, Detect.hits text (cleanKeywords (ws.flatMap commaParts)) = Detect.hits text ws) ↔
      ∀ w ∈ ws, ',' ∉ w.toList := by
  refine ⟨fun hhits => ?_, fun hcomma text => by rw [h.cleanKeywords_commaParts_iff.mpr hcomma]⟩
  have hclean := cleanWords_cleanKeywords (ws.flatMap commaParts)
  by_contra hcomma
  push Not at hcomma
  obtain ⟨w, hw, hcomma⟩ := hcomma
  by_cases hnew : ∃ e ∈ cleanKeywords (ws.flatMap commaParts), e ∉ ws
  · obtain ⟨e, he, hnot⟩ := hnew
    have hkept : ∀ k ∈ ws, Detect.found e k = true → k ∈ cleanKeywords (ws.flatMap commaParts) :=
      fun k hk hfound => h.mem_cleanKeywords_commaParts hk fun hmem =>
        comma_not_mem_of_mem he (Detect.comma_mem_of_found hfound hmem)
    exact (Detect.hits_lt h.nodup hkept he hnot
      (Detect.found_self (hclean.nonempty e he))).ne' (hhits e)
  · push Not at hnew
    have hnot : w ∉ cleanKeywords (ws.flatMap commaParts) := fun hmem =>
      comma_not_mem_of_mem hmem hcomma
    exact (Detect.hits_lt hclean.nodup (fun k hk _ => hnew k hk) hw hnot
      (Detect.found_self (h.nonempty w hw))).ne (hhits w)

end Data

namespace Draft

variable {t : Template}

/-- When a stored template is opened and built again, each keyword is taken apart at its commas. So
the template has the same keywords, and the same number of them in every document, just if none of
its keywords has a comma. -/
theorem build_ofTemplate_keywords {data : Data} (h : Data.checkTemplate data = .pass t) :
    ∃ u, (ofTemplate t).build = .ok u ∧
      u.keywords = Data.cleanKeywords (t.keywords.flatMap Data.commaParts) ∧
      (u.keywords = t.keywords ↔ ∀ w ∈ t.keywords, ',' ∉ w.toList) ∧
      ((∀ text, Detect.hits text u.keywords = Detect.hits text t.keywords) ↔
        ∀ w ∈ t.keywords, ',' ∉ w.toList) := by
  have hchecked := Data.isChecked_of_checkTemplate h
  have hkeywords : (rebuilt t).keywords = Data.cleanKeywords (t.keywords.flatMap Data.commaParts) :=
    Data.splitKeywords_join t.keywords
  refine ⟨rebuilt t, build_ofTemplate hchecked, hkeywords, ?_, ?_⟩
  · rw [hkeywords]
    exact hchecked.keywords.cleanKeywords_commaParts_iff
  · rw [hkeywords]
    exact hchecked.keywords.hits_commaParts_iff

theorem build_ofTemplate_keywords_two_words :
    let t : Template := ⟨none, "", true, ["acme", "order no"], none, .empty, .empty, none, none⟩
    ∃ u, (ofTemplate t).build = .ok u ∧ u.keywords = ["acme", "order no"] := by
  intro t
  have hcheck : Data.checkTemplate (.map [(.text "detect_keywords",
      .list [.text "acme", .text "order no"])]) = .pass t := by cbv
  obtain ⟨u, hu, -, hkeywords, -⟩ := build_ofTemplate_keywords hcheck
  exact ⟨u, hu, hkeywords.mpr (by decide)⟩

/-- A keyword with a comma comes back as two keywords, which a document can have without having the
keyword. -/
theorem build_ofTemplate_comma :
    let t : Template := ⟨none, "", true, ["Acme, Inc."], none, .empty, .empty, none, none⟩
    (∃ data, Data.checkTemplate data = .pass t) ∧
      ∃ u, (ofTemplate t).build = .ok u ∧ u.keywords ≠ t.keywords ∧
        Detect.hits "ACME" u.keywords = 1 ∧ Detect.hits "ACME" t.keywords = 0 := by
  intro t
  refine ⟨⟨.map [(.text "detect_keywords", .list [.text "Acme, Inc."])], by cbv⟩, ?_⟩
  refine ⟨⟨none, "", true, ["Acme", "Inc."], none, .empty, .empty, none, none⟩, by cbv, ?_⟩
  exact ⟨by decide, by decide, by decide⟩

end Draft

end OrderSheet
