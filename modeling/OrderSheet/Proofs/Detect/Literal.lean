import OrderSheet.Proofs.Detect.Hits
import OrderSheet.Proofs.Regex.Verbatim

/-!
# Keywords are literal

A keyword is meant literally, whatever characters it has. It occurs in a document where a part of
the document agrees with it, character by character and regardless of case, and that is where a
search for it finds it. So the case of letters makes no difference to the hits, and what is written
around a document takes none of them away.
-/

namespace OrderSheet.Detect

variable {document k l : String} {ks ls : List String}

def Occurs (document k : String) : Prop :=
  ∃ part, part <:+: document.toList ∧ List.Forall₂ Text.Alike k.toList part

theorem occurs_iff_folded : Occurs document k ↔ folded k <:+: folded document :=
  Text.map_fold_infix_iff.symm

instance (document k : String) : Decidable (Occurs document k) :=
  decidable_of_iff _ (occurs_iff.trans occurs_iff_folded.symm)

theorem found_iff_occurs : found document k = true ↔ k ≠ "" ∧ Occurs document k := by
  rw [found_iff, occurs_iff_folded, String.isEmpty_eq_false_iff]

theorem hits_eq_countP_occurs (document : String) (ks : List String) :
    hits document ks = ks.countP fun k => k ≠ "" ∧ Occurs document k := by
  rw [hits_eq_countP]
  refine List.countP_congr fun k _ => ?_
  rw [found_iff_occurs, decide_eq_true_eq]

theorem folded_toLower (s : String) : folded s.toLower = folded s := by
  rw [folded, folded, String.toLower, String.toList_map, List.map_map]
  exact List.map_congr_left fun c _ => Text.fold_toLower c

theorem folded_congr (h : k.toLower = l.toLower) : folded k = folded l := by
  rw [← folded_toLower k, h, folded_toLower]

theorem found_congr_document {document' : String} (h : document'.toLower = document.toLower)
    (k : String) : found document' k = found document k := by
  rw [found, found, folded_congr h]

theorem found_toLower (document k : String) : found document k.toLower = found document k := by
  have hempty : k.toLower.isEmpty = k.isEmpty := by
    rw [Bool.eq_iff_iff, String.isEmpty_iff, String.isEmpty_iff, ← String.toList_eq_nil_iff,
      ← String.toList_eq_nil_iff, String.toLower, String.toList_map, List.map_eq_nil_iff]
  rw [found, found, folded_toLower, hempty]

theorem found_congr (h : k.toLower = l.toLower) (document : String) :
    found document k = found document l := by
  rw [← found_toLower document k, h, found_toLower]

theorem hits_map_toLower (document : String) (ks : List String) :
    hits document (ks.map String.toLower) = hits document ks := by
  rw [hits_eq_countP, hits_eq_countP, List.countP_map]
  exact List.countP_congr fun k _ => by rw [Function.comp_apply, found_toLower]

theorem found_append (h : found document k = true) (front back : String) :
    found (front ++ document ++ back) k = true := by
  obtain ⟨hne, hinfix⟩ := found_iff.mp h
  refine found_iff.mpr ⟨hne, hinfix.trans ⟨folded front, folded back, ?_⟩⟩
  simp [folded]

/-- A keyword is searched for as a literal text. Whatever characters it has, the search is not
refused: it finds a part of the document that agrees with the keyword, character by character and
regardless of case, or there is no such part. The keywords that are not empty and can be found in
this way are those that count. Letters of the ASCII range count in either case, in the document and
in the keywords, and text that is written around a document takes no hit away. -/
theorem hits_literal (document : String) (ks : List String) :
    (∀ k, ∃ m?, search document k = .ok m? ∧ (m?.isSome = true ↔ Occurs document k) ∧
      ∀ m ∈ m?, m.groups = [] ∧ m.text <:+: document.toList ∧
        List.Forall₂ Text.Alike k.toList m.text) ∧
    hits document ks = ks.countP (fun k => k ≠ "" ∧ Occurs document k) ∧
    (∀ document' ks', document'.toLower = document.toLower →
      ks'.map String.toLower = ks.map String.toLower → hits document' ks' = hits document ks) ∧
    ∀ front back, hits document ks ≤ hits (front ++ document ++ back) ks := by
  refine ⟨fun k => ?_, hits_eq_countP_occurs document ks, fun document' ks' hdocument hks => ?_,
    fun front back => ?_⟩
  · obtain ⟨r, hr, hiff, hmatch⟩ := Regex.search_verbatim k
    refine ⟨r.search document.toList, ?_, hiff document.toList, hmatch document.toList⟩
    rw [search, hr]
    rfl
  · rw [← hits_map_toLower document' ks', hks, hits_map_toLower, hits_eq_countP, hits_eq_countP]
    exact List.countP_congr fun k _ => by rw [found_congr_document hdocument]
  · exact List.countP_mono_left fun k _ hk => found_append hk front back

theorem hits_literal_metacharacters :
    let ks := ["(1+1)*", "1|2", "^order", ""]
    "order (1+1)*".toLower = "ORDER (1+1)*".toLower ∧
      ks.map String.toLower = ks.map String.toLower ∧
      hits "order (1+1)*" ks = 1 ∧ hits "ORDER (1+1)*" ks = 1 := by
  intro ks
  have hcase : "order (1+1)*".toLower = "ORDER (1+1)*".toLower := by cbv
  have hhits : hits "ORDER (1+1)*" ks = 1 := by decide
  obtain ⟨-, -, hsame, -⟩ := hits_literal "ORDER (1+1)*" ks
  exact ⟨hcase, rfl, (hsame _ ks hcase rfl).trans hhits, hhits⟩

end OrderSheet.Detect
