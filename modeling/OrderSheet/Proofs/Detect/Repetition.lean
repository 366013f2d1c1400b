import OrderSheet.Proofs.Detect.Choice
import OrderSheet.Proofs.Detect.Literal
import OrderSheet.Proofs.Template.Checked

/-!
# Repeated keywords

A keyword counts each time it is listed. So the hits are the different keywords that occur in a
document just if none of these is listed twice, where the case of letters makes no difference. A
keyword that is listed once more lifts its template by one hit if it occurs, which can make the
template the chosen one.
-/

namespace OrderSheet.Detect

open Finset

variable {document k l : String} {ks before after : List String}

def distinct (document : String) (ks : List String) : Finset String :=
  {w ∈ (ks.map String.toLower).toFinset | w ≠ "" ∧ Occurs document w}

/-- The keywords that count for a document, each as often as it is listed, in small letters. -/
def occurring (document : String) (ks : List String) : List String :=
  (ks.map String.toLower).filter (found document)

theorem toFinset_occurring (document : String) (ks : List String) :
    (occurring document ks).toFinset = distinct document ks := by
  ext w
  simp [occurring, distinct, found_iff_occurs]

theorem length_occurring (document : String) (ks : List String) :
    (occurring document ks).length = hits document ks := by
  rw [occurring, ← List.countP_eq_length_filter, ← hits_eq_countP, hits_map_toLower]

theorem hits_eq_sum (document : String) (ks : List String) :
    hits document ks = ∑ w ∈ distinct document ks, (ks.map String.toLower).count w := by
  rw [← length_occurring, ← List.sum_toFinset_count_eq_length, toFinset_occurring]
  refine sum_congr rfl fun w hw => ?_
  have hfound : found document w = true := found_iff_occurs.mpr (mem_filter.mp hw).2
  exact List.count_filter hfound

theorem card_distinct_le (document : String) (ks : List String) :
    #(distinct document ks) ≤ hits document ks := by
  rw [← length_occurring, ← toFinset_occurring]
  exact List.toFinset_card_le _

theorem hits_eq_card_distinct_iff :
    hits document ks = #(distinct document ks) ↔ (occurring document ks).Nodup := by
  rw [← length_occurring, ← toFinset_occurring, List.card_toFinset]
  constructor
  · intro h
    rw [← (List.dedup_sublist _).eq_of_length h.symm]
    exact List.nodup_dedup _
  · exact fun h => by rw [h.dedup]

theorem hits_insert (document : String) (before : List String) (k : String) (after : List String) :
    hits document (before ++ k :: after) =
      hits document (before ++ after) + if k ≠ "" ∧ Occurs document k then 1 else 0 := by
  simp only [hits_eq_countP, List.countP_append, List.countP_cons, found_iff_occurs]
  omega

section Lift

variable {front back middle : List Template} {t t' u : Template} {i : Nat}

/-- Which template of a list is chosen, seen from the place of one of them. -/
inductive ChosenAround (document : String) (front : List Template) (t : Template)
    (back : List Template) : Option (Nat × Template) → Prop
  | nobody (h : ∀ u ∈ front ++ t :: back, score document u = 0) :
    ChosenAround document front t back none
  | itself (h : Wins document front t back) :
    ChosenAround document front t back (some (front.length, t))
  | earlier {first middle : List Template} {u : Template} (hfront : front = first ++ u :: middle)
    (h : Wins document first u (middle ++ t :: back)) :
    ChosenAround document front t back (some (first.length, u))
  | later {middle last : List Template} {u : Template} (hback : back = middle ++ u :: last)
    (h : Wins document (front ++ t :: middle) u last) :
    ChosenAround document front t back (some ((front ++ t :: middle).length, u))

theorem chosenAround_best (document : String) (front : List Template) (t : Template)
    (back : List Template) :
    ChosenAround document front t back (best document (front ++ t :: back)) := by
  cases hbest : best document (front ++ t :: back) with
  | none => exact .nobody fun u hu => isSilent_iff.mp (best_eq_none_iff.mp hbest u hu)
  | some chosen =>
    obtain ⟨first, last, hsplit, hlength, hwins⟩ := wins_of_best hbest
    obtain ⟨i, u⟩ := chosen
    obtain rfl : first.length = i := hlength
    rcases List.append_eq_append_iff.mp hsplit with ⟨more, rfl, hrest⟩ | ⟨more, rfl, hrest⟩
    · cases more with
      | nil =>
        obtain ⟨rfl, rfl⟩ := List.cons.inj hrest
        rw [List.append_nil] at hwins ⊢
        exact .itself hwins
      | cons v middle =>
        obtain ⟨rfl, rfl⟩ := List.cons.inj hrest
        exact .later rfl hwins
    · cases more with
      | nil =>
        obtain ⟨rfl, rfl⟩ := List.cons.inj hrest
        rw [List.append_nil]
        exact .itself hwins
      | cons v middle =>
        obtain ⟨rfl, rfl⟩ := List.cons.inj hrest
        exact .earlier rfl hwins

theorem Wins.overtake_earlier (h : Wins document front u (middle ++ t :: back))
    (hlt : score document u < score document t') :
    Wins document (front ++ u :: middle) t' back := by
  have hmost : ∀ v ∈ middle ++ t :: back, score document v < score document t' :=
    fun v hv => (h.after v hv).trans_lt hlt
  refine ⟨Nat.zero_lt_of_lt hlt, fun v hv => ?_, fun v hv => (hmost v (by simp [hv])).le⟩
  rw [List.mem_append, List.mem_cons] at hv
  rcases hv with hv | rfl | hv
  · exact (h.before v hv).trans hlt
  · exact hlt
  · exact hmost v (by simp [hv])

theorem Wins.overtake_later (h : Wins document (front ++ t :: middle) u back)
    (hle : score document u ≤ score document t') :
    Wins document front t' (middle ++ u :: back) := by
  refine ⟨h.positive.trans_le hle, fun v hv => (h.before v (by simp [hv])).trans_le hle,
    fun v hv => ?_⟩
  rw [List.mem_append, List.mem_cons] at hv
  rcases hv with hv | rfl | hv
  · exact ((h.before v (by simp [hv])).trans_le hle).le
  · exact hle
  · exact (h.after v hv).trans hle

theorem Wins.of_le (h : Wins document front t back) (hle : score document t ≤ score document t') :
    Wins document front t' back :=
  ⟨h.positive.trans_le hle, fun v hv => (h.before v hv).trans_le hle,
    fun v hv => (h.after v hv).trans hle⟩

theorem Wins.replace_behind (h : Wins document front u (middle ++ t :: back))
    (hle : score document t' ≤ score document u) :
    Wins document front u (middle ++ t' :: back) := by
  refine ⟨h.positive, h.before, fun v hv => ?_⟩
  rw [List.mem_append, List.mem_cons] at hv
  rcases hv with hv | rfl | hv
  · exact h.after v (by simp [hv])
  · exact hle
  · exact h.after v (by simp [hv])

theorem Wins.replace_ahead (h : Wins document (front ++ t :: middle) u back)
    (hlt : score document t' < score document u) :
    Wins document (front ++ t' :: middle) u back := by
  refine ⟨h.positive, fun v hv => ?_, h.after⟩
  rw [List.mem_append, List.mem_cons] at hv
  rcases hv with hv | rfl | hv
  · exact h.before v (by simp [hv])
  · exact hlt
  · exact h.before v (by simp [hv])

theorem Wins.of_silent (h : ∀ u ∈ front ++ t :: back, score document u = 0)
    (hpositive : 0 < score document t') : Wins document front t' back := by
  refine ⟨hpositive, fun u hu => ?_, fun u hu => ?_⟩
  · rwa [h u (by simp [hu])]
  · rw [h u (by simp [hu])]
    exact Nat.zero_le _

/-- A template with more hits is the chosen one, or else the choice stays. -/
theorem best_of_not_wins (hle : score document t ≤ score document t')
    (hnot : ¬ Wins document front t' back) :
    best document (front ++ t' :: back) = best document (front ++ t :: back) := by
  have hchosen := chosenAround_best document front t back
  generalize best document (front ++ t :: back) = chosen at hchosen
  cases hchosen with
  | nobody h =>
    have hzero : score document t' = 0 :=
      Nat.eq_zero_of_not_pos fun hpositive => hnot (.of_silent h hpositive)
    refine best_eq_none_iff.mpr fun u hu => isSilent_iff.mpr ?_
    rw [List.mem_append, List.mem_cons] at hu
    rcases hu with hu | rfl | hu
    · exact h u (by simp [hu])
    · exact hzero
    · exact h u (by simp [hu])
  | itself h => exact absurd (h.of_le hle) hnot
  | @earlier first middle u hfront h =>
    subst hfront
    have hkept : score document t' ≤ score document u :=
      Nat.le_of_not_lt fun hlt => hnot (h.overtake_earlier hlt)
    rw [List.append_assoc, List.cons_append]
    exact (h.replace_behind hkept).best_eq
  | @later middle last u hback h =>
    subst hback
    have hkept : score document t' < score document u :=
      Nat.lt_of_not_le fun hle => hnot (h.overtake_later hle)
    have hbest := (h.replace_ahead hkept).best_eq
    rw [List.append_assoc, List.cons_append] at hbest
    rw [hbest]
    simp

theorem score_of_active (h : t.active = true) : score document t = hits document t.keywords :=
  if_pos h

theorem score_of_pos (h : 0 < score document t) : score document t = hits document t.keywords := by
  refine score_of_active ?_
  by_contra hnot
  rw [score, if_neg hnot] at h
  exact Nat.lt_irrefl 0 h

/-- Once it has more hits, the template wins against an earlier winner if it had as many hits. -/
theorem wins_lifted_earlier_iff (hscore : score document t' = score document t + 1)
    (h : Wins document front u (middle ++ t :: back)) :
    Wins document (front ++ u :: middle) t' back ↔ score document u = score document t := by
  have hbehind : score document t ≤ score document u := h.after t (by simp)
  constructor
  · intro hwins
    have hless := hwins.before u (by simp)
    omega
  · exact fun heq => h.overtake_earlier (by omega)

/-- It wins against a later winner if one hit was missing. -/
theorem wins_lifted_later_iff (hscore : score document t' = score document t + 1)
    (h : Wins document (front ++ t :: middle) u back) :
    Wins document front t' (middle ++ u :: back) ↔ score document u = score document t + 1 := by
  have hless : score document t < score document u := h.before t (by simp)
  constructor
  · intro hwins
    have hle := hwins.after u (by simp)
    omega
  · exact fun heq => h.overtake_later (by omega)

/-- The choice moves away from another template just if the one with more hits wins. -/
theorem position_ne_iff_wins (hle : score document t ≤ score document t')
    (hbest : best document (front ++ t :: back) = some (i, u)) (hi : i ≠ front.length) :
    (best document (front ++ t' :: back)).map Prod.fst ≠
        (best document (front ++ t :: back)).map Prod.fst ↔ Wins document front t' back := by
  constructor
  · intro hne
    by_contra hnot
    exact hne (by rw [best_of_not_wins hle hnot])
  · intro hwins
    rw [hwins.best_eq, hbest]
    exact fun heq => hi (Option.some.inj heq).symm

theorem score_of_best {ts : List Template} (hbest : best document ts = some (i, u)) :
    score document u = hits document u.keywords :=
  score_of_pos (leads_iff.mp (first_of_best hbest).2.1).1

/-- When a template gets one hit more, the choice moves to it from a template in front of it that
had as many hits, or from one behind it that had one more. -/
theorem overtakes_iff (hactive : t.active = true) (hpositive : 0 < hits document t.keywords)
    (hscore : score document t' = score document t + 1) :
    (best document (front ++ t' :: back)).map Prod.fst ≠
        (best document (front ++ t :: back)).map Prod.fst ↔
      ∃ i u, best document (front ++ t :: back) = some (i, u) ∧ i ≠ front.length ∧
        hits document u.keywords =
          hits document t.keywords + if front.length < i then 1 else 0 := by
  have hle : score document t ≤ score document t' := hscore ▸ Nat.le_succ _
  have hchosen := chosenAround_best document front t back
  rw [← score_of_active hactive] at hpositive ⊢
  generalize hbest : best document (front ++ t :: back) = chosen at hchosen
  cases hchosen with
  | nobody h => exact absurd (h t (by simp)) hpositive.ne'
  | itself h =>
    refine iff_of_false ?_ ?_
    · rw [(h.of_le hle).best_eq]
      exact fun hne => hne rfl
    · rintro ⟨i, u, hu, hi, -⟩
      exact hi (Prod.mk.inj (Option.some.inj hu)).1.symm
  | @earlier first middle u hfront h =>
    subst hfront
    have hplace : first.length < (first ++ u :: middle).length := by simp
    rw [← hbest, position_ne_iff_wins hle hbest hplace.ne, wins_lifted_earlier_iff hscore h,
      score_of_best hbest, hbest]
    constructor
    · exact fun heq => ⟨_, u, rfl, hplace.ne, by rw [heq, if_neg hplace.le.not_gt, Nat.add_zero]⟩
    · rintro ⟨i, v, hv, -, heq⟩
      obtain ⟨rfl, rfl⟩ := Prod.mk.inj (Option.some.inj hv)
      rwa [if_neg hplace.le.not_gt, Nat.add_zero] at heq
  | @later middle last u hback h =>
    subst hback
    have hplace : front.length < (front ++ t :: middle).length := by simp
    rw [← hbest, position_ne_iff_wins hle hbest hplace.ne', wins_lifted_later_iff hscore h,
      score_of_best hbest, hbest]
    constructor
    · exact fun heq => ⟨_, u, rfl, hplace.ne', by rw [heq, if_pos hplace]⟩
    · rintro ⟨i, v, hv, -, heq⟩
      obtain ⟨rfl, rfl⟩ := Prod.mk.inj (Option.some.inj hv)
      rwa [if_pos hplace] at heq

/-- A template with as many hits stands in for another one. -/
theorem position_of_score_eq (h : score document t' = score document t) :
    (best document (front ++ t' :: back)).map Prod.fst =
      (best document (front ++ t :: back)).map Prod.fst := by
  by_cases hwins : Wins document front t' back
  · rw [hwins.best_eq, (hwins.of_le h.le).best_eq]
    rfl
  · rw [best_of_not_wins h.ge hwins]

/-- The choice can only move to the template that has more hits. -/
theorem best_of_position_ne (hle : score document t ≤ score document t')
    (hne : (best document (front ++ t' :: back)).map Prod.fst ≠
      (best document (front ++ t :: back)).map Prod.fst) :
    best document (front ++ t' :: back) = some (front.length, t') := by
  refine Wins.best_eq ?_
  by_contra hnot
  exact hne (by rw [best_of_not_wins hle hnot])

end Lift

/-- The template with one keyword more, between those in front of it and those behind it. -/
def withKeyword (t : Template) (before : List String) (k : String) (after : List String) :
    Template := { t with keywords := before ++ k :: after }

variable {t : Template}

theorem score_withKeyword (hkeywords : t.keywords = before ++ after) :
    score document (withKeyword t before k after) = score document t +
      if t.active = true ∧ k ≠ "" ∧ Occurs document k then 1 else 0 := by
  by_cases hactive : t.active = true
  · have hactive' : (withKeyword t before k after).active = true := hactive
    rw [score_of_active hactive, score_of_active hactive', withKeyword, hits_insert, hkeywords]
    simp only [hactive, true_and]
  · have hactive' : ¬ (withKeyword t before k after).active = true := hactive
    rw [score, if_neg hactive', score, if_neg hactive, if_neg fun h => hactive h.1]

theorem hits_pos_of_repeated (hrepeated : ∃ w ∈ ks, w.toLower = k.toLower)
    (hcounts : k ≠ "" ∧ Occurs document k) : 0 < hits document ks := by
  obtain ⟨w, hw, hcase⟩ := hrepeated
  rw [hits_eq_countP, List.countP_pos_iff]
  exact ⟨w, hw, by rw [found_congr hcase, found_iff_occurs]; exact hcounts⟩

/-- How the keywords of a list count for a document: each as often as it is listed. -/
structure Counts (document : String) (ks : List String) : Prop where
  eq_sum : hits document ks = ∑ w ∈ distinct document ks, (ks.map String.toLower).count w
  card_le : #(distinct document ks) ≤ hits document ks
  eq_card_iff : hits document ks = #(distinct document ks) ↔ (occurring document ks).Nodup

/-- How the choice among templates moves if one of them lists a keyword more. -/
structure MovesTo (document : String) (front : List Template) (t : Template)
    (back : List Template) (before : List String) (k : String) (after : List String) : Prop where
  moves_iff :
    (detect document (front ++ withKeyword t before k after :: back)).outcome.map
        (Option.map Prod.fst) ≠
      (detect document (front ++ t :: back)).outcome.map (Option.map Prod.fst) ↔
    t.active = true ∧ (k ≠ "" ∧ Occurs document k) ∧
      ∃ i u, (detect document (front ++ t :: back)).outcome = .ok (some (i, u)) ∧
        i ≠ front.length ∧ hits document u.keywords =
          hits document t.keywords + if front.length < i then 1 else 0
  moves_here :
    (detect document (front ++ withKeyword t before k after :: back)).outcome.map
        (Option.map Prod.fst) ≠
      (detect document (front ++ t :: back)).outcome.map (Option.map Prod.fst) →
    (detect document (front ++ withKeyword t before k after :: back)).outcome =
      .ok (some (front.length, withKeyword t before k after))

theorem movesTo_of_repeated {front back : List Template} (hkeywords : t.keywords = before ++ after)
    (hrepeated : ∃ w ∈ t.keywords, w.toLower = k.toLower) :
    MovesTo document front t back before k after := by
  have hscore : score document (withKeyword t before k after) = _ := score_withKeyword hkeywords
  have hle : score document t ≤ score document (withKeyword t before k after) :=
    hscore ▸ Nat.le_add_right _ _
  constructor <;> simp only [outcome_detect, Except.map, ne_eq, Except.ok.injEq]
  · by_cases hcounts : t.active = true ∧ k ≠ "" ∧ Occurs document k
    · rw [if_pos hcounts] at hscore
      rw [← ne_eq, overtakes_iff hcounts.1 (hits_pos_of_repeated hrepeated hcounts.2) hscore]
      simp [hcounts.1, hcounts.2]
    · rw [if_neg hcounts, Nat.add_zero] at hscore
      refine iff_of_false (not_not.mpr (position_of_score_eq hscore)) ?_
      exact fun h => hcounts ⟨h.1, h.2.1⟩
  · exact best_of_position_ne hle

/-- The keywords of a template that has passed its check are different, so they count once each. -/
theorem hits_of_checkTemplate {data : Data} (h : Data.checkTemplate data = .pass t) :
    hits document t.keywords = #{w ∈ t.keywords.toFinset | Occurs document w} := by
  have hclean := (Data.isChecked_of_checkTemplate h).keywords
  rw [hits_eq_countP, List.countP_eq_length_filter,
    ← List.toFinset_card_of_nodup (hclean.nodup.filter _), List.toFinset_filter]
  refine congrArg card (filter_congr fun w hw => ?_)
  have hne : w ≠ "" := by simpa using hclean.nonempty w (List.mem_toFinset.mp hw)
  rw [found_iff_occurs, and_iff_right hne]

/-- Each keyword counts as often as it is listed. So the hits are the different keywords that occur
in the document just if none of these is listed twice, and a keyword that is listed once more is one
more hit just if it occurs. In a template that has passed its check no keyword is listed twice in
the same spelling, but in another one it can be. When a template lists one of its keywords once
more, the choice of a template moves only if the template is active and the keyword occurs, and it
moves to that template: from one in front of it that had as many hits, or from one behind it that
had one hit more. -/
theorem hits_repeats (document : String) (ks : List String) :
    Counts document ks ∧
    (∀ before k after, hits document (before ++ k :: after) =
      hits document (before ++ after) + if k ≠ "" ∧ Occurs document k then 1 else 0) ∧
    (∀ data t, Data.checkTemplate data = .pass t →
      hits document t.keywords = #{w ∈ t.keywords.toFinset | Occurs document w}) ∧
    ∀ (front back : List Template) (t : Template) (before : List String) (k : String)
      (after : List String), t.keywords = before ++ after →
      (∃ w ∈ t.keywords, w.toLower = k.toLower) → MovesTo document front t back before k after :=
  ⟨⟨hits_eq_sum document ks, card_distinct_le document ks, hits_eq_card_distinct_iff⟩,
    hits_insert document, fun _ _ => hits_of_checkTemplate,
    fun _ _ _ _ _ _ => movesTo_of_repeated⟩

theorem hits_repeats_behind_equal :
    let t : Template := ⟨none, "", true, ["b"], none, .empty, .empty, none, none⟩
    let u : Template := { t with keywords := ["a"] }
    Data.checkTemplate (.map [(.text "detect_keywords", .list [.text "a"])]) = .pass u ∧
      u.keywords = ["a"] ++ [] ∧ (∃ w ∈ u.keywords, w.toLower = "A".toLower) ∧
      hits "a b" u.keywords = #{w ∈ u.keywords.toFinset | Occurs "a b" w} ∧
      (detect "a b" ([t] ++ withKeyword u ["a"] "A" [] :: [])).outcome =
        .ok (some (1, withKeyword u ["a"] "A" [])) := by
  intro t u
  have hcheck : Data.checkTemplate (.map [(.text "detect_keywords", .list [.text "a"])]) =
      .pass u := by cbv
  have hrepeated : ∃ w ∈ u.keywords, w.toLower = "A".toLower := ⟨"a", by simp [u], by cbv⟩
  have hchosen : (detect "a b" [t, u]).outcome = .ok (some (0, t)) := by
    rw [outcome_detect]
    rfl
  obtain ⟨-, -, hdistinct, hmoves⟩ := hits_repeats "a b" u.keywords
  have hmove := hmoves [t] [] u ["a"] "A" [] rfl hrepeated
  refine ⟨hcheck, rfl, hrepeated, hdistinct _ u hcheck,
    hmove.moves_here (hmove.moves_iff.mpr ?_)⟩
  exact ⟨rfl, ⟨by decide, by decide⟩, 0, t, hchosen, by decide, by decide⟩

/-- A keyword that is listed twice, in any case, is two hits, and they make a difference for the
choice between two templates that have passed their checks. -/
theorem hits_listed_twice :
    let t : Template := ⟨none, "", true, ["b"], none, .empty, .empty, none, none⟩
    let once : Template := { t with keywords := ["a"] }
    let twice : Template := { t with keywords := ["a", "A"] }
    hits "a" ["a"] = 1 ∧ hits "a" ["a", "a"] = 2 ∧ hits "a" ["a", "A"] = 2 ∧
      (∃ data, Data.checkTemplate data = .pass twice) ∧
      (detect "a b" [t, once]).outcome = .ok (some (0, t)) ∧
      (detect "a b" [t, twice]).outcome = .ok (some (1, twice)) := by
  intro t once twice
  have hcheck : Data.checkTemplate (.map [(.text "detect_keywords",
      .list [.text "a", .text "A"])]) = .pass twice := by cbv
  refine ⟨by decide, by decide, by decide, ⟨_, hcheck⟩, ?_, ?_⟩
  · rw [outcome_detect]
    rfl
  · rw [outcome_detect]
    rfl

end OrderSheet.Detect
