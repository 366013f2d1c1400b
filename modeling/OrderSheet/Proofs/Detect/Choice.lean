import Mathlib
import OrderSheet.Detect

/-!
# The chosen template

A template leads a list if it is active, has a hit, and no active template of the list has more.
The template that is chosen for a document is the first one that leads. Templates that are inactive
or have no hits can stand anywhere in the list, and templates that come later than the chosen one
have to beat it.
-/

namespace OrderSheet.Detect

variable {document : String} {t u : Template} {ts us before extra after : List Template}
  {i j most : Nat} {best? : Option (Nat × Template)}

/-- An active template with a hit, such that no active template of the list has more hits. -/
structure Leads (document : String) (ts : List Template) (t : Template) : Prop where
  active : t.active = true
  positive : 0 < hits document t.keywords
  most : ∀ u ∈ ts, u.active = true → hits document u.keywords ≤ hits document t.keywords

def IsSilent (document : String) (t : Template) : Prop :=
  t.active = true → hits document t.keywords = 0

instance (document : String) (t : Template) : Decidable (IsSilent document t) :=
  inferInstanceAs (Decidable (_ → _))

def score (document : String) (t : Template) : Nat :=
  if t.active then hits document t.keywords else 0

theorem isSilent_iff : IsSilent document t ↔ score document t = 0 := by
  rw [IsSilent, score]
  split <;> simp_all

theorem leads_iff : Leads document ts t ↔
    0 < score document t ∧ ∀ u ∈ ts, score document u ≤ score document t := by
  constructor
  · rintro ⟨hactive, hpositive, hmost⟩
    rw [score, if_pos hactive]
    refine ⟨hpositive, fun u hu => ?_⟩
    rw [score]
    split
    · next hu' => exact hmost u hu hu'
    · exact Nat.zero_le _
  · rintro ⟨hpositive, hmost⟩
    have hactive : t.active = true := by
      by_contra hnot
      rw [score, if_neg hnot] at hpositive
      exact Nat.lt_irrefl 0 hpositive
    rw [score, if_pos hactive] at hpositive hmost
    refine ⟨hactive, hpositive, fun u hu hu' => ?_⟩
    have hle := hmost u hu
    rwa [score, if_pos hu'] at hle

instance (document : String) (ts : List Template) (t : Template) :
    Decidable (Leads document ts t) :=
  decidable_of_iff' _ leads_iff

theorem Leads.not_isSilent (h : Leads document ts t) : ¬ IsSilent document t := by
  rw [isSilent_iff]
  exact (leads_iff.mp h).1.ne'

theorem Leads.of_subset (h : Leads document ts t) (hsub : us ⊆ ts) : Leads document us t :=
  ⟨h.active, h.positive, fun u hu => h.most u (hsub hu)⟩

theorem leads_congr (h : ∀ u, ¬ IsSilent document u → (u ∈ ts ↔ u ∈ us)) :
    Leads document ts t ↔ Leads document us t := by
  have hmost {vs ws : List Template} (hvw : ∀ u, ¬ IsSilent document u → (u ∈ vs ↔ u ∈ ws))
      (hlead : Leads document vs t) : Leads document ws t := by
    refine ⟨hlead.active, hlead.positive, fun u hu hactive => ?_⟩
    by_cases hsilent : IsSilent document u
    · rw [hsilent hactive]
      exact Nat.zero_le _
    · exact hlead.most u ((hvw u hsilent).mpr hu) hactive
  exact ⟨hmost h, hmost fun u hu => (h u hu).symm⟩

/-- What has been found when the templates `ts` have been looked at, and its hits. -/
inductive Found (document : String) (ts : List Template) : Option (Nat × Template) × Nat → Prop
  | nobody (h : ∀ u ∈ ts, score document u = 0) : Found document ts (none, 0)
  | somebody {before after : List Template} {t : Template} (hts : ts = before ++ t :: after)
      (hpositive : 0 < score document t)
      (hbefore : ∀ u ∈ before, score document u < score document t)
      (hafter : ∀ u ∈ after, score document u ≤ score document t) :
      Found document ts (some (before.length, t), score document t)

theorem bestFrom_cons (position : Nat) : bestFrom document best? most position (t :: ts) =
    if most < score document t then
      bestFrom document (some (position, t)) (score document t) (position + 1) ts
    else bestFrom document best? most (position + 1) ts :=
  rfl

theorem bestFrom_append (position : Nat) : bestFrom document best? most position (ts ++ us) =
    bestFrom document (bestFrom document best? most position ts).1
      (bestFrom document best? most position ts).2 (position + ts.length) us := by
  induction ts generalizing best? most position with
  | nil => rfl
  | cons t ts ih =>
    rw [List.cons_append, bestFrom_cons, bestFrom_cons, List.length_cons, Nat.add_comm ts.length 1,
      ← Nat.add_assoc]
    split
    · exact ih (position + 1)
    · exact ih (position + 1)

/-- One more template is found if it has more hits than what was found before. -/
theorem Found.next (h : Found document ts (best?, most)) :
    Found document (ts ++ [t]) (bestFrom document best? most ts.length [t]) := by
  rw [bestFrom_cons]
  cases h with
  | nobody h =>
    split
    · next hlt =>
      refine .somebody rfl hlt (fun u hu => ?_) (by simp)
      rwa [h u hu]
    · next hnot =>
      refine .nobody fun u hu => ?_
      rcases List.mem_append.mp hu with hu | hu
      · exact h u hu
      · rw [List.mem_singleton.mp hu]
        exact Nat.eq_zero_of_not_pos hnot
  | @somebody before after s hts hpositive hbefore hafter =>
    subst hts
    split
    · next hlt =>
      refine .somebody rfl (Nat.zero_lt_of_lt hlt) (fun u hu => ?_) (by simp)
      rw [List.mem_append, List.mem_cons] at hu
      rcases hu with hu | rfl | hu
      · exact (hbefore u hu).trans hlt
      · exact hlt
      · exact (hafter u hu).trans_lt hlt
    · next hnot =>
      have hplace : before ++ s :: after ++ [t] = before ++ s :: (after ++ [t]) := by simp
      refine .somebody hplace hpositive hbefore fun u hu => ?_
      rcases List.mem_append.mp hu with hu | hu
      · exact hafter u hu
      · rw [List.mem_singleton.mp hu]
        exact Nat.le_of_not_lt hnot

theorem found_bestFrom (document : String) (ts : List Template) :
    Found document ts (bestFrom document none 0 0 ts) := by
  induction ts using List.reverseRecOn with
  | nil => exact .nobody (by simp)
  | append_singleton ts t ih =>
    rw [bestFrom_append, Nat.zero_add]
    exact Found.next ih

theorem best_eq_none_iff : best document ts = none ↔ ∀ t ∈ ts, IsSilent document t := by
  have hfound := found_bestFrom document ts
  rw [best]
  generalize bestFrom document none 0 0 ts = found at hfound
  cases hfound with
  | nobody h => simpa [isSilent_iff] using h
  | @somebody before after t hts hpositive =>
    have hmem : t ∈ ts := by simp [hts]
    simp only [reduceCtorEq, false_iff]
    exact fun hsilent => hpositive.ne' (isSilent_iff.mp (hsilent t hmem))

/-- The template between two lists has a hit, beats those before it and is not beaten by those
behind it. -/
structure Wins (document : String) (before : List Template) (t : Template) (after : List Template) :
    Prop where
  positive : 0 < score document t
  before : ∀ u ∈ before, score document u < score document t
  after : ∀ u ∈ after, score document u ≤ score document t

theorem Wins.first (h : Wins document before t after) :
    Leads document (before ++ t :: after) t ∧
      ∀ j < before.length, ∀ u, (before ++ t :: after)[j]? = some u →
        ¬ Leads document (before ++ t :: after) u := by
  refine ⟨leads_iff.mpr ⟨h.positive, fun u hu => ?_⟩, fun j hj u hu hlead => ?_⟩
  · rw [List.mem_append, List.mem_cons] at hu
    rcases hu with hu | rfl | hu
    · exact (h.before u hu).le
    · exact Nat.le_refl _
    · exact h.after u hu
  · rw [List.getElem?_append_left hj] at hu
    have hless := h.before u (List.mem_of_getElem? hu)
    exact Nat.not_le_of_gt hless ((leads_iff.mp hlead).2 _ (by simp))

theorem wins_of_best (h : best document ts = some (i, t)) :
    ∃ before after, ts = before ++ t :: after ∧ before.length = i ∧
      Wins document before t after := by
  have hfound := found_bestFrom document ts
  rw [best] at h
  generalize bestFrom document none 0 0 ts = found at hfound h
  cases hfound with
  | nobody => cases h
  | @somebody before after s hts hpositive hbefore hafter =>
    obtain ⟨rfl, rfl⟩ := Prod.mk.inj (Option.some.inj h)
    exact ⟨before, after, hts, rfl, hpositive, hbefore, hafter⟩

/-- The chosen template stands at its position and leads, and no earlier one does. -/
theorem first_of_best (h : best document ts = some (i, t)) :
    ts[i]? = some t ∧ Leads document ts t ∧
      ∀ j < i, ∀ u, ts[j]? = some u → ¬ Leads document ts u := by
  obtain ⟨before, after, rfl, rfl, hwins⟩ := wins_of_best h
  exact ⟨by simp, hwins.first⟩

theorem best_eq_some_iff : best document ts = some (i, t) ↔
    ts[i]? = some t ∧ Leads document ts t ∧
      ∀ j < i, ∀ u, ts[j]? = some u → ¬ Leads document ts u := by
  refine ⟨first_of_best, ?_⟩
  rintro ⟨ht, hlead, hfirst⟩
  cases hbest : best document ts with
  | none => exact absurd (best_eq_none_iff.mp hbest t (List.mem_of_getElem? ht)) hlead.not_isSilent
  | some found =>
    obtain ⟨j, u⟩ := found
    obtain ⟨hu, hlead', hfirst'⟩ := first_of_best hbest
    rcases lt_trichotomy i j with hij | rfl | hij
    · exact absurd hlead (hfirst' i hij t ht)
    · rw [Option.some.inj (ht.symm.trans hu)]
    · exact absurd hlead' (hfirst j hij u hu)

theorem Wins.best_eq (h : Wins document before t after) :
    best document (before ++ t :: after) = some (before.length, t) :=
  best_eq_some_iff.mpr ⟨by simp, h.first⟩

/-- The place of what stood at the place `i` once `count` entries have been put in at `start`. -/
def moved (start count i : Nat) : Nat := if i < start then i else i + count

theorem moved_lt_moved_iff {start count : Nat} :
    moved start count i < moved start count j ↔ i < j := by
  unfold moved
  split <;> split <;> omega

theorem getElem?_insert (extra : List Template) (h : (before ++ after)[i]? = some t) :
    (before ++ extra ++ after)[moved before.length extra.length i]? = some t := by
  rw [moved, List.append_assoc]
  split
  · next hi =>
    rw [List.getElem?_append_left hi] at h
    rwa [List.getElem?_append_left hi]
  · next hi =>
    rw [List.getElem?_append_right (Nat.le_of_not_lt hi)] at h
    rw [List.getElem?_append_right (by omega), List.getElem?_append_right (by omega), ← h]
    congr 1
    omega

/-- What stands in the longer list has been put in or stood in the shorter one. -/
theorem exists_of_getElem?_insert (h : (before ++ extra ++ after)[j]? = some t) :
    t ∈ extra ∨ ∃ i, j = moved before.length extra.length i ∧ (before ++ after)[i]? = some t := by
  rw [List.append_assoc] at h
  by_cases hj : j < before.length
  · rw [List.getElem?_append_left hj] at h
    exact .inr ⟨j, (if_pos hj).symm, by rwa [List.getElem?_append_left hj]⟩
  · rw [List.getElem?_append_right (Nat.le_of_not_lt hj)] at h
    by_cases hextra : j - before.length < extra.length
    · rw [List.getElem?_append_left hextra] at h
      exact .inl (List.mem_of_getElem? h)
    · rw [List.getElem?_append_right (Nat.le_of_not_lt hextra)] at h
      refine .inr ⟨j - extra.length, ?_, ?_⟩
      · rw [moved, if_neg (by omega)]
        omega
      · rw [List.getElem?_append_right (by omega), Nat.sub_right_comm]
        exact h

theorem mem_insert_iff (hextra : ∀ u ∈ extra, IsSilent document u) (hu : ¬ IsSilent document u) :
    u ∈ before ++ extra ++ after ↔ u ∈ before ++ after := by
  have hnot : u ∉ extra := fun hmem => hu (hextra u hmem)
  simp [hnot]

/-- Silent templates only move the ones behind them. -/
theorem best_insert (hextra : ∀ u ∈ extra, IsSilent document u) :
    best document (before ++ extra ++ after) = (best document (before ++ after)).map
      fun found => (moved before.length extra.length found.1, found.2) := by
  have hleads {v : Template} : Leads document (before ++ extra ++ after) v ↔
      Leads document (before ++ after) v :=
    leads_congr fun _ hu => mem_insert_iff hextra hu
  cases hbest : best document (before ++ after) with
  | none =>
    have hsilent := best_eq_none_iff.mp hbest
    refine best_eq_none_iff.mpr fun u hu => ?_
    by_contra hnot
    exact hnot (hsilent u ((mem_insert_iff hextra hnot).mp hu))
  | some found =>
    obtain ⟨i, t⟩ := found
    obtain ⟨ht, hlead, hfirst⟩ := first_of_best hbest
    refine best_eq_some_iff.mpr ⟨getElem?_insert extra ht, hleads.mpr hlead, ?_⟩
    intro j hj u hu hlead'
    rcases exists_of_getElem?_insert hu with hmem | ⟨k, rfl, hk⟩
    · exact hlead'.not_isSilent (hextra u hmem)
    · exact hfirst k (moved_lt_moved_iff.mp hj) u hk (hleads.mp hlead')

theorem map_best_eq_find? (document : String) (ts : List Template) :
    (best document ts).map Prod.snd = ts.find? (Leads document ts ·) := by
  cases hbest : best document ts with
  | none =>
    refine (List.find?_eq_none.mpr fun t ht => ?_).symm
    simpa using fun hlead : Leads document ts t =>
      hlead.not_isSilent (best_eq_none_iff.mp hbest t ht)
  | some found =>
    obtain ⟨i, t⟩ := found
    obtain ⟨ht, hlead, hfirst⟩ := first_of_best hbest
    obtain ⟨hi, rfl⟩ := List.getElem?_eq_some_iff.mp ht
    refine (List.find?_eq_some_iff_getElem.mpr ⟨by simpa using hlead, i, hi, rfl, ?_⟩).symm
    intro j hj
    simpa using hfirst j hj _ (List.getElem?_eq_getElem (hj.trans hi))

/-- Lists that differ in silent templates only have the same choice. -/
theorem map_best_congr (h : us.filter (¬ IsSilent document ·) = ts.filter (¬ IsSilent document ·)) :
    (best document us).map Prod.snd = (best document ts).map Prod.snd := by
  have hloud (vs : List Template) : vs.find? (Leads document ts ·) =
      (vs.filter (¬ IsSilent document ·)).find? (Leads document ts ·) := by
    rw [List.find?_filter]
    congr 1
    funext t
    by_cases hlead : Leads document ts t
    · simp [hlead, hlead.not_isSilent]
    · simp [hlead]
  have hmem (u : Template) (hu : ¬ IsSilent document u) : u ∈ us ↔ u ∈ ts := by
    have hfilter := congrArg (u ∈ ·) h
    simpa [hu] using hfilter
  rw [map_best_eq_find?, map_best_eq_find?, hloud ts, ← h, ← hloud us]
  simp only [leads_congr hmem]

/-- A template that is put in behind the chosen one has to beat it. -/
theorem best_insert_behind (hbest : best document (before ++ after) = some (i, t))
    (hi : i < before.length)
    (hextra : ∀ u ∈ extra, u.active = true →
      hits document u.keywords ≤ hits document t.keywords) :
    best document (before ++ extra ++ after) = some (i, t) := by
  obtain ⟨ht, hlead, hfirst⟩ := first_of_best hbest
  rw [List.getElem?_append_left hi] at ht
  refine best_eq_some_iff.mpr ⟨?_, ⟨hlead.active, hlead.positive, fun u hu hactive => ?_⟩,
    fun j hj u hu hleads => ?_⟩
  · rwa [List.append_assoc, List.getElem?_append_left hi]
  · rw [List.mem_append, List.mem_append] at hu
    rcases hu with (hu | hu) | hu
    · exact hlead.most u (List.mem_append_left _ hu) hactive
    · exact hextra u hu hactive
    · exact hlead.most u (List.mem_append_right _ hu) hactive
  · rw [List.append_assoc, List.getElem?_append_left (hj.trans hi)] at hu
    refine hfirst j hj u (by rwa [List.getElem?_append_left (hj.trans hi)]) (hleads.of_subset ?_)
    exact List.append_subset.mpr ⟨by simp [List.append_assoc], by simp⟩

theorem outcome_detect (document : String) (ts : List Template) :
    (detect document ts).outcome = .ok (best document ts) := by
  rw [detect]
  split
  · next h => rw [h]
  · next h => rw [h]

/-- Detection always answers. It chooses the first template that leads, and none just if all are
silent. The choice stays when silent templates are put in or taken out, at any places, and the
chosen one moves by the number of those put in front of it. It also stays when templates are put in
behind it, unless an active one of them has more hits. -/
theorem detect_first (document : String) (ts : List Template) :
    (∀ i t, (detect document ts).outcome = .ok (some (i, t)) ↔ ts[i]? = some t ∧
      Leads document ts t ∧ ∀ j < i, ∀ u, ts[j]? = some u → ¬ Leads document ts u) ∧
    ((detect document ts).outcome = .ok none ↔
      ∀ t ∈ ts, t.active = true → hits document t.keywords = 0) ∧
    (∀ before extra after, ts = before ++ after → (∀ u ∈ extra, IsSilent document u) →
      (detect document (before ++ extra ++ after)).outcome =
        (detect document ts).outcome.map (Option.map fun found =>
          (moved before.length extra.length found.1, found.2))) ∧
    (∀ others : List Template,
      others.filter (¬ IsSilent document ·) = ts.filter (¬ IsSilent document ·) →
      (detect document others).outcome.map (Option.map Prod.snd) =
        (detect document ts).outcome.map (Option.map Prod.snd)) ∧
    ∀ before extra after i t, ts = before ++ after →
      (detect document ts).outcome = .ok (some (i, t)) → i < before.length →
      (∀ u ∈ extra, u.active = true → hits document u.keywords ≤ hits document t.keywords) →
      (detect document (before ++ extra ++ after)).outcome = .ok (some (i, t)) := by
  simp only [outcome_detect]
  refine ⟨fun i t => ?_, ?_, ?_, fun others hfilter => ?_, ?_⟩
  · rw [Except.ok.injEq]
    exact best_eq_some_iff
  · rw [Except.ok.injEq]
    exact best_eq_none_iff
  · rintro before extra after rfl hextra
    exact congrArg Except.ok (best_insert hextra)
  · exact congrArg Except.ok (map_best_congr hfilter)
  · rintro before extra after i t rfl hbest hi hextra
    exact congrArg Except.ok (best_insert_behind (Except.ok.inj hbest) hi hextra)

theorem detect_first_inactive_in_front :
    let t : Template := ⟨none, "t", true, ["a"], none, ⟨none, none, none, none⟩,
      ⟨"", "", "", FieldMapping.empty⟩, none, none⟩
    let u : Template := { t with active := false }
    IsSilent "A" u ∧ (detect "A" ([] ++ [t, t])).outcome = .ok (some (0, t)) ∧
      (detect "A" ([] ++ [u] ++ [t, t])).outcome = .ok (some (1, t)) := by
  intro t u
  have hsilent : ∀ v ∈ [u], IsSilent "A" v := by decide
  obtain ⟨hchosen, -, hinsert, -⟩ := detect_first "A" [t, t]
  have hlead : Leads "A" [t, t] t := by decide
  have hfirst := (hchosen 0 t).mpr ⟨rfl, hlead, nofun⟩
  refine ⟨hsilent u (List.mem_singleton_self u), hfirst, ?_⟩
  rw [hinsert [] [u] [t, t] rfl hsilent, hfirst]
  rfl

end OrderSheet.Detect
