import Mathlib.Data.List.Forall2
import OrderSheet.Proofs.Regex.Ways

/-!
# Patterns one after the other

The ways of a sequence of patterns are put together from the ways of its parts. A sequence of
patterns that give up their choices gives up its own, and it is always supported.
-/

namespace OrderSheet.Regex

def Node.chain (nodes : List Node) : Node := Node.ofReversed nodes.reverse

namespace Node

variable {a b : Node} {ns ms : List Node} {s t u : Place}

theorem way_seq_iff : (seq a b).Way s u ↔ ∃ t, a.Way s t ∧ b.Way t u := by
  constructor
  · intro h
    cases h with
    | seq ha hb => exact ⟨_, ha, hb⟩
  · rintro ⟨t, ha, hb⟩
    exact .seq ha hb

theorem way_empty_iff : empty.Way s t ↔ s = t := by
  constructor
  · intro h
    cases h
    rfl
  · rintro rfl
    exact .empty s

theorem way_anchor_iff {a : Anchor} : (anchor a).Way s t ↔ s.holds a = true ∧ s = t := by
  constructor
  · intro h
    cases h with
    | anchor h => exact ⟨h, rfl⟩
  · rintro ⟨h, rfl⟩
    exact .anchor h

theorem way_one_iff {p : Single} :
    (one p).Way s t ↔ ∃ c cs, s.after = c :: cs ∧ p.accepts c = true ∧ t = s.past [c] cs := by
  constructor
  · intro h
    cases h with
    | one hs hc => exact ⟨_, _, hs, hc, rfl⟩
  · rintro ⟨c, cs, hs, hc, rfl⟩
    exact .one hs hc

theorem way_run_iff {greed : Greed} {least : Nat} {most : Option Nat} {p : Single} :
    (run greed least most p).Way s t ↔ ∃ cs tail, s.after = cs ++ tail ∧
      (∀ c ∈ cs, p.accepts c = true) ∧ least ≤ cs.length ∧
      (∀ m, most = some m → cs.length ≤ m) ∧ t = s.past cs tail := by
  constructor
  · intro h
    cases h with
    | run hs hall hleast hmost => exact ⟨_, _, hs, hall, hleast, hmost, rfl⟩
  · rintro ⟨cs, tail, hs, hall, hleast, hmost, rfl⟩
    exact .run hs hall hleast hmost

theorem way_group_iff {i : Nat} :
    (group i a).Way s u ↔ ∃ t, a.Way (s.enter i) t ∧ u = t.leave i := by
  constructor
  · intro h
    cases h with
    | group h => exact ⟨_, h, rfl⟩
  · rintro ⟨t, h, rfl⟩
    exact .group h

theorem way_append_iff : (a.append b).Way s u ↔ ∃ t, a.Way s t ∧ b.Way t u := by
  unfold append
  split
  · simp [way_empty_iff]
  · simp [way_empty_iff]
  · exact way_seq_iff

@[simp] theorem chain_nil : chain [] = empty := rfl

theorem chain_cons (n : Node) (ns : List Node) : chain (n :: ns) = n.append (chain ns) := by
  simp [chain, ofReversed]

theorem way_chain_cons_iff {n : Node} :
    (chain (n :: ns)).Way s u ↔ ∃ t, n.Way s t ∧ (chain ns).Way t u := by
  rw [chain_cons, way_append_iff]

theorem way_chain_append_iff :
    (chain (ns ++ ms)).Way s u ↔ ∃ t, (chain ns).Way s t ∧ (chain ms).Way t u := by
  induction ns generalizing s with
  | nil => simp [way_empty_iff]
  | cons n ns ih =>
    simp only [List.cons_append, way_chain_cons_iff, ih]
    constructor
    · rintro ⟨t, hn, v, hns, hms⟩
      exact ⟨v, ⟨t, hn, hns⟩, hms⟩
    · rintro ⟨v, ⟨t, hn, hns⟩, hms⟩
      exact ⟨t, hn, v, hns, hms⟩

/-- A sequence of patterns for one character each goes along a part of the text that has a character
for each of them. -/
theorem way_chain_ones_iff {ps : List Single} : (chain (ps.map one)).Way s u ↔
    ∃ cs tail, s.after = cs ++ tail ∧ List.Forall₂ (fun p c => p.accepts c = true) ps cs ∧
      u = s.past cs tail := by
  induction ps generalizing s with
  | nil =>
    rw [List.map_nil, chain_nil, way_empty_iff]
    constructor
    · rintro rfl
      exact ⟨[], s.after, rfl, .nil, rfl⟩
    · rintro ⟨cs, tail, hs, hcs, rfl⟩
      cases hcs
      obtain rfl : s.after = tail := hs
      rfl
  | cons p ps ih =>
    simp only [List.map_cons, way_chain_cons_iff, way_one_iff, ih]
    constructor
    · rintro ⟨_, ⟨c, ds, hs, hc, rfl⟩, cs, tail, hds, hall, rfl⟩
      obtain rfl : ds = cs ++ tail := hds
      exact ⟨c :: cs, tail, hs, .cons hc hall, Place.past_past ..⟩
    · rintro ⟨cs, tail, hs, hall, rfl⟩
      cases hall with
      | @cons _ c _ cs hc hall =>
        exact ⟨_, ⟨c, cs ++ tail, hs, hc, rfl⟩, cs, tail, rfl, hall,
          (Place.past_past s [c] cs tail (cs ++ tail)).symm⟩

theorem unsupported?_eq_none {n : Node} (h : n.backtracks = true) :
    n.unsupported? false = none := by
  induction n with
  | empty | one | anchor | run => rfl
  | seq a b iha ihb | alt a b iha ihb =>
    simp only [backtracks, Bool.and_eq_true] at h
    simp [unsupported?, iha h.1, ihb h.2]
  | group i body ih => exact ih h
  | loop | atomic | again | ifGroup | ahead | behind => cases h

theorem backtracks_append {a b : Node} (ha : a.backtracks = true)
    (hb : b.backtracks = true) : (a.append b).backtracks = true := by
  unfold append
  split
  · exact ha
  · exact hb
  · simp [backtracks, ha, hb]

theorem backtracks_chain {nodes : List Node} (h : ∀ n ∈ nodes, n.backtracks = true) :
    (chain nodes).backtracks = true := by
  rw [chain, ofReversed, List.foldl_reverse]
  induction nodes with
  | nil => rfl
  | cons n ns ih =>
    exact backtracks_append (h n (by simp)) (ih fun m hm => h m (List.mem_cons_of_mem _ hm))

end Node

end OrderSheet.Regex
