import Mathlib.Data.List.Basic
import OrderSheet.Regex.Search

/-!
# Ways through a text

`Node.Way` relates a place to the places that a pattern can lead to, without an order among them.
Matching with a continuation ends on such a way, and it succeeds whenever the continuation succeeds
behind one of them. Both statements concern patterns that give up a choice when the rest fails.
-/

namespace OrderSheet.Regex

namespace Place

/-- The place behind `cs`, where `rest` is ahead. -/
def past (s : Place) (cs rest : List Char) : Place :=
  { s with before := cs.reverse ++ s.before, after := rest, pos := s.pos + cs.length }

@[simp] theorem past_after (s : Place) (cs rest : List Char) : (s.past cs rest).after = rest := rfl

@[simp] theorem past_slots (s : Place) (cs rest : List Char) :
    (s.past cs rest).slots = s.slots := rfl

@[simp] theorem past_pos (s : Place) (cs rest : List Char) :
    (s.past cs rest).pos = s.pos + cs.length := rfl

@[simp] theorem past_before (s : Place) (cs rest : List Char) :
    (s.past cs rest).before = cs.reverse ++ s.before := rfl

@[simp] theorem past_nil (s : Place) : s.past [] s.after = s := rfl

@[simp] theorem forward_after (s : Place) (c : Char) (cs : List Char) :
    (s.forward c cs).after = cs := rfl

theorem forward_eq_past (s : Place) (c : Char) (cs : List Char) :
    s.forward c cs = s.past [c] cs := rfl

theorem past_forward (s : Place) (c : Char) (cs rest tail : List Char) :
    (s.forward c tail).past cs rest = s.past (c :: cs) rest := by
  simp [past, forward, Nat.add_comm, Nat.add_left_comm]

theorem past_past (s : Place) (cs ds rest tail : List Char) :
    (s.past cs tail).past ds rest = s.past (cs ++ ds) rest := by
  simp [past, Nat.add_assoc]

theorem backward_past (s : Place) (c : Char) (cs rest : List Char) :
    (s.past (cs ++ [c]) rest).backward c (cs.reverse ++ s.before) = s.past cs (c :: rest) := by
  simp [past, backward]

end Place

/-- The greedy repetition takes the longest possible part of the text ahead. -/
theorem advance_spec (p : Single) (slots : List Slot) (limit count : Nat) (before : List Char)
    (pos : Nat) (after : List Char) :
    ∃ cs rest, after = cs ++ rest ∧ (∀ c ∈ cs, p.accepts c = true) ∧
      (cs = [] ∨ count + cs.length ≤ limit) ∧
      advance p slots limit count before pos after =
        (count + cs.length, (⟨before, after, pos, slots⟩ : Place).past cs rest) ∧
      ∀ ds tail, after = ds ++ tail → (∀ c ∈ ds, p.accepts c = true) →
        count + ds.length ≤ limit → ds.length ≤ cs.length := by
  induction after generalizing count before pos with
  | nil =>
    refine ⟨[], [], rfl, by simp, Or.inl rfl, rfl, ?_⟩
    intro ds tail hd _ _
    have hnil : ds = [] := (List.append_eq_nil_iff.mp hd.symm).1
    simp [hnil]
  | cons c cs ih =>
    by_cases hc : count < limit ∧ p.accepts c = true
    · obtain ⟨ds, rest, hsplit, hall, hlimit, heq, hmax⟩ := ih (count + 1) (c :: before) (pos + 1)
      refine ⟨c :: ds, rest, by rw [hsplit]; rfl, ?_, Or.inr ?_, ?_, ?_⟩
      · intro d hd
        rcases List.mem_cons.mp hd with rfl | hd
        · exact hc.2
        · exact hall d hd
      · rcases hlimit with rfl | hlimit
        · exact hc.1
        · simp only [List.length_cons]
          omega
      · rw [advance, if_pos (by simp [hc.1, hc.2]), heq]
        simp only [List.length_cons, Prod.mk.injEq]
        exact ⟨by omega, Place.past_forward ⟨before, c :: cs, pos, slots⟩ c ds rest cs⟩
      · intro es tail hes hacc hle
        cases es with
        | nil => simp
        | cons e es =>
          obtain ⟨rfl, htail⟩ := List.cons.inj hes
          have := hmax es tail htail (fun d hd => hacc d (List.mem_cons_of_mem _ hd))
            (by simp only [List.length_cons] at hle; omega)
          simpa using this
    · refine ⟨[], c :: cs, rfl, by simp, Or.inl rfl, ?_, ?_⟩
      · rw [advance, if_neg (by simpa using hc)]
        rfl
      · intro ds tail hds hacc hle
        cases ds with
        | nil => simp
        | cons d ds =>
          obtain ⟨rfl, -⟩ := List.cons.inj hds
          refine absurd ⟨?_, hacc c (by simp)⟩ hc
          simp only [List.length_cons] at hle
          omega

variable {p : Single} {rest : Rest} {s t r : Place} {n : Nat} {cs tail : List Char}

theorem retreat_zero (s : Place) : retreat rest 0 s = rest s := by
  rw [retreat]
  cases rest s <;> rfl

theorem retreat_succ (s : Place) (n : Nat) (c : Char) :
    retreat rest (n + 1) (s.past (cs ++ [c]) tail) =
      (rest (s.past (cs ++ [c]) tail)).or (retreat rest n (s.past cs (c :: tail))) := by
  have hbefore : (s.past (cs ++ [c]) tail).before = c :: (cs.reverse ++ s.before) := by simp
  rw [retreat, hbefore]
  cases rest (s.past (cs ++ [c]) tail) with
  | some r => rfl
  | none => simp only [Place.backward_past, Option.none_or]

/-- Giving back characters one by one ends at a place where the rest succeeds. -/
theorem retreat_eq_some (hn : n ≤ cs.length) (h : retreat rest n (s.past cs tail) = some r) :
    ∃ kept given, cs = kept ++ given ∧ given.length ≤ n ∧
      rest (s.past kept (given ++ tail)) = some r := by
  induction n generalizing cs tail with
  | zero => exact ⟨cs, [], by simp, by simp, by simpa [retreat_zero] using h⟩
  | succ n ih =>
    obtain rfl | ⟨ds, c, rfl⟩ := List.eq_nil_or_concat' cs
    · simp at hn
    · rw [retreat_succ, Option.or_eq_some_iff] at h
      rcases h with h | ⟨-, h⟩
      · exact ⟨ds ++ [c], [], by simp, by simp, by simpa using h⟩
      · obtain ⟨kept, given, rfl, hle, hrest⟩ := ih (by simpa using hn) h
        exact ⟨kept, given ++ [c], by simp, by simpa using hle, by simpa using hrest⟩

theorem isSome_retreat_self (s : Place) (h : (rest s).isSome) :
    (retreat rest n s).isSome := by
  obtain ⟨r, hr⟩ := Option.isSome_iff_exists.mp h
  rw [retreat.eq_def, hr]
  rfl

theorem isSome_retreat {kept given : List Char} (hn : given.length ≤ n)
    (h : (rest (s.past kept (given ++ tail))).isSome) :
    (retreat rest n (s.past (kept ++ given) tail)).isSome := by
  induction n generalizing given tail with
  | zero =>
    obtain rfl : given = [] := List.length_eq_zero_iff.mp (by omega)
    simpa [retreat_zero] using h
  | succ n ih =>
    obtain rfl | ⟨ds, c, rfl⟩ := List.eq_nil_or_concat' given
    · exact isSome_retreat_self _ (by simpa using h)
    · have hds : (retreat rest n (s.past (kept ++ ds) (c :: tail))).isSome :=
        ih (by simpa using hn) (by simpa using h)
      rw [← List.append_assoc, retreat_succ, Option.isSome_or, hds, Bool.or_true]

theorem consume?_eq_some_iff :
    consume? p n s = some t ↔ ∃ cs tail, s.after = cs ++ tail ∧ cs.length = n ∧
      (∀ c ∈ cs, p.accepts c = true) ∧ t = s.past cs tail := by
  induction n generalizing s with
  | zero =>
    constructor
    · intro h
      refine ⟨[], s.after, rfl, rfl, by simp, ?_⟩
      rw [Place.past_nil]
      simpa [consume?, eq_comm] using h
    · rintro ⟨cs, tail, hs, hlen, -, rfl⟩
      obtain rfl := List.length_eq_zero_iff.mp hlen
      obtain rfl : s.after = tail := hs
      rfl
  | succ n ih =>
    constructor
    · intro h
      rw [consume?] at h
      cases hs : s.after with
      | nil => simp [hs] at h
      | cons c cs =>
        by_cases hc : p.accepts c = true
        · obtain ⟨ds, tail, hds, hlen, hall, rfl⟩ := ih.mp (by simpa [hs, hc] using h)
          refine ⟨c :: ds, tail, by simpa using hds, by simpa using hlen, ?_,
            Place.past_forward ..⟩
          simpa using ⟨hc, hall⟩
        · simp [hs, hc] at h
    · rintro ⟨cs, tail, hs, hlen, hall, rfl⟩
      cases cs with
      | nil => simp at hlen
      | cons c cs =>
        have hc := hall c (by simp)
        rw [consume?, hs]
        simp only [List.cons_append, hc, if_true]
        refine ih.mpr ⟨cs, tail, rfl, by simpa using hlen, ?_, (Place.past_forward ..).symm⟩
        exact fun d hd => hall d (List.mem_cons_of_mem _ hd)

theorem creep_eq_some (h : creep p rest n s = some r) :
    ∃ cs tail, s.after = cs ++ tail ∧ cs.length ≤ n ∧ (∀ c ∈ cs, p.accepts c = true) ∧
      rest (s.past cs tail) = some r := by
  induction n generalizing s with
  | zero =>
    refine ⟨[], s.after, rfl, by simp, by simp, ?_⟩
    rw [creep] at h
    rw [Place.past_nil]
    cases hr : rest s <;> simp_all
  | succ n ih =>
    rw [creep] at h
    cases hr : rest s with
    | some x =>
      refine ⟨[], s.after, rfl, by simp, by simp, ?_⟩
      simpa [hr] using h
    | none =>
      cases hs : s.after with
      | nil => simp [hr, hs] at h
      | cons c cs =>
        by_cases hc : p.accepts c = true
        · obtain ⟨ds, tail, hds, hlen, hall, hrest⟩ := ih (by simpa [hr, hs, hc] using h)
          refine ⟨c :: ds, tail, by simpa using hds, by simpa using hlen, ?_, ?_⟩
          · simpa using ⟨hc, hall⟩
          · simpa only [Place.past_forward] using hrest
        · simp [hr, hs, hc] at h

theorem isSome_creep (hs : s.after = cs ++ tail) (hn : cs.length ≤ n)
    (hall : ∀ c ∈ cs, p.accepts c = true) (h : (rest (s.past cs tail)).isSome) :
    (creep p rest n s).isSome := by
  induction cs generalizing n s with
  | nil =>
    obtain rfl : s.after = tail := hs
    obtain ⟨r, hr⟩ := Option.isSome_iff_exists.mp h
    rw [Place.past_nil] at hr
    rw [creep.eq_def, hr]
    rfl
  | cons c cs ih =>
    cases n with
    | zero => simp at hn
    | succ n =>
      rw [creep]
      cases hr : rest s with
      | some r => rfl
      | none =>
        simp only [hs, List.cons_append, hall c (by simp), if_true]
        refine ih rfl (by simpa using hn) (fun d hd => hall d (List.mem_cons_of_mem _ hd)) ?_
        rwa [Place.past_forward]

def Greed.givesUp : Greed → Bool
  | .greedy | .reluctant => true
  | .possessive => false

variable {room least : Nat} {most : Option Nat} {greed : Greed}

theorem runOf_eq_some (hg : greed.givesUp = true) (hbounds : ∀ m, most = some m → least ≤ m)
    (h : runOf room greed least most p s rest = some r) :
    ∃ cs tail, s.after = cs ++ tail ∧ (∀ c ∈ cs, p.accepts c = true) ∧ least ≤ cs.length ∧
      (∀ m, most = some m → cs.length ≤ m) ∧ rest (s.past cs tail) = some r := by
  cases greed with
  | possessive => cases hg
  | greedy =>
    obtain ⟨taken, left, hsplit, hall, hlimit, heq, -⟩ :=
      advance_spec p s.slots (most.getD room) 0 s.before s.pos s.after
    simp only [runOf, heq, Nat.zero_add] at h
    by_cases hlt : taken.length < least
    · simp [hlt] at h
    · rw [if_neg hlt] at h
      obtain ⟨kept, given, rfl, hle, hrest⟩ := retreat_eq_some (Nat.sub_le ..) h
      refine ⟨kept, given ++ left, by simpa using hsplit, ?_, ?_, ?_, hrest⟩
      · exact fun c hc => hall c (List.mem_append_left _ hc)
      · simp only [List.length_append] at hle hlt
        omega
      · rintro m rfl
        rcases hlimit with hnil | hlimit
        · simp [(List.append_eq_nil_iff.mp hnil).1]
        · simp only [List.length_append, Option.getD_some] at hlimit
          omega
  | reluctant =>
    simp only [runOf] at h
    cases ht : consume? p least s with
    | none => simp [ht] at h
    | some t =>
      obtain ⟨cs, tail, hs, hlen, hall, rfl⟩ := consume?_eq_some_iff.mp ht
      obtain ⟨ds, left, hds, hle, hacc, hrest⟩ := creep_eq_some (by simpa [ht] using h)
      obtain rfl : tail = ds ++ left := hds
      refine ⟨cs ++ ds, left, by simpa using hs, ?_, by simp [hlen], ?_, ?_⟩
      · intro c hc
        rcases List.mem_append.mp hc with hc | hc
        · exact hall c hc
        · exact hacc c hc
      · rintro m rfl
        have := hbounds m rfl
        simp only [Option.getD_some] at hle
        simp only [List.length_append]
        omega
      · rwa [Place.past_past] at hrest

theorem isSome_runOf (hg : greed.givesUp = true) (hroom : s.after.length ≤ room)
    (hs : s.after = cs ++ tail) (hall : ∀ c ∈ cs, p.accepts c = true) (hleast : least ≤ cs.length)
    (hmost : ∀ m, most = some m → cs.length ≤ m) (h : (rest (s.past cs tail)).isSome) :
    (runOf room greed least most p s rest).isSome := by
  have hlimit : cs.length ≤ most.getD room := by
    cases most with
    | none =>
      rw [hs, List.length_append] at hroom
      exact Nat.le_of_add_right_le hroom
    | some m => exact hmost m rfl
  cases greed with
  | possessive => cases hg
  | greedy =>
    obtain ⟨taken, left, hsplit, -, -, heq, hmax⟩ :=
      advance_spec p s.slots (most.getD room) 0 s.before s.pos s.after
    have hlen := hmax cs tail hs hall (by omega)
    obtain ⟨given, rfl⟩ : cs <+: taken :=
      List.prefix_of_prefix_length_le ⟨tail, hs.symm⟩ ⟨left, hsplit.symm⟩ hlen
    obtain rfl : tail = given ++ left := by simpa [hs] using hsplit
    simp only [runOf, heq, Nat.zero_add]
    rw [if_neg (by simp only [List.length_append]; omega)]
    exact isSome_retreat (by simp only [List.length_append]; omega) h
  | reluctant =>
    have hsplit : cs = cs.take least ++ cs.drop least := (List.take_append_drop ..).symm
    have ht : consume? p least s = some (s.past (cs.take least) (cs.drop least ++ tail)) := by
      refine consume?_eq_some_iff.mpr ⟨_, _, ?_, List.length_take_of_le hleast, ?_, rfl⟩
      · rw [← List.append_assoc, List.take_append_drop, hs]
      · exact fun c hc => hall c (List.mem_of_mem_take hc)
    simp only [runOf, ht]
    refine isSome_creep rfl (by simp only [List.length_drop]; omega) ?_ ?_
    · exact fun c hc => hall c (List.mem_of_mem_drop hc)
    · rwa [Place.past_past, List.take_append_drop]

inductive Node.Way : Node → Place → Place → Prop
  | empty (s : Place) : Way .empty s s
  | one {p : Single} {s : Place} {c : Char} {cs : List Char} (hs : s.after = c :: cs)
      (hc : p.accepts c = true) : Way (.one p) s (s.past [c] cs)
  | anchor {a : Anchor} {s : Place} (h : s.holds a = true) : Way (.anchor a) s s
  | seq {a b : Node} {s t u : Place} (ha : Way a s t) (hb : Way b t u) : Way (.seq a b) s u
  | left {a b : Node} {s t : Place} (h : Way a s t) : Way (.alt a b) s t
  | right {a b : Node} {s t : Place} (h : Way b s t) : Way (.alt a b) s t
  | run {greed : Greed} {least : Nat} {most : Option Nat} {p : Single} {s : Place}
      {cs tail : List Char} (hs : s.after = cs ++ tail) (hall : ∀ c ∈ cs, p.accepts c = true)
      (hleast : least ≤ cs.length) (hmost : ∀ m, most = some m → cs.length ≤ m) :
      Way (.run greed least most p) s (s.past cs tail)
  | group {i : Nat} {body : Node} {s t : Place} (h : Way body (s.enter i) t) :
      Way (.group i body) s (t.leave i)

def Node.backtracks : Node → Bool
  | .empty | .one _ | .anchor _ => true
  | .seq a b | .alt a b => a.backtracks && b.backtracks
  | .run greed least most _ => greed.givesUp && most.all (least ≤ ·)
  | .group _ body => body.backtracks
  | .loop .. | .atomic _ | .again .. | .ifGroup .. | .ahead .. | .behind .. => false

namespace Node

theorem Way.length_after_le {n : Node} {s t : Place} (h : n.Way s t) :
    t.after.length ≤ s.after.length := by
  induction h with
  | empty | anchor => exact Nat.le_refl _
  | one hs => simp [hs]
  | seq _ _ iha ihb => exact Nat.le_trans ihb iha
  | left _ ih | right _ ih | group _ ih => exact ih
  | run hs => simp [hs]

/-- What matching finds is the end of a way behind which the rest succeeds. -/
theorem matchAt_eq_some {n : Node} (hn : n.backtracks = true)
    (h : n.matchAt room s rest = some r) : ∃ t, n.Way s t ∧ rest t = some r := by
  induction n generalizing s rest with
  | empty => exact ⟨s, .empty s, h⟩
  | one p =>
    rw [matchAt] at h
    cases hs : s.after with
    | nil => simp [hs] at h
    | cons c cs =>
      by_cases hc : p.accepts c = true
      · exact ⟨_, .one hs hc, by simpa [hs, hc, Place.forward_eq_past] using h⟩
      · simp [hs, hc] at h
  | anchor a =>
    by_cases ha : s.holds a = true
    · exact ⟨s, .anchor ha, by simpa [matchAt, ha] using h⟩
    · simp [matchAt, ha] at h
  | seq a b iha ihb =>
    simp only [backtracks, Bool.and_eq_true] at hn
    obtain ⟨t, ha, ht⟩ := iha hn.1 (by simpa only [matchAt] using h)
    obtain ⟨u, hb, hu⟩ := ihb hn.2 ht
    exact ⟨u, .seq ha hb, hu⟩
  | alt a b iha ihb =>
    simp only [backtracks, Bool.and_eq_true] at hn
    rw [matchAt] at h
    cases ha : a.matchAt room s rest with
    | some x =>
      obtain rfl : x = r := by simpa [ha] using h
      obtain ⟨t, hway, ht⟩ := iha hn.1 ha
      exact ⟨t, .left hway, ht⟩
    | none =>
      obtain ⟨t, hway, ht⟩ := ihb hn.2 (by simpa [ha] using h)
      exact ⟨t, .right hway, ht⟩
  | run greed least most p =>
    simp only [backtracks, Bool.and_eq_true] at hn
    obtain ⟨cs, tail, hs, hall, hleast, hmost, hrest⟩ :=
      runOf_eq_some hn.1 (by rintro m rfl; simpa using hn.2) h
    exact ⟨_, .run hs hall hleast hmost, hrest⟩
  | group i body ih =>
    obtain ⟨t, hway, ht⟩ := ih hn h
    exact ⟨_, .group hway, ht⟩
  | loop | atomic | again | ifGroup | ahead | behind => cases hn

/-- Matching succeeds if the rest succeeds behind some way. -/
theorem isSome_matchAt {n : Node} (hn : n.backtracks = true) (hway : n.Way s t)
    (hroom : s.after.length ≤ room) (h : (rest t).isSome) : (n.matchAt room s rest).isSome := by
  induction hway generalizing rest with
  | empty => exact h
  | one hs hc => 
    simp only [matchAt, hs, hc, if_true]
    exact h
  | anchor ha => simpa [matchAt, ha] using h
  | seq ha _ iha ihb =>
    simp only [backtracks, Bool.and_eq_true] at hn
    rw [matchAt]
    exact iha hn.1 hroom (ihb hn.2 (Nat.le_trans ha.length_after_le hroom) h)
  | left _ ih =>
    simp only [backtracks, Bool.and_eq_true] at hn
    obtain ⟨r, hr⟩ := Option.isSome_iff_exists.mp (ih hn.1 hroom h)
    simp [matchAt, hr]
  | @right a b s t _ ih =>
    simp only [backtracks, Bool.and_eq_true] at hn
    rw [matchAt]
    cases a.matchAt room s rest with
    | some r => rfl
    | none => exact ih hn.2 hroom h
  | run hs hall hleast hmost =>
    simp only [backtracks, Bool.and_eq_true] at hn
    exact isSome_runOf hn.1 hroom hs hall hleast hmost h
  | group _ ih => exact ih hn hroom h

variable {node : Node} {slots : List Slot} {before after from_ : List Char} {pos start : Nat}

/-- A search skips characters up to the beginning of a way. -/
theorem searchFrom_eq_some (hn : node.backtracks = true)
    (h : node.searchFrom room slots before pos after = some (start, from_, t)) :
    ∃ skipped, after = skipped ++ from_ ∧ start = pos + skipped.length ∧
      node.Way ⟨skipped.reverse ++ before, from_, start, slots⟩ t := by
  induction after generalizing before pos with
  | nil =>
    rw [searchFrom] at h
    cases hm : node.matchAt room ⟨before, [], pos, slots⟩ some with
    | none => simp [hm] at h
    | some u =>
      obtain ⟨rfl, rfl, rfl⟩ : pos = start ∧ [] = from_ ∧ u = t := by simpa [hm] using h
      obtain ⟨v, hway, hv⟩ := matchAt_eq_some hn hm
      obtain rfl := Option.some.inj hv
      exact ⟨[], rfl, rfl, hway⟩
  | cons c cs ih =>
    rw [searchFrom] at h
    cases hm : node.matchAt room ⟨before, c :: cs, pos, slots⟩ some with
    | none =>
      obtain ⟨skipped, rfl, rfl, hway⟩ := ih (by simpa [hm] using h)
      refine ⟨c :: skipped, rfl, by simp only [List.length_cons]; omega, ?_⟩
      simpa using hway
    | some u =>
      obtain ⟨rfl, rfl, rfl⟩ : pos = start ∧ c :: cs = from_ ∧ u = t := by simpa [hm] using h
      obtain ⟨v, hway, hv⟩ := matchAt_eq_some hn hm
      obtain rfl := Option.some.inj hv
      exact ⟨[], rfl, rfl, hway⟩

/-- A way from the place where the search begins is enough for it to succeed. -/
theorem isSome_searchFrom (hn : node.backtracks = true) (hroom : after.length ≤ room)
    (hway : node.Way ⟨before, after, pos, slots⟩ t) :
    (node.searchFrom room slots before pos after).isSome := by
  have hfound : (node.matchAt room ⟨before, after, pos, slots⟩ some).isSome :=
    isSome_matchAt hn hway hroom rfl
  obtain ⟨r, hr⟩ := Option.isSome_iff_exists.mp hfound
  rw [searchFrom.eq_def, hr]
  rfl

theorem isSome_searchFrom_append (hn : node.backtracks = true) (skipped : List Char)
    (hroom : (skipped ++ after).length ≤ room)
    (hway : node.Way ⟨skipped.reverse ++ before, after, pos + skipped.length, slots⟩ t) :
    (node.searchFrom room slots before pos (skipped ++ after)).isSome := by
  induction skipped generalizing before pos with
  | nil => exact isSome_searchFrom hn hroom hway
  | cons c cs ih =>
    have hrest : (node.searchFrom room slots (c :: before) (pos + 1) (cs ++ after)).isSome := by
      refine ih (Nat.le_of_succ_le hroom) ?_
      rw [Nat.add_right_comm, Nat.add_assoc]
      simpa using hway
    rw [List.cons_append, searchFrom]
    cases node.matchAt room ⟨before, c :: (cs ++ after), pos, slots⟩ some with
    | some r => rfl
    | none => exact hrest

end Node

end OrderSheet.Regex
