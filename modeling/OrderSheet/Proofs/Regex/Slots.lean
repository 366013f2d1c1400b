import Mathlib.Data.List.Basic
import OrderSheet.Proofs.Regex.Ways

/-!
# Captured groups of a match

Whatever a pattern looks like, matching only moves through the text and enters and leaves groups.
What all of these preserve holds at the end of a match. Two facts follow: a match has as many groups
as its pattern, and the text of every group is a part of the text that was searched.
-/

namespace OrderSheet.Regex

namespace Slot

theorem enterAt_eq_modify (pos : Nat) (text : List Char) (n : Nat) (ss : List Slot) :
    enterAt pos text n ss = ss.modify n (enter pos text) := by
  induction ss generalizing n with
  | nil => cases n <;> rfl
  | cons s ss ih =>
    cases n with
    | zero => rfl
    | succ n => rw [enterAt, ih, List.modify_succ_cons]

theorem leaveAt_eq_modify (pos n : Nat) (ss : List Slot) :
    leaveAt pos n ss = ss.modify n (leave pos) := by
  induction ss generalizing n with
  | nil => cases n <;> rfl
  | cons s ss ih =>
    cases n with
    | zero => rfl
    | succ n => rw [leaveAt, ih, List.modify_succ_cons]

theorem mem_modify {ss : List Slot} {n : Nat} {f : Slot → Slot} {a : Slot}
    (h : a ∈ ss.modify n f) : a ∈ ss ∨ ∃ b ∈ ss, a = f b := by
  obtain ⟨j, hj⟩ := List.mem_iff_getElem?.mp h
  rw [List.getElem?_modify] at hj
  obtain ⟨b, hb, rfl⟩ := Option.map_eq_some_iff.mp hj
  have hmem : b ∈ ss := List.mem_of_getElem? hb
  split
  · exact .inr ⟨b, hmem, rfl⟩
  · exact .inl hmem

end Slot

def Keeps (P : Place → Prop) (step : Step) : Prop :=
  ∀ s rest r, P s → step s rest = some r → ∃ t, rest t = some r ∧ P t

structure Stable (P : Place → Prop) : Prop where
  forward : ∀ {s : Place} {c : Char} {cs : List Char}, P s → s.after = c :: cs → P (s.forward c cs)
  backward : ∀ {s : Place} {c : Char} {cs : List Char},
    P s → s.before = c :: cs → P (s.backward c cs)
  enter : ∀ {s : Place} (i : Nat), P s → P (s.enter i)
  leave : ∀ {s : Place} (i : Nat), P s → P (s.leave i)
  look : ∀ {s t : Place}, P s → P t → P { s with slots := t.slots }

variable {P : Place → Prop} {step : Step} {rest : Rest} {s t r : Place}
  {room least limit fuel count n : Nat} {most last : Option Nat} {greed : Greed} {p : Single}
  {cs tail : List Char}

theorem Keeps.reach (h : Keeps P step) (hs : P s) (hr : step s some = some r) : P r := by
  obtain ⟨t, ht, hP⟩ := h s some r hs hr
  obtain rfl := Option.some.inj ht
  exact hP

/-- One step after another: what the rest of the first one reaches. -/
theorem Keeps.andThen (h : Keeps P step) (hs : P s) {more : Rest}
    (hmore : ∀ t, P t → more t = some r → ∃ u, rest u = some r ∧ P u)
    (hr : step s more = some r) : ∃ u, rest u = some r ∧ P u := by
  obtain ⟨t, ht, hPt⟩ := h s more r hs hr
  exact hmore t hPt ht

namespace Stable

theorem past (hP : Stable P) (hs : P s) (hafter : s.after = cs ++ tail) : P (s.past cs tail) := by
  induction cs generalizing s with
  | nil =>
    obtain rfl : s.after = tail := hafter
    exact hs
  | cons c cs ih =>
    rw [← Place.past_forward s c cs tail (cs ++ tail)]
    exact ih (hP.forward hs hafter) rfl

theorem back? (hP : Stable P) (hs : P s) (h : s.back? n = some t) : P t := by
  induction n generalizing s with
  | zero =>
    obtain rfl := Option.some.inj h
    exact hs
  | succ n ih =>
    rw [Place.back?] at h
    cases hbefore : s.before with
    | nil => simp [hbefore] at h
    | cons c cs => exact ih (hP.backward hs hbefore) (by simpa [hbefore] using h)

theorem retreat (hP : Stable P) (hs : P s) (h : retreat rest n s = some r) :
    ∃ t, rest t = some r ∧ P t := by
  induction n generalizing s with
  | zero =>
    rw [retreat_zero] at h
    exact ⟨s, h, hs⟩
  | succ n ih =>
    rw [Regex.retreat] at h
    cases hrest : rest s with
    | some x => exact ⟨s, by simpa [hrest] using h, hs⟩
    | none =>
      cases hbefore : s.before with
      | nil => simp [hrest, hbefore] at h
      | cons c cs => exact ih (hP.backward hs hbefore) (by simpa [hrest, hbefore] using h)

theorem runOf (hP : Stable P) (room : Nat) (greed : Greed) (least : Nat) (most : Option Nat)
    (p : Single) : Keeps P (runOf room greed least most p) := by
  intro s rest r hs h
  cases greed with
  | greedy =>
    obtain ⟨taken, left, hafter, -, -, heq, -⟩ :=
      advance_spec p s.slots (most.getD room) 0 s.before s.pos s.after
    simp only [Regex.runOf, heq] at h
    split at h
    · cases h
    · exact hP.retreat (hP.past hs hafter) h
  | possessive =>
    obtain ⟨taken, left, hafter, -, -, heq, -⟩ :=
      advance_spec p s.slots (most.getD room) 0 s.before s.pos s.after
    simp only [Regex.runOf, heq] at h
    split at h
    · cases h
    · exact ⟨_, h, hP.past hs hafter⟩
  | reluctant =>
    simp only [Regex.runOf] at h
    cases hconsume : consume? p least s with
    | none => simp [hconsume] at h
    | some t =>
      obtain ⟨cs, tail, hafter, -, -, rfl⟩ := consume?_eq_some_iff.mp hconsume
      obtain ⟨ds, left, hleft, -, -, hrest⟩ := creep_eq_some (by simpa [hconsume] using h)
      exact ⟨_, hrest, hP.past (hP.past hs hafter) hleft⟩

end Stable

theorem Keeps.greedyLoop (hstep : Keeps P step) (hs : P s)
    (h : greedyLoop step least limit rest fuel count last s = some r) :
    ∃ t, rest t = some r ∧ P t := by
  induction fuel generalizing count last s with
  | zero => cases h
  | succ fuel ih =>
    -- One more repetition, and then what the induction hypothesis says about the others.
    have hmore {count' : Nat} {last' : Option Nat}
        (h : step s (Regex.greedyLoop step least limit rest fuel count' last') = some r) :
        ∃ t, rest t = some r ∧ P t := hstep.andThen hs (fun _ => ih) h
    rw [Regex.greedyLoop] at h
    split at h
    · exact hmore h
    · split at h
      · split at h
        · next hx =>
          obtain rfl := Option.some.inj h
          exact hmore hx
        · exact ⟨s, h, hs⟩
      · exact ⟨s, h, hs⟩

theorem Keeps.reluctantLoop (hstep : Keeps P step) (hs : P s)
    (h : reluctantLoop step least limit rest fuel count last s = some r) :
    ∃ t, rest t = some r ∧ P t := by
  induction fuel generalizing count last s with
  | zero => cases h
  | succ fuel ih =>
    have hmore {count' : Nat} {last' : Option Nat}
        (h : step s (Regex.reluctantLoop step least limit rest fuel count' last') = some r) :
        ∃ t, rest t = some r ∧ P t := hstep.andThen hs (fun _ => ih) h
    rw [Regex.reluctantLoop] at h
    split at h
    · exact hmore h
    · split at h
      · next hx =>
        obtain rfl := Option.some.inj h
        exact ⟨s, hx, hs⟩
      · split at h
        · exact hmore h
        · cases h

theorem Keeps.possessiveLoop (hstep : Keeps P step) (hs : P s)
    (h : possessiveLoop step least limit fuel count last s = some r) : P r := by
  induction fuel generalizing count last s with
  | zero => cases h
  | succ fuel ih =>
    rw [Regex.possessiveLoop] at h
    split at h
    · split at h
      · next hx => exact ih (hstep.reach hs hx) h
      · cases h
    · split at h
      · split at h
        · next hx => exact ih (hstep.reach hs hx) h
        · obtain rfl := Option.some.inj h
          exact hs
      · obtain rfl := Option.some.inj h
        exact hs

theorem Keeps.loopOf (hstep : Keeps P step) (room : Nat) (greed : Greed) (least : Nat)
    (most : Option Nat) : Keeps P (loopOf room greed least most step) := by
  intro s rest r hs h
  cases greed with
  | greedy => exact hstep.greedyLoop hs h
  | reluctant => exact hstep.reluctantLoop hs h
  | possessive =>
    obtain ⟨t, ht, hrest⟩ := Option.bind_eq_some_iff.mp h
    exact ⟨t, hrest, hstep.possessiveLoop hs ht⟩

namespace Stable

theorem consumeText? (hP : Stable P) (hs : P s) {casing : Casing} {text : List Char}
    (h : consumeText? casing text s = some t) : P t := by
  induction text generalizing s with
  | nil =>
    obtain rfl := Option.some.inj h
    exact hs
  | cons c text ih =>
    rw [Regex.consumeText?] at h
    cases hafter : s.after with
    | nil => simp [hafter] at h
    | cons d ds =>
      by_cases hcd : casing.agree c d = true
      · exact ih (hP.forward hs hafter) (by simpa [hafter, hcd] using h)
      · simp [hafter, hcd] at h

theorem matchAt (hP : Stable P) (room : Nat) (node : Node) : Keeps P (node.matchAt room) := by
  induction node with
  | empty => exact fun s rest r hs h => ⟨s, h, hs⟩
  | one p =>
    intro s rest r hs h
    rw [Node.matchAt] at h
    split at h
    · cases h
    · next hafter =>
      split at h
      · exact ⟨_, h, hP.forward hs hafter⟩
      · cases h
  | anchor a =>
    intro s rest r hs h
    rw [Node.matchAt] at h
    split at h
    · exact ⟨s, h, hs⟩
    · cases h
  | seq a b iha ihb =>
    intro s rest r hs h
    exact iha.andThen hs (fun t ht => ihb t rest r ht) h
  | alt a b iha ihb =>
    intro s rest r hs h
    rw [Node.matchAt] at h
    split at h
    · next hx =>
      obtain rfl := Option.some.inj h
      exact iha _ _ _ hs hx
    · exact ihb _ _ _ hs h
  | run greed least most p => exact hP.runOf room greed least most p
  | loop greed least most body ih => exact ih.loopOf room greed least most
  | group i body ih =>
    intro s rest r hs h
    exact ih.andThen (hP.enter i hs) (fun t ht hrest => ⟨t.leave i, hrest, hP.leave i ht⟩) h
  | atomic body ih =>
    intro s rest r hs h
    obtain ⟨t, ht, hrest⟩ := Option.bind_eq_some_iff.mp h
    exact ⟨t, hrest, ih.reach hs ht⟩
  | again i casing =>
    intro s rest r hs h
    obtain ⟨t, ht, hrest⟩ := Option.bind_eq_some_iff.mp h
    obtain ⟨text, -, hconsume⟩ := Option.bind_eq_some_iff.mp ht
    exact ⟨t, hrest, hP.consumeText? hs hconsume⟩
  | ifGroup i yes no ihyes ihno =>
    intro s rest r hs h
    rw [Node.matchAt] at h
    split at h
    · exact ihyes _ _ _ hs h
    · exact ihno _ _ _ hs h
  | ahead negated body ih =>
    intro s rest r hs h
    rw [Node.matchAt] at h
    split at h
    · next hx =>
      split at h
      · cases h
      · exact ⟨_, h, hP.look hs (ih.reach hs hx)⟩
    · split at h
      · exact ⟨s, h, hs⟩
      · cases h
  | behind negated width body ih =>
    intro s rest r hs h
    rw [Node.matchAt] at h
    split at h
    · next hx =>
      obtain ⟨t, hback, hbody⟩ := Option.bind_eq_some_iff.mp hx
      split at h
      · cases h
      · exact ⟨_, h, hP.look hs (ih.reach (hP.back? hs hback) hbody)⟩
    · split at h
      · exact ⟨s, h, hs⟩
      · cases h

/-- It holds at the end of the first match, which begins somewhere ahead. -/
theorem searchFrom (hP : Stable P) {node : Node} {slots : List Slot}
    {before after behind : List Char} {pos start : Nat} (hs : P ⟨before, after, pos, slots⟩)
    (h : node.searchFrom room slots before pos after = some (start, behind, t)) :
    P t ∧ behind <:+ after := by
  induction after generalizing before pos with
  | nil =>
    rw [Node.searchFrom] at h
    split at h
    · next hx =>
      obtain ⟨-, rfl, rfl⟩ : pos = start ∧ [] = behind ∧ _ = t := by simpa using h
      exact ⟨(hP.matchAt room node).reach hs hx, List.suffix_rfl⟩
    · cases h
  | cons c cs ih =>
    rw [Node.searchFrom] at h
    split at h
    · next hx =>
      obtain ⟨-, rfl, rfl⟩ : pos = start ∧ c :: cs = behind ∧ _ = t := by simpa using h
      exact ⟨(hP.matchAt room node).reach hs hx, List.suffix_rfl⟩
    · obtain ⟨hPt, hbehind⟩ := ih (hP.forward hs rfl) h
      exact ⟨hPt, hbehind.trans (List.suffix_cons c cs)⟩

end Stable

theorem stable_length (n : Nat) : Stable fun s => s.slots.length = n where
  forward hs _ := hs
  backward hs _ := hs
  enter i hs := by rwa [Place.enter, Slot.enterAt_eq_modify, List.length_modify]
  leave i hs := by rwa [Place.leave, Slot.leaveAt_eq_modify, List.length_modify]
  look _ ht := ht

variable {re : Regex} {m : Match} {text : List Char}

theorem length_groups_of_search (h : re.search text = some m) : m.groups.length = re.groups := by
  obtain ⟨⟨start, behind, t⟩, hfound, rfl⟩ := Option.map_eq_some_iff.mp h
  have hlength := ((stable_length re.groups).searchFrom List.length_replicate hfound).1
  simpa using hlength

def Slot.IsIn (text : List Char) : Slot → Prop
  | unset => True
  | entered _ ahead | reentered _ ahead _ | left _ ahead _ => ahead <:+ text

theorem Slot.IsIn.enter {a : Slot} {ahead : List Char} (h : ahead <:+ text) (pos : Nat) :
    (a.enter pos ahead).IsIn text := by
  cases a <;> exact h

theorem Slot.IsIn.leave {a : Slot} (h : a.IsIn text) (pos : Nat) : (a.leave pos).IsIn text := by
  cases a <;> exact h

theorem Slot.IsIn.isInfix_of_text? {a : Slot} (h : a.IsIn text) {part : List Char}
    (hpart : a.text? = some part) : part <:+: text := by
  have htake {ahead : List Char} {n : Nat} (h : ahead <:+ text) : ahead.take n <:+: text :=
    (List.take_prefix n ahead).isInfix.trans h.isInfix
  cases a with
  | unset => cases hpart
  | entered => cases hpart
  | reentered start ahead stop =>
    obtain ⟨-, hpart⟩ := Option.ite_none_right_eq_some.mp hpart
    exact Option.some.inj hpart ▸ htake h
  | left start ahead stop =>
    obtain ⟨-, hpart⟩ := Option.ite_none_right_eq_some.mp hpart
    exact Option.some.inj hpart ▸ htake h

/-- A place in a text, with groups that were entered in the same text. -/
structure Place.IsIn (text : List Char) (s : Place) : Prop where
  split : s.before.reverse ++ s.after = text
  slots : ∀ a ∈ s.slots, a.IsIn text

theorem Place.IsIn.after_suffix (h : s.IsIn text) : s.after <:+ text := ⟨_, h.split⟩

theorem stable_isIn (text : List Char) : Stable (Place.IsIn text) where
  forward {s c cs} hs hafter := by
    refine ⟨?_, hs.slots⟩
    simpa [Place.forward, hafter] using hs.split
  backward {s c cs} hs hbefore := by
    refine ⟨?_, hs.slots⟩
    simpa [Place.backward, hbefore] using hs.split
  enter i hs := by
    refine ⟨hs.split, fun a ha => ?_⟩
    rw [Place.enter, Slot.enterAt_eq_modify] at ha
    rcases Slot.mem_modify ha with ha | ⟨b, -, rfl⟩
    · exact hs.slots a ha
    · exact .enter hs.after_suffix _
  leave i hs := by
    refine ⟨hs.split, fun a ha => ?_⟩
    rw [Place.leave, Slot.leaveAt_eq_modify] at ha
    rcases Slot.mem_modify ha with ha | ⟨b, hb, rfl⟩
    · exact hs.slots a ha
    · exact (hs.slots b hb).leave _
  look hs ht := ⟨hs.split, ht.slots⟩

/-- What a group of a match captures, and the match itself, is a part of the text. -/
theorem isInfix_of_group? (h : re.search text = some m) {i : Nat} {part : List Char}
    (hpart : m.group? i = some part) : part <:+: text := by
  obtain ⟨⟨start, behind, t⟩, hfound, rfl⟩ := Option.map_eq_some_iff.mp h
  have hstart : Place.IsIn text ⟨[], text, 0, List.replicate re.groups Slot.unset⟩ := by
    refine ⟨rfl, fun a ha => ?_⟩
    rw [List.eq_of_mem_replicate ha]
    trivial
  obtain ⟨ht, hbehind⟩ := (stable_isIn text).searchFrom hstart hfound
  rw [Match.group?] at hpart
  split at hpart
  · obtain rfl := Option.some.inj hpart
    exact (List.take_prefix _ behind).isInfix.trans hbehind.isInfix
  · rw [Option.join_eq_some_iff, List.getElem?_map] at hpart
    obtain ⟨a, ha, htext⟩ := Option.map_eq_some_iff.mp hpart
    exact (ht.slots a (List.mem_of_getElem? ha)).isInfix_of_text? htext

end OrderSheet.Regex
