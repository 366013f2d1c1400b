import Mathlib
import OrderSheet.Proofs.Template.Clock
import OrderSheet.Yaml.Construct

/-!
# The moments in a document

A document holds no moment or date that does not exist.
-/

namespace OrderSheet.Yaml

open Data (ValidValues)

variable {α β : Type} {p : α → Prop} {q : β → Prop} {x : Built α} {cs : List Char}

def Yields (p : α → Prop) (x : Built α) : Prop := ∀ a, x = .ok a → p a

theorem Yields.ok {a : α} (h : p a) : Yields p (.ok a) := fun _ heq => Except.ok.inj heq ▸ h

theorem yields_refuse : Yields p refuse := fun _ h => nomatch h

theorem Yields.bind {f : α → Built β} (h : Yields p x) (hf : ∀ a, p a → Yields q (f a)) :
    Yields q (x >>= f) := by
  intro b hb
  cases hx : x with
  | error fault =>
    rw [hx] at hb
    cases hb
  | ok a =>
    rw [hx] at hb
    exact hf a (h a hx) b hb

theorem Yields.map {f : α → β} (h : Yields p x) (hf : ∀ a, p a → q (f a)) :
    Yields q (f <$> x) := by
  intro b hb
  cases hx : x with
  | error fault =>
    rw [hx] at hb
    cases hb
  | ok a =>
    rw [hx] at hb
    exact Except.ok.inj hb ▸ hf a (h a hx)

theorem Yields.mapError {f : Fault → Fault} (h : Yields p x) : Yields p (x.mapError f) := by
  intro a ha
  cases hx : x with
  | error fault =>
    rw [hx] at ha
    cases ha
  | ok b =>
    rw [hx] at ha
    exact Except.ok.inj ha ▸ h b hx

theorem yields_true (x : Built α) : Yields (fun _ => True) x := fun _ _ => trivial

def readClock? (cs : List Char) : Option WrittenTime := do
  let (hour, cs) ← digits? 1 2 cs
  let cs ← mark? ':' cs
  let (minute, cs) ← digits? 2 2 cs
  let cs ← mark? ':' cs
  let (second, cs) ← digits? 2 2 cs
  let (fraction, cs) := match cs with
    | '.' :: cs => (cs.takeWhile Char.isDigit, cs.dropWhile Char.isDigit)
    | cs => ([], cs)
  let zone ← readZone? cs
  return ⟨natOf hour, natOf minute, natOf second, fraction, zone⟩

theorem exists_readClock {t : WrittenTime} (h : readTime? cs = some t) :
    ∃ rest, readClock? rest = some t := by
  unfold readTime? at h
  simp only [Option.bind_eq_bind] at h
  split at h
  · exact ⟨_, h⟩
  · exact ⟨_, h⟩
  · split at h
    · exact ⟨_, h⟩
    · cases h
  · cases h

theorem isDigit_of_readTime {t : WrittenTime} (h : readTime? cs = some t) :
    ∀ c ∈ t.fraction, c.isDigit = true := by
  obtain ⟨rest, hclock⟩ := exists_readClock h
  simp only [readClock?, Option.bind_eq_bind, Option.pure_def, Option.bind_eq_some_iff,
    Prod.exists] at hclock
  obtain ⟨_, _, -, _, -, _, _, -, _, -, _, rest, -, zone, -, heq⟩ := hclock
  obtain rfl := Option.some.inj heq
  intro c hc
  dsimp only at hc
  split at hc
  · exact List.mem_takeWhile_imp hc
  · cases hc

theorem isDigit_of_readMoment {m : WrittenMoment} {t : WrittenTime}
    (h : readMoment? cs = some m) (ht : m.time = some t) :
    ∀ c ∈ t.fraction, c.isDigit = true := by
  simp only [readMoment?, Option.bind_eq_bind, Option.pure_def, Option.bind_eq_some_iff,
    Prod.exists] at h
  obtain ⟨_, _, -, _, -, _, _, -, _, -, _, cs, -, h⟩ := h
  split at h
  · obtain rfl := Option.some.inj h
    cases ht
  · simp only [Option.bind_eq_some_iff, Option.map_eq_some_iff] at h
    obtain ⟨_, ⟨t', hread, rfl⟩, h⟩ := h
    obtain rfl := Option.some.inj h
    exact Option.some.inj ht ▸ isDigit_of_readTime hread

theorem microOf_lt_of_digits (h : ∀ c ∈ cs, c.isDigit = true) : microOf cs < 1000000 := by
  have hdigits : ∀ c ∈ cs.take 6 ++ List.replicate (6 - (cs.take 6).length) '0',
      c.isDigit = true := by
    intro c hc
    rcases List.mem_append.mp hc with hc | hc
    · exact h c (List.mem_of_mem_take hc)
    · rw [List.eq_of_mem_replicate hc]
      decide
  have hlength : (cs.take 6 ++ List.replicate (6 - (cs.take 6).length) '0').length = 6 := by
    simp only [List.length_append, List.length_take, List.length_replicate]
    omega
  have hlt := Moment.digitsNat_lt hdigits
  rw [hlength] at hlt
  exact hlt

theorem yields_checkDate (date : Date) :
    Yields (fun _ => date.isValid = true) (checkDate date) := by
  intro _ h
  unfold checkDate at h
  split at h
  · cases h
  · split at h
    · cases h
    · split at h
      · assumption
      · cases h

theorem yields_checkZone {o : Option Int} :
    Yields (fun _ => ∀ s ∈ o, s.natAbs < 86400) (o.forM checkZone) := by
  intro _ h s hs
  rw [hs] at h
  change checkZone s = _ at h
  unfold checkZone at h
  split at h
  · rename_i hbounds
    simp only [Bool.and_eq_true, decide_eq_true_eq] at hbounds
    omega
  · cases h

theorem yields_checkTime (t : WrittenTime) :
    Yields (fun _ => t.hour ≤ 23 ∧ t.minute ≤ 59 ∧ t.second ≤ 59) (checkTime t) := by
  intro _ h
  unfold checkTime at h
  split at h
  · cases h
  · split at h
    · cases h
    · split at h
      · cases h
      · omega

theorem yields_moment (text : List Char) :
    Yields (fun d => d.IsValid ∧ d.HasValidFields) (buildMoment text) := by
  unfold buildMoment
  split
  · exact fun _ h => nomatch h
  · rename_i m hm
    have hdate := yields_checkDate ⟨m.year, m.month, m.day⟩
    dsimp only
    split
    · exact hdate.bind fun _ h => .ok ⟨h, trivial⟩
    · rename_i t ht
      have hfraction := isDigit_of_readMoment hm ht
      refine yields_checkZone.bind fun _ hzone => hdate.bind fun _ hdate =>
        (yields_checkTime t).bind fun _ htime => .ok ?_
      obtain ⟨hhour, hminute, hsecond⟩ := htime
      have hmicro := microOf_lt_of_digits hfraction
      exact ⟨⟨hdate, hhour, hminute, hsecond, hmicro, hzone⟩, trivial⟩

theorem yields_scalar (tag : Tag) (text : List Char) (whole : Bool) :
    Yields (fun d => d.IsValid ∧ d.HasValidFields) (buildScalar tag text whole) := by
  cases tag with
  | null => exact .ok ⟨trivial, trivial⟩
  | bool =>
    dsimp only [buildScalar]
    split
    · exact .ok ⟨trivial, trivial⟩
    · exact fun _ h => nomatch h
  | int => exact (yields_true _).map fun _ _ => ⟨trivial, trivial⟩
  | float => exact (yields_true _).map fun _ _ => ⟨trivial, trivial⟩
  | binary => exact (yields_true _).map fun _ _ => ⟨trivial, trivial⟩
  | timestamp => exact yields_moment text
  | str =>
    refine .ok ?_
    unfold buildText
    split <;> exact ⟨trivial, trivial⟩
  | omap | pairs | set | seq | map | merge | value | unknown => exact yields_refuse

theorem yields_wrapped (tag : Tag) (entries : List (Node × Node)) :
    Yields (fun d => d.IsValid ∧ d.HasValidFields) (buildWrapped tag entries) := by
  unfold buildWrapped
  split
  · exact yields_refuse
  · exact fun _ h => nomatch h
  · exact yields_scalar _ _ _

theorem validValues_putEntry {es : List (Data × Data)} {key value : Data} (h : ValidValues es)
    (hvalue : value.IsValid) : ValidValues (Data.putEntry es key value) := by
  induction es with
  | nil => simpa [Data.putEntry, ValidValues] using hvalue
  | cons e es ih =>
    obtain ⟨hfirst, hrest⟩ := List.forall_mem_cons.mp h
    rw [Data.putEntry]
    split
    · exact List.forall_mem_cons.mpr ⟨hvalue, hrest⟩
    · exact List.forall_mem_cons.mpr ⟨hfirst, ih hrest⟩

theorem validValues_putAll {es fs : List (Data × Data)} (hes : ValidValues es)
    (hfs : ValidValues fs) : ValidValues (putAll es fs) := by
  unfold putAll
  induction fs generalizing es with
  | nil => exact hes
  | cons f fs ih =>
    obtain ⟨hfirst, hrest⟩ := List.forall_mem_cons.mp hfs
    exact ih (validValues_putEntry hes hfirst) hrest

def Parts.IsValid (p : Parts) : Prop := ValidValues p.merged ∧ ValidValues p.own

theorem Parts.IsValid.all {p : Parts} (h : p.IsValid) : ValidValues p.all :=
  (validValues_putAll (validValues_putAll (by simp [ValidValues]) h.1)) h.2

mutual

theorem yields_build : (n : Node) → Yields (fun d => d.IsValid ∧ d.HasValidFields) (build n)
  | .scalar tag text whole => by
    rw [build]
    exact yields_scalar tag text whole
  | .sequence tag items => by
    rw [build.eq_def]
    dsimp only
    split
    · exact (yields_true _).map fun _ _ => ⟨trivial, trivial⟩
    · exact (yields_true _).map fun _ _ => ⟨trivial, trivial⟩
    · exact (yields_true _).map fun _ _ => ⟨trivial, trivial⟩
    · exact yields_refuse
  | .mapping tag entries => by
    rw [build.eq_def]
    dsimp only
    split
    · exact (yields_parts entries).map fun _ h => ⟨trivial, h.all⟩
    · exact (yields_true _).map fun _ _ => ⟨trivial, trivial⟩
    · exact yields_wrapped tag entries
  | .again anchor => by
    rw [build]
    exact yields_refuse

theorem yields_parts : (entries : List (Node × Node)) → Yields Parts.IsValid (buildParts entries)
  | [] => by
    rw [buildParts]
    exact .ok ⟨by simp [ValidValues], by simp [ValidValues]⟩
  | (k, v) :: entries => by
    rw [buildParts.eq_def]
    dsimp only
    split
    · exact (yields_merged v).bind fun first hfirst => (yields_parts entries).bind fun p hp =>
        .ok ⟨fun e he => (List.mem_append.mp he).elim (hfirst e) (hp.1 e), hp.2⟩
    · exact (yields_true _).bind fun _ _ => (yields_build v).bind fun value hvalue =>
        (yields_parts entries).bind fun p hp =>
          .ok ⟨hp.1, List.forall_mem_cons.mpr ⟨hvalue.1, hp.2⟩⟩

theorem yields_merged : (n : Node) → Yields ValidValues (buildMerged n)
  | .mapping tag entries => by
    rw [buildMerged]
    exact (yields_parts entries).map fun _ h => h.all
  | .sequence tag items => by
    rw [buildMerged]
    refine (yields_mergedAll items).map fun all h e he => ?_
    obtain ⟨es, hes, he⟩ := List.mem_flatten.mp he
    exact h es (List.mem_reverse.mp hes) e he
  | .scalar .. | .again _ => by
    rw [buildMerged]
    exact yields_refuse

theorem yields_mergedAll : (items : List Node) →
    Yields (fun all => ∀ es ∈ all, ValidValues es) (buildMergedAll items)
  | [] => by
    rw [buildMergedAll]
    exact .ok (by simp)
  | .mapping tag entries :: items => by
    rw [buildMergedAll]
    exact (yields_parts entries).bind fun p hp => (yields_mergedAll items).bind fun all h =>
      .ok (List.forall_mem_cons.mpr ⟨hp.all, h⟩)
  | .scalar .. :: _ | .sequence .. :: _ | .again _ :: _ => by
    rw [buildMergedAll]
    · exact yields_refuse
    · simp

end

/-- Every moment and date among the fields of a document is one. -/
theorem validFields_of_load {text : List Char} {d : Data} (h : load text = .ok d) :
    d.HasValidFields := by
  have hyields : Yields Data.HasValidFields (load text) := (yields_true _).bind fun root _ => by
    cases root with
    | none => exact .ok trivial
    | some n => exact (show Yields _ (build n) from fun e he => (yields_build n e he).2).mapError
  exact hyields d h

end OrderSheet.Yaml
