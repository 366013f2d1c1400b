import Mathlib
import OrderSheet.Logging

/-!
# Levels of loggers that are set up again

Every call gives the logger its level, but the handlers keep the level of the first call. So a
message is written if it reaches both of them, and the latest level alone decides just if it is not
below the first one.
-/

namespace OrderSheet.Logging

structure Call where
  name : String
  level : Option Int
  setting : Option String
  /-- The log file. A call whose file cannot be opened stops there, and leaves the logger as a call
  without a file does. -/
  file : Option String
  deriving DecidableEq, Repr

namespace Call

def resolved (c : Call) : Int := c.level.getD (levelOf c.setting)

def handlers (c : Call) : List Handler :=
  ⟨c.resolved, none⟩ :: c.file.toList.map fun f => ⟨c.resolved, some f⟩

def isAlike (c d : Call) : Bool := properName d.name == properName c.name

/-- The first call for the logger of a call, where `earlier` are those in front of it. -/
def first (earlier : List Call) (c : Call) : Call := (earlier.find? c.isAlike).getD c

theorem handlers_ne_nil (c : Call) : c.handlers ≠ [] := List.cons_ne_nil _ _

theorem level_of_mem_handlers {c : Call} {h : Handler} (hh : h ∈ c.handlers) :
    h.level = c.resolved := by
  rcases List.mem_cons.mp hh with rfl | hh
  · rfl
  · obtain ⟨f, -, rfl⟩ := List.mem_map.mp hh
    rfl

theorem countP_console_handlers (c : Call) : c.handlers.countP (·.file.isNone) = 1 := by
  rw [handlers, List.countP_cons_of_pos rfl]
  cases c.file <;> rfl

theorem nodup_file_handlers (c : Call) : (c.handlers.map Handler.file).Nodup := by
  rw [handlers]
  cases c.file <;> simp

end Call

/-- Sorting from the greatest key down puts the only element with the greatest key first. -/
theorem exists_mergeSort_eq_cons {α : Type} {key : α → Nat} {xs : List α} {a : α} (ha : a ∈ xs)
    (hmost : ∀ b ∈ xs, b ≠ a → key b < key a) :
    ∃ rest, (xs.mergeSort fun a b => key b ≤ key a) = a :: rest := by
  have hperm := List.mergeSort_perm xs fun a b => decide (key b ≤ key a)
  have hsorted := @List.pairwise_mergeSort α (fun a b => decide (key b ≤ key a))
    (by simpa using fun a b c hab hbc => Nat.le_trans hbc hab)
    (by simpa using fun a b => Nat.le_total (key b) (key a)) xs
  cases hxs : xs.mergeSort fun a b => decide (key b ≤ key a) with
  | nil =>
    rw [hxs] at hperm
    exact absurd (hperm.mem_iff.mpr ha) (List.not_mem_nil)
  | cons b rest =>
    rw [hxs] at hperm hsorted
    by_cases hb : b = a
    · exact ⟨rest, by rw [hb]⟩
    · have hlt := hmost b (hperm.mem_iff.mp (List.mem_cons_self ..)) hb
      have hmem : a ∈ rest := by
        rcases List.mem_cons.mp (hperm.mem_iff.mpr ha) with rfl | hmem
        · exact absurd rfl hb
        · exact hmem
      have hle : key a ≤ key b := by simpa using (List.pairwise_cons.mp hsorted).1 a hmem
      omega

namespace State

variable {s : State} {l k : Logger} {name : String} {c : Call}

def call (s : State) (c : Call) : State := s.setUp c.name c.resolved c.file

def callAll (s : State) (calls : List Call) : State := calls.foldl call s

theorem callAll_concat (s : State) (calls : List Call) (c : Call) :
    s.callAll (calls ++ [c]) = (s.callAll calls).call c := by
  rw [callAll, List.foldl_concat]
  rfl

theorem name_of_logger? (h : s.logger? name = some l) : l.name = properName name := by
  simpa using List.find?_some h

/-- A logger that is put in the place of another one has the name of that one. -/
theorem name_replaced (l k : Logger) : (if k.name == l.name then l else k).name = k.name := by
  split
  · next hk => exact (eq_of_beq hk).symm
  · rfl

theorem any_name_iff : s.loggers.any (·.name == name) = true ↔ name ∈ s.loggers.map Logger.name := by
  simp

theorem isSome_logger?_iff :
    (s.logger? name).isSome = true ↔ properName name ∈ s.loggers.map Logger.name := by
  simp [logger?]

theorem logger?_put (s : State) (l : Logger) (name : String) :
    (s.put l).logger? name = if l.name = properName name then some l else s.logger? name := by
  rw [put]
  split
  · next hany =>
    -- The names are the same as before, so the place that is found is the same, too.
    rw [logger?, List.find?_map]
    simp only [Function.comp_def, name_replaced]
    split
    · next hl =>
      rw [any_name_iff, hl, ← isSome_logger?_iff] at hany
      obtain ⟨k, hk⟩ := Option.isSome_iff_exists.mp hany
      have hname : k.name = properName name := name_of_logger? hk
      rw [logger?] at hk
      rw [hk, Option.map_some, hname, hl, if_pos (beq_self_eq_true _)]
    · next hl =>
      rw [logger?]
      cases hfind : s.loggers.find? fun k => k.name == properName name with
      | none => rfl
      | some k =>
        have hname : k.name = properName name := name_of_logger? hfind
        rw [Option.map_some, hname, if_neg (by simpa using Ne.symm hl)]
  · next hany =>
    rw [logger?, List.find?_append]
    split
    · next hl =>
      rw [any_name_iff, hl, ← isSome_logger?_iff, Option.not_isSome_iff_eq_none, logger?] at hany
      rw [hany, Option.none_or, List.find?_cons_of_pos (by simpa using hl)]
    · next hl =>
      rw [List.find?_cons_of_neg (by simpa using hl), List.find?_nil, Option.or_none]
      rfl

def handlersOf (s : State) (name : String) : List Handler :=
  (s.logger? name).elim [] Logger.handlers

/-- A call gives its logger a level and, if it has none, handlers. No other logger changes. -/
theorem logger?_call (s : State) (c : Call) (name : String) :
    (s.call c).logger? name =
      if properName c.name = properName name then
        some ⟨properName c.name, c.resolved,
          if s.handlersOf c.name = [] then c.handlers else s.handlersOf c.name⟩
      else s.logger? name := by
  have hold : ((s.logger? c.name).getD ⟨properName c.name, 0, []⟩).handlers =
      s.handlersOf c.name := by
    rw [handlersOf]
    cases s.logger? c.name <;> rfl
  have hname : ((s.logger? c.name).getD ⟨properName c.name, 0, []⟩).name = properName c.name := by
    cases h : s.logger? c.name with
    | none => rfl
    | some l => exact name_of_logger? h
  rw [call, setUp]
  dsimp only
  rw [hold, hname]
  split
  · next hempty =>
    rw [if_pos (List.isEmpty_iff.mp hempty)]
    exact logger?_put ..
  · next hempty =>
    rw [if_neg (List.isEmpty_iff.not.mp hempty)]
    exact logger?_put ..

theorem handlersOf_start (name : String) : start.handlersOf name = [] := by
  rw [handlersOf]
  cases h : start.logger? name with
  | none => rfl
  | some l =>
    obtain rfl : l = ⟨rootName, 30, []⟩ := List.mem_singleton.mp (List.mem_of_find?_eq_some h)
    rfl

/-- A logger has the handlers of the first call for it. -/
theorem handlersOf_callAll (calls : List Call) (c : Call) :
    (start.callAll calls).handlersOf c.name =
      (calls.find? c.isAlike).elim [] Call.handlers := by
  induction calls using List.reverseRecOn with
  | nil => exact handlersOf_start c.name
  | append_singleton calls d ih =>
    rw [callAll_concat, handlersOf, logger?_call, List.find?_append]
    by_cases hd : properName d.name = properName c.name
    · have hsame : (start.callAll calls).handlersOf d.name =
          (start.callAll calls).handlersOf c.name := by
        rw [handlersOf, handlersOf, logger?, logger?, hd]
      rw [if_pos hd, Option.elim_some, hsame, ih]
      cases calls.find? c.isAlike with
      | none => simp [Call.isAlike, hd]
      | some e => simp [Call.handlers_ne_nil]
    · rw [if_neg hd, List.find?_cons_of_neg (by simpa [Call.isAlike] using hd), List.find?_nil,
        Option.or_none]
      exact ih

/-- The logger of the latest call has the level of this call and the handlers of the first one. -/
theorem logger?_callAll (calls : List Call) (c : Call) :
    (start.callAll (calls ++ [c])).logger? c.name =
      some ⟨properName c.name, c.resolved, (c.first calls).handlers⟩ := by
  rw [callAll_concat, logger?_call, if_pos rfl, handlersOf_callAll, Call.first]
  cases calls.find? c.isAlike with
  | none => rw [Option.elim_none, if_pos rfl, Option.getD_none]
  | some d => rw [Option.elim_some, if_neg d.handlers_ne_nil, Option.getD_some]

def IsDistinct (s : State) : Prop := (s.loggers.map Logger.name).Nodup

theorem IsDistinct.put (h : s.IsDistinct) (l : Logger) : (s.put l).IsDistinct := by
  rw [State.put, IsDistinct]
  split
  · have hnames : (s.loggers.map fun k => if k.name == l.name then l else k).map Logger.name =
        s.loggers.map Logger.name := by
      rw [List.map_map]
      exact List.map_congr_left fun k _ => name_replaced l k
    rw [hnames]
    exact h
  · next hany =>
    rw [List.map_append, List.map_singleton]
    exact h.append (List.nodup_singleton _)
      (List.disjoint_singleton.mpr (any_name_iff.not.mp hany))

theorem isDistinct_callAll (calls : List Call) : (start.callAll calls).IsDistinct := by
  induction calls using List.reverseRecOn with
  | nil => exact List.nodup_singleton rootName
  | append_singleton calls c ih =>
    rw [callAll_concat, call, setUp]
    dsimp only
    split
    · exact ih.put _
    · exact ih.put _

/-- A logger above another one has a shorter name, or is the root. -/
theorem length_lt_of_isAbove (h : isAbove k name = true) (hroot : k.name ≠ rootName)
    (hself : k.name ≠ properName name) :
    k.name.length < (properName name).length ∧ properName name ≠ rootName := by
  rw [isAbove, beq_false_of_ne hroot, beq_false_of_ne hself, Bool.false_or, Bool.false_or,
    List.isPrefixOf_iff_prefix] at h
  obtain ⟨rest, hrest⟩ := h
  rw [String.toList_append, List.append_assoc] at hrest
  have hlength : k.name.length < name.length := by
    rw [← String.length_toList, ← String.length_toList, ← hrest, List.length_append]
    exact Nat.lt_add_of_pos_right (Nat.zero_lt_succ _)
  have hproper : properName name = name := by
    refine if_neg fun hempty => ?_
    rw [String.isEmpty_iff.mp hempty] at hlength
    exact absurd hlength (Nat.not_lt_zero _)
  rw [hproper]
  refine ⟨hlength, fun hname => ?_⟩
  -- Only names with a dot have loggers above them besides the root.
  have hdot : '.' ∈ rootName.toList := by
    rw [← hname, ← hrest]
    exact List.mem_append_right _ (List.mem_cons_self ..)
  revert hdot
  decide

theorem chain_eq_cons (hdistinct : s.IsDistinct) (h : s.logger? name = some l) :
    ∃ above, s.chain name = l :: above := by
  have hname : l.name = properName name := name_of_logger? h
  have hl : l ∈ s.loggers := List.mem_of_find?_eq_some h
  rw [chain]
  refine exists_mergeSort_eq_cons (List.mem_filter.mpr ⟨hl, ?_⟩) fun k hk hne => ?_
  · simp [isAbove, hname]
  obtain ⟨hk, habove⟩ := List.mem_filter.mp hk
  have hself : k.name ≠ properName name := by
    rw [← hname]
    exact fun heq => hne (List.inj_on_of_nodup_map hdistinct hk hl heq)
  -- The root comes last; the name of any other logger above is a part of this one's name.
  by_cases hroot : k.name = rootName
  · have hl : l.name ≠ rootName := by rwa [hname, ← hroot, ne_comm]
    rw [if_pos (beq_iff_eq.mpr hroot), if_neg (beq_iff_eq.not.mpr hl)]
    exact Nat.zero_lt_succ _
  · obtain ⟨hlength, hl⟩ := length_lt_of_isAbove habove hroot hself
    rw [← hname] at hlength hl
    rw [if_neg (beq_iff_eq.not.mpr hroot), if_neg (beq_iff_eq.not.mpr hl)]
    exact Nat.succ_lt_succ hlength

/-- A logger with a level of its own needs no other one. -/
theorem effectiveLevel_eq (hdistinct : s.IsDistinct) (h : s.logger? name = some l) :
    s.effectiveLevel name =
      if l.level = 0 then (((s.chain name).tail.map Logger.level).find? (· != 0)).getD 0
      else l.level := by
  obtain ⟨above, habove⟩ := chain_eq_cons hdistinct h
  rw [effectiveLevel, habove, List.map_cons, List.tail_cons]
  split
  · next hzero => rw [List.find?_cons_of_neg (by simpa using hzero)]
  · next hlevel => rw [List.find?_cons_of_pos (by simpa using hlevel), Option.getD_some]

/-- The handlers that write a message: those of the logger and of all loggers above it, as far as
the message reaches the level of the logger and their own. -/
def writers (s : State) (name : String) (level : Int) : List Handler :=
  if 0 < level ∧ s.effectiveLevel name ≤ level then
    ((s.chain name).flatMap Logger.handlers).filter fun h => h.level ≤ level
  else []

/-- A message is written once by each of its writers that has a file, and changes nothing else. -/
theorem emit_eq (s : State) (name : String) (level : Int) (text : String) :
    s.emit name level text = { s with
      entries := s.entries ++ ((s.writers name level).filterMap Handler.file).map
        fun f => ⟨f, level, text⟩ } := by
  have hcond : (decide (level ≤ 0) || decide (level < s.effectiveLevel name)) = true ↔
      ¬ (0 < level ∧ s.effectiveLevel name ≤ level) := by
    rw [Bool.or_eq_true, decide_eq_true_iff, decide_eq_true_iff]
    omega
  rw [emit, writers]
  by_cases h : 0 < level ∧ s.effectiveLevel name ≤ level
  · rw [if_neg (hcond.not.mpr (not_not.mpr h)), if_pos h]
  · rw [if_pos (hcond.mpr h), if_neg h, List.filterMap_nil, List.map_nil, List.append_nil]

/-- A handler of a logger writes what reaches the level of the logger and its own. -/
theorem mem_writers_iff (hdistinct : s.IsDistinct) (h : s.logger? name = some l) {a : Handler}
    (ha : a ∈ l.handlers) (level : Int) :
    a ∈ s.writers name level ↔ 0 < level ∧ s.effectiveLevel name ≤ level ∧ a.level ≤ level := by
  obtain ⟨above, habove⟩ := chain_eq_cons hdistinct h
  have hmem : a ∈ (s.chain name).flatMap Logger.handlers := by
    rw [habove, List.flatMap_cons]
    exact List.mem_append_left _ ha
  rw [writers]
  split
  · next hreaches => simp [hmem, hreaches]
  · next hreaches =>
    have hnot : ¬ (0 < level ∧ s.effectiveLevel name ≤ level ∧ a.level ≤ level) :=
      fun hall => hreaches ⟨hall.1, hall.2.1⟩
    simp [hnot]

/-- A logger with the level of its latest call and the handlers of its first one. -/
structure IsSetUp (s : State) (first latest : Call) (l : Logger) : Prop where
  found : s.logger? latest.name = some l
  level_eq : l.level = latest.resolved
  handlers_eq : l.handlers = first.handlers
  console : l.handlers.countP (·.file.isNone) = 1
  destinations : (l.handlers.map Handler.file).Nodup

structure Writes (s : State) (first latest : Call) (l : Logger) : Prop where
  effective_eq : s.effectiveLevel latest.name =
    if latest.resolved = 0 then
      (((s.chain latest.name).tail.map Logger.level).find? (· != 0)).getD 0
    else latest.resolved
  writers_iff : ∀ h ∈ l.handlers, ∀ level, h ∈ s.writers latest.name level ↔
    0 < level ∧ s.effectiveLevel latest.name ≤ level ∧ first.resolved ≤ level
  latest_decides_iff : latest.resolved ≠ 0 → ((∀ h ∈ l.handlers, ∀ level, 0 < level →
      (h ∈ s.writers latest.name level ↔ latest.resolved ≤ level)) ↔
    first.resolved ≤ max 1 latest.resolved)
  emit_eq : ∀ level text, s.emit latest.name level text = { s with
    entries := s.entries ++ ((s.writers latest.name level).filterMap Handler.file).map
      fun f => ⟨f, level, text⟩ }

/-- After any calls, the logger of the latest one has the level that this call resolved, one handler
for the console and no two for the same destination. Its handlers have the level of the first call
for it, and each of them writes just the messages that reach this level and that of the logger; a
logger of level 0 takes the level from above. So the latest level alone decides about all messages
just if it is not below the first one. -/
theorem writers_after_calls (calls : List Call) (c : Call) :
    let s := start.callAll (calls ++ [c])
    ∃ l, s.IsSetUp (c.first calls) c l ∧ s.Writes (c.first calls) c l := by
  intro s
  have hdistinct : s.IsDistinct := isDistinct_callAll _
  have hfound := logger?_callAll calls c
  have heffective := effectiveLevel_eq hdistinct hfound
  have hwriters : ∀ h ∈ (c.first calls).handlers, ∀ level, h ∈ s.writers c.name level ↔
      0 < level ∧ s.effectiveLevel c.name ≤ level ∧ (c.first calls).resolved ≤ level := by
    intro h hh level
    rw [← Call.level_of_mem_handlers hh]
    exact mem_writers_iff hdistinct hfound hh level
  refine ⟨_, ⟨hfound, rfl, rfl, Call.countP_console_handlers _, Call.nodup_file_handlers _⟩,
    heffective, hwriters, fun hlevel => ?_, emit_eq s c.name⟩
  rw [if_neg hlevel] at heffective
  constructor
  · intro hlatest
    have hconsole : (⟨(c.first calls).resolved, none⟩ : Handler) ∈ (c.first calls).handlers :=
      List.mem_cons_self ..
    -- The least level that the latest call lets through has to reach the first level as well.
    have hwrites := (hlatest _ hconsole (max 1 c.resolved) (by omega)).mpr (le_max_right ..)
    exact ((hwriters _ hconsole _).mp hwrites).2.2
  · intro hfirst h hh level hpos
    rw [hwriters h hh, heffective]
    constructor
    · rintro ⟨-, hlatest, -⟩
      exact hlatest
    · intro hlatest
      exact ⟨hpos, hlatest, hfirst.trans (max_le hpos hlatest)⟩

/-- A logger whose level is lowered goes on without the messages that its handlers refuse. -/
theorem lowered_level_unwritten :
    let first : Call := ⟨"a", some 30, none, some "a.log"⟩
    let latest : Call := ⟨"a", some 10, none, none⟩
    let s := start.callAll [first, latest]
    ∃ l, s.logger? latest.name = some l ∧ latest.resolved ≤ 10 ∧ l.handlers ≠ [] ∧
      (∀ h ∈ l.handlers, h ∉ s.writers latest.name 10) ∧
      (s.emit latest.name 10 "x").entries = [] := by
  intro first latest s
  have hfound : s.logger? latest.name =
      some ⟨"a", 10, [⟨30, none⟩, ⟨30, some "a.log"⟩]⟩ := by decide
  have hwriters : s.writers latest.name 10 = [] := by cbv
  have hentries : (s.emit latest.name 10 "x").entries = [] := by
    rw [emit_eq, hwriters]
    rfl
  refine ⟨_, hfound, by decide, by decide, fun h _ => ?_, hentries⟩
  rw [hwriters]
  exact List.not_mem_nil

end State

end OrderSheet.Logging
