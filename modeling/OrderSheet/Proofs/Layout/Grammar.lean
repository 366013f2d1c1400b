import OrderSheet.Proofs.Layout.Mapping

/-!
# The lines of a layout

A layout describes lines that are one text for each column with whitespace between them. Its
pattern is found in a line exactly when the line can be divided in this way, and what it captures
are the texts of one such division.
-/

namespace OrderSheet

open Regex

namespace Regex

@[simp] theorem accepts_classOf (k : Category) (negated : Bool) (c : Char) :
    (classOf k negated).accepts c = (k.has false c != negated) := by
  cases negated <;> simp [classOf, Single.accepts, Member.has]

theorem accepts_amountChar (c : Char) :
    amountChar.accepts c = true ↔ Text.isDigit c = true ∨ c = '.' ∨ c = ',' := by
  simp [amountChar, Single.accepts, Member.has, Casing.codeOf, Casing.normal, Category.has,
    ← Char.toNat_inj]

namespace Place

/-- The place behind `cs`, which become the text of a group. -/
def capture (s : Place) (group : Nat) (cs rest : List Char) : Place :=
  ((s.enter group).past cs rest).leave group

variable {s : Place} {group : Nat} {cs rest : List Char}

@[simp] theorem enter_after : (s.enter group).after = s.after := rfl

@[simp] theorem capture_before : (s.capture group cs rest).before = cs.reverse ++ s.before := rfl

@[simp] theorem capture_after : (s.capture group cs rest).after = rest := rfl

@[simp] theorem capture_pos : (s.capture group cs rest).pos = s.pos + cs.length := rfl

theorem text?_leaveAt_enterAt {i j : Nat} (h : i ≤ j) (text : List Char) (n : Nat)
    (slots : List Slot) :
    (Slot.leaveAt j n (Slot.enterAt i text n slots)).map Slot.text? =
      (slots.map Slot.text?).set n (some (text.take (j - i))) := by
  induction slots generalizing n with
  | nil => simp [Slot.enterAt, Slot.leaveAt]
  | cons s slots ih =>
    cases n with
    | zero => cases s <;> simp [Slot.enterAt, Slot.leaveAt, Slot.enter, Slot.leave, Slot.text?, h]
    | succ n => simp [Slot.enterAt, Slot.leaveAt, ih]

/-- A capture sets the text of its group and leaves the others alone. -/
theorem text?_capture (hs : s.after = cs ++ rest) :
    (s.capture group cs rest).slots.map Slot.text? =
      (s.slots.map Slot.text?).set (group - 1) (some cs) := by
  have h := text?_leaveAt_enterAt (Nat.le_add_right s.pos cs.length) s.after (group - 1) s.slots
  rw [Nat.add_sub_cancel_left, hs, List.take_left] at h
  rw [← h, ← hs]
  rfl

end Place

/-- A capture group leads over the same texts as its body. -/
theorem Node.way_capture_iff {body : Node} {group : Nat} {s u : Place} {P : List Char → Prop}
    (hbody : ∀ t, body.Way (s.enter group) t ↔
      ∃ f rest, P f ∧ s.after = f ++ rest ∧ t = (s.enter group).past f rest) :
    (Node.group group body).Way s u ↔
      ∃ f rest, P f ∧ s.after = f ++ rest ∧ u = s.capture group f rest := by
  rw [way_group_iff]
  constructor
  · rintro ⟨t, ht, rfl⟩
    obtain ⟨f, rest, hf, hs, rfl⟩ := (hbody t).mp ht
    exact ⟨f, rest, hf, hs, rfl⟩
  · rintro ⟨f, rest, hf, hs, rfl⟩
    exact ⟨_, (hbody _).mpr ⟨f, rest, hf, hs, rfl⟩, rfl⟩

end Regex

namespace ColumnKind

def Admits : ColumnKind → List Char → Prop
  | text, f => 1 ≤ f.length ∧ f.length ≤ Settings.maxTextColumn
  | number, f | price, f =>
    ∃ d ds, f = d :: ds ∧ Text.isDigit d = true ∧
      ∀ c ∈ ds, Text.isDigit c = true ∨ c = '.' ∨ c = ','
  | code, f | ignored, f => f ≠ [] ∧ ∀ c ∈ f, Text.isBlank c = false

def land (k : ColumnKind) (group : Nat) (s : Place) (f rest : List Char) : Place :=
  if k.captures then s.capture group f rest else s.past f rest

@[simp] theorem land_after (k : ColumnKind) (group : Nat) (s : Place) (f rest : List Char) :
    (k.land group s f rest).after = rest := by
  unfold land
  split <;> rfl

@[simp] theorem land_pos (k : ColumnKind) (group : Nat) (s : Place) (f rest : List Char) :
    (k.land group s f rest).pos = s.pos + f.length := by
  unfold land
  split <;> rfl

variable {group : Nat} {s t : Place}

theorem way_amount_iff {s t : Place} :
    (Node.seq (.one (classOf .digit false)) (.run .greedy 0 none amountChar)).Way s t ↔
      ∃ f rest, number.Admits f ∧ s.after = f ++ rest ∧ t = s.past f rest := by
  simp only [Node.way_seq_iff, Node.way_one_iff, Node.way_run_iff, accepts_amountChar]
  constructor
  · rintro ⟨-, ⟨d, cs, hs, hd, rfl⟩, ds, rest, rfl, hds, -, -, rfl⟩
    refine ⟨d :: ds, rest, ⟨d, ds, rfl, by simpa [Category.has] using hd, hds⟩, hs, ?_⟩
    rw [Place.past_past, List.singleton_append]
  · rintro ⟨-, rest, ⟨d, ds, rfl, hd, hds⟩, hs, rfl⟩
    refine ⟨_, ⟨d, ds ++ rest, hs, by simpa [Category.has] using hd, rfl⟩, ds, rest, rfl, hds,
      Nat.zero_le _, nofun, ?_⟩
    rw [Place.past_past, List.singleton_append]

theorem way_word_iff {s t : Place} :
    (Node.run .greedy 1 none (classOf .space true)).Way s t ↔
      ∃ f rest, code.Admits f ∧ s.after = f ++ rest ∧ t = s.past f rest := by
  rw [Node.way_run_iff]
  constructor
  · rintro ⟨f, rest, hs, hf, hpos, -, rfl⟩
    exact ⟨f, rest, ⟨List.length_pos_iff.mp hpos, by simpa [Category.has] using hf⟩, hs, rfl⟩
  · rintro ⟨f, rest, ⟨hne, hf⟩, hs, rfl⟩
    exact ⟨f, rest, hs, by simpa [Category.has] using hf, List.length_pos_iff.mpr hne, nofun, rfl⟩

theorem way_text_iff {s t : Place} (hs : '\n' ∉ s.after) :
    (Node.run .reluctant 1 (some Settings.maxTextColumn) .inLine).Way s t ↔
      ∃ f rest, text.Admits f ∧ s.after = f ++ rest ∧ t = s.past f rest := by
  rw [Node.way_run_iff]
  constructor
  · rintro ⟨f, rest, hsplit, -, hleast, hmost, rfl⟩
    exact ⟨f, rest, ⟨hleast, hmost _ rfl⟩, hsplit, rfl⟩
  · rintro ⟨f, rest, ⟨hleast, hmost⟩, hsplit, rfl⟩
    refine ⟨f, rest, hsplit, fun c hc => ?_, hleast, by rintro _ ⟨⟩; exact hmost, rfl⟩
    have hne : c ≠ '\n' := by
      rintro rfl
      exact hs (by rw [hsplit]; exact List.mem_append_left _ hc)
    simpa [Single.accepts] using hne

/-- The pattern of a column leads over the texts that the column admits. -/
theorem way_node_iff {k : ColumnKind} (hs : '\n' ∉ s.after) :
    (k.node group).Way s t ↔
      ∃ f rest, k.Admits f ∧ s.after = f ++ rest ∧ t = k.land group s f rest := by
  cases k with
  | text => exact Node.way_capture_iff fun _ => way_text_iff hs
  | number | price => exact Node.way_capture_iff fun _ => way_amount_iff
  | code => exact Node.way_capture_iff fun _ => way_word_iff
  | ignored => exact way_word_iff

end ColumnKind

namespace Layout

def Gap (cs : List Char) : Prop := cs ≠ [] ∧ ∀ c ∈ cs, Text.isBlank c = true

theorem gap_space : Gap [' '] :=
  ⟨List.cons_ne_nil _ _, fun c hc => by rw [List.mem_singleton.mp hc]; rfl⟩

inductive Splits : List Column → List Char → List (List Char) → Prop
  | last {c : Column} {f : List Char} (hf : c.kind.Admits f) : Splits [c] f [f]
  | cons {c : Column} {cs : List Column} {f gap line : List Char} {fs : List (List Char)}
      (hf : c.kind.Admits f) (hgap : Gap gap) (h : Splits cs line fs) :
      Splits (c :: cs) (f ++ (gap ++ line)) (f :: fs)

namespace Splits

variable {columns : List Column} {line : List Char} {fs : List (List Char)}

theorem columns_ne_nil (h : Splits columns line fs) : columns ≠ [] := by
  cases h <;> simp

theorem length_eq (h : Splits columns line fs) : fs.length = columns.length := by
  induction h with
  | last => rfl
  | cons _ _ _ ih => simp [ih]

end Splits

variable {columns : List Column} {line rest : List Char} {fs done : List (List Char)}
  {s t : Place}

theorem way_gap_iff : (Node.run .greedy 1 none (classOf .space false)).Way s t ↔
    ∃ gap rest, Gap gap ∧ s.after = gap ++ rest ∧ t = s.past gap rest := by
  rw [Node.way_run_iff]
  constructor
  · rintro ⟨gap, rest, hs, hgap, hpos, -, rfl⟩
    exact ⟨gap, rest, ⟨List.length_pos_iff.mp hpos, by simpa [Category.has] using hgap⟩, hs, rfl⟩
  · rintro ⟨gap, rest, ⟨hne, hgap⟩, hs, rfl⟩
    exact ⟨gap, rest, hs, by simpa [Category.has] using hgap, List.length_pos_iff.mpr hne, nofun,
      rfl⟩

/-- The texts of the groups behind a column, if those of the groups before it are `done`. -/
theorem text?_land {c : Column} {f : List Char} {n : Nat} (hs : s.after = f ++ rest)
    (hslots : s.slots.map Slot.text? =
      done.map some ++ List.replicate (n + if c.kind.captures then 1 else 0) none) :
    (c.kind.land (done.length + 1) s f rest).slots.map Slot.text? =
      (if c.kind.captures then done ++ [f] else done).map some ++ List.replicate n none := by
  unfold ColumnKind.land
  by_cases hc : c.kind.captures
  · rw [if_pos hc, if_pos hc, Place.text?_capture hs, hslots, if_pos hc, List.replicate_succ]
    simp
  · rw [if_neg hc, if_neg hc, Place.past_slots, hslots, if_neg hc, Nat.add_zero]

/-- A way through all columns divides the text that it leads over. -/
theorem splits_of_way (done : List (List Char)) (hne : columns ≠ []) (hs : '\n' ∉ s.after)
    (hslots : s.slots.map Slot.text? = done.map some ++ List.replicate (groups columns) none)
    (hway : (Node.chain (nodesFrom (done.length + 1) columns)).Way s t) :
    ∃ line fs, Splits columns line fs ∧ s.after = line ++ t.after ∧
      t.pos = s.pos + line.length ∧
      t.slots.map Slot.text? = (done ++ captured columns fs).map some := by
  induction columns generalizing s done with
  | nil => exact absurd rfl hne
  | cons c cs ih =>
    rw [groups_cons] at hslots
    by_cases hcs : cs = []
    · subst hcs
      obtain ⟨u, hu, hend⟩ := Node.way_chain_cons_iff.mp hway
      obtain rfl := Node.way_empty_iff.mp hend
      obtain ⟨f, rest, hf, hafter, rfl⟩ := (ColumnKind.way_node_iff hs).mp hu
      refine ⟨f, [f], .last hf, by simpa using hafter, by simp, ?_⟩
      rw [text?_land hafter hslots, captured_cons]
      by_cases hc : c.kind.captures <;> simp [hc, groups, captured]
    · rw [nodesFrom_cons hcs, Node.way_chain_cons_iff] at hway
      obtain ⟨u, hu, hway⟩ := hway
      obtain ⟨v, hv, hway⟩ := Node.way_chain_cons_iff.mp hway
      obtain ⟨f, rest, hf, hafter, rfl⟩ := (ColumnKind.way_node_iff hs).mp hu
      obtain ⟨gap, tail, hgap, hrest, rfl⟩ := way_gap_iff.mp hv
      obtain rfl : rest = gap ++ tail := by simpa using hrest
      have htail : '\n' ∉ tail := by
        rw [hafter, List.mem_append, List.mem_append] at hs
        exact fun h => hs (Or.inr (Or.inr h))
      have hlen : (if c.kind.captures then done ++ [f] else done).length + 1 =
          done.length + 1 + if c.kind.captures then 1 else 0 := by
        split <;> simp
      rw [← hlen] at hway
      obtain ⟨line, fs, hsplits, htail', hpos, hslots'⟩ := ih _ hcs (by simpa using htail)
        (by rw [Place.past_slots]; exact text?_land hafter hslots) hway
      obtain rfl : tail = line ++ t.after := by simpa using htail'
      refine ⟨f ++ (gap ++ line), f :: fs, .cons hf hgap hsplits, by simpa using hafter, ?_, ?_⟩
      · simp only [hpos, Place.past_pos, ColumnKind.land_pos, List.length_append]
        omega
      · rw [hslots', captured_cons]
        by_cases hc : c.kind.captures <;> simp [hc]

/-- A division of the text ahead is a way through all columns. -/
theorem way_of_splits (h : Splits columns line fs) (hs : '\n' ∉ s.after)
    (hafter : s.after = line ++ rest) (group : Nat) :
    ∃ t, (Node.chain (nodesFrom group columns)).Way s t ∧ t.after = rest := by
  induction h generalizing s group with
  | @last c f hf =>
    refine ⟨_, ?_, ColumnKind.land_after c.kind group s f rest⟩
    exact Node.way_chain_cons_iff.mpr
      ⟨_, (ColumnKind.way_node_iff hs).mpr ⟨f, rest, hf, hafter, rfl⟩, .empty _⟩
  | @cons c cs f gap line fs hf hgap h ih =>
    rw [List.append_assoc, List.append_assoc] at hafter
    obtain ⟨t, hway, ht⟩ := ih
      (s := (c.kind.land group s f (gap ++ (line ++ rest))).past gap (line ++ rest))
      (by rw [hafter, List.mem_append, List.mem_append] at hs
          exact fun h => hs (Or.inr (Or.inr h)))
      rfl (group + if c.kind.captures then 1 else 0)
    refine ⟨t, ?_, ht⟩
    rw [nodesFrom_cons h.columns_ne_nil, Node.way_chain_cons_iff]
    refine ⟨_, (ColumnKind.way_node_iff hs).mpr ⟨f, _, hf, hafter, rfl⟩, ?_⟩
    exact Node.way_chain_cons_iff.mpr
      ⟨_, way_gap_iff.mpr ⟨gap, _, hgap, ColumnKind.land_after .., rfl⟩, hway⟩

theorem compile_pattern_of_compile {p : LinePattern} (hne : columns ≠ [])
    (h : compile columns = .ok p) :
    Regex.compile p.pattern = .ok ⟨node columns, groups columns⟩ := by
  have hgroups := groups_le_of_compile h
  obtain ⟨m, -, rfl⟩ := compile_eq_ok_iff.mp h
  refine compile_pattern hne (Nat.lt_of_le_of_lt (Nat.succ_le_succ hgroups) ?_)
  decide

/-- A way through the pattern of a layout begins where the text does and ends where it does. -/
theorem way_node_iff : (node columns).Way s t ↔
    s.before = [] ∧ (Node.chain (nodesFrom 1 columns)).Way s t ∧
      t.holds .lastLineEnd = true := by
  simp only [node, Node.way_chain_cons_iff, Node.way_chain_append_iff, Node.way_anchor_iff,
    Node.chain_nil, Node.way_empty_iff]
  constructor
  · rintro ⟨u, ⟨hs, rfl⟩, v, hway, w, ⟨hv, rfl⟩, rfl⟩
    exact ⟨List.isEmpty_iff.mp hs, hway, hv⟩
  · rintro ⟨hs, hway, ht⟩
    exact ⟨s, ⟨List.isEmpty_iff.mpr hs, rfl⟩, t, hway, t, ⟨ht, rfl⟩, rfl⟩

variable {m : Match}

/-- A match covers the whole line, and its groups are the texts of a division of it. -/
theorem splits_of_search (hne : columns ≠ []) (hline : '\n' ∉ line)
    (h : Regex.search ⟨node columns, groups columns⟩ line = some m) :
    m.start = 0 ∧ m.stop = line.length ∧ m.text = line ∧
      ∃ fs, Splits columns line fs ∧ m.groups = (captured columns fs).map some := by
  rw [Regex.search, Option.map_eq_some_iff] at h
  obtain ⟨⟨start, ahead, t⟩, hfound, rfl⟩ := h
  obtain ⟨skipped, hskipped, hstart, hway⟩ :=
    Node.searchFrom_eq_some (backtracks_node columns) hfound
  obtain ⟨hbefore, hway, hend⟩ := way_node_iff.mp hway
  obtain rfl : skipped = [] := by simpa using hbefore
  obtain rfl : line = ahead := hskipped
  obtain rfl : start = 0 := by simpa using hstart
  obtain ⟨body, fs, hsplits, hafter, hpos, hslots⟩ := splits_of_way [] hne hline (by simp) hway
  replace hafter : line = body ++ t.after := hafter
  have hlast : t.after = [] := by
    have hne : t.after ≠ ['\n'] := by
      intro heq
      rw [hafter, heq] at hline
      exact hline (by simp)
    simpa [Place.holds, hne] using hend
  obtain rfl : line = body := by simpa [hlast] using hafter
  refine ⟨rfl, by simpa using hpos, ?_, fs, hsplits, hslots⟩
  simp [hpos]

theorem isSome_search (h : Splits columns line fs) (hline : '\n' ∉ line) :
    (Regex.search ⟨node columns, groups columns⟩ line).isSome := by
  obtain ⟨t, hway, ht⟩ := way_of_splits
    (s := ⟨[], line, 0, List.replicate (groups columns) Slot.unset⟩) h hline
    (List.append_nil line).symm 1
  rw [Regex.search, Option.isSome_map]
  refine Node.isSome_searchFrom (backtracks_node columns) (Nat.le_refl _) (t := t) ?_
  exact way_node_iff.mpr ⟨rfl, hway, by simp [Place.holds, ht]⟩

/-- The pattern of a layout is found in exactly the lines that the layout divides. A match covers
the line and captures the texts of one division. -/
theorem search_iff_splits {p : LinePattern} (hne : columns ≠ []) (h : compile columns = .ok p) :
    ∃ r, Regex.compile p.pattern = .ok r ∧ ∀ line, '\n' ∉ line →
      ((r.search line).isSome = true ↔ ∃ fs, Splits columns line fs) ∧
      ∀ m, r.search line = some m → m.start = 0 ∧ m.stop = line.length ∧ m.text = line ∧
        ∃ fs, Splits columns line fs ∧ m.groups = (captured columns fs).map some := by
  refine ⟨_, compile_pattern_of_compile hne h, fun line hline => ⟨⟨?_, ?_⟩, ?_⟩⟩
  · intro hsome
    obtain ⟨m, hm⟩ := Option.isSome_iff_exists.mp hsome
    obtain ⟨-, -, -, fs, hsplits, -⟩ := splits_of_search hne hline hm
    exact ⟨fs, hsplits⟩
  · rintro ⟨fs, hsplits⟩
    exact isSome_search hsplits hline
  · exact fun m hm => splits_of_search hne hline hm

theorem search_iff_splits_text_number :
    ∃ r m, Regex.compile (pattern [⟨none, .text, "Text"⟩, ⟨none, .number, "Number"⟩]) = .ok r ∧
      r.search ['4', ' ', 'x', ' ', '2'] = some m ∧ m.text = ['4', ' ', 'x', ' ', '2'] := by
  have hcompile : compile [⟨none, .text, "Text"⟩, ⟨none, .number, "Number"⟩] =
      .ok ⟨pattern [⟨none, .text, "Text"⟩, ⟨none, .number, "Number"⟩],
        ⟨some 1, some 2, none, none, none⟩⟩ := rfl
  obtain ⟨r, hr, hsearch⟩ := search_iff_splits (List.cons_ne_nil _ _) hcompile
  obtain ⟨hfound, hmatch⟩ := hsearch ['4', ' ', 'x', ' ', '2'] (by decide)
  have hsplits : Splits [⟨none, .text, "Text"⟩, ⟨none, .number, "Number"⟩]
      (['4', ' ', 'x'] ++ ([' '] ++ ['2'])) [['4', ' ', 'x'], ['2']] := by
    refine .cons ⟨by decide, by decide⟩ gap_space (.last ⟨'2', [], rfl, by decide, ?_⟩)
    simp
  obtain ⟨m, hm⟩ := Option.isSome_iff_exists.mp (hfound.mpr ⟨_, hsplits⟩)
  exact ⟨r, m, hr, hm, (hmatch m hm).2.2.1⟩

end Layout

end OrderSheet
