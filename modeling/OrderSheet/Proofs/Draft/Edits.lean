import Mathlib
import OrderSheet.Draft.Basic
import OrderSheet.Proofs.Layout.Quota

/-!
# Edits of a layout

Only two of the edits ask whether the layout still compiles, but all of them keep a layout that
does. Each edit checks first and changes the draft afterwards, so that one that fails leaves the
draft as it was.
-/

namespace OrderSheet

inductive Edit where
  | add (c : Column)
  | remove (id : String)
  | removeAt (index : Nat)
  | move (index : Int) (left : Bool)
  | toExpert
  | toVisual (columns : Option (List Column))
  deriving DecidableEq, Repr

namespace Edit

def apply (d : Draft) : Edit → Except Failure Draft
  | add c => d.addColumn c
  | remove id => d.removeNamed id
  | removeAt index => d.removeAt index
  | move index left => d.moveColumn index left
  | toExpert => d.toExpert
  | toVisual columns => d.toVisual (columns.getD Draft.defaultColumns)

/-- The edits of single columns, which a pattern written by hand does not have. -/
def isOnColumns : Edit → Bool
  | add _ | remove _ | removeAt _ | move .. => true
  | toExpert | toVisual _ => false

end Edit

abbrev Editing := ExceptT Failure (StateM Draft)

namespace Editing

variable {α β : Type}

def on (x : Editing α) (d : Draft) : Except Failure α × Draft := x.run.run d

theorem on_bind (x : Editing α) (f : α → Editing β) (d : Draft) :
    Editing.on (x >>= f) d = match x.on d with
      | (.ok a, d') => (f a).on d'
      | (.error e, d') => (.error e, d') := by
  rcases hx : x.on d with ⟨answer, d'⟩
  change x d = (answer, d') at hx
  change StateT.bind x (ExceptT.bindCont f) d = _
  rw [StateT.bind, hx]
  cases answer <;> rfl

theorem on_lift (x : Except Failure α) (d : Draft) : Editing.on (liftM x) d = (x, d) := rfl

def columns : Editing (List Column) := do
  match (← get).source with
  | .visual cs => return cs
  | .expert _ => throw .notVisual

def setSource (source : LineSource) : Editing Unit := modify fun d => { d with source := source }

def add (c : Column) : Editing Unit := do
  let cs ← columns
  let _ ← Layout.compile (cs ++ [c])
  setSource (.visual (cs ++ [c]))

def remove (id : String) : Editing Unit := do
  let cs ← columns
  setSource (.visual (cs.filter fun c => c.id != some id))

def removeAt (index : Nat) : Editing Unit := do
  let cs ← columns
  match (cs[index]?).bind Column.id with
  | some id => remove id
  | none => setSource (.visual (cs.eraseIdx index))

def move (index : Int) (left : Bool) : Editing Unit := do
  let cs ← columns
  let target := if left then index - 1 else index + 1
  if 0 ≤ index ∧ index < cs.length ∧ 0 ≤ target ∧ target < cs.length then
    setSource (.visual (Draft.swap cs index.toNat target.toNat))

def toExpert : Editing Unit := do
  match (← get).source with
  | .visual cs =>
    let p ← Layout.compile cs
    setSource (.expert p)
  | .expert _ => return ()

def toVisual (columns : Option (List Column)) : Editing Unit := do
  let cs := columns.getD Draft.defaultColumns
  let _ ← Layout.compile cs
  setSource (.visual cs)

end Editing

def Edit.inPlace : Edit → Editing Unit
  | add c => Editing.add c
  | remove id => Editing.remove id
  | removeAt index => Editing.removeAt index
  | move index left => Editing.move index left
  | toExpert => Editing.toExpert
  | toVisual columns => Editing.toVisual columns

namespace Draft

variable {d d' : Draft} {cs before after : List Column} {a b c : Column} {p : LinePattern}
  {source : LineSource} {e : Edit} {es : List Edit} {f : Failure} {i j : Nat} {index : Int}
  {left : Bool}

def orKeep (d : Draft) : Except Failure Draft → Except Failure Unit × Draft
  | .ok d' => (.ok (), d')
  | .error f => (.error f, d)

theorem setSource_self (h : d.source = source) : { d with source := source } = d := by
  rw [← h]

theorem on_columns (d : Draft) : Editing.columns.on d = (d.columns, d) := by
  rw [Editing.columns, Editing.on_bind, columns]
  change Editing.on (match d.source with | .visual cs => pure cs | .expert _ => throw _) d = _
  cases d.source <;> rfl

theorem on_add (c : Column) (d : Draft) : (Editing.add c).on d = d.orKeep (d.addColumn c) := by
  rw [Editing.add, Editing.on_bind, on_columns, addColumn]
  cases d.columns with
  | error f => rfl
  | ok cs =>
    dsimp only
    rw [Editing.on_bind, Editing.on_lift]
    dsimp only [bind, Except.bind]
    cases Layout.compile (cs ++ [c]) <;> rfl

theorem on_remove (id : String) (d : Draft) :
    (Editing.remove id).on d = d.orKeep (d.removeNamed id) := by
  rw [Editing.remove, Editing.on_bind, on_columns, removeNamed]
  cases d.columns <;> rfl

theorem on_removeAt (index : Nat) (d : Draft) :
    (Editing.removeAt index).on d = d.orKeep (d.removeAt index) := by
  rw [Editing.removeAt, Editing.on_bind, on_columns, removeAt]
  cases d.columns with
  | error f => rfl
  | ok cs =>
    dsimp only [bind, Except.bind]
    cases (cs[index]?).bind Column.id with
    | none => rfl
    | some id => exact on_remove id d

theorem swap_of_length_le (h : cs.length ≤ i ∨ cs.length ≤ j) : swap cs i j = cs := by
  rw [swap]
  rcases h with h | h
  · rw [List.getElem?_eq_none h]
  · rw [List.getElem?_eq_none h]
    cases cs[i]? <;> rfl

theorem on_move (index : Int) (left : Bool) (d : Draft) :
    (Editing.move index left).on d = d.orKeep (d.moveColumn index left) := by
  rw [Editing.move, Editing.on_bind, on_columns, moveColumn]
  cases hs : d.source with
  | expert p =>
    simp only [columns, hs]
    rfl
  | visual cs =>
    simp only [columns, hs, bind, Except.bind]
    generalize (if left = true then index - 1 else index + 1) = target
    by_cases hin : 0 ≤ index ∧ index < cs.length ∧ 0 ≤ target ∧ target < cs.length
    · rw [if_pos hin, if_neg (by simp; omega)]
      rfl
    · rw [if_neg hin]
      split
      · rfl
      · rename_i hneg
        simp only [Bool.or_eq_true, decide_eq_true_eq, not_or] at hneg
        rw [swap_of_length_le (by omega), setSource_self hs]
        rfl

theorem on_toExpert (d : Draft) : Editing.toExpert.on d = d.orKeep d.toExpert := by
  rw [Editing.toExpert, Editing.on_bind, toExpert]
  change Editing.on (match d.source with | .visual _ => _ | .expert _ => _) d = _
  cases hs : d.source with
  | expert p =>
    change (Except.ok (), d) = (Except.ok (), { d with source := .expert p })
    rw [setSource_self hs]
  | visual cs =>
    dsimp only [LineSource.resolve]
    rw [Editing.on_bind, Editing.on_lift]
    cases Layout.compile cs <;> rfl

theorem on_toVisual (columns : Option (List Column)) (d : Draft) :
    (Editing.toVisual columns).on d = d.orKeep (d.toVisual (columns.getD defaultColumns)) := by
  rw [Editing.toVisual, Editing.on_bind, Editing.on_lift, toVisual]
  cases Layout.compile (columns.getD defaultColumns) <;> rfl

/-- Carried out in place, an edit gives the draft that it should give, or fails and has not changed
anything. -/
theorem on_inPlace (e : Edit) (d : Draft) : e.inPlace.on d = d.orKeep (e.apply d) := by
  cases e with
  | add c => exact on_add c d
  | remove id => exact on_remove id d
  | removeAt index => exact on_removeAt index d
  | move index left => exact on_move index left d
  | toExpert => exact on_toExpert d
  | toVisual columns => exact on_toVisual columns d

def HasLayout (d : Draft) : Prop := ∀ cs, d.source = .visual cs → ∃ p, Layout.compile cs = .ok p

theorem hasLayout_expert (h : d.source = .expert p) : d.HasLayout := by
  intro cs hcs
  rw [h] at hcs
  cases hcs

theorem HasLayout.withinQuotas (hd : d.HasLayout) (hs : d.source = .visual cs) :
    Layout.WithinQuotas cs := Layout.compile_eq_ok_iff_withinQuotas.mp (hd cs hs)

theorem hasLayout_of_withinQuotas (hs : d.source = .visual cs) (h : Layout.WithinQuotas cs) :
    d.HasLayout := by
  intro cs' hcs'
  obtain rfl : cs = cs' := LineSource.visual.inj (hs.symm.trans hcs')
  exact Layout.compile_eq_ok_iff_withinQuotas.mpr h

/-- A draft with a layout that compiles, or with a pattern written by hand, has a table rule. -/
theorem HasLayout.exists_tableRule (hd : d.HasLayout) : ∃ rule, d.tableRule = .ok rule := by
  rw [tableRule]
  cases hs : d.source with
  | expert p => exact ⟨_, rfl⟩
  | visual cs =>
    obtain ⟨p, hp⟩ := hd cs hs
    rw [LineSource.resolve, hp]
    exact ⟨_, rfl⟩

theorem columns_visual (hs : d.source = .visual cs) : d.columns = .ok cs := by
  rw [columns, hs]

theorem columns_expert (hs : d.source = .expert p) : d.columns = .error .notVisual := by
  rw [columns, hs]

theorem apply_add (hs : d.source = .visual cs) : (Edit.add c).apply d =
    (Layout.compile (cs ++ [c])).map fun _ => { d with source := .visual (cs ++ [c]) } := by
  rw [Edit.apply, addColumn, columns_visual hs]
  dsimp only [bind, Except.bind]
  cases Layout.compile (cs ++ [c]) <;> rfl

theorem apply_remove {id : String} (hs : d.source = .visual cs) : (Edit.remove id).apply d =
    .ok { d with source := .visual (cs.filter fun c => c.id != some id) } := by
  rw [Edit.apply, removeNamed, columns_visual hs]
  rfl

def withoutAt (cs : List Column) (index : Nat) : List Column :=
  match (cs[index]?).bind Column.id with
  | some id => cs.filter fun c => c.id != some id
  | none => cs.eraseIdx index

theorem apply_removeAt (hs : d.source = .visual cs) : (Edit.removeAt i).apply d =
    .ok { d with source := .visual (withoutAt cs i) } := by
  rw [Edit.apply, removeAt, columns_visual hs, withoutAt]
  dsimp only [bind, Except.bind]
  cases (cs[i]?).bind Column.id with
  | none => rfl
  | some id => exact apply_remove hs

theorem withoutAt_sublist (cs : List Column) (index : Nat) : (withoutAt cs index).Sublist cs := by
  rw [withoutAt]
  split
  · exact List.filter_sublist
  · exact List.eraseIdx_sublist ..

def nextTo (index : Int) (left : Bool) : Int := if left then index - 1 else index + 1

theorem apply_move (hs : d.source = .visual cs) (hindex : 0 ≤ index)
    (htarget : 0 ≤ nextTo index left) : (Edit.move index left).apply d =
      .ok { d with source := .visual (swap cs index.toNat (nextTo index left).toNat) } := by
  rw [Edit.apply, moveColumn, columns_visual hs]
  change (if index < 0 || nextTo index left < 0 then _ else _) = _
  rw [if_neg (by simp; omega)]
  rfl

theorem apply_move_of_neg (hs : d.source = .visual cs)
    (h : index < 0 ∨ nextTo index left < 0) : (Edit.move index left).apply d = .ok d := by
  rw [Edit.apply, moveColumn, columns_visual hs]
  change (if index < 0 || nextTo index left < 0 then _ else _) = _
  rw [if_pos (by simpa using h)]
  rfl

theorem apply_expert (hs : d.source = .expert p) (he : e.isOnColumns = true) :
    e.apply d = .error .notVisual := by
  cases e with
  | add c => rw [Edit.apply, addColumn, columns_expert hs]; rfl
  | remove id => rw [Edit.apply, removeNamed, columns_expert hs]; rfl
  | removeAt index => rw [Edit.apply, removeAt, columns_expert hs]; rfl
  | move index left => rw [Edit.apply, moveColumn, columns_expert hs]; rfl
  | toExpert => cases he
  | toVisual columns => cases he

theorem swap_perm (cs : List Column) (i j : Nat) : (swap cs i j).Perm cs := by
  rw [swap]
  split
  · next a b ha hb =>
    obtain ⟨hi, rfl⟩ := List.getElem?_eq_some_iff.mp ha
    obtain ⟨hj, rfl⟩ := List.getElem?_eq_some_iff.mp hb
    exact List.set_set_perm hi hj
  · exact List.Perm.refl _

theorem exists_visual_of_apply (h : e.apply d = .ok d') (he : e.isOnColumns = true) :
    ∃ cs, d.source = .visual cs := by
  cases hs : d.source with
  | visual cs => exact ⟨cs, rfl⟩
  | expert p =>
    rw [apply_expert hs he] at h
    cases h

/-- An edit of columns makes a layout that has been compiled, or one with fewer columns or with the
same ones in another order. -/
theorem apply_cases (h : e.apply d = .ok d') (he : e.isOnColumns = true) :
    ∃ cs cs', d.source = .visual cs ∧ d' = { d with source := .visual cs' } ∧
      ((∃ p, Layout.compile cs' = .ok p) ∨ cs'.Sublist cs ∨ cs'.Perm cs) := by
  obtain ⟨cs, hs⟩ := exists_visual_of_apply h he
  refine ⟨cs, ?_⟩
  cases e with
  | add c =>
    rw [apply_add hs] at h
    obtain ⟨p, hp, rfl⟩ := Failure.map_eq_ok.mp h
    exact ⟨_, hs, rfl, .inl ⟨p, hp⟩⟩
  | remove id =>
    rw [apply_remove hs] at h
    exact ⟨_, hs, (Except.ok.inj h).symm, .inr (.inl List.filter_sublist)⟩
  | removeAt index =>
    rw [apply_removeAt hs] at h
    exact ⟨_, hs, (Except.ok.inj h).symm, .inr (.inl (withoutAt_sublist cs index))⟩
  | move index left =>
    by_cases hneg : index < 0 ∨ nextTo index left < 0
    · rw [apply_move_of_neg hs hneg] at h
      obtain rfl := Except.ok.inj h
      exact ⟨cs, hs, (setSource_self hs).symm, .inr (.inr (List.Perm.refl cs))⟩
    · rw [apply_move hs (by omega) (by omega)] at h
      exact ⟨_, hs, (Except.ok.inj h).symm, .inr (.inr (swap_perm ..))⟩
  | toExpert => cases he
  | toVisual columns => cases he

theorem HasLayout.apply (hd : d.HasLayout) (h : e.apply d = .ok d') : d'.HasLayout := by
  cases he : e.isOnColumns with
  | true =>
    obtain ⟨cs, cs', hs, rfl, hcs'⟩ := apply_cases h he
    refine hasLayout_of_withinQuotas rfl ?_
    rcases hcs' with hcompiles | hsublist | hperm
    · exact Layout.compile_eq_ok_iff_withinQuotas.mp hcompiles
    · exact (hd.withinQuotas hs).of_sublist hsublist
    · exact (hd.withinQuotas hs).of_perm hperm
  | false =>
    cases e with
    | toExpert =>
      obtain ⟨p, -, rfl⟩ := Failure.map_eq_ok.mp h
      exact hasLayout_expert rfl
    | toVisual columns =>
      obtain ⟨p, hp, rfl⟩ := Failure.map_eq_ok.mp h
      exact hasLayout_of_withinQuotas rfl (Layout.compile_eq_ok_iff_withinQuotas.mp ⟨p, hp⟩)
    | _ => cases he

theorem HasLayout.on_inPlace (hd : d.HasLayout) (e : Edit) : (e.inPlace.on d).2.HasLayout := by
  rw [Draft.on_inPlace]
  cases h : e.apply d with
  | error f => exact hd
  | ok d' => exact hd.apply h

def edited (d : Draft) (es : List Edit) : Draft := es.foldl (fun d e => (e.inPlace.on d).2) d

theorem HasLayout.edited (hd : d.HasLayout) (es : List Edit) : (d.edited es).HasLayout := by
  induction es generalizing d with
  | nil => exact hd
  | cons e es ih => exact ih (hd.on_inPlace e)

inductive Refuses (d : Draft) : Edit → Failure → Prop
  | onColumns {e : Edit} {p : LinePattern} (hs : d.source = .expert p)
      (he : e.isOnColumns = true) : Refuses d e .notVisual
  | add {c : Column} {cs : List Column} {n : Nat} (hs : d.source = .visual cs)
      (hn : c.kind.quota = some n) (hused : Layout.count c.kind cs = n) :
      Refuses d (.add c) (.layout (cs.length + 1) c.label c.kind.name n)
  | toVisual {columns : Option (List Column)} {f : Failure}
      (hf : Layout.Exceeds (columns.getD defaultColumns) f) : Refuses d (.toVisual columns) f

theorem HasLayout.apply_of_refuses (hd : d.HasLayout) (h : d.Refuses e f) :
    e.apply d = .error f := by
  cases h with
  | onColumns hs he => exact apply_expert hs he
  | add hs hn hused =>
    rw [apply_add hs, Failure.map_eq_error, Layout.compile_eq_error_iff,
      Layout.exceeds_append_singleton (hd.withinQuotas hs)]
    exact ⟨_, hn, hused, rfl⟩
  | toVisual hf => exact Failure.map_eq_error.mpr (Layout.compile_eq_error_iff.mpr hf)

theorem HasLayout.refuses_of_apply (hd : d.HasLayout) (h : e.apply d = .error f) :
    d.Refuses e f := by
  cases hs : d.source with
  | expert p =>
    cases he : e.isOnColumns with
    | true =>
      rw [apply_expert hs he] at h
      obtain rfl := Except.error.inj h
      exact .onColumns hs he
    | false =>
      cases e with
      | toExpert =>
        rw [Edit.apply, toExpert_expert d hs] at h
        cases h
      | toVisual columns =>
        exact .toVisual (Layout.compile_eq_error_iff.mp (Failure.map_eq_error.mp h))
      | _ => cases he
  | visual cs =>
    cases e with
    | add c =>
      rw [apply_add hs, Failure.map_eq_error, Layout.compile_eq_error_iff,
        Layout.exceeds_append_singleton (hd.withinQuotas hs)] at h
      obtain ⟨n, hn, hused, rfl⟩ := h
      exact .add hs hn hused
    | remove id =>
      rw [apply_remove hs] at h
      cases h
    | removeAt index =>
      rw [apply_removeAt hs] at h
      cases h
    | move index left =>
      by_cases hneg : index < 0 ∨ nextTo index left < 0
      · rw [apply_move_of_neg hs hneg] at h
        cases h
      · rw [apply_move hs (by omega) (by omega)] at h
        cases h
    | toExpert =>
      obtain ⟨p, hp⟩ := hd cs hs
      have herror := Failure.map_eq_error.mp h
      rw [hs, LineSource.resolve, hp] at herror
      cases herror
    | toVisual columns =>
      exact .toVisual (Layout.compile_eq_error_iff.mp (Failure.map_eq_error.mp h))

theorem on_eq_error_iff : (e.inPlace.on d).1 = .error f ↔ e.apply d = .error f := by
  rw [on_inPlace]
  cases e.apply d <;> simp [orKeep]

theorem on_of_apply_ok (h : e.apply d = .ok d') : e.inPlace.on d = (.ok (), d') := by
  rw [on_inPlace, h]
  rfl

theorem on_of_apply_error (h : e.apply d = .error f) : e.inPlace.on d = (.error f, d) := by
  rw [on_inPlace, h]
  rfl

def IsPosition (cs : List Column) (i : Int) : Prop := 0 ≤ i ∧ i < cs.length

def Swapped (cs cs' : List Column) (i : Int) : Prop :=
  ∃ before a b after, cs = before ++ a :: b :: after ∧ cs' = before ++ b :: a :: after ∧
    (before.length : Int) = i

theorem Swapped.symm {cs' : List Column} {i : Int} (h : Swapped cs cs' i) : Swapped cs' cs i := by
  obtain ⟨before, a, b, after, rfl, rfl, hi⟩ := h
  exact ⟨before, b, a, after, rfl, rfl, hi⟩

theorem nextTo_nextTo (index : Int) (left : Bool) : nextTo (nextTo index left) (!left) = index := by
  cases left <;> simp [nextTo]

theorem exists_swapped {n : Nat} (h : n + 1 < cs.length) : ∃ cs', Swapped cs cs' n := by
  refine ⟨_, cs.take n, cs[n], cs[n + 1], cs.drop (n + 2), ?_, rfl, ?_⟩
  · rw [← List.drop_eq_getElem_cons h, ← List.drop_eq_getElem_cons (by omega),
      List.take_append_drop]
  · rw [List.length_take]
    omega

theorem swap_neighbours (before after : List Column) (a b : Column) :
    swap (before ++ a :: b :: after) before.length (before.length + 1) =
        before ++ b :: a :: after ∧
      swap (before ++ a :: b :: after) (before.length + 1) before.length =
        before ++ b :: a :: after := by
  constructor <;> simp [swap]

theorem move_of_swapped {cs' : List Column} (hs : d.source = .visual cs)
    (h : Swapped cs cs' (min index (nextTo index left))) :
    (Edit.move index left).inPlace.on d = (.ok (), { d with source := .visual cs' }) := by
  obtain ⟨before, a, b, after, rfl, rfl, hi⟩ := h
  obtain ⟨hright, hleft⟩ := swap_neighbours before after a b
  refine on_of_apply_ok ?_
  cases left with
  | true =>
    rw [nextTo, if_pos rfl] at hi
    have hindex : index.toNat = before.length + 1 := by omega
    have htarget : (nextTo index true).toNat = before.length := by rw [nextTo, if_pos rfl]; omega
    rw [apply_move hs (by omega) (by rw [nextTo, if_pos rfl]; omega), hindex, htarget, hleft]
  | false =>
    rw [nextTo, if_neg (by simp)] at hi
    have hindex : index.toNat = before.length := by omega
    have htarget : (nextTo index false).toNat = before.length + 1 := by
      rw [nextTo, if_neg (by simp)]
      omega
    rw [apply_move hs (by omega) (by rw [nextTo, if_neg (by simp)]; omega), hindex, htarget,
      hright]

theorem move_of_not_isPosition (hs : d.source = .visual cs)
    (h : ¬ (IsPosition cs index ∧ IsPosition cs (nextTo index left))) :
    (Edit.move index left).inPlace.on d = (.ok (), d) := by
  refine on_of_apply_ok ?_
  by_cases hneg : index < 0 ∨ nextTo index left < 0
  · exact apply_move_of_neg hs hneg
  · rw [IsPosition, IsPosition] at h
    rw [apply_move hs (by omega) (by omega), swap_of_length_le (by omega), setSource_self hs]

theorem exists_swapped_of_isPosition (h : IsPosition cs index)
    (h' : IsPosition cs (nextTo index left)) :
    ∃ cs', Swapped cs cs' (min index (nextTo index left)) := by
  obtain ⟨hlow, hhigh⟩ := h
  obtain ⟨hlow', hhigh'⟩ := h'
  have hnext : (min index (nextTo index left)).toNat + 1 < cs.length := by
    cases left with
    | true =>
      rw [nextTo, if_pos rfl] at *
      omega
    | false =>
      rw [nextTo, if_neg (by simp)] at *
      omega
  obtain ⟨cs', hcs'⟩ := exists_swapped hnext
  rw [Int.toNat_of_nonneg (by omega)] at hcs'
  exact ⟨cs', hcs'⟩

/-- Any edits, one after the other, keep a layout that compiles, so that the draft always has a
table rule. An edit fails just for the reasons given, and then nothing has changed: above all, a
column is not added just when its quota is used up. A column is removed without changing the order
of the others. A move swaps two neighbours, and the opposite move swaps them back; a move past an
end changes nothing. -/
theorem edits_run (hd : d.HasLayout) (es : List Edit) :
    let d' := d.edited es
    d'.HasLayout ∧ (∃ rule, d'.tableRule = .ok rule) ∧
    (∀ (e : Edit) (f : Failure), ((e.inPlace.on d').1 = .error f ↔ d'.Refuses e f) ∧
      ((e.inPlace.on d').1 = .error f → (e.inPlace.on d').2 = d')) ∧
    (∀ cs, d'.source = .visual cs →
      (∀ c, (∃ f, ((Edit.add c).inPlace.on d').1 = .error f) ↔
        ∃ n, c.kind.quota = some n ∧ Layout.count c.kind cs = n) ∧
      (∀ id, (Edit.remove id).inPlace.on d' =
        (.ok (), { d' with source := .visual (cs.filter fun c => c.id != some id) })) ∧
      (∀ i, (Edit.removeAt i).inPlace.on d' =
        (.ok (), { d' with source := .visual (withoutAt cs i) })) ∧
      ∀ index left,
        (IsPosition cs index ∧ IsPosition cs (nextTo index left) → ∃ cs',
          Swapped cs cs' (min index (nextTo index left)) ∧
          (Edit.move index left).inPlace.on d' = (.ok (), { d' with source := .visual cs' }) ∧
          (Edit.move (nextTo index left) (!left)).inPlace.on { d' with source := .visual cs' } =
            (.ok (), d')) ∧
        (¬ (IsPosition cs index ∧ IsPosition cs (nextTo index left)) →
          (Edit.move index left).inPlace.on d' = (.ok (), d'))) := by
  intro d'
  have hd' : d'.HasLayout := hd.edited es
  have hrefuses (e : Edit) (f : Failure) :
      (e.inPlace.on d').1 = .error f ↔ d'.Refuses e f := by
    rw [on_eq_error_iff]
    exact ⟨hd'.refuses_of_apply, hd'.apply_of_refuses⟩
  refine ⟨hd', hd'.exists_tableRule, fun e f => ⟨hrefuses e f, fun h => ?_⟩, fun cs hs =>
    ⟨fun c => ?_, fun id => on_of_apply_ok (apply_remove hs),
      fun i => on_of_apply_ok (apply_removeAt hs),
      fun index left => ⟨fun ⟨hindex, htarget⟩ => ?_, move_of_not_isPosition hs⟩⟩⟩
  · rw [on_of_apply_error (on_eq_error_iff.mp h)]
  · constructor
    · rintro ⟨f, hf⟩
      cases (hrefuses _ _).mp hf with
      | onColumns hexpert => cases hs.symm.trans hexpert
      | add hs' hn hused =>
        obtain rfl := LineSource.visual.inj (hs.symm.trans hs')
        exact ⟨_, hn, hused⟩
    · rintro ⟨n, hn, hused⟩
      exact ⟨_, (hrefuses _ _).mpr (.add hs hn hused)⟩
  · obtain ⟨cs', hcs'⟩ := exists_swapped_of_isPosition hindex htarget
    refine ⟨cs', hcs', move_of_swapped hs hcs', ?_⟩
    have hback : Swapped cs' cs (min (nextTo index left) (nextTo (nextTo index left) (!left))) := by
      rw [nextTo_nextTo, min_comm]
      exact hcs'.symm
    rw [move_of_swapped rfl hback, setSource_self hs]

theorem hasLayout_default : Draft.default.HasLayout := by
  intro cs hcs
  obtain rfl := LineSource.visual.inj hcs
  exact ⟨_, rfl⟩

theorem edits_run_second_text :
    let d := Draft.default.edited [.add ⟨none, .code, "Code"⟩, .move 1 true, .toExpert,
      .add ⟨none, .code, "Code"⟩, .toVisual none, .removeAt 3]
    let text : Edit := .add ⟨none, .text, "Text"⟩
    text.inPlace.on d = (.error (.layout 4 "Text" "text" 1), d) := by
  intro d text
  have hrun := edits_run hasLayout_default [.add ⟨none, .code, "Code"⟩, .move 1 true, .toExpert,
      .add ⟨none, .code, "Code"⟩, .toVisual none, .removeAt 3]
  obtain ⟨hrefused, hkept⟩ := hrun.2.2.1 text (.layout 4 "Text" "text" 1)
  have hs : d.source = .visual (defaultColumns.take 3) := by rfl
  have herror : (text.inPlace.on d).1 = .error (.layout 4 "Text" "text" 1) :=
    hrefused.mpr (.add (n := 1) hs rfl rfl)
  exact Prod.ext herror (hkept herror)

end Draft

end OrderSheet
