import OrderSheet.Draft.Check

/-!
# Editing sessions

In a session a draft is edited and templates are built from it. Header patterns and field mappings
are objects of their own, and whoever holds the same object sees a change of it. A built template
gets header patterns of its own, but its mapping is the draft's own object if the line pattern is
written by hand.
-/

namespace OrderSheet

/-- Objects of one kind, numbered in the order in which they were made. -/
structure Heap (α : Type) where
  size : Nat
  get : Nat → α

namespace Heap

variable {α : Type}

def make (h : Heap α) (a : α) : Heap α :=
  ⟨h.size + 1, fun i => if i = h.size then a else h.get i⟩

def set (h : Heap α) (i : Nat) (a : α) : Heap α :=
  ⟨h.size, fun j => if j = i then a else h.get j⟩

@[simp] theorem get_make_self (h : Heap α) (a : α) : (h.make a).get h.size = a := if_pos rfl

@[simp] theorem get_set_self (h : Heap α) (i : Nat) (a : α) : (h.set i a).get i = a := if_pos rfl

theorem get_make_of_lt (h : Heap α) (a : α) {i : Nat} (hi : i < h.size) :
    (h.make a).get i = h.get i := if_neg (Nat.ne_of_lt hi)

theorem get_set_of_ne (h : Heap α) (a : α) {i j : Nat} (hj : j ≠ i) :
    (h.set i a).get j = h.get j := if_neg hj

end Heap

/-- A template that has been built, with the numbers of its header patterns and its mapping, which
may have changed since. -/
structure Built where
  template : Template
  header : Nat
  mapping : Nat

structure Session where
  headers : Heap HeaderPatterns
  mappings : Heap FieldMapping
  own : Draft
  header : Nat
  mapping : Nat
  last : Option Built

namespace LineSource

def mapping : LineSource → FieldMapping
  | visual _ => .empty
  | expert p => p.mapping

def withMapping (m : FieldMapping) : LineSource → LineSource
  | visual columns => visual columns
  | expert p => expert { p with mapping := m }

end LineSource

namespace Session

def draft (s : Session) : Draft :=
  { s.own with
    header := s.headers.get s.header
    source := s.own.source.withMapping (s.mappings.get s.mapping) }

def now (s : Session) (b : Built) : Template :=
  { b.template with
    header := s.headers.get b.header
    table := { b.template.table with mapping := s.mappings.get b.mapping } }

def built (s : Session) : Option Template := s.last.map s.now

def start (d : Draft) : Session :=
  ⟨⟨1, fun _ => d.header⟩, ⟨1, fun _ => d.source.mapping⟩, d, 0, 0, none⟩

def makeHeader (s : Session) (h : HeaderPatterns) : Session :=
  { s with header := s.headers.size, headers := s.headers.make h }

def makeMapping (s : Session) (m : FieldMapping) : Session :=
  { s with mapping := s.mappings.size, mappings := s.mappings.make m }

/-- Goes on with a changed draft. Its header patterns and its mapping are changed in place, unless
its line source is a new one, which comes with a mapping of its own. -/
def replace (s : Session) (d : Draft) (newSource : Bool) : Session :=
  let s := { s with own := d, headers := s.headers.set s.header d.header }
  match d.source with
  | .visual _ => s
  | .expert p =>
    if newSource then s.makeMapping p.mapping
    else { s with mappings := s.mappings.set s.mapping p.mapping }

def buildObject (s : Session) : Except Failure (Built × Session) :=
  s.draft.build.map fun t =>
    let header := s.headers.size
    let s := { s with headers := s.headers.make t.header }
    match s.own.source with
    | .visual _ =>
      (⟨t, header, s.mappings.size⟩, { s with mappings := s.mappings.make t.table.mapping })
    | .expert _ => (⟨t, header, s.mapping⟩, s)

def build (s : Session) : Except Failure (Template × Session) :=
  s.buildObject.map fun (b, s) => (b.template, { s with last := some b })

def setMapping (s : Session) (f : ProductField) (index : Option Nat) : Session :=
  s.replace (s.draft.setMapping f index) false

def assign (s : Session) (field : String) (value : Data) : Check Session :=
  (s.draft.assign field value).map fun d =>
    let s := if field == "header_config" then s.makeHeader d.header else s
    s.replace d (field == "line_source")

end Session

end OrderSheet
