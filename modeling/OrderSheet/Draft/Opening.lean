import OrderSheet.Draft.Session
import OrderSheet.Extract.Diagnosis
import OrderSheet.Extract.Document

/-!
# Opening stored templates

A stored template is opened as a draft that is edited in a session, and documents are read with what
the draft describes at the time.
-/

namespace OrderSheet.Session

/-- A stored template, whose header patterns and mapping are the first objects of a session. -/
def original (t : Template) : Built := ⟨t, 0, 0⟩

/-- Opens a stored template. The draft gets copies of its objects; all else that it takes over are
texts, which do not change. -/
def opening (t : Template) : Session :=
  ((start (Draft.ofTemplate t)).makeHeader t.header).makeMapping t.table.mapping

/-- The table rule of the draft. Its mapping is the draft's own object if the pattern is written by
hand. -/
def ruleObject (s : Session) : Except Failure (TableRule × Session) :=
  s.draft.tableRule.map fun rule =>
    match s.own.source with
    | .visual _ => (rule, { s with mappings := s.mappings.make rule.mapping })
    | .expert _ => (rule, s)

def extract (s : Session) (document : Data) : Activity Outcome × Session :=
  match s.buildObject with
  | .error f => (Activity.fail f, s)
  | .ok (b, s) => (Document.extract (s.now b) document, s)

def diagnose (s : Session) (text : String) : Activity Diagnosis × Session :=
  match s.ruleObject with
  | .error f => (Activity.fail f, s)
  | .ok (rule, s) => (Diagnosis.diagnose text rule, s)

end OrderSheet.Session
