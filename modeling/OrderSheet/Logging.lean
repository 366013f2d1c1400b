import OrderSheet.Journal
import OrderSheet.Data.Basic

/-!
# Loggers

Loggers have a level and handlers of their own levels. Their names form a tree: a message goes to
the handlers of its logger and of all loggers above it. A logger without a level of its own has
that of the next logger above it.
-/

namespace OrderSheet.Logging

def levelNames : List (String × Int) := [
  ("CRITICAL", 50), ("FATAL", 50), ("ERROR", 40), ("WARN", 30), ("WARNING", 30), ("INFO", 20),
  ("DEBUG", 10), ("NOTSET", 0)]

def defaultLevel : Int := 20

def capital (c : Char) : Char :=
  if c == 'ı' then 'I' else if c == 'ſ' then 'S' else c.toUpper

def levelOf (setting : Option String) : Int :=
  match setting with
  | none => defaultLevel
  | some s =>
    let name := s.map capital
    ((levelNames.find? (·.1 == name)).map (·.2)).getD defaultLevel

def levelName (level : Int) : String :=
  let named := levelNames.filter fun n => n.1 != "FATAL" && n.1 != "WARN"
  ((named.find? (·.2 == level)).map (·.1)).getD s!"Level {level}"

def paddedName (level : Int) : String :=
  let name := (levelName level).toList
  String.ofList (name ++ List.replicate (8 - name.length) ' ')

structure Handler where
  level : Int
  /-- The file written to, or none for the console. -/
  file : Option String
  deriving DecidableEq, Repr

structure Logger where
  name : String
  level : Int
  handlers : List Handler
  deriving DecidableEq, Repr

structure Entry where
  file : String
  level : Int
  text : String
  deriving DecidableEq, Repr

/-- The loggers that exist, the files that are open and what has been written to them. -/
structure State where
  loggers : List Logger
  files : List String
  entries : List Entry
  deriving DecidableEq, Repr

def rootName : String := "root"

def State.start : State := ⟨[⟨rootName, 30, []⟩], [], []⟩

def properName (name : String) : String := if name.isEmpty then rootName else name

namespace State

def logger? (s : State) (name : String) : Option Logger :=
  s.loggers.find? (·.name == properName name)

def put (s : State) (l : Logger) : State :=
  if s.loggers.any (·.name == l.name) then
    { s with loggers := s.loggers.map fun k => if k.name == l.name then l else k }
  else { s with loggers := s.loggers ++ [l] }

def setUp (s : State) (name : String) (level : Int) (file : Option String) : State :=
  let l := (s.logger? name).getD ⟨properName name, 0, []⟩
  if l.handlers.isEmpty then
    let handlers : List Handler := ⟨level, none⟩ :: (file.toList.map fun f => ⟨level, some f⟩)
    let files := (file.filter fun f => !s.files.contains f).toList
    { s.put { l with level := level, handlers := handlers } with files := s.files ++ files }
  else s.put { l with level := level }

def isAbove (l : Logger) (name : String) : Bool :=
  l.name == rootName || l.name == properName name ||
    (l.name ++ ".").toList.isPrefixOf name.toList

def chain (s : State) (name : String) : List Logger :=
  let above := s.loggers.filter fun l => isAbove l name
  let key (l : Logger) : Nat := if l.name == rootName then 0 else l.name.length + 1
  above.mergeSort fun a b => key b ≤ key a

def effectiveLevel (s : State) (name : String) : Int :=
  (((s.chain name).map Logger.level).find? (· != 0)).getD 0

/-- Writes a message to the files of all handlers that it reaches. Messages without a level are
dropped. -/
def emit (s : State) (name : String) (level : Int) (text : String) : State :=
  if level ≤ 0 || level < s.effectiveLevel name then s
  else
    let handlers := (s.chain name).flatMap Logger.handlers
    let files := (handlers.filter fun h => h.level ≤ level).filterMap Handler.file
    { s with entries := s.entries ++ files.map fun f => ⟨f, level, text⟩ }

end State

end OrderSheet.Logging
