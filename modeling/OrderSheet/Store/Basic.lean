import OrderSheet.Activity
import OrderSheet.Store.Disk
import OrderSheet.Store.Format
import OrderSheet.Template.Check
import OrderSheet.Yaml.Construct

/-!
# The store of templates

Templates are kept in a directory, one file each. The templates that were loaded last are kept in
a cache; saving empties it.
-/

namespace OrderSheet

structure Store where
  root : String
  disk : Disk
  cache : List (String × Template)
  journal : List Record
  deriving Repr

abbrev Visit := ExceptT Failure (StateM Store)

namespace Store

def suffix : String := "_template.yaml"

def cacheSize : Nat := 32

def source : String := "pdf_templates.config.template_loader"

def note (text : String) : Visit Unit :=
  modify fun s => { s with journal := s.journal ++ [⟨.info, source, text⟩] }

def fileOf (id : String) : List Char := (id ++ suffix).toList

def shownPath (s : Store) (id : String) : List Char :=
  let file := fileOf id
  Paths.normal (if file.head? == some '/' then file else s.root.toList ++ '/' :: file)

def failWith {α : Type} (f : StoreFault) : Visit α := throw (.store f)

/-- Puts a template in front of the cache; the one that was used first is dropped if the cache is
full. -/
def remember (cache : List (String × Template)) (id : String) (t : Template) :
    List (String × Template) :=
  ((id, t) :: cache.filter (·.1 != id)).take cacheSize

/-- The data of a file, where a file without content is an empty mapping. The id is that of the
file unless the data gives another one. -/
def withId (id : String) (d : Data) : Except Failure Data :=
  match if d.isEmptyValue then .map [] else d with
  | .map es =>
    .ok (.map (if (Data.lookup? es "id").isSome then es else es ++ [(.text "id", .text id)]))
  | d => .error (.store (.unexpected id
      (Complaint.inQuotes d.typeName ++ " object has no attribute 'setdefault'")))

/-- Why the content of a file gives no data. A fault of the document and an attribute that is not
there are expected; whatever else goes wrong goes up to whoever asked. -/
inductive Unread where
  | malformed
  | handled (detail : String)
  | escaping (failure : Failure)
  deriving Repr

def Unread.failure (id : String) : Unread → Failure
  | malformed => .store (.unreadable id)
  | handled detail => .store (.unexpected id detail)
  | escaping f => f

/-- How documents are read: the decoding and the YAML of it. Loading takes it as a parameter. -/
abbrev Reader := List UInt8 → Except Unread Data

def unreadOf : Yaml.Fault → Unread
  | .malformed => .malformed
  | .notMoment => .handled "'NoneType' object has no attribute 'groupdict'"
  | .value message => .escaping (.value message)
  | .hugeCode => .escaping .hugeCode
  | .noTruth word => .escaping (.noTruth word)
  | .noDigits => .escaping .noDigits
  | .manyParts => .escaping .hugeNumber
  | .nestedMoment => .escaping .nestedMoment

/-- Decodes the whole content before the first token of it is read. -/
def readDocument : Reader := fun content =>
  match Data.decodeBytes? content with
  | none => .error (.escaping .undecodable)
  | some text => (Yaml.load text.toList).mapError unreadOf

section

variable (read : Reader)

def parseWith (id : String) (content : List UInt8) : Except Failure Template :=
  match read content with
  | .error u => .error (u.failure id)
  | .ok d => do
    match Data.checkTemplate (← withId id d) with
    | .pass t => return t
    | .fail (.issues is) => throw (.store (.invalid id (.issues is)))
    | .fail r => throw (.rejected r)

def loadFileWith (id : String) : Visit Template := do
  let s ← get
  let path := fileOf id
  if !s.disk.contains path then
    failWith (.noFile id (String.ofList (s.shownPath id)))
  else
    note "Loading template"
    match s.disk.read path with
    | .error f => failWith (.unexpected id (f.text (s.shownPath id)))
    | .ok content =>
      match parseWith read id content with
      | .error e => throw e
      | .ok t =>
        note "Successfully loaded template"
        return t

def loadWith (id : String) : Visit Template := do
  let s ← get
  let t ← match s.cache.find? (·.1 == id) with
    | some (_, t) => pure t
    | none => loadFileWith read id
  modify fun s => { s with cache := remember s.cache id t }
  return t

end

abbrev parse : String → List UInt8 → Except Failure Template := parseWith readDocument

abbrev loadFile : String → Visit Template := loadFileWith readDocument

abbrev load : String → Visit Template := loadWith readDocument

def list (s : Store) : List String :=
  let ending := suffix.toList
  let ids := s.disk.names.filterMap fun n =>
    if ending.isSuffixOf n then some (String.ofList (n.take (n.length - ending.length))) else none
  ids.mergeSort fun a b => a ≤ b

def loadActive : Visit (List Template) := do
  let ts ← (list (← get)).mapM load
  return ts.filter (·.active)

def clear : Visit Unit := do
  modify fun s => { s with cache := [] }
  note "Template cache cleared"

def digitLimit : Nat := 4300

def hasHugeIndex (t : Template) : Bool :=
  t.table.mapping.assigned.any fun (_, i) => digitLimit < (toString i).length

/-- Writes a template to its file, with the time at which that happens. A template that cannot be
written leaves an empty file behind. -/
def save (now : Moment) (t : Template) : Visit Template := do
  match t.id.bind nonEmpty? with
  | none => failWith .noId
  | some id =>
    let stored := { t with created := some (t.created.getD now), updated := some now }
    let s ← get
    if id.toList.contains '\x00' then throw (.value "embedded null byte")
    let content := if hasHugeIndex t then [] else (document stored).toUTF8.toList
    match s.disk.write (fileOf id) content with
    | .error f => failWith (.unwritable id (f.text (s.shownPath id)))
    | .ok disk =>
      set { s with disk := disk }
      if hasHugeIndex t then
        throw (.value ("Exceeds the limit (4300 digits) for integer string conversion; " ++
          "use sys.set_int_max_str_digits() to increase the limit"))
      note "Template saved"
      clear
      return stored

/-- Assigns a field of a loaded template; the cache holds the changed template. -/
def editLoaded (id field : String) (value : Data) : Visit Unit := do
  let t ← load id
  match t.assign field value with
  | .pass t => modify fun s => { s with cache := remember s.cache id t }
  | .fail r => throw (.rejected r)

def open? (root : String) ( isDirectory : Bool) : Except Failure Store :=
  if isDirectory then .ok ⟨root, Disk.empty (Paths.steps root.toList), [], []⟩
  else .error (.store (.noDirectory root))

end Store

end OrderSheet
