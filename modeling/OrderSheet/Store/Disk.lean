import OrderSheet.Paths
import OrderSheet.Text.Quote

/-!
# A directory of files

A directory and the files around it. Files can be read and written by their path, from the directory
or from the top, and the directory can be listed.
-/

namespace OrderSheet

abbrev Way := List (List Char)

inductive Entry where
  | file (content : List UInt8)
  | directory
  deriving DecidableEq, Repr

/-- What there is besides the directory itself and those it is in. -/
structure Disk where
  home : Way
  entries : List (Way × Entry)
  deriving DecidableEq, Repr

inductive DiskFault where
  | missing
  | notDirectory
  | isDirectory
  | longName
  deriving DecidableEq, Repr

def DiskFault.text (path : List Char) (f : DiskFault) : String :=
  let (number, what) : Nat × String := match f with
    | missing => (2, "No such file or directory")
    | notDirectory => (20, "Not a directory")
    | isDirectory => (21, "Is a directory")
    | longName => (36, "File name too long")
  s!"[Errno {number}] {what}: " ++ String.ofList (Text.quote path)

namespace Disk

def empty (home : Way) : Disk := ⟨home, []⟩

def maxName : Nat := 255

def entry (d : Disk) (w : Way) : Option Entry :=
  if w.isPrefixOf d.home then some .directory else (d.entries.find? (·.1 == w)).map (·.2)

/-- Goes along a path, where `here` is the way taken so far, backwards. Steps upwards lead back
along it, and stay in place at the top. -/
def follow (d : Disk) (here : Way) : List (List Char) → Except DiskFault Way
  | [] => .ok here.reverse
  | s :: rest =>
    match d.entry here.reverse with
    | none => .error .missing
    | some (.file _) => .error .notDirectory
    | some .directory =>
      if s == ['.', '.'] then follow d here.tail rest
      else if maxName < (String.ofList s).utf8ByteSize then .error .longName
      else follow d (s :: here) rest

def locate (d : Disk) (path : List Char) : Except DiskFault Way :=
  d.follow (if path.head? == some '/' then [] else d.home.reverse) (Paths.steps path)

def contains (d : Disk) (path : List Char) : Bool :=
  match d.locate path with
  | .ok w => (d.entry w).isSome
  | .error _ => false

def read (d : Disk) (path : List Char) : Except DiskFault (List UInt8) := do
  match d.entry (← d.locate path) with
  | none => throw .missing
  | some .directory => throw .isDirectory
  | some (.file content) => return content

def put (d : Disk) (w : Way) (e : Entry) : Disk :=
  { d with entries := (w, e) :: d.entries.filter (·.1 != w) }

def write (d : Disk) (path : List Char) (content : List UInt8) : Except DiskFault Disk := do
  let w ← d.locate path
  match d.entry w with
  | some .directory => throw .isDirectory
  | _ => return d.put w (.file content)

def makeDirectory (d : Disk) (path : List Char) : Disk :=
  d.put (d.home ++ Paths.steps path) .directory

def remove (d : Disk) (path : List Char) : Disk :=
  { d with entries := d.entries.filter (·.1 != d.home ++ Paths.steps path) }

def names (d : Disk) : List (List Char) :=
  d.entries.filterMap fun e => if e.1.dropLast == d.home then e.1.getLast? else none

@[simp] theorem names_of_empty {d : Disk} (h : d.entries = []) : d.names = [] := by
  rw [names, h]
  rfl

end Disk

end OrderSheet
