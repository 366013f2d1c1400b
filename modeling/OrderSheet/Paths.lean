import OrderSheet.Text.Blank

/-!
# Paths

Paths of files as texts, without superfluous separators and steps that stay in place.
-/

namespace OrderSheet.Paths

/-- The separators that a path begins with; exactly two of them are kept apart from one. -/
def root : List Char → List Char
  | '/' :: '/' :: '/' :: _ => ['/']
  | '/' :: '/' :: _ => ['/', '/']
  | '/' :: _ => ['/']
  | _ => []

def steps (path : List Char) : List (List Char) :=
  (Text.splitOnChar '/' path).filter fun s => !s.isEmpty && s != ['.']

def normal (path : List Char) : List Char :=
  let shown := root path ++ List.intercalate ['/'] (steps path)
  if shown.isEmpty then ['.'] else shown

end OrderSheet.Paths
