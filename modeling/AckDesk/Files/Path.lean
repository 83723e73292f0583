import AckDesk.Text.Pieces

/-!
# Paths

A path is a row of segments between slashes. Taken as steps, empty segments and single dots mean nothing, two dots
lead one folder up, and every other segment is a name. A path **names a file** when its last step is a name.
-/

namespace AckDesk.Files

/-- The parts of a path between its slashes. -/
def segmentsOf (cs : List Char) : List (List Char) := Text.pieces (· == '/') cs

/-- A step from a folder to the one above or to what has a name in it. -/
inductive Step where
  | up
  | name (text : String)
deriving DecidableEq

/-- The step of a segment, if it is one. -/
def Step.ofSegment? (segment : List Char) : Option Step :=
  if segment = [] ∨ segment = ['.'] then none
  else if segment = ['.', '.'] then some .up
  else some (.name (.ofList segment))

/-- Where a path begins, and its steps. -/
structure Path where
  absolute : Bool
  steps : List Step
deriving DecidableEq

namespace Path

/-- The path that a text writes. -/
def ofText (text : String) : Path :=
  ⟨text.toList.head? == some '/', (segmentsOf text.toList).filterMap Step.ofSegment?⟩

/-- The steps to the folder of the file that the path names, and the file's name. -/
def fileName? (p : Path) : Option (List Step × String) :=
  match p.steps.getLast? with
  | some (.name text) => some (p.steps.dropLast, text)
  | _ => none

end Path

end AckDesk.Files
