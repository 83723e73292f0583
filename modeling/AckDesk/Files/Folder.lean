import AckDesk.Files.Path

/-!
# Folders

A folder that holds nothing but files, and what is found in it under a path. Nothing is known about what is around
the folder, apart from its being there.
-/

namespace AckDesk.Files

/-- Why the text of a file is not to be had. -/
inductive Fault where
  | notFound
  | notFolder
  | isFolder
  | notText
  | system (text : String)
deriving DecidableEq

def Fault.message : Fault → String
  | notFound => "No such file or directory (os error 2)"
  | notFolder => "Not a directory (os error 20)"
  | isFolder => "Is a directory (os error 21)"
  | notText => "stream did not contain valid UTF-8"
  | system text => text

/-- The names of the files in a folder, and their bytes. -/
structure Folder where
  files : List (String × List UInt8) := []

namespace Folder

/-- What is under the segments of a path, from inside the folder or from around it. -/
def readSegments (f : Folder) (inside : Bool) : List (List Char) → Except Fault (List UInt8)
  | [] => .error .isFolder
  | s :: ss =>
    match Step.ofSegment? s with
    | none => f.readSegments inside ss
    | some .up => f.readSegments false ss
    | some (.name text) =>
      match if inside then f.files.lookup text else none with
      | none => .error .notFound
      | some bytes => if ss = [] then .ok bytes else .error .notFolder

/-- The bytes of the file that a path leads to. -/
def read (f : Folder) (path : String) : Except Fault (List UInt8) :=
  if path = "" then .error .notFound else f.readSegments (!(Path.ofText path).absolute) (segmentsOf path.toList)

end Folder

end AckDesk.Files
