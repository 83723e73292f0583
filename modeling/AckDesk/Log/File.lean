import AckDesk.Files.Path

/-!
# The log file

The log file is given by a path. Folders on the way to it are made as needed, those that later steps leave again
included.
-/

namespace AckDesk.Log

open Files (Path Step)

/-- The folder of the log, and the name of the file in it. -/
structure LogFile where
  absolute : Bool
  folder : List Step
  name : String
deriving DecidableEq

namespace LogFile

/-- The log file at a path, which has to name a file. -/
def ofPath? (path : String) : Option LogFile :=
  let p := Path.ofText path
  p.fileName?.map fun (folder, name) => ⟨p.absolute, folder, name⟩

def noFileName (path : String) : String := "Log file path " ++ path ++ " does not name a file"

/-- The folders that are entered on the way from a folder, and the folder at the end, if the way stays below the one
where it begins. -/
def walk (here : List String) : List Step → List (List String) × Option (List String)
  | [] => ([], some here)
  | .name text :: steps =>
    let next := here ++ [text]
    let (entered, last) := walk next steps
    (next :: entered, last)
  | .up :: steps => if here = [] then ([], none) else walk here.dropLast steps

/-- The names on the way to a folder or file as one path. -/
def pathText (names : List String) : String := String.intercalate "/" names

/-- What an empty folder holds after the log file was opened from it, in ascending order; folders end in a slash. -/
def traces (f : LogFile) : List String :=
  if f.absolute then []
  else
    let (entered, last) := walk [] f.folder
    let folders := entered.map fun names => pathText names ++ "/"
    let file := last.map fun names => pathText (names ++ [f.name])
    (folders ++ file.toList).eraseDups.mergeSort fun a b => decide (a ≤ b)

end LogFile

end AckDesk.Log
