import AckDesk.Log.File

/-!
# Log set-up

What is logged and where: on the display, in a file, on both or nowhere. Setting the log up makes one layer that
filters by level and one for each place.
-/

namespace AckDesk.Log

/-- A writer as it is asked for. -/
inductive Writer where
  | stdout
  | file
  | none
deriving DecidableEq

def Writer.ofText? (text : String) : Option Writer :=
  if text = "stdout" then some .stdout
  else if text = "file" then some .file
  else if text = "none" ∨ text = "" then some .none
  else Option.none

def Writer.invalid (text : String) : String := text ++ " is not a valid tracing writer"

/-- Where the lines for the display go. -/
inductive Display where
  | stdout
  | stderr
deriving DecidableEq

/-- How much is logged. -/
inductive Level where
  | error
  | warn
  | info
  | debug
  | trace
deriving DecidableEq

def Level.name : Level → String
  | error => "error"
  | warn => "warn"
  | info => "info"
  | debug => "debug"
  | trace => "trace"

/-- The places that lines go to. -/
inductive Places where
  | display
  | file
  | displayAndFile
deriving DecidableEq

namespace Places

/-- The places that a list of writers stands for, if there are any. -/
def ofWriters? (ws : List Writer) : Option Places :=
  match ws.contains .file, ws.contains .stdout with
  | true, true => some .displayAndFile
  | true, false => some .file
  | false, true => some .display
  | false, false => none

/-- Lines go to the display. -/
def onDisplay : Places → Bool
  | display | displayAndFile => true
  | file => false

/-- Lines go to the file. -/
def inFile : Places → Bool
  | file | displayAndFile => true
  | display => false

end Places

/-- What is logged and where. -/
structure Config where
  writers : List Writer
  level : Level
  path : String
  display : Display
deriving DecidableEq

namespace Config

/-- Logs to a file only, at the level for debugging. -/
def toFile (path : String) : Config := ⟨[.file], .debug, path, .stderr⟩

/-- Logs to the display and to a file, at the level for debugging. -/
def toDisplayAndFile (display : Display) (path : String) : Config := ⟨[.file, .stdout], .debug, path, display⟩

/-- The layers of a log, and the file that it opened. -/
structure Layers where
  count : Nat
  file : Option LogFile
deriving DecidableEq

/-- Sets the log up, if it has places at all; the error says why that failed. -/
def layers (c : Config) : Except String (Option Layers) :=
  match Places.ofWriters? c.writers with
  | none => .ok none
  | some places =>
    let filterAndDisplay := if places.onDisplay then 2 else 1
    if places.inFile then
      match LogFile.ofPath? c.path with
      | none => .error (LogFile.noFileName c.path)
      | some file => .ok (some ⟨filterAndDisplay + 1, some file⟩)
    else .ok (some ⟨filterAndDisplay, none⟩)

end Config

end AckDesk.Log
