import AckDesk.Arguments.Basic
import AckDesk.Files.Folder
import AckDesk.Page.Basic
import AckDesk.Text.Utf8

/-!
# Loading pages

The page that a command line asks for: the one in its inputs file, or an empty one. A flag decides whether the page
is read-only, whatever the file says.
-/

namespace AckDesk

/-- Why a page was not loaded. -/
inductive LoadError where
  | unreadable (path : String) (fault : Files.Fault)
  | invalid (path : String) (error : Json.Error)
deriving DecidableEq

/-- What is said about it, and below it what is said about the cause. -/
def LoadError.chain : LoadError → List String
  | unreadable path fault => ["Could not read inputs file: " ++ path, fault.message]
  | invalid path error => ["Invalid inputs file: " ++ path, error.message]

namespace Page

/-- The page in the bytes of a file. -/
def ofBytes (path : String) (bytes : List UInt8) : Except LoadError Page :=
  match Text.decodeUtf8 bytes with
  | .error _ => .error (.unreadable path .notText)
  | .ok text =>
    match ofJson text with
    | .error e => .error (.invalid path e)
    | .ok p => .ok p

/-- The page with the access that flags ask for. -/
def withFlags (p : Page) (a : Arguments) : Page :=
  if a.readOnly then { p with readOnly := true }
  else if a.writable then { p with readOnly := false }
  else p

/-- The page that a command line asks for, where `read` gives the bytes of files. -/
def load (a : Arguments) (read : String → Except Files.Fault (List UInt8)) : Except LoadError Page :=
  match a.inputsFile with
  | none => .ok (withFlags {} a)
  | some path =>
    match read path with
    | .error fault => .error (.unreadable path fault)
    | .ok bytes => (ofBytes path bytes).map (·.withFlags a)

/-- The desk over a page. -/
def desk (p : Page) (o : Options) : Desk := .ofRecords p.testNames p.records (.ofReadOnly p.readOnly) o

end Page

end AckDesk
