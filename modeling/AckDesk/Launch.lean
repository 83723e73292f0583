import AckDesk.Arguments.Help
import AckDesk.Backend.Site
import AckDesk.Backend.Store
import AckDesk.Page.Loading
import AckDesk.Prompt.Run

/-!
# Launching

A command line starts a conversation about one page, over a site if it names one and else over a store in memory
that holds the records of the page.
-/

namespace AckDesk

open Backend (Site Store)

/-- Why a launch failed. -/
inductive LaunchError where
  | load (e : LoadError)
  | site (e : Site.Unusable)
  | input (e : Text.Utf8Error)
deriving DecidableEq

/-- What is said about it, and below it what is said about the cause. -/
def LaunchError.chain : LaunchError → List String
  | load e => e.chain
  | site e => [e.message]
  | input e => [e.message]

def LaunchError.message (e : LaunchError) : String := e.chain.headD ""

/-- The desk of a launch over its backend, or what keeps the backend from being used. -/
inductive Launched where
  | inMemory (m : Mount Store)
  | atSite (m : Mount Site)
  | refused (e : Site.Unusable)

/-- Mounts a page over the backend that a command line asks for. -/
def Launched.ofPage (a : Arguments) (p : Page) : Launched :=
  let desk := p.desk a.options
  match a.baseUrl with
  | none => inMemory { desk, backend := .ofRecords p.records }
  | some url =>
    match Site.check { baseUrl := url } with
    | .ok s => atSite { desk, backend := s }
    | .error e => refused e

/-- The output of a launch and how it ends, with blocks of input lines between which all calls settle. -/
def launch (a : Arguments) (read : String → Except Files.Fault (List UInt8))
    (blocks : List (List (Except Text.Utf8Error String))) : String × Except LaunchError Unit :=
  match Page.load a read with
  | .error e => ("", .error (.load e))
  | .ok p =>
    let first := Prompt.outputLine (Prompt.backendLine a.baseUrl)
    let finish (r : String × Except Text.Utf8Error Unit) := (first ++ r.1, r.2.mapError LaunchError.input)
    match Launched.ofPage a p with
    | .inMemory m => finish (Prompt.run m blocks)
    | .atSite m => finish (Prompt.run m blocks)
    | .refused e => (first, .error (.site e))

/-- What a whole run of the program leaves: its exit code, its output, and whether it began a log. -/
structure Outcome where
  exitCode : Nat
  output : String
  logged : Bool
deriving DecidableEq

/-- The outcome of a command line that starts nothing. -/
def Halt.outcome : Halt → Outcome
  | help => ⟨0, helpPage, false⟩
  | version => ⟨0, versionLine, false⟩
  | misuse _ => ⟨2, "", false⟩

/-- The outcome of a command line with some input. -/
def Outcome.ofWords (words : List String) (read : String → Except Files.Fault (List UInt8)) (input : List UInt8) :
    Outcome :=
  match Arguments.ofWords words with
  | .error h => h.outcome
  | .ok a =>
    let (output, result) := launch a read [Prompt.lineTexts input]
    ⟨match result with | .ok () => 0 | .error _ => 1, output, a.enableLogging⟩

end AckDesk
