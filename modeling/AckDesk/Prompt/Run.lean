import AckDesk.Desk.View
import AckDesk.Mount
import AckDesk.Prompt.Command
import AckDesk.Prompt.Line
import AckDesk.Prompt.Messages
import AckDesk.View.Outline

/-!
# Running the prompt

The prompt shows the desk, reads lines, applies them, and tells how the list changed whenever a call settles. Lines
that are no command and events that are refused are reported and never end it. At the end it waits for the calls in
flight.
-/

namespace AckDesk.Prompt

open Text (Utf8Error)

def outputLine (text : String) : String := text ++ "\n"

def showDesk (k : Desk) : String := outputLine k.view.outline

variable {σ : Type}

/-- Applies events in their order up to the first one that is refused, which is reported. -/
def dispatchAll (m : Mount σ) : List Event → Mount σ × String
  | [] => (m, "")
  | e :: es =>
    match m.dispatch e with
    | .ok m => dispatchAll m es
    | .error r => (m, outputLine (refused r))

/-- The listing of controls, counted from `index`. -/
def listControls (index : Nat) : List Affordance → String
  | [] => ""
  | a :: as => outputLine (controlLine index a) ++ listControls (index + 1) as

/-- Carries out a command: the mount after it, what is printed, and whether the prompt ends. -/
def runCommand (m : Mount σ) : Command → Mount σ × String × Bool
  | .quit => (m, "", true)
  | .help => (m, outputLine helpText, false)
  | .showView => (m, showDesk m.desk, false)
  | .listControls => (m, listControls 0 m.desk.view.affordances, false)
  | .tap index text =>
    let controls := m.desk.view.affordances
    match controls[index]? with
    | some a =>
      let (m, out) := dispatchAll m [a.toEvent text]
      (m, out ++ showDesk m.desk, false)
    | none => (m, outputLine (noSuchControl index controls.length) ++ showDesk m.desk, false)
  | .dispatch events =>
    let (m, out) := dispatchAll m events
    (m, out ++ showDesk m.desk, false)

/-- Carries out a line: the mount after it, what is printed, and whether the prompt ends. -/
def runLine (m : Mount σ) (line : String) : Mount σ × String × Bool :=
  match Command.ofLine? line with
  | .ok (some c) => runCommand m c
  | .ok none => (m, "", false)
  | .error e => (m, outputLine e.message, false)

/-! ## Conversations -/

/-- How the reading of some lines ended. -/
inductive Reading where
  | open
  | quit
  | failed (error : Utf8Error)

/-- Carries out lines back to back, with the sign after each. -/
def runLines (m : Mount σ) : List (Except Utf8Error String) → Mount σ × String × Reading
  | [] => (m, "", .open)
  | .error e :: _ => (m, "", .failed e)
  | .ok line :: lines =>
    match runLine m line with
    | (m, out, true) => (m, out, .quit)
    | (m, out, false) =>
      let (m, rest, reading) := runLines m lines
      (m, out ++ sign ++ rest, reading)

/-- Applies settlements in their order, and shows the desk after each. -/
def showSettled (k : Desk) : List Settlement → String
  | [] => ""
  | s :: ss =>
    let (k, change) := k.settle s
    outputLine (changeLine change) ++ showDesk k ++ sign ++ showSettled k ss

variable [Backend σ]

/-- Carries out all calls in flight. -/
def carryOutAll (m : Mount σ) : Mount σ := m.arriveAll.completeAll

/-- What is printed while the last calls in flight settle. -/
def farewell (m : Mount σ) : String :=
  if m.inFlight = 0 then ""
  else
    outputLine (waiting m.inFlight) ++
      String.join ((carryOutAll m).applyAll.2.map fun change => outputLine (changeLine change))

/-- Carries out lines back to back; if more may follow, all calls settle after them. -/
def runBlock (m : Mount σ) (lines : List (Except Utf8Error String)) : Mount σ × String × Reading :=
  match runLines m lines with
  | (m, out, .open) =>
    let m := carryOutAll m
    (m.applyAll.1, out ++ showSettled m.desk m.settled, .open)
  | r => r

/-- Carries out blocks of lines, as far as they are read, and ends the conversation. -/
def runBlocks (m : Mount σ) : List (List (Except Utf8Error String)) → String × Except Utf8Error Unit
  | [] => (farewell m, .ok ())
  | lines :: blocks =>
    match runBlock m lines with
    | (m, out, .quit) => (out ++ farewell m, .ok ())
    | (_, out, .failed e) => (out, .error e)
    | (m, out, .open) =>
      let (rest, result) := runBlocks m blocks
      (out ++ rest, result)

/-- What is printed before the first line is read. -/
def greeting (m : Mount σ) : String := showDesk m.desk ++ sign

/-- A whole conversation, from the first view of the desk on. -/
def run (m : Mount σ) (blocks : List (List (Except Utf8Error String))) : String × Except Utf8Error Unit :=
  let (out, result) := runBlocks m blocks
  (greeting m ++ out, result)

end AckDesk.Prompt
