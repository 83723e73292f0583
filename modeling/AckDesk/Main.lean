import AckDesk.Launch
import AckDesk.Log.File

/-!
# The program

Talks to the terminal and the file system: reads the inputs file and the lines of the conversation, and prints what
the library answers. Messages about errors go to standard error.
-/

namespace AckDesk.Main

/-- The fault behind an error of the file system. -/
def faultOf : IO.Error → Files.Fault
  | .noFileOrDirectory .. => .notFound
  | .inappropriateType _ 20 _ => .notFolder
  | .inappropriateType _ 21 _ => .isFolder
  | e => .system (toString e)

def readFile (path : String) : IO (Except Files.Fault (List UInt8)) := do
  try
    return .ok (← IO.FS.readBinFile path).toList
  catch e =>
    return .error (faultOf e)

/-- Prints a text that may not end in a line end. -/
def say (text : String) : IO Unit := do
  IO.print text
  (← IO.getStdout).flush

/-- Carries out line after line until the input ends or the user leaves. -/
partial def converse {σ : Type} [Backend σ] (m : Mount σ) : IO UInt32 := do
  let line ← (← IO.getStdin).getLine
  if line.isEmpty then
    say (Prompt.farewell m)
    return 0
  match Prompt.runBlock m [.ok (.ofList (Prompt.dropLineEnd line.toList))] with
  | (m, out, .open) =>
    say out
    converse m
  | (m, out, _) =>
    say (out ++ Prompt.farewell m)
    return 0

/-- Begins a conversation. -/
def greet {σ : Type} [Backend σ] (m : Mount σ) : IO UInt32 := do
  say (Prompt.greeting m)
  converse m

def fail (chain : List String) : IO UInt32 := do
  chain.forM fun text => IO.eprintln text
  return 1

/-- Begins the log in the working directory. -/
def beginLog : IO Unit := do
  let _ ← IO.FS.Handle.mk "acks.log" .append

/-- Launches what a command line asks for. -/
def run (a : Arguments) : IO UInt32 := do
  if a.enableLogging then beginLog
  let read : Except Files.Fault (List UInt8) ← match a.inputsFile with
    | some path => readFile path
    | none => pure (.error .notFound)
  match Page.load a fun _ => read with
  | .error e => fail e.chain
  | .ok p =>
    say (Prompt.outputLine (Prompt.backendLine a.baseUrl))
    match Launched.ofPage a p with
    | .inMemory m => greet m
    | .atSite m => greet m
    | .refused e => fail [e.message]

end AckDesk.Main

/-- Runs the program with the words of its command line. -/
def main (words : List String) : IO UInt32 := do
  match AckDesk.Arguments.ofWords words with
  | .ok a => AckDesk.Main.run a
  | .error h =>
    match h with
    | .misuse m => IO.eprintln m.message
    | _ => AckDesk.Main.say h.outcome.output
    return UInt32.ofNat h.outcome.exitCode
