import AckDesk.Arguments.Misuse
import AckDesk.Desk.Basic

/-!
# Command lines

A command line names at most one inputs file and any flags, each at most once. Flags with letters can share a
hyphen; a value stands in the same word, after an equals sign or right after the letter, or in the next word. Two
hyphens end the flags. A value in a word of its own is looked at only when a further flag is recognised or the
command line ends.
-/

namespace AckDesk

/-- What a command line asks for. -/
structure Arguments where
  inputsFile : Option String := none
  baseUrl : Option String := none
  readOnly : Bool := false
  writable : Bool := false
  notifyFailures : Bool := false
  noticeCapacity : Nat := 5
  enableLogging : Bool := false
deriving DecidableEq

/-- Why a command line starts nothing. -/
inductive Halt where
  | help
  | version
  | misuse (m : Misuse)
deriving DecidableEq

namespace Arguments

/-- How the desk reports failures. -/
def options (a : Arguments) : Options := ⟨if a.notifyFailures then .notice else .silent, a.noticeCapacity⟩

/-- A command line of which some words are read: the flags taken so far, in their order, and a flag with a value to
come or a value to look at. -/
structure Partial where
  found : Arguments := {}
  taken : List Flag := []
  pending : Option (Flag × Option String) := none

namespace Partial

/-- Notes a flag, which may not have been taken before. -/
def note (p : Partial) (f : Flag) : Except Halt Partial :=
  if f ∈ p.taken then .error (.misuse (.repeated f)) else .ok { p with taken := p.taken ++ [f] }

/-- Takes a flag with its value. -/
def store (p : Partial) (f : Flag) (value : String) : Except Halt Partial := do
  let p ← p.note f
  match f with
  | .baseUrl => .ok { p with found := { p.found with baseUrl := some value } }
  | .noticeCapacity =>
    match Text.readBelow Text.wordBound value.toList with
    | .ok n => .ok { p with found := { p.found with noticeCapacity := n } }
    | .error fault => .error (.misuse (.invalidValue value f fault))
  | _ => .ok p

/-- Takes the flag whose value was looked for. -/
def settle (p : Partial) : Except Halt Partial :=
  match p.pending with
  | none => .ok p
  | some (f, none) => .error (.misuse (.missingValue f))
  | some (f, some value) => { p with pending := none }.store f value

/-- Takes a flag without a value. -/
def turnOn (p : Partial) (f : Flag) : Except Halt Partial := do
  let p ← p.settle
  match f with
  | .help => .error .help
  | .version => .error .version
  | _ =>
    let p ← p.note f
    let a := p.found
    match f with
    | .readOnly => .ok { p with found := { a with readOnly := true } }
    | .writable => .ok { p with found := { a with writable := true } }
    | .notifyFailures => .ok { p with found := { a with notifyFailures := true } }
    | .enableLogging => .ok { p with found := { a with enableLogging := true } }
    | _ => .ok p

/-- Takes a flag with a value in the same word. -/
def assign (p : Partial) (f : Flag) (value : String) : Except Halt Partial := do
  let p ← p.settle
  p.store f value

/-- Takes a flag whose value is the next word. -/
def await (p : Partial) (f : Flag) : Except Halt Partial := do
  let p ← p.settle
  .ok { p with pending := some (f, none) }

/-- Takes the inputs file. -/
def takeFile (p : Partial) (word : String) : Except Halt Partial :=
  if p.found.inputsFile.isSome then .error (.misuse (.unknown word))
  else do
    let p ← p.settle
    .ok { p with found := { p.found with inputsFile := some word } }

/-- Takes a word without hyphens in front: a value that is looked for, or the inputs file. -/
def takeWord (p : Partial) (word : String) : Except Halt Partial :=
  match p.pending with
  | some (f, none) => .ok { p with pending := some (f, some word) }
  | _ => p.takeFile word

/-- Takes the letters after a hyphen. -/
def takeLetters (p : Partial) : List Char → Except Halt Partial
  | [] => .ok p
  | c :: cs =>
    match Flag.ofLetter? c with
    | none => .error (.misuse (.unknown (.ofList ['-', c])))
    | some f =>
      if !f.takesValue then do
        let p ← p.turnOn f
        p.takeLetters cs
      else
        match cs with
        | [] => p.await f
        | '=' :: value => p.assign f (.ofList value)
        | _ => p.assign f (.ofList cs)

/-- Takes what follows two hyphens. -/
def takeLong (p : Partial) (cs : List Char) : Except Halt Partial :=
  let name := cs.takeWhile (· != '=')
  let value? := match cs.dropWhile (· != '=') with
    | [] => none
    | _ :: value => some (String.ofList value)
  match Flag.ofLongName? name, value? with
  | none, _ => .error (.misuse (.unknown (.ofList ('-' :: '-' :: name))))
  | some f, some value => if f.takesValue then p.assign f value else .error (.misuse (.unneededValue value f))
  | some f, none => if f.takesValue then p.await f else p.turnOn f

/-- What the words that were taken ask for, when no more follow. -/
def finish (p : Partial) : Except Halt Arguments := do
  let p ← p.settle
  let clash? (f : Flag) := (p.taken.find? f.excludes).map fun other => Misuse.excluded f other
  match p.taken.findSome? clash? with
  | some m => .error (.misuse m)
  | none => .ok p.found

/-- Takes words, among them flags unless two hyphens came before. -/
def takeAll (p : Partial) (flagsEnded : Bool) : List String → Except Halt Arguments
  | [] => p.finish
  | word :: words =>
    if flagsEnded then do
      let p ← p.takeFile word
      p.takeAll true words
    else
      match word.toList with
      | ['-', '-'] => p.takeAll true words
      | '-' :: '-' :: cs => do
        let p ← p.takeLong cs
        p.takeAll false words
      | '-' :: c :: cs => do
        let p ← p.takeLetters (c :: cs)
        p.takeAll false words
      | _ => do
        let p ← p.takeWord word
        p.takeAll false words

end Partial

/-- What the words of a command line ask for. -/
def ofWords (words : List String) : Except Halt Arguments := Partial.takeAll {} false words

end Arguments

end AckDesk
