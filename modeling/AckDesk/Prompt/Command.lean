import AckDesk.Event
import AckDesk.Text.Decimal

/-!
# Prompt commands

A line at the prompt is a verb and its argument. Blanks around them do not count, nor does the case of ASCII
letters in the verb and in the name of a dimension. Verbs and dimensions have short forms. A command hands events
to the desk, activates a control of the listing, or asks the prompt itself for something.
-/

namespace AckDesk

/-- The names by which a line may call a dimension, in lower case. -/
def Dimension.names : Dimension → List String
  | .branches => ["b", "branch", "branches"]
  | .devices => ["d", "device", "devices"]
  | .testCases => ["t", "case", "cases", "testcases"]

namespace Prompt

/-- The text with its ASCII letters in lower case. -/
def foldCase (cs : List Char) : String := .ofList (cs.map Char.toLower)

/-- The dimension called by a name, in any case of its ASCII letters. -/
def dimension? (name : List Char) : Option Dimension := Dimension.all.find? (·.names.contains (foldCase name))

/-! ## Verbs -/

/-- What a line can ask for. -/
inductive Verb where
  | search
  | pick
  | add
  | openCard
  | delete
  | chip
  | unchip
  | note
  | save
  | close
  | dismiss
  | tap
  | controls
  | showView
  | help
  | quit
deriving DecidableEq

namespace Verb

def all : List Verb :=
  [search, pick, add, openCard, delete, chip, unchip, note, save, close, dismiss, tap, controls, showView, help, quit]

/-- The words for a verb, in lower case. -/
def words : Verb → List String
  | search => ["search", "s"]
  | pick => ["pick", "p"]
  | add => ["add", "a"]
  | openCard => ["open", "o"]
  | delete => ["delete", "rm"]
  | chip => ["chip", "c"]
  | unchip => ["unchip", "uc"]
  | note => ["note", "n"]
  | save => ["save"]
  | close => ["close", "x"]
  | dismiss => ["dismiss"]
  | tap => ["tap", "t"]
  | controls => ["controls", "ls"]
  | showView => ["show"]
  | help => ["help", "?"]
  | quit => ["quit", "exit", "q"]

/-- The verb of a word, in any case of its ASCII letters. -/
def ofWord? (word : List Char) : Option Verb := all.find? (·.words.contains (foldCase word))

end Verb

/-! ## Commands -/

/-- What a line asks for. -/
inductive Command where
  /-- Events for the desk in their order; a refused one stops the rest. -/
  | dispatch (events : List Event)
  /-- Activates the control at an index of the listing, with text for its field. -/
  | tap (index : Nat) (text : String)
  | listControls
  | showView
  | help
  | quit
deriving DecidableEq

/-- Why a line is no command. -/
inductive CommandError where
  | unknownVerb (word : String)
  | missingArgument (word : String)
  | invalidEntryId (argument : String)
  | invalidIndex (argument : String)
  | unknownDimension (argument : String)
deriving DecidableEq

def CommandError.message : CommandError → String
  | unknownVerb word => "Unknown command `" ++ word ++ "`, type `help` for the list"
  | missingArgument word => "`" ++ word ++ "` needs more arguments, type `help` for usage"
  | invalidEntryId argument => "`" ++ argument ++ "` is not an entry id, try `#3`"
  | invalidIndex argument => "`" ++ argument ++ "` is not a control index, see `controls`"
  | unknownDimension argument => "`" ++ argument ++ "` is not one of: branches, devices, cases"

namespace Command

/-- The first word of trimmed characters, and what follows it without blanks around. -/
def firstWord (cs : List Char) : List Char × List Char :=
  match Text.splitAtBlank cs with
  | some (word, rest) => (word, Text.trimChars rest)
  | none => (cs, [])

/-- An entry's number, with any number signs in front. -/
def entryId (argument : List Char) : Except CommandError EntryId :=
  match Text.readBelow Text.wordBound (argument.dropWhile (· == '#')) with
  | .ok n => .ok ⟨n⟩
  | .error _ => .error (.invalidEntryId (.ofList argument))

/-- A dimension and a value, which may be empty only after a blank. -/
def dimensionAndValue (word argument : List Char) : Except CommandError (Dimension × String) :=
  match Text.splitAtBlank argument with
  | none => .error (.missingArgument (.ofList word))
  | some (name, value) =>
    match dimension? name with
    | none => .error (.unknownDimension (.ofList name))
    | some d => .ok (d, .ofList (Text.trimChars value))

/-- Typing a value into the text box of a dimension and pressing Enter. -/
def typeChip (d : Dimension) (value : String) : List Event :=
  [.focused, .textChanged value, .enterPressed, .blurred].map (.chipBox d)

/-- The control at an index, with text for its field. -/
def tapControl (argument : List Char) : Except CommandError Command :=
  let (index, text) := firstWord argument
  match Text.readBelow Text.wordBound index with
  | .ok n => .ok (.tap n (.ofList text))
  | .error _ => .error (.invalidIndex (.ofList index))

/-- The command of a verb, written as `word`, with its argument. -/
def ofVerb (verb : Verb) (word argument : List Char) : Except CommandError Command :=
  let text := String.ofList argument
  match verb with
  | .search => .ok (.dispatch [.searchTextChanged text])
  | .pick =>
    if argument = [] then .error (.missingArgument (.ofList word)) else .ok (.dispatch [.suggestionPicked text])
  | .add => .ok (.dispatch [.addFromSearchClicked])
  | .openCard => (entryId argument).map fun i => .dispatch [.cardClicked i]
  | .delete => (entryId argument).map fun i => .dispatch [.deleteClicked i]
  | .chip => (dimensionAndValue word argument).map fun (d, value) => .dispatch (typeChip d value)
  | .unchip => (dimensionAndValue word argument).map fun (d, value) => .dispatch [.chipRemoveClicked d value]
  | .note => .ok (.dispatch [.noteChanged text])
  | .save => .ok (.dispatch [.saveClicked])
  | .close => .ok (.dispatch [.closeClicked])
  | .dismiss => .ok (.dispatch [.noticesDismissed])
  | .tap => tapControl argument
  | .controls => .ok .listControls
  | .showView => .ok .showView
  | .help => .ok .help
  | .quit => .ok .quit

/-- The command of a line; a blank line has none. -/
def ofLine? (line : String) : Except CommandError (Option Command) :=
  let cs := Text.trimChars line.toList
  if cs = [] then .ok none
  else
    let (word, argument) := firstWord cs
    match Verb.ofWord? word with
    | none => .error (.unknownVerb (.ofList word))
    | some verb => (ofVerb verb word argument).map some

end Command

end Prompt

end AckDesk
