import AckDesk.Desk.Call
import AckDesk.Desk.Refusal
import AckDesk.View.Affordance

/-!
# What the prompt says

The lines that the prompt prints, the outline of the desk apart.
-/

namespace AckDesk.Prompt

/-- What stands in front of the next line. -/
def sign : String := "acks> "

/-- The list of commands. -/
def helpText : String :=
  "Commands:\n" ++
  "  search <text>            type into the test name search box\n" ++
  "  pick <test name>         pick a suggestion\n" ++
  "  add                      add an acknowledgment for the search text\n" ++
  "  open <#id>               open a card in the editor\n" ++
  "  rm <#id>                 delete a card\n" ++
  "  chip <dim> <value>       add a value, <dim> is branches, devices, or cases\n" ++
  "  unchip <dim> <value>     remove a value\n" ++
  "  note <text>              replace the note\n" ++
  "  save | close             modal buttons\n" ++
  "  dismiss                  clear failure notices\n" ++
  "  controls                 list every control with its index\n" ++
  "  tap <index> [text]       activate a control from the list\n" ++
  "  show | help | quit"

def noSuchControl (index count : Nat) : String :=
  "No control at index " ++ toString index ++ ", there are " ++ toString count

def refused (r : Refusal) : String := "✋ " ++ r.message

/-- The line of a control in the listing, its index flush right in three columns. -/
def controlLine (index : Nat) (a : Affordance) : String :=
  let digits := toString index
  .ofList (List.replicate (3 - digits.length) ' ') ++ digits ++ "  " ++ a.tag

def backendLine (baseUrl : Option String) : String := "Backend: " ++ baseUrl.getD "in memory"

/-- Says how many calls are waited for at the end. -/
def waiting (count : Nat) : String := "Waiting for " ++ toString count ++ " call(s) to settle..."

/-- Says how a settlement changed the list. -/
def changeLine : Change → String
  | .inserted entry key => "✅ Saved new acknowledgment " ++ key.text ++ " as " ++ entry.text
  | .replaced old new key => "✅ Saved " ++ key.text ++ ", " ++ old.text ++ " is now " ++ new.text
  | .removed entry key => "🗑 Deleted " ++ key.text ++ " (" ++ entry.text ++ ")"
  | .reverted entry reason => "❌ " ++ entry.text ++ " reverted: " ++ reason
  | .discarded entry reason => "❌ Draft " ++ entry.text ++ " discarded: " ++ reason
  | .ignored entry => entry.text ++ " was gone before its call settled"

end AckDesk.Prompt
