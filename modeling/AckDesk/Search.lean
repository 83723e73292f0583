import AckDesk.Text.Lowercase
import AckDesk.View.Node

/-!
# The search box

The box in which a new acknowledgment starts. It suggests the test names that contain what was typed, ignoring case
and keeping their order, but takes any name. The menu opens while text is typed and closes when a suggestion is
picked.
-/

namespace AckDesk

open View

/-- The characters of `part` stand somewhere in the list one after the other. -/
def Text.occursIn (part : List Char) : List Char → Bool
  | [] => part.isEmpty
  | c :: cs => part.isPrefixOf (c :: cs) || occursIn part cs

/-- The search box over the known test names. -/
structure Search where
  testNames : List String
  query : String := ""
  menuOpen : Bool := false

namespace Search

/-- Types a query. -/
def setQuery (s : Search) (query : String) : Search := { s with query, menuOpen := query != "" }

def pick (s : Search) (testName : String) : Search := { s with query := testName, menuOpen := false }

/-- The name contains the query, ignoring case. -/
def suggests (query name : String) : Bool :=
  Text.occursIn (Text.lowercase query).toList (Text.lowercase name).toList

/-- The suggestions for what was typed; there are none for an empty query. -/
def suggestions (s : Search) : List String :=
  if s.query = "" then [] else s.testNames.filter (suggests s.query)

def suggestionView (name : String) : Node :=
  .leaf { kind := .text, text := name, affordance := some (.pickSuggestion name) }

def menuView (s : Search) : Node :=
  .mk {
    kind := .suggestions, className := "card autocomplete-dropdown", hidden := !s.menuOpen || s.suggestions.isEmpty }
    (s.suggestions.map suggestionView)

/-- The search box with its menu and the button that adds an acknowledgment. -/
def view (s : Search) : Node :=
  .mk { kind := .container, className := "search-row" } [
    .mk { kind := .container, className := "input-field" } [
      .leaf { kind := .textField, text := s.query, affordance := some .searchField },
      .leaf { kind := .label, text := "Search for tests to add an acknowledgment" },
      s.menuView],
    .mk { kind := .button, className := "btn-floating", affordance := some .addFromSearch }
      [.leaf { kind := .icon .add }]]

end Search

end AckDesk
