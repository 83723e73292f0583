import AckDesk.Event
import AckDesk.Text.Quoted

/-!
# Affordances

An affordance is something that a node of the view lets the user do. Activating it is an event
(`Affordance.toEvent`); those that change acknowledgments, or lead to a call that does, are mutations and never
stand in a read-only view.
-/

namespace AckDesk

/-- Something that a node of the view lets the user do. -/
inductive Affordance where
  | searchField
  | pickSuggestion (testName : String)
  | addFromSearch
  | openEntry (entry : EntryId)
  | deleteEntry (entry : EntryId)
  | chipField (dimension : Dimension)
  | addChip (dimension : Dimension)
  | removeChip (dimension : Dimension) (value : String)
  | noteField
  | save
  | close
  | dismissNotices
deriving DecidableEq

namespace Affordance

/-- The affordance changes acknowledgments, or leads to a call that does. -/
def isMutation : Affordance → Bool
  | openEntry _ | close | dismissNotices => false
  | _ => true

/-- The event of activating the affordance while its field, if it has one, holds `text`. -/
def toEvent (text : String) : Affordance → Event
  | searchField => .searchTextChanged text
  | pickSuggestion testName => .suggestionPicked testName
  | addFromSearch => .addFromSearchClicked
  | openEntry entry => .cardClicked entry
  | deleteEntry entry => .deleteClicked entry
  | chipField dimension => .chipBox dimension (.textChanged text)
  | addChip dimension => .chipBox dimension .addClicked
  | removeChip dimension value => .chipRemoveClicked dimension value
  | noteField => .noteChanged text
  | save => .saveClicked
  | close => .closeClicked
  | dismissNotices => .noticesDismissed

def dimensionTag : Dimension → String
  | .branches => "Branches"
  | .devices => "Devices"
  | .testCases => "TestCases"

def entryTag (i : EntryId) : String := "EntryId(" ++ toString i.number ++ ")"

/-- The tag by which outlines and listings show the affordance. -/
def tag : Affordance → String
  | searchField => "SearchField"
  | pickSuggestion testName => "PickSuggestion(" ++ Text.quoted testName ++ ")"
  | addFromSearch => "AddFromSearch"
  | openEntry entry => "OpenEntry(" ++ entryTag entry ++ ")"
  | deleteEntry entry => "DeleteEntry(" ++ entryTag entry ++ ")"
  | chipField dimension => "ChipField(" ++ dimensionTag dimension ++ ")"
  | addChip dimension => "AddChip(" ++ dimensionTag dimension ++ ")"
  | removeChip dimension value => "RemoveChip(" ++ dimensionTag dimension ++ ", " ++ Text.quoted value ++ ")"
  | noteField => "NoteField"
  | save => "Save"
  | close => "Close"
  | dismissNotices => "DismissNotices"

end Affordance

end AckDesk
