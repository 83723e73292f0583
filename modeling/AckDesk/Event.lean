import AckDesk.Chip.Box
import AckDesk.Entry

/-!
# Events

Everything a user can do. Looking at an acknowledgment, closing the editor and dismissing notices are open to
everybody; all other events change acknowledgments, or prepare such a change.
-/

namespace AckDesk

/-- What a user does. -/
inductive Event where
  | searchTextChanged (text : String)
  | suggestionPicked (testName : String)
  | addFromSearchClicked
  | cardClicked (entry : EntryId)
  | deleteClicked (entry : EntryId)
  | chipBox (dimension : Dimension) (event : BoxEvent)
  | chipRemoveClicked (dimension : Dimension) (value : String)
  | noteChanged (text : String)
  | saveClicked
  | closeClicked
  | noticesDismissed
deriving DecidableEq

/-- What the event attempts, in words. -/
def Event.describe : Event → String
  | .searchTextChanged _ | .suggestionPicked _ => "search for tests"
  | .addFromSearchClicked => "add an acknowledgment"
  | .cardClicked _ => "open an acknowledgment"
  | .deleteClicked _ => "delete an acknowledgment"
  | .chipBox .. => "edit a scope"
  | .chipRemoveClicked .. => "remove a scope value"
  | .noteChanged _ => "edit the note"
  | .saveClicked => "save an acknowledgment"
  | .closeClicked => "close the editor"
  | .noticesDismissed => "dismiss notices"

end AckDesk
