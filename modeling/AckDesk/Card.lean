import AckDesk.Access
import AckDesk.Summary
import AckDesk.View.Node

/-!
# Cards

A card shows the record of an entry: the name of the test and a summary of each dimension. Clicking its body opens
the editor; a user who may edit also gets a control that deletes it.
-/

namespace AckDesk

open View

namespace Record

def summary (r : Record) (d : Dimension) : Summary := .ofValues (r.scope.get d)

end Record

namespace Card

/-- The class of a card's body, which is wider where no delete control stands beside it. -/
def bodyClass : Access → String
  | .writable => "ack-details"
  | .readOnly => "ack-details full-width"

/-- The control that deletes an entry, disabled while a delete is under way. -/
def deleteControl (entry : EntryId) (pending : Bool) : Node :=
  .mk {
    kind := .button, className := "btn-flat delete-button", disabled := pending
    affordance := some (.deleteEntry entry) }
    [.leaf { kind := .icon .clear }]

/-- The name of the test with an icon. -/
def titleView (testName : String) : Node :=
  .mk { kind := .container, className := "ack-title" } [
    .leaf { kind := .text, className := "bold", text := testName },
    .leaf { kind := .icon .infoOutline, className := "info" }]

/-- The count of the values that a summary leaves out. -/
def countView (count : String) : Node := .leaf { kind := .countIndicator, className := "count", text := count }

/-- The summary of a dimension on a line of its own. -/
def summaryView (d : Dimension) (s : Summary) : Node :=
  .mk { kind := .paragraph, className := "scope-summary" } (
    .leaf { kind := .label, text := d.label ++ " " } ::
    .leaf { kind := .text, text := s.lead } ::
    (s.count?.map countView).toList)

/-- The part of a card that opens the editor. -/
def bodyView (a : Access) (entry : EntryId) (r : Record) : Node :=
  .mk { kind := .card, className := bodyClass a, affordance := some (.openEntry entry) } (
    titleView r.testName :: Dimension.all.map fun d => summaryView d (r.summary d))

def view (a : Access) (entry : EntryId) (r : Record) (visible pendingDelete : Bool) : Node :=
  .mk { kind := .container, className := "ack-entry", hidden := !visible, disabled := pendingDelete } (
    bodyView a entry r :: (a.whenWritable (deleteControl entry pendingDelete)).toList)

end Card

end AckDesk
