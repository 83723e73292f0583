import AckDesk.Card
import AckDesk.Desk.Basic

/-!
# The view of a desk

The search box, if the user may edit, a header, the cards of all entries, the notices, and the modal region.
-/

namespace AckDesk

open View

namespace Desk

/-- What the header says to a user with this access. -/
def headerSummary : Access → String
  | .writable =>
    "Known test failures are acknowledged below for specific branch and device configurations, " ++
    "and corresponding test breakage alerts will be silenced. " ++
    "Click an entry to edit or see more information about the test failure."
  | .readOnly =>
    "Known test failures are acknowledged below for specific branch and device configurations, " ++
    "and corresponding test breakage alerts will be silenced. " ++
    "Click an entry to see more information about the test failure. " ++
    "To add, edit, or remove a test acknowledgment, contact a dashboard administrator."

/-- The title and what it is about. -/
def headerView (a : Access) : Node :=
  .mk { kind := .container, className := "section-header-col" } [
    .leaf { kind := .heading, className := "section-header", text := "Test Acknowledgments" },
    .leaf { kind := .paragraph, className := "acknowledgment-info", text := headerSummary a }]

def entryView (a : Access) (e : Entry) : Node := Card.view a e.id e.record e.visible (e.state == .pendingDelete)

/-- The cards of all entries, hidden ones included. -/
def cardsView (k : Desk) : Node :=
  .mk { kind := .container, className := "acks" } (k.entries.map (entryView k.access))

def view (k : Desk) : Node :=
  .mk { kind := .container, className := "test-acknowledgments" } (
    (k.access.whenWritable k.search.view).toList ++ [headerView k.access, k.cardsView] ++ k.notices.view.toList ++
      [k.modal.view k.access])

end Desk

end AckDesk
