import AckDesk.Entry

/-!
# Refused events

Why a desk does not apply an event. A refused event changes nothing.
-/

namespace AckDesk

/-- Why an event is refused. -/
inductive Refusal where
  | readOnly (attempted : String)
  | unknownEntry (entry : EntryId)
  | entryBusy (entry : EntryId) (state : EntryState)
  | noOpenEditor
  | emptyTestName
deriving DecidableEq

namespace Refusal

def message : Refusal → String
  | readOnly attempted => "Acknowledgments are read-only, can't " ++ attempted
  | unknownEntry entry => "No acknowledgment entry with id " ++ entry.text
  | entryBusy entry state => "Acknowledgment entry " ++ entry.text ++ " is busy (" ++ state.name ++ ")"
  | noOpenEditor => "The detail editor is not open"
  | emptyTestName => "Can't add an acknowledgment without a test name"

/-- The code under which the refusal is documented. -/
def code : Refusal → String
  | readOnly _ => "test_ack_editor::read_only"
  | unknownEntry _ => "test_ack_editor::unknown_entry"
  | entryBusy .. => "test_ack_editor::entry_busy"
  | noOpenEditor => "test_ack_editor::no_open_editor"
  | emptyTestName => "test_ack_editor::empty_test_name"

/-- What the user can do about it, where there is something. -/
def help? : Refusal → Option String
  | readOnly _ => some "Contact a dashboard administrator to add, edit, or remove acknowledgments."
  | emptyTestName => some "Type or pick a test name in the search field first."
  | _ => none

end Refusal

end AckDesk
