import AckDesk.Chip.View
import AckDesk.Record

/-!
# The detail editor

The editor of one entry: three chip sets and a note, taken from the entry's record when it is opened. What it sends
is the record that these add up to, under the key and the test name it was opened with.
-/

namespace AckDesk

open View

/-- The number of one opening of the modal region. -/
structure Session where
  number : Nat
deriving DecidableEq

/-- An editor opened on an entry. -/
structure Editor where
  entry : EntryId
  session : Session
  key : Option Key
  testName : String
  chips : Scoped ChipSet
  note : String
  saving : Bool

namespace Editor

/-- The editor that opens on an entry's record. -/
def ofRecord (entry : EntryId) (session : Session) (r : Record) : Editor :=
  ⟨entry, session, r.key, r.testName, r.scope.map ChipSet.ofStored, r.noteText, false⟩

/-- The record to send: ascending values in every dimension, and always a note. -/
def request (e : Editor) : Record := ⟨e.key, e.testName, e.chips.map ChipSet.sorted, some e.note⟩

/-- The editor turned to the entry that replaces its own, saved under a key. -/
def retarget (e : Editor) (entry : EntryId) (key : Key) : Editor := { e with entry, key := some key }

/-- The editor with the chip set of a dimension changed. -/
def modifyChips (e : Editor) (d : Dimension) (f : ChipSet → ChipSet) : Editor :=
  { e with chips := e.chips.modify d f }

/-! ## View -/

/-- The field of the note, which only a user who may edit can change. -/
def noteField (a : Access) (note : String) : Node :=
  .leaf {
    kind := .textArea, className := "note", text := note, placeholder := some "Type a note...",
    disabled := !a.canEdit, affordance := a.whenWritable .noteField }

def closeButton : Node :=
  .leaf { kind := .button, className := "modal-close", text := "Close", affordance := some .close }

/-- The button that saves, disabled while a save is under way. -/
def saveButton (saving : Bool) : Node :=
  .leaf { kind := .button, className := "modal-save", text := "Save", disabled := saving, affordance := some .save }

/-- The buttons below the editor. -/
def footer (a : Access) (saving : Bool) : Node :=
  .mk { kind := .container, className := "modal-footer" } (closeButton :: (a.whenWritable (saveButton saving)).toList)

def chipViews (e : Editor) (a : Access) : List Node := Dimension.all.map fun d => (e.chips.get d).view a d

/-- The editor with its footer. -/
def view (e : Editor) (a : Access) : Node :=
  .mk { kind := .container, className := "detail-editor" } [
    .mk { kind := .container, className := "modal-content" } (
      .leaf { kind := .heading, className := "modal-title", text := "Test Acknowledgment" } ::
      .leaf { kind := .paragraph, className := "modal-test-name", text := "Test: " ++ e.testName } ::
      e.chipViews a ++
      [.leaf { kind := .heading, className := "note-header", text := "Note:" }, noteField a e.note]),
    footer a e.saving]

end Editor

end AckDesk
