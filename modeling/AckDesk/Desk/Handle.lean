import AckDesk.Desk.Basic

/-!
# Events at a desk

A user's event changes the desk, may ask for one call to the backend, or is refused. All events but opening a card,
closing the editor and dismissing notices need a writable desk. An entry with a call under way is busy: it takes no
second call.
-/

namespace AckDesk

/-- The event changes acknowledgments, or prepares such a change. -/
def Event.isMutation : Event → Bool
  | .cardClicked _ | .closeClicked | .noticesDismissed => false
  | _ => true

namespace Desk

/-- The entry with a number, if it is there and no call for it is under way. -/
def idleEntry (k : Desk) (i : EntryId) : Except Refusal Entry :=
  match k.entry? i with
  | none => .error (.unknownEntry i)
  | some e => if e.state = .clean then .ok e else .error (.entryBusy i e.state)

/-- Takes the hidden draft that is being edited off the list, unless its save is under way. -/
def discardOpenDraft (k : Desk) : Desk :=
  match k.modal.editor with
  | none => k
  | some ed =>
    { k with entries := k.entries.filter fun e => !(e.id == ed.entry && e.isHiddenDraft && e.state == .clean) }

/-- Opens the editor on an entry; a card that is being deleted stays closed. -/
def openEntry (k : Desk) (i : EntryId) : Except Refusal Desk :=
  match k.entry? i with
  | none => .error (.unknownEntry i)
  | some e =>
    if e.state = .pendingDelete then .ok k
    else
      let k := if k.modal.isOn i then k else k.discardOpenDraft
      .ok { k with modal := k.modal.openOn i e.record }

/-- Closes the editor and discards its unsaved draft. -/
def closeEditor (k : Desk) : Desk :=
  let k := k.discardOpenDraft
  { k with modal := k.modal.close }

/-- Puts a hidden draft for the searched test on top of the list and opens the editor on it. -/
def addDraft (k : Desk) : Except Refusal Desk :=
  let testName := Text.trim k.search.query
  if testName = "" then .error .emptyTestName
  else
    let k := k.discardOpenDraft
    let r := Record.draft testName
    .ok { k with
      entries := ⟨k.nextId, r, .clean, false⟩ :: k.entries
      modal := k.modal.openOn k.nextId r
      lastId := k.lastId + 1 }

def edit (k : Desk) (f : Editor → Editor) : Except Refusal Desk :=
  if k.modal.isOpen then .ok { k with modal := k.modal.modifyEditor f } else .error .noOpenEditor

/-- Sends what the open editor holds. -/
def startSave (k : Desk) : Except Refusal (Desk × Option Call) :=
  match k.modal.editor with
  | none => .error .noOpenEditor
  | some ed =>
    (k.idleEntry ed.entry).map fun _ =>
      let k := k.modifyEntry ed.entry fun e => { e with state := .saving }
      ({ k with modal := k.modal.modifyEditor fun ed => { ed with saving := true } },
        some (.save ed.entry ed.session ed.request))

/-- Deletes an entry: one without a key at once, since the backend does not know it. -/
def startDelete (k : Desk) (i : EntryId) : Except Refusal (Desk × Option Call) :=
  (k.idleEntry i).map fun e =>
    match e.record.key with
    | none =>
      let k := k.removeEntry i
      ({ k with modal := k.modal.closeIfOn i }, none)
    | some key => (k.modifyEntry i fun e => { e with state := .pendingDelete }, some (.delete i key))

/-- A change that asks for no call. -/
def quietly (r : Except Refusal Desk) : Except Refusal (Desk × Option Call) := r.map (·, none)

/-- Applies an event that the desk's access allows. -/
def apply (k : Desk) : Event → Except Refusal (Desk × Option Call)
  | .searchTextChanged text => quietly (.ok { k with search := k.search.setQuery text })
  | .suggestionPicked testName => quietly (.ok { k with search := k.search.pick testName })
  | .addFromSearchClicked => quietly k.addDraft
  | .cardClicked i => quietly (k.openEntry i)
  | .deleteClicked i => k.startDelete i
  | .chipBox d e => quietly (k.edit (·.modifyChips d fun s => (s.feed e).1))
  | .chipRemoveClicked d v => quietly (k.edit (·.modifyChips d fun s => (s.remove? v).getD s))
  | .noteChanged text => quietly (k.edit fun ed => { ed with note := text })
  | .saveClicked => k.startSave
  | .closeClicked => quietly (.ok k.closeEditor)
  | .noticesDismissed => quietly (.ok { k with notices := k.notices.clear })

/-- The desk after an event and the call that the event asks for, or why the event is refused. -/
def handle (k : Desk) (e : Event) : Except Refusal (Desk × Option Call) :=
  if e.isMutation && !k.access.canEdit then .error (.readOnly e.describe) else k.apply e

end Desk

end AckDesk
