import AckDesk.Desk.Basic

/-!
# Settlements at a desk

A saved entry is replaced by a visible one with a new number, and an editor that is open on it is turned to the new
one. A failed save takes a stored entry back to what it showed and discards a draft. A deleted entry goes, with an
editor that is open on it; a failed delete takes it back. A settled save closes the editor that sent it, and no
other.
-/

namespace AckDesk

open Backend (Failure)

namespace Desk

/-- Puts up a notice, if the desk gives notice of failures. -/
def report (k : Desk) (kind : NoticeKind) (testName : String) (f : Failure) : Desk :=
  match k.options.feedback with
  | .silent => k
  | .notice => { k with notices := k.notices.push ⟨kind, testName, f.message⟩ }

/-- Takes an entry back to rest. -/
def release (k : Desk) (i : EntryId) : Desk := k.modifyEntry i fun e => { e with state := .clean }

/-- Puts the saved record, under its key and a new number, in the place of an entry. -/
def replaceSaved (k : Desk) (i : EntryId) (r : Record) (key : Key) : Desk :=
  let k' := k.modifyEntry i fun _ => ⟨k.nextId, r.withKey key, .clean, true⟩
  { k' with
    modal := k.modal.modifyEditor fun ed => if ed.entry = i then ed.retarget k.nextId key else ed
    lastId := k.lastId + 1 }

/-- The desk after a save settled for an entry, apart from closing the editor. -/
def settleSave (k : Desk) (i : EntryId) (r : Record) (result : Except Failure Key) : Desk × Change :=
  match k.entry? i, result with
  | none, _ => (k, .ignored i)
  | some e, .ok key =>
    (k.replaceSaved i r key, if e.record.isDraft then .inserted k.nextId key else .replaced i k.nextId key)
  | some e, .error f =>
    let k := k.report .saveFailed r.testName f
    if e.record.isDraft then (k.removeEntry i, .discarded i f.message) else (k.release i, .reverted i f.message)

/-- The desk after a delete settled for an entry. -/
def settleDelete (k : Desk) (i : EntryId) (key : Key) (result : Except Failure Unit) : Desk × Change :=
  match k.entry? i, result with
  | none, _ => (k, .ignored i)
  | some _, .ok _ =>
    let k := k.removeEntry i
    ({ k with modal := k.modal.closeIfOn i }, .removed i key)
  | some e, .error f => ((k.report .deleteFailed e.record.testName f).release i, .reverted i f.message)

/-- The desk after a call settled, and how the list changed. -/
def settle (k : Desk) : Settlement → Desk × Change
  | .save i s r result =>
    let (k, change) := k.settleSave i r result
    ({ k with modal := k.modal.closeIfShowing s }, change)
  | .delete i key result => k.settleDelete i key result

/-- The desk after several settlements in their order, and how each changed the list. -/
def settleAll (k : Desk) : List Settlement → Desk × List Change
  | [] => (k, [])
  | s :: ss =>
    let (k, change) := k.settle s
    let (k, changes) := settleAll k ss
    (k, change :: changes)

end Desk

end AckDesk
