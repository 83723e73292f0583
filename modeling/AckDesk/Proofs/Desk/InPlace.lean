import AckDesk.Proofs.Desk.Entries

/-!
# Events in place

An event handled in place changes the desk step by step and may be refused at any of them, and what was changed before
the refusal stays changed (`Work`). `Work.attempt` handles events in this way. Opening an entry looks it up twice, and
takes the draft that is being edited off the list in between.

A refusal comes before the first change, or does not come at all: the entry that was there at the first look is there
at the second (`Desk.entry?_discardOpenDraft`). So the work that is refused leaves the desk as it found it, and the work
that is not leaves the desk that `Desk.handle` gives (`Work.on_attempt`).
-/

namespace AckDesk

/-- Work on a desk, step by step. What was changed stays changed when a later step is refused. -/
abbrev Work (α : Type) := ExceptT Refusal (StateM Desk) α

namespace Work

variable {α β : Type}

/-- What the work comes to, and the desk that it leaves. -/
def on (w : Work α) (k : Desk) : Except Refusal α × Desk := w.run.run k

/-! ## The handler -/

def find (i : EntryId) : Work Entry := do
  match Desk.entry? (← get) i with
  | none => throw (.unknownEntry i)
  | some e => pure e

/-- Looks an entry up for which no call may be under way. -/
def findIdle (i : EntryId) : Work Entry := do
  let e ← find i
  if e.state = .clean then pure e else throw (.entryBusy i e.state)

def openEditor : Work Editor := do
  match (← get).modal.editor with
  | none => throw .noOpenEditor
  | some ed => pure ed

/-- Opens the editor on an entry, which is looked up again after the draft was discarded. -/
def openEntry (i : EntryId) : Work Unit := do
  let e ← find i
  if e.state = .pendingDelete then pure ()
  else
    if (← get).modal.isOn i then pure () else modify Desk.discardOpenDraft
    let e ← find i
    modify fun k => { k with modal := k.modal.openOn i e.record }

def closeEditor : Work Unit := do
  modify Desk.discardOpenDraft
  modify fun k => { k with modal := k.modal.close }

/-- Puts a hidden draft on top of the list. -/
def addDraft : Work Unit := do
  let testName := Text.trim (← get).search.query
  if testName = "" then throw .emptyTestName
  else
    modify Desk.discardOpenDraft
    let i := (← get).nextId
    modify fun k => { k with lastId := k.lastId + 1 }
    modify fun k => { k with modal := k.modal.openOn i (.draft testName) }
    modify fun k => { k with entries := ⟨i, .draft testName, .clean, false⟩ :: k.entries }

def edit (f : Editor → Editor) : Work Unit := do
  let _ ← openEditor
  modify fun k => { k with modal := k.modal.modifyEditor f }

/-- Sends what the open editor holds. -/
def startSave : Work (Option Call) := do
  let ed ← openEditor
  let _ ← findIdle ed.entry
  modify fun k => k.modifyEntry ed.entry fun e => { e with state := .saving }
  modify fun k => { k with modal := k.modal.modifyEditor fun ed => { ed with saving := true } }
  pure (some (.save ed.entry ed.session ed.request))

/-- Deletes an entry. -/
def startDelete (i : EntryId) : Work (Option Call) := do
  let e ← findIdle i
  match e.record.key with
  | none =>
    modify fun k => k.removeEntry i
    modify fun k => { k with modal := k.modal.closeIfOn i }
    pure none
  | some key =>
    modify fun k => k.modifyEntry i fun e => { e with state := .pendingDelete }
    pure (some (.delete i key))

/-- Work that asks for no call. -/
def quietly (w : Work Unit) : Work (Option Call) := do
  w
  pure none

/-- Work that only a user who may edit can do. -/
def ifWritable (e : Event) (w : Work (Option Call)) : Work (Option Call) := do
  if (← get).access.canEdit then w else throw (.readOnly e.describe)

/-- Handles an event. -/
def attempt (e : Event) : Work (Option Call) :=
  match e with
  | .cardClicked i => quietly (openEntry i)
  | .closeClicked => quietly closeEditor
  | .noticesDismissed => quietly (modify fun k => { k with notices := k.notices.clear })
  | .searchTextChanged text => ifWritable e (quietly (modify fun k => { k with search := k.search.setQuery text }))
  | .suggestionPicked testName => ifWritable e (quietly (modify fun k => { k with search := k.search.pick testName }))
  | .addFromSearchClicked => ifWritable e (quietly addDraft)
  | .deleteClicked i => ifWritable e (startDelete i)
  | .chipBox d b => ifWritable e (quietly (edit (·.modifyChips d fun s => (s.feed b).1)))
  | .chipRemoveClicked d v => ifWritable e (quietly (edit (·.modifyChips d fun s => (s.remove? v).getD s)))
  | .noteChanged text => ifWritable e (quietly (edit fun ed => { ed with note := text }))
  | .saveClicked => ifWritable e startSave

/-! ## Steps -/

variable {k : Desk}

@[simp] theorem on_pure (a : α) (k : Desk) : (pure a : Work α).on k = (.ok a, k) := rfl

@[simp] theorem on_throw (r : Refusal) (k : Desk) : (throw r : Work α).on k = (.error r, k) := rfl

@[simp] theorem on_modify (f : Desk → Desk) (k : Desk) : (modify f : Work Unit).on k = (.ok (), f k) := rfl

@[simp] theorem on_get_bind (w : Desk → Work α) (k : Desk) : (get >>= w : Work α).on k = (w k).on k := rfl

@[simp] theorem on_modify_bind (f : Desk → Desk) (w : Unit → Work α) (k : Desk) :
    (modify f >>= w : Work α).on k = (w ()).on (f k) := rfl

/-- Work that follows on a step that is not refused. -/
theorem on_bind_ok {w : Work α} {k' : Desk} {a : α} (h : w.on k = (.ok a, k')) (g : α → Work β) :
    (w >>= g).on k = (g a).on k' := by
  show (ExceptT.bindCont g (w.on k).1).run (w.on k).2 = _
  rw [h]
  rfl

/-- A step that is refused ends the work. -/
theorem on_bind_error {w : Work α} {k' : Desk} {r : Refusal} (h : w.on k = (.error r, k')) (g : α → Work β) :
    (w >>= g).on k = (.error r, k') := by
  show (ExceptT.bindCont g (w.on k).1).run (w.on k).2 = _
  rw [h]
  rfl

/-! ## What the work comes to -/

/-- What a handler says, and the desk after it: the new one, or the old one where the handler refuses. -/
def after (k : Desk) : Except Refusal (Desk × α) → Except Refusal α × Desk
  | .ok (k', a) => (.ok a, k')
  | .error r => (.error r, k)

theorem on_find_some {i : EntryId} {e : Entry} (he : k.entry? i = some e) : (find i).on k = (.ok e, k) := by
  simp [find, he]

theorem on_find_none {i : EntryId} (he : k.entry? i = none) : (find i).on k = (.error (.unknownEntry i), k) := by
  simp [find, he]

/-- Looking for an entry at rest leaves the desk as it is. -/
theorem on_findIdle (k : Desk) (i : EntryId) : (findIdle i).on k = (k.idleEntry i, k) := by
  unfold findIdle Desk.idleEntry
  cases he : k.entry? i with
  | none => exact on_bind_error (on_find_none he) _
  | some e =>
    rw [on_bind_ok (on_find_some he)]
    by_cases hs : e.state = .clean <;> simp [hs]

theorem on_openEditor_some {ed : Editor} (h : k.modal.editor = some ed) : openEditor.on k = (.ok ed, k) := by
  simp [openEditor, h]

theorem on_openEditor_none (h : k.modal.editor = none) : openEditor.on k = (.error .noOpenEditor, k) := by
  simp [openEditor, h]

/-- Opening an entry: the second look finds what the first one found. -/
theorem on_openEntry (k : Desk) (i : EntryId) : (openEntry i).on k = after k ((k.openEntry i).map (·, ())) := by
  unfold openEntry Desk.openEntry
  cases he : k.entry? i with
  | none => exact on_bind_error (on_find_none he) _
  | some e =>
    rw [on_bind_ok (on_find_some he)]
    by_cases hs : e.state = .pendingDelete
    · simp only [hs, if_true]
      rfl
    · simp only [hs, if_false, on_get_bind]
      cases ho : k.modal.isOn i with
      | true => exact on_bind_ok (on_find_some he) _
      | false =>
        have hsecond : k.discardOpenDraft.entry? i = some e := (Desk.entry?_discardOpenDraft ho).trans he
        exact on_bind_ok (on_find_some hsecond) _

theorem on_addDraft (k : Desk) : addDraft.on k = after k (k.addDraft.map (·, ())) := by
  unfold addDraft Desk.addDraft
  by_cases ht : Text.trim k.search.query = ""
  · simp [ht, after, Except.map]
  · simp [ht, after, Except.map]

theorem on_edit (k : Desk) (f : Editor → Editor) : (edit f).on k = after k ((k.edit f).map (·, ())) := by
  unfold Desk.edit Modal.isOpen
  cases hed : k.modal.editor with
  | none => exact on_bind_error (on_openEditor_none hed) _
  | some ed => exact on_bind_ok (on_openEditor_some hed) _

theorem on_startSave (k : Desk) : startSave.on k = after k k.startSave := by
  unfold startSave Desk.startSave
  cases hed : k.modal.editor with
  | none => exact on_bind_error (on_openEditor_none hed) _
  | some ed =>
    rw [on_bind_ok (on_openEditor_some hed)]
    dsimp only
    have hidle := on_findIdle k ed.entry
    cases hx : k.idleEntry ed.entry with
    | error r => exact on_bind_error (hx ▸ hidle) _
    | ok e => exact on_bind_ok (hx ▸ hidle) _

theorem on_startDelete (k : Desk) (i : EntryId) : (startDelete i).on k = after k (k.startDelete i) := by
  unfold startDelete Desk.startDelete
  have hidle := on_findIdle k i
  cases hx : k.idleEntry i with
  | error r => exact on_bind_error (hx ▸ hidle) _
  | ok e =>
    rw [on_bind_ok (hx ▸ hidle)]
    unfold Except.map
    cases hk : e.record.key with
    | none =>
      simp only [hk]
      rfl
    | some key =>
      simp only [hk]
      rfl

/-- Work that asks for no call does what the handler says. -/
theorem on_quietly {w : Work Unit} {x : Except Refusal Desk} (h : w.on k = after k (x.map (·, ()))) :
    (quietly w).on k = after k (Desk.quietly x) := by
  cases x with
  | error r => exact on_bind_error h _
  | ok k' => exact on_bind_ok h _

/-- An event that needs a writable desk is refused before any work. -/
theorem on_ifWritable {e : Event} {w : Work (Option Call)} (he : e.isMutation = true)
    (h : w.on k = after k (k.apply e)) : (ifWritable e w).on k = after k (k.handle e) := by
  unfold Desk.handle
  cases ha : k.access.canEdit with
  | true => simpa [ifWritable, ha] using h
  | false => simp [ifWritable, ha, he, after]

/-- **Events in place**: the work on an event leaves the desk that the handler gives, or the desk as it was where the
event is refused, wherever in the work that is. -/
theorem on_attempt (k : Desk) (e : Event) : (attempt e).on k = after k (k.handle e) := by
  cases e with
  | cardClicked i => exact on_quietly (on_openEntry k i)
  | closeClicked => exact on_quietly (x := .ok k.closeEditor) rfl
  | noticesDismissed => exact on_quietly (x := .ok { k with notices := k.notices.clear }) rfl
  | searchTextChanged text =>
    exact on_ifWritable rfl (on_quietly (x := .ok { k with search := k.search.setQuery text }) rfl)
  | suggestionPicked testName =>
    exact on_ifWritable rfl (on_quietly (x := .ok { k with search := k.search.pick testName }) rfl)
  | addFromSearchClicked => exact on_ifWritable rfl (on_quietly (on_addDraft k))
  | deleteClicked i => exact on_ifWritable rfl (on_startDelete k i)
  | chipBox d b => exact on_ifWritable rfl (on_quietly (on_edit k _))
  | chipRemoveClicked d v => exact on_ifWritable rfl (on_quietly (on_edit k _))
  | noteChanged text => exact on_ifWritable rfl (on_quietly (on_edit k _))
  | saveClicked => exact on_ifWritable rfl (on_startSave k)

/-- Work that is refused leaves the desk as it found it. -/
theorem on_attempt_eq_error {k' : Desk} {e : Event} {r : Refusal} :
    (attempt e).on k = (.error r, k') ↔ k.handle e = .error r ∧ k' = k := by
  rw [on_attempt]
  cases k.handle e <;> simp [after, eq_comm]

end Work

end AckDesk
