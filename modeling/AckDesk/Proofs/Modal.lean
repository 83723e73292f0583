import AckDesk.Modal

/-!
# What the modal region shows after an operation

The editor that is shown and the number of the last opening, for each operation of the modal region.
-/

namespace AckDesk

/-- The second editor is the first with other chips, note or saving mark. -/
structure Editor.Continues (ed d : Editor) : Prop where
  entry : d.entry = ed.entry
  session : d.session = ed.session
  key : d.key = ed.key
  testName : d.testName = ed.testName

theorem Editor.continues_refl (ed : Editor) : ed.Continues ed := ⟨rfl, rfl, rfl, rfl⟩

namespace Modal

variable {m : Modal} {ed : Editor} {i : EntryId} {s : Session}

/-- The modal is on an entry when its editor edits that entry. -/
theorem isOn_iff : m.isOn i = true ↔ ∃ ed, m.editor = some ed ∧ ed.entry = i := by
  cases h : m.editor <;> simp [isOn, h]

/-- The modal shows a session when its editor belongs to it. -/
theorem isShowing_iff : m.isShowing s = true ↔ ∃ ed, m.editor = some ed ∧ ed.session = s := by
  cases h : m.editor <;> simp [isShowing, h]

/-- Opening replaces whatever editor was open, under the next session. -/
@[simp] theorem editor_openOn (m : Modal) (i : EntryId) (r : Record) :
    (m.openOn i r).editor = some (.ofRecord i m.nextSession r) := rfl

@[simp] theorem editor_close (m : Modal) : m.close.editor = none := rfl

@[simp] theorem editor_modifyEditor (m : Modal) (f : Editor → Editor) :
    (m.modifyEditor f).editor = m.editor.map f := rfl

/-- Closing for a session drops the editor of that session only. -/
theorem editor_closeIfShowing_eq (m : Modal) (s : Session) :
    (m.closeIfShowing s).editor = m.editor.bind fun ed => if ed.session = s then none else some ed := by
  cases h : m.editor with
  | none => simp [closeIfShowing, isShowing, h]
  | some ed => by_cases hs : ed.session = s <;> simp [closeIfShowing, isShowing, h, hs]

/-- Closing for an entry drops the editor of that entry only. -/
theorem editor_closeIfOn_eq (m : Modal) (i : EntryId) :
    (m.closeIfOn i).editor = m.editor.bind fun ed => if ed.entry = i then none else some ed := by
  cases h : m.editor with
  | none => simp [closeIfOn, isOn, h]
  | some ed => by_cases hi : ed.entry = i <;> simp [closeIfOn, isOn, h, hi]

/-- The editor stays unless the condition for closing holds of it. -/
theorem bind_unless_eq_some {o : Option Editor} {p : Editor → Prop} [DecidablePred p] :
    (o.bind fun d => if p d then none else some d) = some ed ↔ o = some ed ∧ ¬p ed := by
  rw [Option.bind_eq_some_iff]
  constructor
  · rintro ⟨d, hd, h⟩
    split at h
    · cases h
    · cases h
      exact ⟨hd, ‹_›⟩
  · rintro ⟨hed, hp⟩
    exact ⟨ed, hed, if_neg hp⟩

/-- An editor is open after closing for a session if it was open and belongs to another one. -/
theorem editor_closeIfShowing : (m.closeIfShowing s).editor = some ed ↔ m.editor = some ed ∧ ed.session ≠ s := by
  rw [editor_closeIfShowing_eq]
  exact bind_unless_eq_some

/-- An editor is open after closing for an entry if it was open and edits another one. -/
theorem editor_closeIfOn : (m.closeIfOn i).editor = some ed ↔ m.editor = some ed ∧ ed.entry ≠ i := by
  rw [editor_closeIfOn_eq]
  exact bind_unless_eq_some

/-- Opening is the one operation that uses a session number up. -/
@[simp] theorem lastSession_openOn (m : Modal) (i : EntryId) (r : Record) :
    (m.openOn i r).lastSession = m.lastSession + 1 := rfl

@[simp] theorem lastSession_close (m : Modal) : m.close.lastSession = m.lastSession := rfl

@[simp] theorem lastSession_modifyEditor (m : Modal) (f : Editor → Editor) :
    (m.modifyEditor f).lastSession = m.lastSession := rfl

/-- Closing gives no session number back. -/
@[simp] theorem lastSession_closeIfShowing (m : Modal) (s : Session) :
    (m.closeIfShowing s).lastSession = m.lastSession := by
  unfold closeIfShowing
  split <;> rfl

@[simp] theorem lastSession_closeIfOn (m : Modal) (i : EntryId) : (m.closeIfOn i).lastSession = m.lastSession := by
  unfold closeIfOn
  split <;> rfl

/-! ## What is kept -/

/-- The second region shows no editor but the first's, and no opening lies between them. -/
structure Keeps (m m' : Modal) : Prop where
  lastSession : m'.lastSession = m.lastSession
  editor : ∀ d, m'.editor = some d → ∃ ed, m.editor = some ed ∧ ed.Continues d

theorem keeps_refl (m : Modal) : m.Keeps m := ⟨rfl, fun d h => ⟨d, h, d.continues_refl⟩⟩

theorem keeps_close (m : Modal) : m.Keeps m.close := ⟨rfl, fun _ h => by cases h⟩

/-- Closing for a session either leaves the editor or leaves none. -/
theorem keeps_closeIfShowing (m : Modal) (s : Session) : m.Keeps (m.closeIfShowing s) :=
  ⟨lastSession_closeIfShowing m s, fun d h => ⟨d, (editor_closeIfShowing.1 h).1, d.continues_refl⟩⟩

/-- Closing for an entry either leaves the editor or leaves none. -/
theorem keeps_closeIfOn (m : Modal) (i : EntryId) : m.Keeps (m.closeIfOn i) :=
  ⟨lastSession_closeIfOn m i, fun d h => ⟨d, (editor_closeIfOn.1 h).1, d.continues_refl⟩⟩

/-- A change that continues every editor keeps the one that is open. -/
theorem keeps_modifyEditor (m : Modal) {f : Editor → Editor} (hf : ∀ ed : Editor, ed.Continues (f ed)) :
    m.Keeps (m.modifyEditor f) := by
  refine ⟨rfl, fun d h => ?_⟩
  rw [editor_modifyEditor] at h
  obtain ⟨ed, hed, rfl⟩ := Option.map_eq_some_iff.1 h
  exact ⟨ed, hed, hf ed⟩

/-- A change that continues every editor leaves the entry that is edited. -/
theorem isOn_modifyEditor {f : Editor → Editor} (hf : ∀ ed : Editor, ed.Continues (f ed)) :
    (m.modifyEditor f).isOn i = m.isOn i := by
  unfold isOn
  cases h : m.editor <;> simp [h, (hf _).entry]

end Modal

end AckDesk
