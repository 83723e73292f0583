import AckDesk.Proofs.Chip.Replay
import AckDesk.Proofs.Desk.Outcomes
import AckDesk.Proofs.Editor
import AckDesk.Proofs.Modal

/-!
# What an editor sends after a run of edits

An edit of an open editor edits the chips of one dimension or types the note; these are the changes that events make in
an editor (`Event.revision_eq`). The parts of an editor are edited apart: after a run of edits each chip set is what the
edits of its dimension make of it (`chips_run`), and the note is what was typed last (`note_run`).

First occurrences in ascending order are the canonical values (`ChipSet.sorted_ofStored`). So an editor that nobody
touched sends the canonical form of its record, with the note as a text, and after a run of edits it sends a record in
canonical form, with the canonical values of the record in every dimension that was left alone (`amends_run`).
-/

namespace AckDesk

/-- What a user does in an open editor: edits the chips of a dimension, or types the note. -/
inductive EditorEdit where
  | chips (d : Dimension) (e : ChipEdit)
  | note (text : String)
deriving DecidableEq

namespace EditorEdit

/-- The edit of the chips of a dimension, if it is one. -/
def chips? (d : Dimension) : EditorEdit → Option ChipEdit
  | .chips d' e => if d' = d then some e else none
  | .note _ => none

/-- The note that is typed, if one is. -/
def note? : EditorEdit → Option String
  | .chips .. => none
  | .note text => some text

end EditorEdit

/-- The stored values in canonical form are what an untouched chip set sends. -/
theorem ChipSet.sorted_ofStored (vs : List String) : (ofStored vs).sorted = canonicalValues vs :=
  eq_of_pairwise_lt (pairwise_sorted _) (pairwise_canonicalValues vs) fun _ =>
    mem_sorted.trans (mem_ofStored.trans mem_canonicalValues.symm)

namespace Editor

def edit (ed : Editor) : EditorEdit → Editor
  | .chips d e => ed.modifyChips d fun s => (s.edit e).1
  | .note text => { ed with note := text }

def run (ed : Editor) (es : List EditorEdit) : Editor := es.foldl edit ed

end Editor

/-- The edit that an event makes in the open editor, if it makes one. -/
def Event.editorEdit? : Event → Option EditorEdit
  | .chipBox d e => some (.chips d (.input e))
  | .chipRemoveClicked d v => some (.chips d (.remove v))
  | .noteChanged text => some (.note text)
  | _ => none

theorem ChipSet.edit_remove_fst (s : ChipSet) (v : String) : (s.edit (.remove v)).1 = (s.remove? v).getD s := by
  rw [edit]
  cases s.remove? v <;> rfl

/-- What an event changes in the open editor is an edit. -/
theorem Event.revision_eq (e : Event) : e.revision = e.editorEdit?.map fun x ed => ed.edit x := by
  cases e with
  | chipRemoveClicked d v =>
    simp only [revision, editorEdit?, Option.map_some, Editor.edit, ChipSet.edit_remove_fst]
  | _ => rfl

namespace Editor

variable {d : Dimension}

/-! ## One edit -/

theorem continues_edit (ed : Editor) (x : EditorEdit) : ed.Continues (ed.edit x) := by
  cases x <;> exact ⟨rfl, rfl, rfl, rfl⟩

/-- An edit of one dimension's chips leaves those of the others alone. -/
theorem chips_edit (ed : Editor) (x : EditorEdit) (d : Dimension) :
    (ed.edit x).chips.get d = (ed.chips.get d).run (x.chips? d).toList := by
  cases x with
  | note text => rfl
  | chips d' e =>
    by_cases h : d' = d
    · subst h
      simp only [edit, modifyChips, Scoped.get_modify_self, EditorEdit.chips?, if_true]
      rfl
    · simp only [edit, modifyChips, Scoped.get_modify_of_ne _ _ (Ne.symm h), EditorEdit.chips?, if_neg h]
      rfl

theorem note_edit (ed : Editor) (x : EditorEdit) : (ed.edit x).note = x.note?.getD ed.note := by
  cases x <;> rfl

/-! ## A run -/

theorem run_concat (ed : Editor) (es : List EditorEdit) (x : EditorEdit) : ed.run (es ++ [x]) = (ed.run es).edit x := by
  rw [run, List.foldl_append]
  rfl

theorem continues_run (ed : Editor) (es : List EditorEdit) : ed.Continues (ed.run es) := by
  induction es using List.reverseRecOn with
  | nil => exact ed.continues_refl
  | append_singleton es x ih =>
    rw [run_concat]
    have h := (ed.run es).continues_edit x
    exact ⟨h.entry.trans ih.entry, h.session.trans ih.session, h.key.trans ih.key, h.testName.trans ih.testName⟩

/-- Each chip set is what the edits of its dimension make of it. -/
theorem chips_run (ed : Editor) (es : List EditorEdit) (d : Dimension) :
    (ed.run es).chips.get d = (ed.chips.get d).run (es.filterMap (·.chips? d)) := by
  induction es using List.reverseRecOn with
  | nil => rfl
  | append_singleton es x ih =>
    rw [run_concat, chips_edit, ih, List.filterMap_append, ChipSet.run, ChipSet.run, ChipSet.run, List.foldl_append]
    cases h : x.chips? d <;> simp [h]

/-- The note is what was typed last. -/
theorem note_run (ed : Editor) (es : List EditorEdit) :
    (ed.run es).note = (es.filterMap EditorEdit.note?).getLastD ed.note := by
  induction es using List.reverseRecOn with
  | nil => rfl
  | append_singleton es x ih =>
    rw [run_concat, note_edit, ih, List.filterMap_append]
    cases h : x.note? <;> simp [h]

/-! ## What is sent -/

theorem get_scope_request (ed : Editor) (d : Dimension) : ed.request.scope.get d = (ed.chips.get d).sorted := by
  simp [request]

/-- An editor that nobody touched sends the canonical form of its record, with the note as a text. -/
theorem request_ofRecord (i : EntryId) (t : Session) (r : Record) :
    (ofRecord i t r).request = { r.canonical with note := some r.noteText } := by
  have hscope : (r.scope.map ChipSet.ofStored).map ChipSet.sorted = r.canonical.scope :=
    Scoped.ext_get fun d => by simp [ChipSet.sorted_ofStored]
  exact congrArg (fun s => (⟨r.key, r.testName, s, some r.noteText⟩ : Record)) hscope

/-- The editor holds and sends what the edits made of a record: the parts that were edited as they were left, and the
others as the record had them. -/
structure Amends (ed : Editor) (r : Record) (es : List EditorEdit) : Prop where
  key : ed.request.key = r.key
  testName : ed.request.testName = r.testName
  note : ed.request.note = some ((es.filterMap EditorEdit.note?).getLastD r.noteText)
  canonical : ed.request.canonical = ed.request
  chips : ∀ d, ed.chips.get d = (ChipSet.ofStored (r.scope.get d)).run (es.filterMap (·.chips? d))
  /-- What is sent of a dimension is what its chips show, in another order. -/
  values : ∀ d, (ed.request.scope.get d).Perm (ed.chips.get d).values
  untouched : ∀ d, (∀ e, .chips d e ∉ es) → ed.request.scope.get d = r.canonical.scope.get d

theorem filterMap_chips?_eq_nil {es : List EditorEdit} (h : ∀ e, .chips d e ∉ es) :
    es.filterMap (·.chips? d) = [] := by
  refine List.filterMap_eq_nil_iff.2 ?_
  intro x hx
  cases x with
  | note text => rfl
  | chips d' e =>
    refine if_neg ?_
    rintro rfl
    exact h e hx

/-- **What an editor sends**: opened on a record and left alone it sends the canonical form of the record, with the note
as a text, and after any run of edits it sends what they made of the record. -/
theorem amends_run (i : EntryId) (t : Session) (r : Record) (es : List EditorEdit) :
    (ofRecord i t r).request = { r.canonical with note := some r.noteText } ∧
      ((ofRecord i t r).run es).Amends r es := by
  have hkept := (ofRecord i t r).continues_run es
  have hchips : ∀ d, ((ofRecord i t r).run es).chips.get d =
      (ChipSet.ofStored (r.scope.get d)).run (es.filterMap (·.chips? d)) := by
    intro d
    rw [chips_run, ofRecord, Scoped.get_map]
  refine ⟨request_ofRecord i t r, ?_⟩
  exact {
    key := hkept.key
    testName := hkept.testName
    note := congrArg some (note_run _ es)
    canonical := canonical_request _
    chips := hchips
    values := fun d => get_scope_request _ d ▸ ChipSet.perm_sorted _
    untouched := by
      intro d h
      rw [get_scope_request, hchips, filterMap_chips?_eq_nil h, Record.get_scope_canonical]
      exact ChipSet.sorted_ofStored _ }

end Editor

end AckDesk
