import AckDesk.Proofs.Desk.Entries

/-!
# What an event or a settlement can do to a desk

A desk has three parts on which the protocol of saving and deleting depends: the list, the modal region and the
number that was given last. `Handled` lists what an event that is not refused does to them, with the condition under
which it does so, and `Settled` lists the same for a settlement whose entry is still there.

* Every event that is not refused is among the first (`handled_of_handle`), and every settlement of a known entry
  among the second (`settled_settle`), so that what they keep is proved once for each row and not once for each
  branch of the code.
-/

namespace AckDesk

/-- The change that an event makes in the open editor, for the events that make one. -/
def Event.revision : Event → Option (Editor → Editor)
  | .chipBox d e => some (·.modifyChips d fun s => (s.feed e).1)
  | .chipRemoveClicked d v => some (·.modifyChips d fun s => (s.remove? v).getD s)
  | .noteChanged text => some fun ed => { ed with note := text }
  | _ => none

def Settlement.call : Settlement → Call
  | .save i s r _ => .save i s r
  | .delete i key _ => .delete i key

namespace Desk

/-- The parts of a desk that saving and deleting depend on. -/
structure Has (k : Desk) (es : List Entry) (m : Modal) (n : Nat) : Prop where
  entries : k.entries = es
  modal : k.modal = m
  lastId : k.lastId = n

theorem Has.ids {k : Desk} {es : List Entry} {m : Modal} {n : Nat} (h : k.Has es m n) : k.ids = es.map (·.id) := by
  rw [Desk.ids, h.entries]

/-! ## Events -/

/-- What an accepted event does to a desk, and the call that it asks for. -/
inductive Handled (k : Desk) : Event → Desk → Option Call → Prop
  | aside {e : Event} {k' : Desk} (hr : e.revision = none) (h : k'.Has k.entries k.modal k.lastId) :
      Handled k e k' none
  | edited {e : Event} {f : Editor → Editor} {k' : Desk} (hr : e.revision = some f)
      (h : k'.Has k.entries (k.modal.modifyEditor f) k.lastId) : Handled k e k' none
  | opened {i : EntryId} {e : Entry} {k' : Desk} (he : k.entry? i = some e) (hs : e.state ≠ .pendingDelete)
      (h : k'.Has (if k.modal.isOn i then k else k.discardOpenDraft).entries (k.modal.openOn i e.record) k.lastId) :
      Handled k (.cardClicked i) k' none
  | added {t : String} {k' : Desk} (ht : t = Text.trim k.search.query) (hn : t ≠ "")
      (h : k'.Has (⟨k.nextId, .draft t, .clean, false⟩ :: k.discardOpenDraft.entries)
        (k.modal.openOn k.nextId (.draft t)) (k.lastId + 1)) : Handled k .addFromSearchClicked k' none
  | closed {k' : Desk} (h : k'.Has k.discardOpenDraft.entries k.modal.close k.lastId) :
      Handled k .closeClicked k' none
  | saved {ed : Editor} {e : Entry} {k' : Desk} (hed : k.modal.editor = some ed) (he : k.entry? ed.entry = some e)
      (hs : e.state = .clean)
      (h : k'.Has (k.modifyEntry ed.entry fun e => { e with state := .saving }).entries
        (k.modal.modifyEditor fun ed => { ed with saving := true }) k.lastId) :
      Handled k .saveClicked k' (some (.save ed.entry ed.session ed.request))
  | dropped {i : EntryId} {e : Entry} {k' : Desk} (he : k.entry? i = some e) (hs : e.state = .clean)
      (hk : e.record.key = none) (h : k'.Has (k.removeEntry i).entries (k.modal.closeIfOn i) k.lastId) :
      Handled k (.deleteClicked i) k' none
  | deleted {i : EntryId} {e : Entry} {key : Key} {k' : Desk} (he : k.entry? i = some e) (hs : e.state = .clean)
      (hk : e.record.key = some key)
      (h : k'.Has (k.modifyEntry i fun e => { e with state := .pendingDelete }).entries k.modal k.lastId) :
      Handled k (.deleteClicked i) k' (some (.delete i key))

section Events

variable {k k' : Desk} {c : Option Call}

theorem quietly_eq_ok {r : Except Refusal Desk} (h : quietly r = .ok (k', c)) : r = .ok k' ∧ c = none := by
  cases r with
  | error _ => cases h
  | ok k => cases h; exact ⟨rfl, rfl⟩

theorem idleEntry_eq_ok {i : EntryId} {e : Entry} (h : k.idleEntry i = .ok e) :
    k.entry? i = some e ∧ e.state = .clean := by
  unfold idleEntry at h
  cases he : k.entry? i with
  | none => rw [he] at h; cases h
  | some d =>
    rw [he] at h
    dsimp only at h
    split at h
    · cases h; exact ⟨rfl, ‹_›⟩
    · cases h

theorem map_eq_ok {ε α β : Type} {x : Except ε α} {f : α → β} {b : β} (h : x.map f = .ok b) :
    ∃ a, x = .ok a ∧ f a = b := by
  cases x with
  | error _ => cases h
  | ok a => exact ⟨a, rfl, Except.ok.inj h⟩

theorem handled_edit {e : Event} {f : Editor → Editor} (hr : e.revision = some f)
    (h : quietly (k.edit f) = .ok (k', c)) : Handled k e k' c := by
  obtain ⟨h, rfl⟩ := quietly_eq_ok h
  unfold edit at h
  split at h
  · cases h; exact .edited hr ⟨rfl, rfl, rfl⟩
  · cases h

theorem handled_openEntry {i : EntryId} (h : quietly (k.openEntry i) = .ok (k', c)) :
    Handled k (.cardClicked i) k' c := by
  obtain ⟨h, rfl⟩ := quietly_eq_ok h
  unfold openEntry at h
  cases he : k.entry? i with
  | none => rw [he] at h; cases h
  | some e =>
    rw [he] at h
    dsimp only at h
    split at h
    · cases h; exact .aside rfl ⟨rfl, rfl, rfl⟩
    · rename_i hs
      cases h
      exact .opened he hs ⟨rfl, by split <;> simp, by split <;> simp⟩

theorem handled_addDraft (h : quietly k.addDraft = .ok (k', c)) : Handled k .addFromSearchClicked k' c := by
  obtain ⟨h, rfl⟩ := quietly_eq_ok h
  unfold addDraft at h
  dsimp only at h
  split at h
  · cases h
  · rename_i hn
    cases h
    exact .added rfl hn ⟨by simp [nextId], by simp [nextId], by simp⟩

theorem handled_startSave (h : k.startSave = .ok (k', c)) : Handled k .saveClicked k' c := by
  unfold startSave at h
  cases hed : k.modal.editor with
  | none => rw [hed] at h; cases h
  | some ed =>
    rw [hed] at h
    obtain ⟨e, he, h⟩ := map_eq_ok h
    obtain ⟨he, hs⟩ := idleEntry_eq_ok he
    cases h
    exact .saved hed he hs ⟨rfl, rfl, rfl⟩

theorem handled_startDelete {i : EntryId} (h : k.startDelete i = .ok (k', c)) :
    Handled k (.deleteClicked i) k' c := by
  obtain ⟨e, he, h⟩ := map_eq_ok h
  obtain ⟨he, hs⟩ := idleEntry_eq_ok he
  cases hk : e.record.key with
  | none => rw [hk] at h; cases h; exact .dropped he hs hk ⟨rfl, rfl, rfl⟩
  | some key => rw [hk] at h; cases h; exact .deleted he hs hk ⟨rfl, rfl, rfl⟩

/-- **Events**: an event that is not refused does one of the eight things. -/
theorem handled_of_handle {e : Event} (h : k.handle e = .ok (k', c)) : Handled k e k' c := by
  unfold handle at h
  split at h
  · cases h
  · cases e with
    | searchTextChanged text => cases h; exact .aside rfl ⟨rfl, rfl, rfl⟩
    | suggestionPicked testName => cases h; exact .aside rfl ⟨rfl, rfl, rfl⟩
    | addFromSearchClicked => exact handled_addDraft h
    | cardClicked i => exact handled_openEntry h
    | deleteClicked i => exact handled_startDelete h
    | chipBox d e => exact handled_edit rfl h
    | chipRemoveClicked d v => exact handled_edit rfl h
    | noteChanged text => exact handled_edit rfl h
    | saveClicked => exact handled_startSave h
    | closeClicked => cases h; exact .closed ⟨rfl, by simp [closeEditor], by simp [closeEditor]⟩
    | noticesDismissed => cases h; exact .aside rfl ⟨rfl, rfl, rfl⟩

/-- An entry that is not being deleted can be opened, and is there still. -/
theorem handle_cardClicked {i : EntryId} {e : Entry} (he : k.entry? i = some e) (hs : e.state ≠ .pendingDelete) :
    ∃ k', k.handle (.cardClicked i) = .ok (k', none) ∧ k'.modal = k.modal.openOn i e.record ∧
      k'.access = k.access ∧ k'.entry? i = some e := by
  cases ho : k.modal.isOn i with
  | true =>
    refine ⟨{ k with modal := k.modal.openOn i e.record }, ?_, rfl, rfl, he⟩
    simp [handle, Event.isMutation, apply, quietly, openEntry, he, hs, ho, Except.map]
  | false =>
    refine ⟨{ k.discardOpenDraft with modal := k.modal.openOn i e.record }, ?_, rfl, by simp, ?_⟩
    · simp [handle, Event.isMutation, apply, quietly, openEntry, he, hs, ho, Except.map]
    · exact (entry?_discardOpenDraft ho).trans he

/-- The open editor of an entry at rest can be saved. -/
theorem handle_saveClicked {ed : Editor} {e : Entry} (ha : k.access.canEdit = true) (hed : k.modal.editor = some ed)
    (he : k.entry? ed.entry = some e) (hs : e.state = .clean) :
    ∃ k', k.handle .saveClicked = .ok (k', some (.save ed.entry ed.session ed.request)) := by
  simp [handle, apply, ha, startSave, hed, idleEntry, he, hs, Except.map]

end Events

/-! ## Settlements -/

/-- What a settlement does to a desk that has its entry, and how it says that the list changed. -/
inductive Settled (k : Desk) : Settlement → Desk → Change → Prop
  | saved {i : EntryId} {s : Session} {r : Record} {key : Key} {e : Entry} {k' : Desk} (he : k.entry? i = some e)
      (h : k'.Has (k.replaceSaved i r key).entries ((k.replaceSaved i r key).modal.closeIfShowing s) (k.lastId + 1)) :
      Settled k (.save i s r (.ok key)) k'
        (if e.record.isDraft then .inserted k.nextId key else .replaced i k.nextId key)
  | discarded {i : EntryId} {s : Session} {r : Record} {f : Backend.Failure} {e : Entry} {k' : Desk}
      (he : k.entry? i = some e) (hk : e.record.key = none)
      (h : k'.Has (k.removeEntry i).entries (k.modal.closeIfShowing s) k.lastId) :
      Settled k (.save i s r (.error f)) k' (.discarded i f.message)
  | reverted {i : EntryId} {s : Session} {r : Record} {f : Backend.Failure} {e : Entry} {k' : Desk}
      (he : k.entry? i = some e) (hk : e.record.key ≠ none)
      (h : k'.Has (k.release i).entries (k.modal.closeIfShowing s) k.lastId) :
      Settled k (.save i s r (.error f)) k' (.reverted i f.message)
  | removed {i : EntryId} {key : Key} {e : Entry} {k' : Desk} (he : k.entry? i = some e)
      (h : k'.Has (k.removeEntry i).entries (k.modal.closeIfOn i) k.lastId) :
      Settled k (.delete i key (.ok ())) k' (.removed i key)
  | restored {i : EntryId} {key : Key} {f : Backend.Failure} {e : Entry} {k' : Desk} (he : k.entry? i = some e)
      (h : k'.Has (k.release i).entries k.modal k.lastId) :
      Settled k (.delete i key (.error f)) k' (.reverted i f.message)

section Settlements

variable {k : Desk}

/-- A notice changes none of the parts. -/
theorem has_report (k : Desk) (kind : NoticeKind) (testName : String) (f : Backend.Failure) :
    (k.report kind testName f).Has k.entries k.modal k.lastId := by
  unfold report
  split <;> exact ⟨rfl, rfl, rfl⟩

/-- **Settlements**: a settlement of an entry that is there does one of the five things. -/
theorem settled_settle {s : Settlement} {e : Entry} (he : k.entry? s.call.entry = some e) :
    Settled k s (k.settle s).1 (k.settle s).2 := by
  cases s with
  | save i s r result =>
    change k.entry? i = some e at he
    cases result with
    | ok key =>
      simp only [settle, settleSave, he]
      exact .saved he ⟨rfl, rfl, rfl⟩
    | error f =>
      obtain ⟨h₁, h₂, h₃⟩ := has_report k .saveFailed r.testName f
      cases hk : e.record.key with
      | none =>
        have hd : e.record.isDraft = true := by simp [Record.isDraft, hk]
        simp only [settle, settleSave, he, hd, if_true]
        exact .discarded he hk ⟨by simp [removeEntry, h₁], by simp [removeEntry, h₂], by simp [removeEntry, h₃]⟩
      | some key =>
        have hd : e.record.isDraft = false := by simp [Record.isDraft, hk]
        simp only [settle, settleSave, he, hd, Bool.false_eq_true, if_false]
        exact .reverted he (by simp [hk])
          ⟨by simp [release, modifyEntry, h₁], by simp [release, modifyEntry, h₂], by simp [release, modifyEntry, h₃]⟩
  | delete i key result =>
    change k.entry? i = some e at he
    cases result with
    | ok _ =>
      simp only [settle, settleDelete, he]
      exact .removed he ⟨rfl, rfl, rfl⟩
    | error f =>
      obtain ⟨h₁, h₂, h₃⟩ := has_report k .deleteFailed e.record.testName f
      simp only [settle, settleDelete, he]
      exact .restored he
        ⟨by simp [release, modifyEntry, h₁], by simp [release, modifyEntry, h₂], by simp [release, modifyEntry, h₃]⟩

end Settlements

end Desk

end AckDesk
