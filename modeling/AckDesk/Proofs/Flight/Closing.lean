import AckDesk.Proofs.Desk.Settling
import AckDesk.Proofs.Flight.Lifecycle
import AckDesk.Proofs.Flight.Opening

/-!
# Editors and settlements

A settled save closes the editor if this is the opening that sent it, and a delete that succeeded closes the editor if it
is on the entry that goes (`Settled.closes_iff`). An editor that stays open has all that it had (`Remains`), and it is
turned to another entry in one case only: its entry was saved, so that it is now on the card that stands in its place
(`Settled.remains`).

Both hold of every call in flight, whatever was answered (`respects_run`).
-/

namespace AckDesk

namespace Desk

variable {k k' : Desk} {s : Settlement} {ch : Change}

/-- The editor `d`, open after a settlement, is the editor `ed`, open before. -/
structure Remains (k : Desk) (s : Settlement) (k' : Desk) (ed d : Editor) : Prop where
  editor : k.modal.editor = some ed
  session : d.session = ed.session
  testName : d.testName = ed.testName
  note : d.note = ed.note
  saving : d.saving = ed.saving
  /-- The chips and the text boxes of all dimensions. -/
  chips : d.chips = ed.chips
  /-- If its entry was not replaced, it is on the same entry under the same key. -/
  still : ¬Replaces s ed → d.entry = ed.entry ∧ d.key = ed.key
  /-- If it was, the editor is on the card in its place and under the key of this card. -/
  moved : Replaces s ed → ∃ above below x y, k.entries = above ++ x :: below ∧ x.id = ed.entry ∧
    k'.entries = above ++ y :: below ∧ y.id = d.entry ∧ y.record.key = d.key

/-- What a settlement does to the open editor. -/
structure Respects (k : Desk) (s : Settlement) (k' : Desk) : Prop where
  /-- A save closes the editor exactly if the region shows the opening that sent it. -/
  save : ∀ i t r result, s = .save i t r result →
    ((k.modal.isOpen = true ∧ k'.modal.isOpen = false) ↔ k.modal.isShowing t = true)
  /-- A delete closes it exactly if it succeeded and the region shows the deleted entry. -/
  delete : ∀ i key result, s = .delete i key result →
    ((k.modal.isOpen = true ∧ k'.modal.isOpen = false) ↔ result = .ok () ∧ k.modal.isOn i = true)
  /-- An editor that is open after the settlement was open before. -/
  remains : ∀ d, k'.modal.editor = some d → ∃ ed, Remains k s k' ed d

/-- A settlement closes the region exactly if it closes the editor that is open. -/
theorem Settled.closes_iff (hs : Settled k s k' ch) :
    (k.modal.isOpen = true ∧ k'.modal.isOpen = false) ↔ k.modal.editor.any s.closes = true := by
  unfold Modal.isOpen
  rw [hs.editor_eq]
  cases k.modal.editor with
  | none => simp
  | some ed => cases hc : s.closes ed <;> simp [Settlement.onEditor, hc]

/-- A settlement that does not replace the entry of an editor leaves the editor where it is. -/
theorem turn_of_not_replaces {ed : Editor} (h : ¬Replaces s ed) (n : EntryId) : s.turn n ed = ed := by
  unfold Settlement.turn
  split
  · rename_i i t r key
    refine if_neg fun hi => h ⟨t, r, key, ?_⟩
    rw [hi]
  · rfl

/-- The editor turned to what a save that succeeded put in the place of its entry. -/
theorem Settled.moved {ed : Editor} {t : Session} {r : Record} {key : Key}
    (hs : Settled k (.save ed.entry t r (.ok key)) k' ch) (hn : k.ids.Nodup) :
    ∃ above below x y, k.entries = above ++ x :: below ∧ x.id = ed.entry ∧ k'.entries = above ++ y :: below ∧
      y.id = (ed.retarget k.nextId key).entry ∧ y.record.key = (ed.retarget k.nextId key).key := by
  obtain ⟨x, hx⟩ : ∃ x, k.entry? ed.entry = some x := by
    cases hs with
    | saved he _ => exact ⟨_, he⟩
  obtain ⟨hmem, hi⟩ := mem_of_lookup hx
  obtain ⟨above, below, hb⟩ := List.append_of_mem hmem
  have hk : k'.entries = above ++ ⟨k.nextId, r.withKey key, .clean, true⟩ :: below := by
    rw [hs.has_saved.entries, ← hi, entries_replaceSaved hn hb]
  exact ⟨above, below, x, _, hb, hi, hk, rfl, rfl⟩

/-- An editor that is open after a settlement was open before, and has what it had. -/
theorem Settled.remains (hs : Settled k s k' ch) (hn : k.ids.Nodup) {d : Editor} (hd : k'.modal.editor = some d) :
    ∃ ed, Remains k s k' ed d := by
  rw [hs.editor_eq] at hd
  obtain ⟨ed, hed, hd⟩ := Option.bind_eq_some_iff.1 hd
  have hturn : s.turn k.nextId ed = d := by
    unfold Settlement.onEditor at hd
    split at hd
    · cases hd
    · exact Option.some.inj hd
  obtain ⟨i, key, heq, -⟩ := s.turn_eq k.nextId ed
  rw [hturn] at heq
  refine ⟨ed, {
    editor := hed
    session := by rw [heq]
    testName := by rw [heq]
    note := by rw [heq]
    saving := by rw [heq]
    chips := by rw [heq]
    still := ?_
    moved := ?_ }⟩
  · intro hr
    rw [← hturn, turn_of_not_replaces hr]
    exact ⟨rfl, rfl⟩
  · rintro ⟨t, r, key, rfl⟩
    have hmoved : d = ed.retarget k.nextId key := hturn.symm.trans (if_pos rfl)
    rw [hmoved]
    exact hs.moved hn

theorem Settled.respects (hs : Settled k s k' ch) (hn : k.ids.Nodup) : Respects k s k' where
  save := by
    rintro i t r result rfl
    exact hs.closes_iff
  delete := by
    rintro i key result rfl
    rw [hs.closes_iff]
    cases result with
    | ok _ => exact (and_iff_right rfl).symm
    | error f => simp [Settlement.closes]
  remains := fun _ hd => hs.remains hn hd

end Desk

namespace Flight

/-- **Settlements and editors**: after every run, whichever call in flight settles and whatever was answered, the
settlement closes the editor only if this opening sent it or its entry was deleted, and leaves any other editor as it
is, but for its entry where that was replaced. -/
theorem respects_run (p : Page) (o : Options) (ms : List Move) {s : Settlement}
    (hs : s.call ∈ ((start p o).run ms).calls) :
    Desk.Respects ((start p o).run ms).desk s (((start p o).run ms).desk.settle s).1 := by
  have hf := sound_run p o ms
  exact (hf.settled hs).respects hf.numbered.nodup

/-- A card is opened and saved, and opened again while its save is in flight. -/
def reopenedWhileSaving : List Move :=
  [.event (.cardClicked ⟨1⟩), .event .saveClicked, .event (.cardClicked ⟨1⟩)]

/-- The save that the first opening sent succeeds. -/
def firstOpeningSaved : Settlement :=
  .save ⟨1⟩ ⟨1⟩ ⟨some ⟨"k1"⟩, "boot", ⟨[], [], []⟩, some ""⟩ (.ok ⟨"k1"⟩)

/-- The second opening stays, and is turned to the new card. -/
theorem respects_firstOpeningSaved :
    firstOpeningSaved.call ∈ ((start twoCards {}).run reopenedWhileSaving).calls ∧
    Desk.Respects ((start twoCards {}).run reopenedWhileSaving).desk firstOpeningSaved
      (((start twoCards {}).run reopenedWhileSaving).desk.settle firstOpeningSaved).1 ∧
    ((((start twoCards {}).run reopenedWhileSaving).desk.settle firstOpeningSaved).1.modal.editor.map fun d =>
      (d.session, d.entry)) = some (⟨2⟩, ⟨3⟩) := by
  have hs : firstOpeningSaved.call ∈ ((start twoCards {}).run reopenedWhileSaving).calls := by decide +kernel
  exact ⟨hs, respects_run twoCards {} reopenedWhileSaving hs, by decide +kernel⟩

end Flight

end AckDesk
