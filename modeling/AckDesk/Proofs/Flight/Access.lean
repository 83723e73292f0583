import AckDesk.Proofs.Desk.Settling
import AckDesk.Proofs.Flight.Basic

/-!
# The access of a desk

What the user of a desk may do is settled with its page. No event changes it (`access_handle`), so it is the same in all
runs (`access_run`).
-/

namespace AckDesk

namespace Desk

variable {k k' : Desk} {c : Option Call}

theorem access_edit {f : Editor → Editor} (h : k.edit f = .ok k') : k'.access = k.access := by
  unfold edit at h
  split at h
  · cases h; rfl
  · cases h

theorem access_addDraft (h : k.addDraft = .ok k') : k'.access = k.access := by
  unfold addDraft at h
  dsimp only at h
  split at h
  · cases h
  · cases h; simp

theorem access_openEntry {i : EntryId} (h : k.openEntry i = .ok k') : k'.access = k.access := by
  unfold openEntry at h
  cases he : k.entry? i with
  | none => rw [he] at h; cases h
  | some e =>
    rw [he] at h
    dsimp only at h
    split at h
    · cases h; rfl
    · cases h
      show Desk.access (if _ then _ else _) = _
      split <;> simp

theorem access_startSave (h : k.startSave = .ok (k', c)) : k'.access = k.access := by
  unfold startSave at h
  cases hed : k.modal.editor with
  | none => rw [hed] at h; cases h
  | some ed =>
    rw [hed] at h
    obtain ⟨e, -, h⟩ := map_eq_ok h
    cases h
    rfl

theorem access_startDelete {i : EntryId} (h : k.startDelete i = .ok (k', c)) : k'.access = k.access := by
  obtain ⟨e, -, h⟩ := map_eq_ok h
  cases hk : e.record.key with
  | none => rw [hk] at h; cases h; rfl
  | some key => rw [hk] at h; cases h; rfl

/-- No event changes the access. -/
theorem access_handle {e : Event} (h : k.handle e = .ok (k', c)) : k'.access = k.access := by
  unfold handle at h
  split at h
  · cases h
  · cases e with
    | searchTextChanged text => cases h; rfl
    | suggestionPicked testName => cases h; rfl
    | addFromSearchClicked => exact access_addDraft (quietly_eq_ok h).1
    | cardClicked i => exact access_openEntry (quietly_eq_ok h).1
    | deleteClicked i => exact access_startDelete h
    | chipBox d e => exact access_edit (quietly_eq_ok h).1
    | chipRemoveClicked d v => exact access_edit (quietly_eq_ok h).1
    | noteChanged text => exact access_edit (quietly_eq_ok h).1
    | saveClicked => exact access_startSave h
    | closeClicked => cases h; simp [closeEditor]
    | noticesDismissed => cases h; rfl

end Desk

namespace Flight

/-- The access is that of the page. -/
theorem access_run (p : Page) (o : Options) (ms : List Move) :
    ((start p o).run ms).desk.access = .ofReadOnly p.readOnly := by
  induction ms using List.reverseRecOn with
  | nil => rfl
  | append_singleton ms m ih =>
    rw [run_concat]
    rcases step_cases ((start p o).run ms) m with ⟨hm, -⟩ | ⟨e, k, c, -, hh, hm⟩ | ⟨s, -, -, hm⟩
    · rw [hm, ih]
    · rw [hm]
      exact (Desk.access_handle hh).trans ih
    · rw [hm]
      exact (Desk.access_settle _ s).trans ih

end Flight

end AckDesk
