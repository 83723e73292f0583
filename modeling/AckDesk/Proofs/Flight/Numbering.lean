import AckDesk.Proofs.Flight.Basic
import AckDesk.Proofs.Modal

/-!
# Numbers of entries and of openings

No two entries have one number, and no number is above the one that was given last (`Numbered`), so that a number
that is given is new; this is kept by events (`Numbered.handled`) and by settlements (`Numbered.settled`). The number
of the last opening never goes down (`Handled.lastSession_le`, `Settled.lastSession_eq`), nor does that of the last
entry (`Handled.lastId_le`, `Settled.lastId_le`).
-/

namespace AckDesk

/-- An event that changes the open editor leaves what it is about as it is. -/
theorem Event.continues_revision {e : Event} {f : Editor → Editor} (h : e.revision = some f) (ed : Editor) :
    ed.Continues (f ed) := by
  cases e <;> cases h <;> exact ⟨rfl, rfl, rfl, rfl⟩

theorem Editor.continues_saving (ed : Editor) : ed.Continues { ed with saving := true } := ⟨rfl, rfl, rfl, rfl⟩

namespace Desk

/-- Numbers of entries are given once, and the open editor's was given. -/
structure Numbered (k : Desk) : Prop where
  nodup : k.ids.Nodup
  id_le : ∀ e ∈ k.entries, e.id.number ≤ k.lastId
  editor_le : ∀ ed, k.modal.editor = some ed → ed.entry.number ≤ k.lastId
  session_le : ∀ ed, k.modal.editor = some ed → ed.session.number ≤ k.modal.lastSession

section

variable {k k' : Desk}

/-- A number that was given is not given again. -/
theorem ne_nextId_of_le {i : EntryId} (h : i.number ≤ k.lastId) : i ≠ k.nextId := by
  rintro rfl
  exact Nat.not_succ_le_self _ h

theorem Numbered.ne_nextId (h : Numbered k) {e : Entry} (he : e ∈ k.entries) : e.id ≠ k.nextId :=
  ne_nextId_of_le (h.id_le e he)

theorem Numbered.nextId_not_mem_ids (h : Numbered k) : k.nextId ∉ k.ids := by
  intro hi
  obtain ⟨e, he, hie⟩ := List.mem_map.1 hi
  exact h.ne_nextId he hie

theorem Numbered.number_le (h : Numbered k) (i : EntryId) (hi : i ∈ k.ids) : i.number ≤ k.lastId := by
  obtain ⟨e, he, rfl⟩ := List.mem_map.1 hi
  exact h.id_le e he

theorem Numbered.editor_ne_nextId (h : Numbered k) {ed : Editor} (hed : k.modal.editor = some ed) :
    ed.entry ≠ k.nextId :=
  ne_nextId_of_le (h.editor_le ed hed)

theorem ids_entriesFrom (rs : List Record) :
    ∀ n, (entriesFrom n rs).map (·.id) = (List.range' (n + 1) rs.length).map .mk := by
  induction rs with
  | nil => exact fun _ => rfl
  | cons r rs ih => intro n; simp [entriesFrom, ih (n + 1), List.range'_succ]

theorem numbered_page (p : Page) (o : Options) : Numbered (p.desk o) := by
  have hids : (p.desk o).ids = (List.range' 1 p.records.length).map .mk := ids_entriesFrom p.records 0
  refine ⟨?_, fun e he => ?_, fun ed h => ?_, fun ed h => ?_⟩
  · rw [hids]
    exact (List.nodup_range' ..).map fun a b h => by cases h; rfl
  · have hi : e.id ∈ (p.desk o).ids := List.mem_map_of_mem he
    rw [hids] at hi
    obtain ⟨n, hn, hi⟩ := List.mem_map.1 hi
    rw [← hi]
    have := List.mem_range'_1.1 hn
    show n ≤ p.records.length
    omega
  · cases h
  · cases h

/-- Fewer entries, and no editor but the open one, keep the numbers in order. -/
theorem Numbered.of_sublist (h : Numbered k) (hs : k'.ids.Sublist k.ids) (hl : k'.lastId = k.lastId)
    (hm : k.modal.Keeps k'.modal) : Numbered k' := by
  refine ⟨hs.nodup h.nodup, fun e he => ?_, fun ed hed => ?_, fun ed hed => ?_⟩
  · obtain ⟨d, hd, hi⟩ := List.mem_map.1 (hs.subset (List.mem_map_of_mem he))
    rw [hl, ← hi]
    exact h.id_le d hd
  · obtain ⟨d, hd, hc⟩ := hm.editor ed hed
    rw [hl, hc.entry]
    exact h.editor_le d hd
  · obtain ⟨d, hd, hc⟩ := hm.editor ed hed
    rw [hm.lastSession, hc.session]
    exact h.session_le d hd

/-- Events keep the numbers in order. -/
theorem Numbered.handled {e : Event} {c : Option Call} (h : Numbered k) (hh : Handled k e k' c) : Numbered k' := by
  cases hh with
  | aside _ hk => exact h.of_sublist (by simp [ids, hk.entries]) hk.lastId (hk.modal ▸ k.modal.keeps_refl)
  | edited hr hk =>
    exact h.of_sublist (by simp [ids, hk.entries]) hk.lastId
      (hk.modal ▸ k.modal.keeps_modifyEditor (Event.continues_revision hr))
  | @opened i e k' he _ hk =>
    have hs : k'.ids.Sublist k.ids := by
      rw [ids, hk.entries]
      split
      · exact List.Sublist.refl _
      · exact ids_discardOpenDraft_sublist k
    obtain ⟨hmem, rfl⟩ := mem_of_lookup he
    refine ⟨hs.nodup h.nodup, fun d hd => ?_, fun ed hed => ?_, fun ed hed => ?_⟩
    · obtain ⟨d', hd', hi⟩ := List.mem_map.1 (hs.subset (List.mem_map_of_mem hd))
      rw [hk.lastId, ← hi]
      exact h.id_le d' hd'
    · rw [hk.modal] at hed
      cases hed
      rw [hk.lastId]
      exact h.id_le e hmem
    · rw [hk.modal] at hed ⊢
      cases hed
      exact Nat.le_refl _
  | @added t k' _ _ hk =>
    have hs := ids_discardOpenDraft_sublist k
    have hids : k'.ids = k.nextId :: k.discardOpenDraft.ids := by simp [ids, hk.entries]
    refine ⟨?_, fun d hd => ?_, fun ed hed => ?_, fun ed hed => ?_⟩
    · rw [hids, List.nodup_cons]
      refine ⟨fun hi => ?_, hs.nodup h.nodup⟩
      obtain ⟨d, hd, hi⟩ := List.mem_map.1 (hs.subset hi)
      exact h.ne_nextId hd hi
    · rw [hk.entries] at hd
      rw [hk.lastId]
      rcases List.mem_cons.1 hd with rfl | hd
      · exact Nat.le_refl _
      · exact Nat.le_succ_of_le (h.id_le d (mem_discardOpenDraft.1 hd).1)
    · rw [hk.modal] at hed
      cases hed
      rw [hk.lastId]
      exact Nat.le_refl _
    · rw [hk.modal] at hed ⊢
      cases hed
      exact Nat.le_refl _
  | closed hk =>
    exact h.of_sublist (hk.ids ▸ ids_discardOpenDraft_sublist k) hk.lastId (hk.modal ▸ k.modal.keeps_close)
  | saved hed _ _ hk =>
    have hids : k'.ids = k.ids := hk.ids.trans (ids_modifyState k _ _)
    exact h.of_sublist (hids ▸ .refl _) hk.lastId (hk.modal ▸ k.modal.keeps_modifyEditor Editor.continues_saving)
  | dropped _ _ _ hk =>
    exact h.of_sublist (hk.ids ▸ ids_removeEntry_sublist k _) hk.lastId (hk.modal ▸ k.modal.keeps_closeIfOn _)
  | deleted _ _ _ hk =>
    have hids : k'.ids = k.ids := hk.ids.trans (ids_modifyState k _ _)
    exact h.of_sublist (hids ▸ .refl _) hk.lastId (hk.modal ▸ k.modal.keeps_refl)

/-- Settlements keep the numbers in order. -/
theorem Numbered.settled {s : Settlement} {ch : Change} (h : Numbered k) (hs : Settled k s k' ch) : Numbered k' := by
  cases hs with
  | @saved i s r key e k' he hk =>
    have hids : k'.ids = k.ids.map fun j => if j = i then k.nextId else j := by
      rw [← ids_replaceSaved r key, ids, hk.entries, ids]
    have hm : ∀ ed, k'.modal.editor = some ed → ∃ d, k.modal.editor = some d ∧
        (if d.entry = i then d.retarget k.nextId key else d) = ed := by
      intro ed hed
      rw [hk.modal] at hed
      exact Option.map_eq_some_iff.1 (Modal.editor_closeIfShowing.1 hed).1
    refine ⟨?_, fun d hd => ?_, fun ed hed => ?_, fun ed hed => ?_⟩
    · rw [hids]
      refine (List.nodup_map_iff_inj_on h.nodup).2 fun a ha b hb hab => ?_
      obtain ⟨d, hd, rfl⟩ := List.mem_map.1 ha
      obtain ⟨d', hd', rfl⟩ := List.mem_map.1 hb
      split at hab <;> split at hab
      · exact ‹d.id = i›.trans ‹d'.id = i›.symm
      · exact absurd hab.symm (h.ne_nextId hd')
      · exact absurd hab (h.ne_nextId hd)
      · exact hab
    · rw [hk.entries] at hd
      rw [hk.lastId]
      rcases mem_replaceSaved.1 hd with ⟨hd, -⟩ | ⟨-, rfl⟩
      · exact Nat.le_succ_of_le (h.id_le d hd)
      · exact Nat.le_refl _
    · obtain ⟨d, hd, rfl⟩ := hm ed hed
      rw [hk.lastId]
      split
      · exact Nat.le_refl _
      · exact Nat.le_succ_of_le (h.editor_le d hd)
    · obtain ⟨d, hd, rfl⟩ := hm ed hed
      rw [hk.modal, Modal.lastSession_closeIfShowing]
      split <;> exact h.session_le d hd
  | discarded _ _ hk =>
    exact h.of_sublist (hk.ids ▸ ids_removeEntry_sublist k _) hk.lastId (hk.modal ▸ k.modal.keeps_closeIfShowing _)
  | reverted _ _ hk =>
    have hids : k'.ids = k.ids := hk.ids.trans (ids_modifyState k _ _)
    exact h.of_sublist (hids ▸ .refl _) hk.lastId (hk.modal ▸ k.modal.keeps_closeIfShowing _)
  | removed _ hk =>
    exact h.of_sublist (hk.ids ▸ ids_removeEntry_sublist k _) hk.lastId (hk.modal ▸ k.modal.keeps_closeIfOn _)
  | restored _ hk =>
    have hids : k'.ids = k.ids := hk.ids.trans (ids_modifyState k _ _)
    exact h.of_sublist (hids ▸ .refl _) hk.lastId (hk.modal ▸ k.modal.keeps_refl)

/-! ## Openings -/

theorem Handled.lastSession_le {e : Event} {c : Option Call} (hh : Handled k e k' c) :
    k.modal.lastSession ≤ k'.modal.lastSession := by
  cases hh with
  | aside _ hk => exact Nat.le_of_eq (by rw [hk.modal])
  | edited _ hk => exact Nat.le_of_eq (by rw [hk.modal, Modal.lastSession_modifyEditor])
  | opened _ _ hk => rw [hk.modal]; exact Nat.le_succ _
  | added _ _ hk => rw [hk.modal]; exact Nat.le_succ _
  | closed hk => exact Nat.le_of_eq (by rw [hk.modal, Modal.lastSession_close])
  | saved _ _ _ hk => exact Nat.le_of_eq (by rw [hk.modal, Modal.lastSession_modifyEditor])
  | dropped _ _ _ hk => exact Nat.le_of_eq (by rw [hk.modal, Modal.lastSession_closeIfOn])
  | deleted _ _ _ hk => exact Nat.le_of_eq (by rw [hk.modal])

theorem Settled.lastSession_eq {s : Settlement} {ch : Change} (hs : Settled k s k' ch) :
    k'.modal.lastSession = k.modal.lastSession := by
  cases hs with
  | saved _ hk => rw [hk.modal, Modal.lastSession_closeIfShowing]; rfl
  | discarded _ _ hk => rw [hk.modal, Modal.lastSession_closeIfShowing]
  | reverted _ _ hk => rw [hk.modal, Modal.lastSession_closeIfShowing]
  | removed _ hk => rw [hk.modal, Modal.lastSession_closeIfOn]
  | restored _ hk => rw [hk.modal]

/-! ## The number that was given last -/

theorem Handled.lastId_le {e : Event} {c : Option Call} (hh : Handled k e k' c) : k.lastId ≤ k'.lastId := by
  cases hh with
  | added _ _ hk => rw [hk.lastId]; exact Nat.le_succ _
  | aside _ hk => exact Nat.le_of_eq hk.lastId.symm
  | edited _ hk => exact Nat.le_of_eq hk.lastId.symm
  | opened _ _ hk => exact Nat.le_of_eq hk.lastId.symm
  | closed hk => exact Nat.le_of_eq hk.lastId.symm
  | saved _ _ _ hk => exact Nat.le_of_eq hk.lastId.symm
  | dropped _ _ _ hk => exact Nat.le_of_eq hk.lastId.symm
  | deleted _ _ _ hk => exact Nat.le_of_eq hk.lastId.symm

theorem Settled.lastId_le {s : Settlement} {ch : Change} (hs : Settled k s k' ch) : k.lastId ≤ k'.lastId := by
  cases hs with
  | saved _ hk => rw [hk.lastId]; exact Nat.le_succ _
  | discarded _ _ hk => exact Nat.le_of_eq hk.lastId.symm
  | reverted _ _ hk => exact Nat.le_of_eq hk.lastId.symm
  | removed _ hk => exact Nat.le_of_eq hk.lastId.symm
  | restored _ hk => exact Nat.le_of_eq hk.lastId.symm

end

end Desk

end AckDesk
