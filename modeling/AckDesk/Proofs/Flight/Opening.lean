import AckDesk.Proofs.Flight.Sound

/-!
# What becomes of an opening

An editor that is open after an event is a new opening of an entry of the list, or was open before and has what it had
in every field that the event does not change (`Handled.editor`). One that is open after a settlement was open before
and has all that it had; its entry may be gone (`Strands`) or replaced (`Replaces`), and is as it was otherwise
(`Settled.editor`).
-/

namespace AckDesk

/-- The dimension that an event changes in the open editor. -/
def Event.dimension? : Event → Option Dimension
  | .chipBox d _ => some d
  | .chipRemoveClicked d _ => some d
  | _ => none

/-- The event changes the note in the open editor. -/
def Event.isNote : Event → Bool
  | .noteChanged _ => true
  | _ => false

namespace Event

variable {e : Event} {f : Editor → Editor}

theorem chips_revision (h : e.revision = some f) {x : Dimension} (hx : e.dimension? ≠ some x) (ed : Editor) :
    (f ed).chips.get x = ed.chips.get x := by
  cases e with
  | chipBox d b => cases h; exact Scoped.get_modify_of_ne _ _ fun hd => hx (hd ▸ rfl)
  | chipRemoveClicked d v => cases h; exact Scoped.get_modify_of_ne _ _ fun hd => hx (hd ▸ rfl)
  | noteChanged text => cases h; rfl
  | _ => cases h

theorem note_revision (h : e.revision = some f) (hn : e.isNote = false) (ed : Editor) : (f ed).note = ed.note := by
  cases e with
  | noteChanged text => cases hn
  | chipBox d b => cases h; rfl
  | chipRemoveClicked d v => cases h; rfl
  | _ => cases h

end Event

namespace Desk

variable {k k' : Desk}

/-! ## Events -/

/-- The editor `ed`, open after an event, is `d`, which was open before, apart from the field that the event
changes. -/
structure Stays (k : Desk) (e : Event) (k' : Desk) (d ed : Editor) : Prop where
  editor : k.modal.editor = some d
  entry : ed.entry = d.entry
  session : ed.session = d.session
  chips : ∀ x, e.dimension? ≠ some x → ed.chips.get x = d.chips.get x
  note : e.isNote = false → ed.note = d.note
  ids : ed.entry ∈ k'.ids ↔ d.entry ∈ k.ids
  record : ∀ x ∈ k'.entries, ∃ y ∈ k.entries, y.id = x.id ∧ y.record = x.record

theorem Stays.of_same {e : Event} {ed : Editor} (hed : k.modal.editor = some ed) (hids : k'.ids = k.ids)
    (hrec : ∀ x ∈ k'.entries, ∃ y ∈ k.entries, y.id = x.id ∧ y.record = x.record) : Stays k e k' ed ed :=
  ⟨hed, rfl, rfl, fun _ _ => rfl, fun _ => rfl, by rw [hids], hrec⟩

theorem record_modifyState {i : EntryId} {st : EntryState} {x : Entry}
    (h : x ∈ (k.modifyEntry i fun e => { e with state := st }).entries) :
    ∃ y ∈ k.entries, y.id = x.id ∧ y.record = x.record := by
  obtain ⟨y, hy, hi, hr, -⟩ := mem_of_mem_modifyState h
  exact ⟨y, hy, hi, hr⟩

/-- An editor that is open after an event is newly opened on an entry of the list, or it was open before. -/
theorem Handled.editor {e : Event} {c : Option Call} {ed : Editor} (hh : Handled k e k' c)
    (hed : k'.modal.editor = some ed) :
    (∃ e₀ ∈ k'.entries, ed = .ofRecord e₀.id k.modal.nextSession e₀.record) ∨ ∃ d, Stays k e k' d ed := by
  have same : k'.entries = k.entries → ∀ x ∈ k'.entries, ∃ y ∈ k.entries, y.id = x.id ∧ y.record = x.record :=
    fun hk x hx => ⟨x, hk ▸ hx, rfl, rfl⟩
  cases hh with
  | aside _ hk =>
    rw [hk.modal] at hed
    exact .inr ⟨ed, .of_same hed hk.ids (same hk.entries)⟩
  | edited hr hk =>
    rw [hk.modal] at hed
    obtain ⟨d, hd, rfl⟩ := Option.map_eq_some_iff.1 hed
    have hc := Event.continues_revision hr d
    exact .inr ⟨d, hd, hc.entry, hc.session, fun x hx => Event.chips_revision hr hx d,
      fun hn => Event.note_revision hr hn d, by rw [hk.ids, hc.entry, ids], same hk.entries⟩
  | @opened i e k' he _ hk =>
    obtain ⟨hmem, rfl⟩ := mem_of_lookup he
    rw [hk.modal] at hed
    cases hed
    refine .inl ⟨e, ?_, rfl⟩
    rw [hk.entries]
    split
    · exact hmem
    · rename_i hon
      exact mem_discardOpenDraft.2 ⟨hmem, fun hd => hon hd.1⟩
  | added _ _ hk =>
    rw [hk.modal] at hed
    cases hed
    exact .inl ⟨_, hk.entries ▸ List.mem_cons_self, rfl⟩
  | closed hk =>
    rw [hk.modal] at hed
    cases hed
  | saved _ _ _ hk =>
    rw [hk.modal] at hed
    obtain ⟨d, hd, rfl⟩ := Option.map_eq_some_iff.1 hed
    exact .inr ⟨d, hd, rfl, rfl, fun _ _ => rfl, fun _ => rfl, by rw [hk.ids, ← ids, ids_modifyState],
      fun x hx => record_modifyState (hk.entries ▸ hx)⟩
  | @dropped i e k' _ _ _ hk =>
    rw [hk.modal] at hed
    obtain ⟨hed, hi⟩ := Modal.editor_closeIfOn.1 hed
    exact .inr ⟨ed, hed, rfl, rfl, fun _ _ => rfl, fun _ => rfl, by rw [hk.ids, ← ids, mem_ids_removeEntry hi],
      fun x hx => ⟨x, (mem_removeEntry.1 (hk.entries ▸ hx)).1, rfl, rfl⟩⟩
  | deleted _ _ _ hk =>
    rw [hk.modal] at hed
    exact .inr ⟨ed, .of_same hed (by rw [hk.ids, ← ids, ids_modifyState])
      fun x hx => record_modifyState (hk.entries ▸ hx)⟩

/-! ## Settlements -/

/-- The settlement is the failure of a save for the entry that the editor is on, which has no key, and another opening
than the editor's sent it. -/
def Strands (k : Desk) (s : Settlement) (ed : Editor) : Prop :=
  ∃ t r f e, s = .save ed.entry t r (.error f) ∧ ed.session ≠ t ∧ k.entry? ed.entry = some e ∧ e.record.key = none

/-- The settlement is the success of a save for the entry that the editor is on. -/
def Replaces (s : Settlement) (ed : Editor) : Prop := ∃ t r key, s = .save ed.entry t r (.ok key)

/-- The editor `ed`, open after a settlement, is `d`, which was open before, on its entry or on what replaced it. -/
structure Outlives (k : Desk) (s : Settlement) (k' : Desk) (d ed : Editor) : Prop where
  editor : k.modal.editor = some d
  session : ed.session = d.session
  chips : ed.chips = d.chips
  note : ed.note = d.note
  ids : ed.entry ∈ k'.ids ↔ d.entry ∈ k.ids ∧ ¬Strands k s d
  record : ¬Replaces s d → ed.entry = d.entry ∧
    ∀ x ∈ k'.entries, x.id = ed.entry → ∃ y ∈ k.entries, y.id = x.id ∧ y.record = x.record

/-- A settlement that leaves the editor open, strands it nor replaces its entry. -/
theorem Outlives.of_same {s : Settlement} {ed : Editor} (hed : k.modal.editor = some ed) (hs : ¬Strands k s ed)
    (hids : ed.entry ∈ k'.ids ↔ ed.entry ∈ k.ids)
    (hrec : ∀ x ∈ k'.entries, ∃ y ∈ k.entries, y.id = x.id ∧ y.record = x.record) : Outlives k s k' ed ed :=
  ⟨hed, rfl, rfl, rfl, by rw [hids, and_iff_left hs], fun _ => ⟨rfl, fun x hx _ => hrec x hx⟩⟩

/-- An editor that is open after a settlement was open before. -/
theorem Settled.editor {s : Settlement} {ch : Change} {ed : Editor} (hn : Numbered k) (hs : Settled k s k' ch)
    (hed : k'.modal.editor = some ed) : ∃ d, Outlives k s k' d ed := by
  have old : ∀ i, k'.entries = (k.removeEntry i).entries →
      ∀ x ∈ k'.entries, ∃ y ∈ k.entries, y.id = x.id ∧ y.record = x.record :=
    fun i hk x hx => ⟨x, (mem_removeEntry.1 (hk ▸ hx)).1, rfl, rfl⟩
  cases hs with
  | @saved i s r key e k' he hk =>
    have hids : k'.ids = k.ids.map fun j => if j = i then k.nextId else j := by
      rw [← ids_replaceSaved r key, ids, hk.entries, ids]
    rw [hk.modal] at hed
    obtain ⟨d, hd, -, rfl⟩ := editor_saved hed
    refine ⟨d, hd, by split <;> rfl, by split <;> rfl, by split <;> rfl, ?_, fun hr => ?_⟩
    · rw [and_iff_left (by rintro ⟨_, _, _, _, h, -⟩; cases h), hids, List.mem_map]
      by_cases hdi : d.entry = i
      · refine iff_of_true ⟨i, mem_ids_of_lookup he, ?_⟩ (hdi ▸ mem_ids_of_lookup he)
        simp [hdi, Editor.retarget]
      · rw [if_neg hdi]
        constructor
        · rintro ⟨j, hj, hjd⟩
          split at hjd
          · exact absurd hjd.symm (hn.editor_ne_nextId hd)
          · exact hjd ▸ hj
        · exact fun hj => ⟨d.entry, hj, if_neg hdi⟩
    · have hdi : d.entry ≠ i := fun hdi => hr ⟨s, r, key, by rw [hdi]⟩
      rw [if_neg hdi]
      refine ⟨rfl, fun x hx hxd => ?_⟩
      rw [hk.entries] at hx
      rcases mem_replaceSaved.1 hx with ⟨hx, -⟩ | ⟨-, rfl⟩
      · exact ⟨x, hx, rfl, rfl⟩
      · exact absurd hxd.symm (hn.editor_ne_nextId hd)
  | @discarded i s r f e k' he hkey hk =>
    rw [hk.modal] at hed
    obtain ⟨hed, hs⟩ := Modal.editor_closeIfShowing.1 hed
    by_cases hi : ed.entry = i
    · have hst : Strands k (.save i s r (.error f)) ed := ⟨s, r, f, e, by rw [hi], hs, by rw [hi]; exact he, hkey⟩
      refine ⟨ed, hed, rfl, rfl, rfl, iff_of_false (fun hmem => ?_) fun h => h.2 hst,
        fun _ => ⟨rfl, fun x hx _ => ?_⟩⟩
      · rw [hk.ids] at hmem
        obtain ⟨x, hx, hxi⟩ := List.mem_map.1 hmem
        exact (mem_removeEntry.1 hx).2 (hxi.trans hi)
      · exact old i hk.entries x hx
    · refine ⟨ed, .of_same hed ?_ (by rw [hk.ids, ← ids, mem_ids_removeEntry hi]) (old i hk.entries)⟩
      rintro ⟨_, _, _, _, h, -⟩
      cases h
      exact hi rfl
  | @reverted i s r f e k' he hkey hk =>
    rw [hk.modal] at hed
    obtain ⟨hed, -⟩ := Modal.editor_closeIfShowing.1 hed
    refine ⟨ed, .of_same hed ?_ (by rw [hk.ids, ← ids, release, ids_modifyState])
      fun x hx => record_modifyState (hk.entries ▸ hx)⟩
    rintro ⟨_, _, _, d, h, -, hd, hdk⟩
    cases h
    cases he.symm.trans hd
    exact hkey hdk
  | @removed i key e k' _ hk =>
    rw [hk.modal] at hed
    obtain ⟨hed, hi⟩ := Modal.editor_closeIfOn.1 hed
    refine ⟨ed, .of_same hed ?_ (by rw [hk.ids, ← ids, mem_ids_removeEntry hi]) (old i hk.entries)⟩
    rintro ⟨_, _, _, _, h, -⟩
    cases h
  | restored _ hk =>
    rw [hk.modal] at hed
    refine ⟨ed, .of_same hed ?_ (by rw [hk.ids, ← ids, release, ids_modifyState])
      fun x hx => record_modifyState (hk.entries ▸ hx)⟩
    rintro ⟨_, _, _, _, h, -⟩
    cases h

end Desk

end AckDesk
