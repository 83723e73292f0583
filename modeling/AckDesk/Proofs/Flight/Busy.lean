import AckDesk.Proofs.Flight.Closing
import AckDesk.Proofs.Flight.Refused
import AckDesk.Proofs.View.Controls

/-!
# Busy entries and disabled controls

Saving and deleting are refused for a busy entry, and the controls for them are disabled while they would be. A control
does not look at the entry as a whole, though. The button that saves looks at its own opening of the editor, which is
marked exactly while the save that it sent is in flight (`Marked`), and the control on a card at deletes alone. So a
disabled control is for a busy entry, and an enabled one is for an entry at rest, or for one with a call in flight that
it does not look at (`signals_run`).
-/

namespace AckDesk

open View

/-- The opening of the editor that sent a call. -/
def Call.session? : Call → Option Session
  | .save _ t _ => some t
  | .delete _ _ => none

namespace Desk

variable {k k' : Desk} {cs ds : List Call}

/-- The event is refused, as an entry is busy. -/
def RefusedAsBusy (k : Desk) (e : Event) : Prop := ∃ i st, k.handle e = .error (.entryBusy i st)

/-- To a user who may edit, saving and deleting are refused in this way exactly if the entry is not at rest. -/
theorem refusedAsBusy_iff {e : Event} (hn : k.ids.Nodup) (he : e.needsRest = true) : k.RefusedAsBusy e ↔
    k.access = .writable ∧ ∃ x ∈ k.entries, k.subject? e = some x.id ∧ x.state ≠ .clean := by
  constructor
  · rintro ⟨i, st, h⟩
    obtain ⟨⟨-, hi, hs, x, hx, rfl, rfl⟩, hfirst⟩ := (handle_eq_error hn).1 h
    refine ⟨?_, x, hx, hi, hs⟩
    cases ha : k.access with
    | writable => rfl
    | readOnly =>
      -- that the desk may only be read would be the first reason
      have hread : k.HasReason e (.readOnly e.describe) := by cases e <;> simp_all [HasReason]
      exact absurd (hfirst _ hread) (by simp)
  · rintro ⟨ha, x, hx, hi, hs⟩
    refine ⟨x.id, x.state, (handle_eq_error hn).2 ⟨⟨he, hi, hs, x, hx, rfl, rfl⟩, fun q hq => ?_⟩⟩
    cases q with
    | readOnly attempted => simp [HasReason, ha] at hq
    | noOpenEditor =>
      obtain ⟨hed, hm⟩ := hq
      cases e with
      | saveClicked =>
        obtain ⟨ed, hopen, -⟩ := Option.map_eq_some_iff.1 hi
        simp [Modal.isOpen, hopen] at hm
      | deleteClicked j => cases hed
      | _ => cases he
    | unknownEntry j =>
      obtain ⟨hj, hnone⟩ := hq
      exact absurd (Option.some.inj (hi.symm.trans hj)) (hnone x hx)
    | entryBusy j st => exact Nat.le_refl _
    | emptyTestName => exact Nat.le_succ _

/-- Only a user who may edit gets controls that change anything. -/
theorem writable_of_mem_nodes {n : Node} {a : Affordance} (hn : n ∈ k.view.nodes) (ha : n.face.affordance = some a)
    (hm : a.isMutation = true) : k.access = .writable := by
  cases hk : k.access with
  | writable => rfl
  | readOnly =>
    have hno := isMutation_of_mem_affordances hk (List.mem_filterMap.2 ⟨n, hn, ha⟩)
    rw [hm] at hno
    cases hno

/-! ## The mark of the open editor -/

/-- The open editor is marked as saving exactly while a save that this opening sent is in flight. -/
def Marked (k : Desk) (cs : List Call) : Prop :=
  ∀ ed, k.modal.editor = some ed → (ed.saving = true ↔ ∃ i r, .save i ed.session r ∈ cs)

/-- The same opening with the same mark, and the same saves of this opening in flight. -/
theorem Marked.of_editor (h : Marked k cs)
    (he : ∀ d, k'.modal.editor = some d → ∃ ed, k.modal.editor = some ed ∧ d.session = ed.session ∧
      d.saving = ed.saving ∧ ∀ i r, .save i ed.session r ∈ ds ↔ .save i ed.session r ∈ cs) : Marked k' ds := by
  intro d hd
  obtain ⟨ed, hed, hsession, hsaving, hcalls⟩ := he d hd
  rw [hsession, hsaving]
  simp only [hcalls]
  exact h ed hed

/-- A new opening is not marked, and has sent nothing. -/
theorem Marked.of_openOn (hseated : Seated k cs) {i : EntryId} {r : Record} (hm : k'.modal = k.modal.openOn i r) :
    Marked k' cs := by
  intro d hd
  rw [hm] at hd
  cases hd
  constructor
  · intro hsaving
    cases hsaving
  · rintro ⟨j, q, hc⟩
    exact absurd (hseated.session_le _ _ _ hc) (Nat.not_succ_le_self _)

theorem saving_revision {e : Event} {f : Editor → Editor} (h : e.revision = some f) (ed : Editor) :
    (f ed).saving = ed.saving := by
  cases e <;> cases h <;> rfl

/-- Events keep the mark. -/
theorem Marked.handled {e : Event} {c : Option Call} (h : Marked k cs) (hseated : Seated k cs)
    (hh : Handled k e k' c) : Marked k' (cs ++ c.toList) := by
  cases hh with
  | aside _ hk =>
    refine h.of_editor fun d hd => ?_
    rw [hk.modal] at hd
    exact ⟨d, hd, rfl, rfl, by simp⟩
  | edited hr hk =>
    refine h.of_editor fun d hd => ?_
    rw [hk.modal, Modal.editor_modifyEditor] at hd
    obtain ⟨ed, hed, rfl⟩ := Option.map_eq_some_iff.1 hd
    exact ⟨ed, hed, (Event.continues_revision hr ed).session, saving_revision hr ed, by simp⟩
  | opened _ _ hk => exact (List.append_nil cs).symm ▸ Marked.of_openOn hseated hk.modal
  | added _ _ hk => exact (List.append_nil cs).symm ▸ Marked.of_openOn hseated hk.modal
  | closed hk =>
    intro d hd
    rw [hk.modal] at hd
    cases hd
  | @saved ed e k' hed _ _ hk =>
    intro d hd
    rw [hk.modal, Modal.editor_modifyEditor, hed] at hd
    cases hd
    exact ⟨fun _ => ⟨ed.entry, ed.request, by simp⟩, fun _ => rfl⟩
  | dropped _ _ _ hk =>
    refine h.of_editor fun d hd => ?_
    rw [hk.modal] at hd
    exact ⟨d, (Modal.editor_closeIfOn.1 hd).1, rfl, rfl, by simp⟩
  | deleted _ _ _ hk =>
    refine h.of_editor fun d hd => ?_
    rw [hk.modal] at hd
    exact ⟨d, hd, rfl, rfl, by simp⟩

/-- Settlements keep the mark: a save that settles closes the editor of its opening. -/
theorem Marked.settled {s : Settlement} {ch : Change} (h : Marked k cs) (hs : Settled k s k' ch) :
    Marked k' (cs.erase s.call) := by
  refine h.of_editor fun d hd => ?_
  rw [hs.editor_eq] at hd
  obtain ⟨ed, hed, hon⟩ := Option.bind_eq_some_iff.1 hd
  unfold Settlement.onEditor at hon
  split at hon
  · cases hon
  · rename_i hcloses
    obtain ⟨i, key, hturn, -⟩ := s.turn_eq k.nextId ed
    obtain rfl := Option.some.inj hon
    refine ⟨ed, hed, by rw [hturn], by rw [hturn], fun j r => List.mem_erase_of_ne fun hc => hcloses ?_⟩
    cases s with
    | save j' t r' result =>
      cases hc
      simp [Settlement.closes]
    | delete j' key' result => cases hc

end Desk

namespace Flight

variable {f : Flight}

theorem marked_run (p : Page) (o : Options) (ms : List Move) :
    Desk.Marked ((start p o).run ms).desk ((start p o).run ms).calls := by
  have hboth : ((start p o).run ms).Sound ∧ Desk.Marked ((start p o).run ms).desk ((start p o).run ms).calls := by
    refine run_induction (P := fun f => f.Sound ∧ f.desk.Marked f.calls) ⟨sound_start p o, ?_⟩ ?_ ?_ ms
    · intro ed hed
      cases hed
    · rintro g e k c ⟨hg, hm⟩ hh
      exact ⟨hg.event hh, hm.handled hg.seated hh⟩
    · rintro g s ⟨hg, hm⟩ hs
      exact ⟨hg.settle hs, hm.settled (hg.settled hs)⟩
  exact hboth.2

/-- A busy entry is one for which a call is in flight. -/
theorem Sound.refusedAsBusy_iff (h : f.Sound) {e : Event} (he : e.needsRest = true) : f.desk.RefusedAsBusy e ↔
    f.desk.access = .writable ∧ ∃ c ∈ f.calls, f.desk.subject? e = some c.entry := by
  rw [Desk.refusedAsBusy_iff h.numbered.nodup he]
  refine and_congr_right fun _ => ⟨?_, ?_⟩
  · rintro ⟨x, hx, hi, hs⟩
    obtain ⟨c, hc, hcx⟩ := h.matched.called x hx hs
    exact ⟨c, hc, hcx ▸ hi⟩
  · rintro ⟨c, hc, hi⟩
    obtain ⟨x, hx, hxc, hfits⟩ := h.matched.fits c hc
    exact ⟨x, hx, hxc ▸ hi, hfits.waits⟩

/-- What an entry waits for. -/
theorem Sound.exists_save_iff (h : f.Sound) {e : Entry} (he : e ∈ f.desk.entries) :
    e.state = .saving ↔ ∃ t r, .save e.id t r ∈ f.calls := by
  constructor
  · intro hs
    obtain ⟨c, hc, hi⟩ := h.matched.called e he (hs ▸ EntryState.noConfusion)
    have hfits := h.fits hc he hi
    cases c with
    | save i t r => exact ⟨t, r, hi ▸ hc⟩
    | delete i key => exact EntryState.noConfusion (hs.symm.trans hfits.1)
  · rintro ⟨t, r, hc⟩
    exact (h.fits hc he rfl).1

section

variable {n : Node}

/-- Saving is refused where the button is disabled: the save of this opening is in flight. -/
theorem Sound.refused_of_saving (h : f.Sound) (hm : f.desk.Marked f.calls) (hn : n ∈ f.desk.view.nodes)
    (ha : n.face.affordance = some .save) (hd : n.face.disabled = true) : f.desk.RefusedAsBusy .saveClicked := by
  obtain ⟨ed, hed, hsaving⟩ := (f.desk.wired_view n hn).save ha
  obtain ⟨i, r, hc⟩ := (hm ed hed).1 (hsaving ▸ hd)
  have hi : ed.entry = i := h.seated.on_entry i ed.session r ed hc hed rfl
  refine (h.refusedAsBusy_iff rfl).2 ⟨Desk.writable_of_mem_nodes hn ha rfl, _, hc, ?_⟩
  simp [hed, hi, Call.entry]

/-- Deleting is refused where the control is disabled: the entry is being deleted. -/
theorem Sound.refused_of_deleting (h : f.Sound) {i : EntryId} (hn : n ∈ f.desk.view.nodes)
    (ha : n.face.affordance = some (.deleteEntry i)) (hd : n.face.disabled = true) :
    f.desk.RefusedAsBusy (.deleteClicked i) := by
  obtain ⟨e, he, rfl, hpending⟩ := (f.desk.wired_view n hn).delete i ha
  have hs : e.state = .pendingDelete := eq_of_beq (hpending ▸ hd)
  refine (Desk.refusedAsBusy_iff h.numbered.nodup rfl).2 ⟨Desk.writable_of_mem_nodes hn ha rfl, e, he, rfl, ?_⟩
  rw [hs]
  exact EntryState.noConfusion

/-- The enabled button does not look at the calls that this opening of the editor did not send. -/
theorem Sound.save_refused_iff (h : f.Sound) (hm : f.desk.Marked f.calls) (hn : n ∈ f.desk.view.nodes)
    (ha : n.face.affordance = some .save) (hd : n.face.disabled = false) : f.desk.RefusedAsBusy .saveClicked ↔
      ∃ ed, f.desk.modal.editor = some ed ∧ ∃ c ∈ f.calls, c.entry = ed.entry ∧ c.session? ≠ some ed.session := by
  obtain ⟨ed, hed, hsaving⟩ := (f.desk.wired_view n hn).save ha
  rw [h.refusedAsBusy_iff rfl]
  constructor
  · rintro ⟨-, c, hc, hi⟩
    have hentry : ed.entry = c.entry := by simpa [hed] using hi
    refine ⟨ed, hed, c, hc, hentry.symm, ?_⟩
    intro hsession
    cases c with
    | delete i key => cases hsession
    | save i t r =>
      cases hsession
      have hsent : ed.saving = true := (hm ed hed).2 ⟨i, r, hc⟩
      rw [← hsaving, hd] at hsent
      cases hsent
  · rintro ⟨d, hd', c, hc, hi, -⟩
    refine ⟨Desk.writable_of_mem_nodes hn ha rfl, c, hc, ?_⟩
    simp [hd', hi]

/-- The enabled control does not look at a save. -/
theorem Sound.delete_refused_iff (h : f.Sound) {i : EntryId} (hn : n ∈ f.desk.view.nodes)
    (ha : n.face.affordance = some (.deleteEntry i)) (hd : n.face.disabled = false) :
    f.desk.RefusedAsBusy (.deleteClicked i) ↔ ∃ t r, .save i t r ∈ f.calls := by
  obtain ⟨e, he, rfl, hpending⟩ := (f.desk.wired_view n hn).delete i ha
  rw [Desk.refusedAsBusy_iff h.numbered.nodup rfl, ← h.exists_save_iff he]
  constructor
  · rintro ⟨-, x, hx, hi, hs⟩
    obtain rfl := Desk.eq_of_id_eq h.numbered.nodup he hx (Option.some.inj hi)
    cases hst : e.state with
    | clean => exact absurd hst hs
    | saving => rfl
    | pendingDelete => simp [hst, hd] at hpending
  · intro hs
    refine ⟨Desk.writable_of_mem_nodes hn ha rfl, e, he, rfl, ?_⟩
    rw [hs]
    exact EntryState.noConfusion

end

/-- What the controls that save and delete tell about the refusal of their events, for all nodes of the tree, hidden
ones included. -/
structure Signals (f : Flight) : Prop where
  /-- Where a control is disabled, its event is refused, as the entry is busy. -/
  disabled : ∀ n ∈ f.desk.view.nodes, ∀ a text, n.face.affordance = some a → a = .save ∨ (∃ i, a = .deleteEntry i) →
    n.face.disabled = true → f.desk.RefusedAsBusy (a.toEvent text)
  /-- Where it is enabled, saving is refused in this way exactly if a call for the entry is in flight that this opening
  of the editor did not send. -/
  save : ∀ n ∈ f.desk.view.nodes, n.face.affordance = some .save → n.face.disabled = false →
    (f.desk.RefusedAsBusy .saveClicked ↔
      ∃ ed, f.desk.modal.editor = some ed ∧ ∃ c ∈ f.calls, c.entry = ed.entry ∧ c.session? ≠ some ed.session)
  /-- And deleting exactly if a save of the entry is in flight. -/
  delete : ∀ n ∈ f.desk.view.nodes, ∀ i, n.face.affordance = some (.deleteEntry i) → n.face.disabled = false →
    (f.desk.RefusedAsBusy (.deleteClicked i) ↔ ∃ t r, .save i t r ∈ f.calls)
  /-- A user who may edit sees the button of the open editor. -/
  saveShown : f.desk.access = .writable → ∀ ed, f.desk.modal.editor = some ed →
    Editor.saveButton ed.saving ∈ f.desk.view.shown
  /-- And the control of every visible card. -/
  deleteShown : f.desk.access = .writable → ∀ e ∈ f.desk.entries, e.visible = true →
    Card.deleteControl e.id (e.state == .pendingDelete) ∈ f.desk.view.shown

theorem Sound.signals (h : f.Sound) (hm : f.desk.Marked f.calls) : f.Signals where
  disabled := by
    rintro n hn a text ha (rfl | ⟨i, rfl⟩) hd
    · exact h.refused_of_saving hm hn ha hd
    · exact h.refused_of_deleting hn ha hd
  save := fun _ hn ha hd => h.save_refused_iff hm hn ha hd
  delete := fun _ hn _ ha hd => h.delete_refused_iff hn ha hd
  saveShown := fun ha _ hed => Desk.saveButton_mem_shown ha hed
  deleteShown := fun ha _ he hv => Desk.deleteControl_mem_shown ha he hv

/-- **Disabled and enabled controls**: in every state that a run comes to, what is disabled is refused because an entry
is busy, and what is enabled is refused in this way exactly if the control does not look at the call in flight. -/
theorem signals_run (p : Page) (o : Options) (ms : List Move) : ((start p o).run ms).Signals :=
  (sound_run p o ms).signals (marked_run p o ms)

/-- A card that was opened again while it is being saved: the button and the control are there and enabled, and both are
refused. -/
theorem busy_reopenedWhileSaving :
    (∃ n ∈ ((start twoCards {}).run reopenedWhileSaving).desk.view.shown,
      n.face.affordance = some .save ∧ n.face.disabled = false ∧
      ((start twoCards {}).run reopenedWhileSaving).desk.RefusedAsBusy .saveClicked) ∧
    ∃ n ∈ ((start twoCards {}).run reopenedWhileSaving).desk.view.shown,
      n.face.affordance = some (.deleteEntry ⟨1⟩) ∧ n.face.disabled = false ∧
      ((start twoCards {}).run reopenedWhileSaving).desk.RefusedAsBusy (.deleteClicked ⟨1⟩) := by
  have hsave : (((start twoCards {}).run reopenedWhileSaving).desk.view.shown.any fun n =>
      n.face.affordance == some .save && !n.face.disabled) = true := by decide +kernel
  have hdelete : (((start twoCards {}).run reopenedWhileSaving).desk.view.shown.any fun n =>
      n.face.affordance == some (.deleteEntry ⟨1⟩) && !n.face.disabled) = true := by decide +kernel
  obtain ⟨n, hn, hs⟩ := List.any_eq_true.1 hsave
  obtain ⟨m, hm, hd⟩ := List.any_eq_true.1 hdelete
  rw [Bool.and_eq_true, beq_iff_eq, Bool.not_eq_true'] at hs hd
  exact ⟨⟨n, hn, hs.1, hs.2, ⟨1⟩, .saving, rfl⟩, m, hm, hd.1, hd.2, ⟨1⟩, .saving, rfl⟩

end Flight

end AckDesk
