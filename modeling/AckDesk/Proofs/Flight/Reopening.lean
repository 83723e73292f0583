import AckDesk.Proofs.Editor
import AckDesk.Proofs.Flight.Access
import AckDesk.Proofs.Flight.Lifecycle

/-!
# Saving and opening again

A save that settles with success puts a card on the list under a new number, and the editor that is opened on this card
holds what was saved, with ascending values (`Reopens`). Saved as it is, it sends the record that was sent before, now
under the key; so after one save and one opening nothing changes any more (`reopened_run`).
-/

namespace AckDesk

/-- The save of the editor, settled under a key. -/
def Editor.saved (ed : Editor) (key : Key) : Settlement := .save ed.entry ed.session ed.request (.ok key)

namespace Desk

variable {k : Desk} {ed : Editor}

/-- The card with the number can be opened. Its editor holds under the key what `ed` held, and can be saved at once,
which sends what `ed` would have sent under the key. -/
def Reopens (k : Desk) (i : EntryId) (ed : Editor) (key : Key) : Prop :=
  ∃ k' d k'', k.handle (.cardClicked i) = .ok (k', none) ∧ k'.modal.editor = some d ∧ d.entry = i ∧
    d.Restores ed key ∧ k'.handle .saveClicked = .ok (k'', some (.save i d.session (ed.request.withKey key)))

/-- A card at rest that shows what an editor sent, under a key, gives it back. -/
theorem reopens_of_lookup {new : EntryId} {key : Key} (ha : k.access.canEdit = true)
    (he : k.entry? new = some ⟨new, ed.request.withKey key, .clean, true⟩) : k.Reopens new ed key := by
  obtain ⟨k', hopen, hmodal, haccess, hstays⟩ := handle_cardClicked he EntryState.noConfusion
  have hed : k'.modal.editor = some (.ofRecord new k.modal.nextSession (ed.request.withKey key)) := by
    rw [hmodal, Modal.editor_openOn]
  have hrestores := ed.restores_ofRecord key new k.modal.nextSession
  obtain ⟨k'', hsave⟩ := handle_saveClicked (haccess ▸ ha) hed hstays rfl
  rw [hrestores.request] at hsave
  exact ⟨k', _, k'', hopen, hed, rfl, hrestores, hsave⟩

end Desk

namespace Flight

variable {f : Flight} {ed : Editor} {key : Key}

/-- If the editor's save settles under the key, the card that this reports gives back what the editor held. -/
def GivesBack (f : Flight) (ed : Editor) (key : Key) : Prop :=
  ∃ new, ((f.desk.settle (ed.saved key)).2 = .inserted new key ∨
      (f.desk.settle (ed.saved key)).2 = .replaced ed.entry new key) ∧
    (f.step (.settle (ed.saved key))).desk.Reopens new ed key

/-- A save in flight that succeeds leaves its card at rest, under the number that it reports. -/
theorem Sound.givesBack (h : f.Sound) (ha : f.desk.access.canEdit = true) (hc : (ed.saved key).call ∈ f.calls) :
    f.GivesBack ed key := by
  have hst := h.settled hc
  obtain ⟨e, he, -⟩ := h.exists_entry hc
  obtain ⟨hmem, hi⟩ := Desk.mem_of_lookup he
  refine ⟨f.desk.nextId, ?_, ?_⟩
  · rw [hst.change_eq he]
    cases hd : e.record.isDraft with
    | true => exact .inl (by simp [Editor.saved, Settlement.change, hd])
    | false => exact .inr (by simp [Editor.saved, Settlement.change, hd])
  · rw [step_settle hc]
    refine Desk.reopens_of_lookup ((Desk.access_settle _ _).symm ▸ ha) ?_
    refine (Desk.entry?_eq_some (h.numbered.settled hst).nodup).2 ⟨?_, rfl⟩
    rw [hst.has_saved.entries]
    exact Desk.mem_replaceSaved.2 (.inr ⟨⟨e, hmem, hi⟩, rfl⟩)

/-- **Saving and opening again**: in a run over a page that may be changed, an editor whose entry is at rest can be
saved. If this save settles with success, now or later, the card that it reports gives back what the editor held when it
was saved, and sends it again. -/
theorem reopened_run (p : Page) (o : Options) (hp : p.readOnly = false) (ms : List Move) {ed : Editor} {e : Entry}
    (hed : ((start p o).run ms).desk.modal.editor = some ed)
    (he : Desk.entry? ((start p o).run ms).desk ed.entry = some e) (hs : e.state = .clean) :
    (∃ k, ((start p o).run ms).desk.handle .saveClicked = .ok (k, some (.save ed.entry ed.session ed.request))) ∧
    ∀ ns key, .save ed.entry ed.session ed.request ∈ ((start p o).run (ms ++ .event .saveClicked :: ns)).calls →
      ((start p o).run (ms ++ .event .saveClicked :: ns)).GivesBack ed key := by
  have hedit : ∀ ns, ((start p o).run ns).desk.access.canEdit = true := by
    intro ns
    rw [access_run, hp]
    rfl
  exact ⟨Desk.handle_saveClicked (hedit ms) hed he hs, fun ns key hc => (sound_run p o _).givesBack (hedit _) hc⟩

/-- Two branches are typed into the editor of the first card, the greater one first. -/
def twoBranches : List Move := [
  .event (.cardClicked ⟨1⟩),
  .event (.chipBox .branches (.textChanged "main")), .event (.chipBox .branches .enterPressed),
  .event (.chipBox .branches (.textChanged "beta")), .event (.chipBox .branches .enterPressed)]

theorem reopened_twoBranches : ∃ ed e, twoCards.readOnly = false ∧
    ((start twoCards {}).run twoBranches).desk.modal.editor = some ed ∧
    Desk.entry? ((start twoCards {}).run twoBranches).desk ed.entry = some e ∧ e.state = .clean ∧
    (ed.chips.get .branches).values = ["main", "beta"] ∧
    ((start twoCards {}).run (twoBranches ++ [.event .saveClicked])).GivesBack ed ⟨"k1"⟩ := by
  have hopen : (((start twoCards {}).run twoBranches).desk.modal.editor.any fun ed =>
      (ed.chips.get .branches).values = ["main", "beta"] ∧
      (Option.any (·.state == .clean) <| Desk.entry? ((start twoCards {}).run twoBranches).desk ed.entry)) = true := by
    decide +kernel
  obtain ⟨ed, hed, hopen⟩ := (Option.any_eq_true _ _).1 hopen
  obtain ⟨hchips, he⟩ := of_decide_eq_true hopen
  obtain ⟨e, he, hs⟩ := (Option.any_eq_true _ _).1 he
  have hclean : e.state = .clean := eq_of_beq hs
  obtain ⟨⟨k, hsave⟩, hback⟩ := reopened_run twoCards {} rfl twoBranches hed he hclean
  refine ⟨ed, e, rfl, hed, he, hclean, hchips, hback [] ⟨"k1"⟩ ?_⟩
  rw [run_concat]
  simp [step, hsave]

end Flight

end AckDesk
