import AckDesk.Proofs.Flight.Opening

/-!
# Editors whose entry is gone

An editor stays open on an entry that is no longer in the list in one way only: while it was open, a save that an
earlier opening had sent failed, and its entry had no key, so that the failure took the entry off the list but closed
no editor other than the one that sent it (`strands`). This is the exact condition (`dangling_run`), and saving from
such an editor is refused, since its entry is not known.
-/

namespace AckDesk

namespace Desk

/-- Saving is refused for an unknown entry if the open editor is on one. -/
theorem handle_saveClicked_eq_unknownEntry {k : Desk} {i : EntryId} :
    k.handle .saveClicked = .error (.unknownEntry i) ↔
      k.access.canEdit = true ∧ ∃ ed, k.modal.editor = some ed ∧ i = ed.entry ∧ k.entry? ed.entry = none := by
  rw [handle, show Event.saveClicked.isMutation = true from rfl, Bool.true_and]
  cases ha : k.access.canEdit with
  | false => simp
  | true =>
    simp only [Bool.not_true, Bool.false_eq_true, if_false, true_and]
    show k.startSave = _ ↔ _
    unfold startSave
    cases hed : k.modal.editor with
    | none => simp
    | some ed =>
      cases he : k.entry? ed.entry with
      | none => simp [idleEntry, he, Except.map, eq_comm]
      | some e =>
        by_cases hs : e.state = .clean
        · simp [idleEntry, he, hs, Except.map]
        · simp [idleEntry, he, hs, Except.map]

end Desk

namespace Flight

variable {f : Flight} {t : Session}

/-- The move settles a call in flight, and that strands the opening. -/
def strands (t : Session) (f : Flight) (m : Move) : Prop :=
  ∃ ed s, f.desk.modal.editor = some ed ∧ ed.session = t ∧ m = .settle s ∧ s.call ∈ f.calls ∧ f.desk.Strands s ed

/-- An opening that was stranded is not one to come. -/
theorem session_le_of_strands (p : Page) (o : Options) {ms : List Move} (h : (start p o).Met ms (strands t)) :
    t.number ≤ ((start p o).run ms).desk.modal.lastSession := by
  obtain ⟨before, m, after, rfl, ed, _, hed, rfl, -⟩ := h
  rw [run_append]
  exact (sound_run p o before).session_le_run hed (m :: after)

/-- The entry of an open editor is gone if the opening was stranded. -/
theorem not_mem_ids_run (p : Page) (o : Options) (ms : List Move) (ed : Editor)
    (hed : ((start p o).run ms).desk.modal.editor = some ed) :
    ed.entry ∉ ((start p o).run ms).desk.ids ↔ (start p o).Met ms (strands ed.session) := by
  induction ms using List.reverseRecOn generalizing ed with
  | nil => cases hed
  | append_singleton ms m ih =>
    have hf := sound_run p o ms
    rw [met_concat]
    rw [run_concat] at hed ⊢
    rcases step_cases ((start p o).run ms) m with ⟨hm, hs⟩ | ⟨e, k, c, rfl, hh, hm⟩ | ⟨s, rfl, hs, hm⟩
    · rw [hm] at hed ⊢
      rw [ih ed hed, or_iff_left]
      rintro ⟨_, s, -, -, rfl, hc, -⟩
      exact hs s rfl hc
    · rw [hm] at hed ⊢
      rw [or_iff_left (by rintro ⟨_, _, -, -, h, -⟩; cases h)]
      rcases (Desk.handled_of_handle hh).editor hed with ⟨e₀, he₀, rfl⟩ | ⟨d, hd⟩
      · -- a new opening was not stranded before
        refine iff_of_false (fun h => h (List.mem_map_of_mem he₀)) fun h => ?_
        exact absurd (session_le_of_strands p o h) (Nat.not_succ_le_self _)
      · rw [hd.ids, ih d hd.editor, hd.session]
    · rw [hm] at hed ⊢
      obtain ⟨d, hd⟩ := (hf.settled hs).editor hf.numbered hed
      rw [hd.ids, not_and_or, not_not, ih d hd.editor, hd.session]
      refine or_congr_right ⟨fun h => ⟨d, s, hd.editor, rfl, rfl, hs, h⟩, ?_⟩
      rintro ⟨d', s', hd', -, h, -, hst⟩
      cases h
      cases hd.editor.symm.trans hd'
      exact hst

/-- **Editors whose entry is gone**: after every run, the entry of the open editor is not in the list exactly if this
opening was stranded, and saving is refused for an unknown entry exactly if it was and the user may edit. -/
theorem dangling_run (p : Page) (o : Options) (ms : List Move) (ed : Editor)
    (hed : ((start p o).run ms).desk.modal.editor = some ed) :
    ((start p o).Met ms (strands ed.session) ↔ Desk.entry? ((start p o).run ms).desk ed.entry = none) ∧
    ∀ i, ((start p o).run ms).desk.handle .saveClicked = .error (.unknownEntry i) ↔
      ((start p o).run ms).desk.access.canEdit = true ∧ i = ed.entry ∧ (start p o).Met ms (strands ed.session) := by
  have hgone : (start p o).Met ms (strands ed.session) ↔ Desk.entry? ((start p o).run ms).desk ed.entry = none := by
    rw [Desk.entry?_eq_none_iff_ids, not_mem_ids_run p o ms ed hed]
  refine ⟨hgone, fun i => ?_⟩
  rw [Desk.handle_saveClicked_eq_unknownEntry, hgone, hed]
  refine and_congr_right fun _ => ⟨?_, fun h => ⟨ed, rfl, h⟩⟩
  rintro ⟨d, hd, h⟩
  cases hd
  exact h

/-- A draft is saved and opened again, and then its save fails. -/
def draftReopened : List Move := [
  .event (.searchTextChanged "net"), .event .addFromSearchClicked, .event .saveClicked, .event (.cardClicked ⟨1⟩),
  .settle (.save ⟨1⟩ ⟨1⟩ ⟨none, "net", ⟨[], [], []⟩, some ""⟩ (.error .transport))]

/-- A page without cards, whose user may edit. -/
def blankPage : Page := { readOnly := false }

theorem dangling_draftReopened : ∃ ed, ((start blankPage {}).run draftReopened).desk.modal.editor = some ed ∧
    (start blankPage {}).Met draftReopened (strands ed.session) ∧
    ((start blankPage {}).run draftReopened).desk.handle .saveClicked = .error (.unknownEntry ed.entry) := by
  have hopen : ((start blankPage {}).run draftReopened).desk.modal.editor.map (·.entry) = some ⟨1⟩ := by
    decide +kernel
  have hgone : Desk.entry? ((start blankPage {}).run draftReopened).desk ⟨1⟩ = none := by decide +kernel
  have hedit : ((start blankPage {}).run draftReopened).desk.access.canEdit = true := by decide +kernel
  obtain ⟨ed, hed, hi⟩ := Option.map_eq_some_iff.1 hopen
  obtain ⟨hmet, hsave⟩ := dangling_run blankPage {} draftReopened ed hed
  exact ⟨ed, hed, hmet.2 (hi ▸ hgone), (hsave _).2 ⟨hedit, rfl, hmet.2 (hi ▸ hgone)⟩⟩

end Flight

end AckDesk
