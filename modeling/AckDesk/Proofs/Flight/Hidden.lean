import AckDesk.Proofs.Flight.Issued

/-!
# Hidden entries

A hidden entry is a draft that the user added and that was not saved yet, and it is never left behind: while it is at
rest the editor is open on it, and else its first save is in flight (`noOrphans_run`). It was added for the text in the
search box, so it has a test name without blanks around it (`trimmed_run`).
-/

namespace AckDesk.Flight

/-- Hidden entries have test names without blanks around them. -/
theorem trimmed_run (p : Page) (o : Options) (ms : List Move) :
    ∀ e ∈ ((start p o).run ms).desk.entries, e.visible = false → Text.Trimmed e.record.testName := by
  induction ms using List.reverseRecOn with
  | nil =>
    intro e he hv
    have hvis := (Desk.mem_page he).2.1
    exact absurd (hvis.symm.trans hv) nofun
  | append_singleton ms m ih =>
    intro e he hv
    rw [run_concat] at he
    rcases (sound_run p o ms).origin he with ⟨d, hd, -, hr, hvd⟩ | ⟨ht, hn, rfl⟩ | ⟨-, rfl⟩
    · rw [← hr]
      exact ih d hd (hvd.trans hv)
    · subst ht
      exact Text.trimmed_trim hn
    · cases hv

/-- No hidden entry is left behind, where the calls `cs` were asked for so far. -/
structure NoOrphans (f : Flight) (cs : List Call) : Prop where
  /-- A hidden entry has no key, is not being deleted, and has a test name without blanks around it. -/
  hidden : ∀ e ∈ f.desk.entries, e.visible = false →
    e.record.key = none ∧ e.state ≠ .pendingDelete ∧ Text.Trimmed e.record.testName
  /-- At rest it is the entry of the open editor. -/
  edited : ∀ e ∈ f.desk.entries, e.visible = false → e.state = .clean →
    ∃ ed, f.desk.modal.editor = some ed ∧ ed.entry = e.id
  /-- So at most one hidden entry is at rest. -/
  single : (f.desk.entries.filter fun e => !e.visible && e.state == .clean).length ≤ 1
  /-- None is at rest where no editor is open. -/
  closed : f.desk.modal.isOpen = false → ∀ e ∈ f.desk.entries, e.visible = false → e.state ≠ .clean
  /-- For any other the only call ever asked for is a save that creates its record, and this is in flight. -/
  first : ∀ e ∈ f.desk.entries, e.visible = false → e.state ≠ .clean → ∃ s r, r.key = none ∧
    Call.save e.id s r ∈ f.calls ∧ cs.filter (·.entry = e.id) = [.save e.id s r]

variable {f : Flight} {cs : List Call}

/-- The only call that was asked for on behalf of a hidden entry that waits. -/
theorem Recorded.first_save (h : f.Recorded cs) (hf : f.Sound) {e : Entry} (he : e ∈ f.desk.entries)
    (hv : e.visible = false) (hs : e.state ≠ .clean) : ∃ s r, r.key = none ∧
    Call.save e.id s r ∈ f.calls ∧ cs.filter (·.entry = e.id) = [.save e.id s r] := by
  have hk := hf.drafts.no_key e he hv
  obtain ⟨c, hc, hi, hfit⟩ := hf.exists_call he hs
  have hmem : c ∈ f.calls := List.mem_of_mem_filter (hc ▸ List.mem_singleton_self c)
  rw [h.keyless e he hk, hc]
  cases c with
  | save i s r =>
    obtain rfl : i = e.id := hi
    exact ⟨s, r, hfit.2.1.trans hk, hmem, rfl⟩
  | delete i key => exact absurd (hk.symm.trans hfit.2) nofun

/-- What is sound and recorded leaves no hidden entry behind. -/
theorem NoOrphans.of_sound (hf : f.Sound) (h : f.Recorded cs)
    (ht : ∀ e ∈ f.desk.entries, e.visible = false → Text.Trimmed e.record.testName) : f.NoOrphans cs where
  hidden := fun e he hv => ⟨hf.drafts.no_key e he hv, hf.drafts.not_deleted e he hv, ht e he hv⟩
  edited := fun e he hv hs => Modal.isOn_iff.1 (hf.drafts.edited e he hv hs)
  single := hf.drafts.clean_le_one hf.numbered.nodup
  closed := by
    intro hm e he hv hs
    obtain ⟨ed, hed, -⟩ := Modal.isOn_iff.1 (hf.drafts.edited e he hv hs)
    simp [Modal.isOpen, hed] at hm
  first := fun e he hv hs => h.first_save hf he hv hs

/-- **Hidden entries**: no run leaves a hidden entry behind. -/
theorem noOrphans_run (p : Page) (o : Options) (ms : List Move) :
    ((start p o).run ms).NoOrphans ((start p o).issued ms) :=
  .of_sound (sound_run p o ms) (recorded_run p o ms) (trimmed_run p o ms)

end AckDesk.Flight
