import AckDesk.Proofs.Flight.Matching
import Mathlib.Data.List.Perm.Subperm

/-!
# The open editor and the drafts

* The open editor is **coherent** with its entry (`Coherent`): it saves under the key and the test name that the
  entry shows. A settled save that replaces the entry turns the editor to the new one, under the new key.
* A save in flight is **seated** (`Seated`): if its opening is still shown, the editor is on the entry being saved.
* A hidden entry is a **draft** (`Drafts`): it has no key, is not being deleted, and while it is at rest the editor is
  open on it.
-/

namespace AckDesk.Desk

variable {k k' : Desk} {cs ds : List Call}

/-! ## Coherence -/

theorem Coherent.of_keeps (h : Coherent k) (hm : k.modal.Keeps k'.modal)
    (he : ∀ e ∈ k'.entries, ∃ d ∈ k.entries, d.id = e.id ∧ d.record = e.record) : Coherent k' := by
  intro ed e hed hmem hi
  obtain ⟨d, hd, hc⟩ := hm.editor ed hed
  obtain ⟨x, hx, hxi, hxr⟩ := he e hmem
  rw [hc.key, hc.testName, ← hxr]
  exact h d x hd hx (hxi.trans (hi.trans hc.entry))

theorem Coherent.of_subset (h : Coherent k) (hm : k.modal.Keeps k'.modal) (he : ∀ e ∈ k'.entries, e ∈ k.entries) :
    Coherent k' :=
  h.of_keeps hm fun e hmem => ⟨e, he e hmem, rfl, rfl⟩

theorem Coherent.of_modifyState (h : Coherent k) (hm : k.modal.Keeps k'.modal) {i : EntryId} {st : EntryState}
    (he : k'.entries = (k.modifyEntry i fun e => { e with state := st }).entries) : Coherent k' := by
  refine h.of_keeps hm fun e hmem => ?_
  rw [he] at hmem
  obtain ⟨d, hd, hi, hr, -⟩ := mem_of_mem_modifyState hmem
  exact ⟨d, hd, hi, hr⟩

/-- Events keep the editor coherent. -/
theorem Coherent.handled {e : Event} {c : Option Call} (h : Coherent k) (hn : Numbered k) (hh : Handled k e k' c) :
    Coherent k' := by
  cases hh with
  | aside _ hk => exact h.of_subset (hk.modal ▸ k.modal.keeps_refl) fun _ hx => hk.entries ▸ hx
  | edited hr hk =>
    exact h.of_subset (hk.modal ▸ k.modal.keeps_modifyEditor (Event.continues_revision hr))
      fun _ hx => hk.entries ▸ hx
  | @opened i e k' he _ hk =>
    intro ed x hed hx hi
    rw [hk.modal] at hed
    cases hed
    have hx : x ∈ k.entries := by
      rw [hk.entries] at hx
      split at hx
      · exact hx
      · exact (mem_discardOpenDraft.1 hx).1
    obtain rfl := eq_of_lookup hn.nodup he hx hi
    exact ⟨rfl, rfl⟩
  | added _ _ hk =>
    intro ed x hed hx hi
    rw [hk.modal] at hed
    cases hed
    rw [hk.entries] at hx
    rcases List.mem_cons.1 hx with rfl | hx
    · exact ⟨rfl, rfl⟩
    · exact absurd hi (hn.ne_nextId (mem_discardOpenDraft.1 hx).1)
  | closed hk =>
    exact h.of_subset (hk.modal ▸ k.modal.keeps_close) fun x hx => (mem_discardOpenDraft.1 (hk.entries ▸ hx)).1
  | saved _ _ _ hk =>
    exact h.of_modifyState (hk.modal ▸ k.modal.keeps_modifyEditor Editor.continues_saving) hk.entries
  | dropped _ _ _ hk =>
    exact h.of_subset (hk.modal ▸ k.modal.keeps_closeIfOn _) fun x hx => (mem_removeEntry.1 (hk.entries ▸ hx)).1
  | deleted _ _ _ hk => exact h.of_modifyState (hk.modal ▸ k.modal.keeps_refl) hk.entries

/-- The editor after its entry was replaced, if it is still open. -/
theorem editor_saved {i : EntryId} {s : Session} {r : Record} {key : Key} {d : Editor}
    (h : ((k.replaceSaved i r key).modal.closeIfShowing s).editor = some d) :
    ∃ ed, k.modal.editor = some ed ∧ ed.session ≠ s ∧ d = if ed.entry = i then ed.retarget k.nextId key else ed := by
  obtain ⟨h, hs⟩ := Modal.editor_closeIfShowing.1 h
  obtain ⟨ed, hed, rfl⟩ := Option.map_eq_some_iff.1 h
  refine ⟨ed, hed, fun he => hs ?_, rfl⟩
  split
  · exact he
  · exact he

/-- Settlements keep the editor coherent. -/
theorem Coherent.settled {s : Settlement} {ch : Change} (h : Coherent k) (hn : Numbered k) (hm : Matched k cs)
    (hc : s.call ∈ cs) (hs : Settled k s k' ch) : Coherent k' := by
  cases hs with
  | @saved i s r key e k' he hk =>
    obtain ⟨hmem, hid⟩ := mem_of_lookup he
    intro ed x hed hx hi
    rw [hk.modal] at hed
    rw [hk.entries] at hx
    obtain ⟨d, hd, -, rfl⟩ := editor_saved hed
    by_cases hdi : d.entry = i
    · rw [if_pos hdi] at hi ⊢
      rcases mem_replaceSaved.1 hx with ⟨hx, -⟩ | ⟨-, rfl⟩
      · exact absurd hi (hn.ne_nextId hx)
      · obtain ⟨y, hy, hyi, -, -, hyn⟩ := hm.fits _ hc
        obtain rfl := eq_of_lookup hn.nodup he hy hyi
        exact ⟨rfl, (h d y hd hmem (hid.trans hdi.symm)).2.trans hyn.symm⟩
    · rw [if_neg hdi] at hi ⊢
      rcases mem_replaceSaved.1 hx with ⟨hx, -⟩ | ⟨-, rfl⟩
      · exact h d x hd hx hi
      · exact absurd hi.symm (hn.editor_ne_nextId hd)
  | discarded _ _ hk =>
    exact h.of_subset (hk.modal ▸ k.modal.keeps_closeIfShowing _) fun x hx => (mem_removeEntry.1 (hk.entries ▸ hx)).1
  | reverted _ _ hk => exact h.of_modifyState (hk.modal ▸ k.modal.keeps_closeIfShowing _) hk.entries
  | removed _ hk =>
    exact h.of_subset (hk.modal ▸ k.modal.keeps_closeIfOn _) fun x hx => (mem_removeEntry.1 (hk.entries ▸ hx)).1
  | restored _ hk => exact h.of_modifyState (hk.modal ▸ k.modal.keeps_refl) hk.entries

/-! ## Openings that are saving -/

/-- The openings that calls in flight come from were there, and one that is still shown is on the entry it saves. -/
structure Seated (k : Desk) (cs : List Call) : Prop where
  session_le : ∀ i s r, .save i s r ∈ cs → s.number ≤ k.modal.lastSession
  on_entry : ∀ i s r ed, .save i s r ∈ cs → k.modal.editor = some ed → ed.session = s → ed.entry = i

theorem Seated.of_keeps (h : Seated k cs) (hm : k.modal.Keeps k'.modal) (hd : ∀ c ∈ ds, c ∈ cs) : Seated k' ds := by
  refine ⟨fun i s r hc => hm.lastSession ▸ h.session_le i s r (hd _ hc), fun i s r ed hc hed hs => ?_⟩
  obtain ⟨d, hd', hcont⟩ := hm.editor ed hed
  rw [hcont.entry]
  exact h.on_entry i s r d (hd _ hc) hd' (hcont.session ▸ hs)

/-- A new opening has sent nothing. -/
theorem Seated.of_openOn (h : Seated k cs) {i : EntryId} {r : Record} (hm : k'.modal = k.modal.openOn i r) :
    Seated k' cs := by
  refine ⟨fun j s q hc => ?_, fun j s q ed hc hed hs => ?_⟩
  · rw [hm, Modal.lastSession_openOn]
    exact Nat.le_succ_of_le (h.session_le j s q hc)
  · rw [hm] at hed
    cases hed
    have := h.session_le j s q hc
    rw [← hs] at this
    exact absurd this (Nat.not_succ_le_self _)

/-- Events keep the openings seated. -/
theorem Seated.handled {e : Event} {c : Option Call} (h : Seated k cs) (hn : Numbered k) (hh : Handled k e k' c) :
    Seated k' (cs ++ c.toList) := by
  have nil : ∀ c ∈ cs ++ (none : Option Call).toList, c ∈ cs := fun c hc => by simpa using hc
  cases hh with
  | aside _ hk => exact h.of_keeps (hk.modal ▸ k.modal.keeps_refl) nil
  | edited hr hk => exact h.of_keeps (hk.modal ▸ k.modal.keeps_modifyEditor (Event.continues_revision hr)) nil
  | opened _ _ hk => exact (List.append_nil cs).symm ▸ h.of_openOn hk.modal
  | added _ _ hk => exact (List.append_nil cs).symm ▸ h.of_openOn hk.modal
  | closed hk => exact h.of_keeps (hk.modal ▸ k.modal.keeps_close) nil
  | @saved ed e k' hed _ _ hk =>
    have hm : k.modal.Keeps k'.modal := hk.modal ▸ k.modal.keeps_modifyEditor Editor.continues_saving
    have old : Seated k' cs := h.of_keeps hm fun _ hc => hc
    refine ⟨fun i s r hc => ?_, fun i s r d hc hd hs => ?_⟩
    · rcases List.mem_append.1 hc with hc | hc
      · exact old.session_le i s r hc
      · cases List.mem_singleton.1 hc
        exact hm.lastSession ▸ hn.session_le ed hed
    · rcases List.mem_append.1 hc with hc | hc
      · exact old.on_entry i s r d hc hd hs
      · cases List.mem_singleton.1 hc
        obtain ⟨d', hd', hcont⟩ := hm.editor d hd
        cases hed.symm.trans hd'
        exact hcont.entry
  | dropped _ _ _ hk => exact h.of_keeps (hk.modal ▸ k.modal.keeps_closeIfOn _) nil
  | deleted _ _ _ hk =>
    have hm : k.modal.Keeps k'.modal := hk.modal ▸ k.modal.keeps_refl
    refine ⟨fun i s r hc => ?_, fun i s r d hc hd hs => ?_⟩
    · rcases List.mem_append.1 hc with hc | hc
      · exact (h.of_keeps hm fun _ hc => hc).session_le i s r hc
      · cases List.mem_singleton.1 hc
    · rcases List.mem_append.1 hc with hc | hc
      · exact (h.of_keeps hm fun _ hc => hc).on_entry i s r d hc hd hs
      · cases List.mem_singleton.1 hc

/-- Settlements keep the openings of the calls that are left seated. -/
theorem Seated.settled {s : Settlement} {ch : Change} (h : Seated k cs) (hm : Matched k cs) (hc : s.call ∈ cs)
    (hs : Settled k s k' ch) : Seated k' (cs.erase s.call) := by
  have sub : ∀ c ∈ cs.erase s.call, c ∈ cs := fun _ => List.mem_of_mem_erase
  cases hs with
  | @saved i s r key e k' _ hk =>
    refine ⟨fun j t q hd => ?_, fun j t q d hd hed ht => ?_⟩
    · rw [hk.modal, Modal.lastSession_closeIfShowing]
      exact h.session_le j t q (sub _ hd)
    · rw [hk.modal] at hed
      obtain ⟨ed, hed', -, rfl⟩ := editor_saved hed
      obtain ⟨hne, hd⟩ := (List.Nodup.mem_erase_iff hm.once.of_map).1 hd
      have hj : ed.entry = j := h.on_entry j t q ed hd hed' (by split at ht <;> exact ht)
      -- the call that is left is for another entry than the one replaced
      have hi : ed.entry ≠ i := fun hi => hne (hm.eq_of_entry_eq hd hc (hj.symm.trans hi))
      rw [if_neg hi]
      exact hj
  | discarded _ _ hk => exact h.of_keeps (hk.modal ▸ k.modal.keeps_closeIfShowing _) sub
  | reverted _ _ hk => exact h.of_keeps (hk.modal ▸ k.modal.keeps_closeIfShowing _) sub
  | removed _ hk => exact h.of_keeps (hk.modal ▸ k.modal.keeps_closeIfOn _) sub
  | restored _ hk => exact h.of_keeps (hk.modal ▸ k.modal.keeps_refl) sub

/-! ## Drafts -/

/-- Hidden entries have no key, are not being deleted, and are being edited while they are at rest. -/
structure Drafts (k : Desk) : Prop where
  no_key : ∀ e ∈ k.entries, e.visible = false → e.record.key = none
  not_deleted : ∀ e ∈ k.entries, e.visible = false → e.state ≠ .pendingDelete
  edited : ∀ e ∈ k.entries, e.visible = false → e.state = .clean → k.modal.isOn e.id = true

/-- Two hidden entries at rest are one, as one editor is open at most. -/
theorem Drafts.eq_of_clean (h : Drafts k) (hn : k.ids.Nodup) {d e : Entry} (hd : d ∈ k.entries) (he : e ∈ k.entries)
    (hv : d.visible = false) (hw : e.visible = false) (hs : d.state = .clean) (ht : e.state = .clean) : d = e := by
  obtain ⟨ed, hed, hi⟩ := Modal.isOn_iff.1 (h.edited d hd hv hs)
  obtain ⟨ed', hed', hj⟩ := Modal.isOn_iff.1 (h.edited e he hw ht)
  obtain rfl := Option.some.inj (hed.symm.trans hed')
  exact eq_of_id_eq hn hd he (hi.symm.trans hj)

/-- At most one hidden entry is at rest. -/
theorem Drafts.clean_le_one (h : Drafts k) (hn : k.ids.Nodup) :
    (k.entries.filter fun e => !e.visible && e.state == .clean).length ≤ 1 := by
  have hone : ∀ d ∈ k.entries.filter fun e => !e.visible && e.state == .clean,
      ∀ e ∈ k.entries.filter fun e => !e.visible && e.state == .clean, d = e := by
    intro d hd e he
    simp only [List.mem_filter, Bool.and_eq_true, Bool.not_eq_true', beq_iff_eq] at hd he
    exact h.eq_of_clean hn hd.1 he.1 hd.2.1 he.2.1 hd.2.2 he.2.2
  have hnodup : (k.entries.filter fun e => !e.visible && e.state == .clean).Nodup := hn.of_map.filter _
  generalize k.entries.filter (fun e => !e.visible && e.state == .clean) = l at hone hnodup
  cases l with
  | nil => exact Nat.zero_le 1
  | cons d ds => exact (hnodup.subperm fun e he => List.mem_singleton.2 (hone e he d List.mem_cons_self)).length_le

/-- Entries that are left as they were, and a region that is left on the hidden ones among them. -/
theorem Drafts.of_subset (h : Drafts k) (he : ∀ e ∈ k'.entries, e.visible = false → e ∈ k.entries)
    (hm : ∀ e ∈ k'.entries, e.visible = false → e.state = .clean →
      k.modal.isOn e.id = true → k'.modal.isOn e.id = true) :
    Drafts k' :=
  ⟨fun e hmem hv => h.no_key e (he e hmem hv) hv, fun e hmem hv => h.not_deleted e (he e hmem hv) hv,
    fun e hmem hv hs => hm e hmem hv hs (h.edited e (he e hmem hv) hv hs)⟩

/-- No draft at rest is left once the one being edited is discarded. -/
theorem Drafts.not_clean_of_mem_discard (h : Drafts k) {e : Entry} (he : e ∈ k.discardOpenDraft.entries)
    (hv : e.visible = false) : e.state ≠ .clean := by
  obtain ⟨hmem, hd⟩ := mem_discardOpenDraft.1 he
  refine fun hs => hd ⟨h.edited e hmem hv hs, ?_, hs⟩
  simp [Entry.isHiddenDraft, Record.isDraft, h.no_key e hmem hv, hv]

/-- Events keep the drafts. -/
theorem Drafts.handled {e : Event} {c : Option Call} (h : Drafts k) (hn : Numbered k) (hh : Handled k e k' c) :
    Drafts k' := by
  cases hh with
  | aside _ hk => exact h.of_subset (fun x hx _ => hk.entries ▸ hx) fun _ _ _ _ ho => hk.modal ▸ ho
  | edited hr hk =>
    refine h.of_subset (fun x hx _ => hk.entries ▸ hx) fun x _ _ _ ho => ?_
    rw [hk.modal, Modal.isOn_modifyEditor (Event.continues_revision hr)]
    exact ho
  | @opened i e k' he _ hk =>
    by_cases hi : k.modal.isOn i = true
    · have hx : k'.entries = k.entries := by rw [hk.entries, if_pos hi]
      refine h.of_subset (fun x hmem _ => hx ▸ hmem) fun x _ _ _ ho => ?_
      obtain ⟨ed, hed, rfl⟩ := Modal.isOn_iff.1 hi
      obtain ⟨ed', hed', hx'⟩ := Modal.isOn_iff.1 ho
      obtain rfl := Option.some.inj (hed.symm.trans hed')
      rw [hk.modal]
      exact Modal.isOn_iff.2 ⟨_, rfl, hx'⟩
    · have hx : k'.entries = k.discardOpenDraft.entries := by rw [hk.entries, if_neg hi]
      refine h.of_subset (fun x hmem _ => (mem_discardOpenDraft.1 (hx ▸ hmem)).1) fun x hmem hv hs _ => ?_
      exact absurd hs (h.not_clean_of_mem_discard (hx ▸ hmem) hv)
  | @added t k' _ _ hk =>
    refine ⟨fun x hx hv => ?_, fun x hx hv => ?_, fun x hx hv hs => ?_⟩
    all_goals rw [hk.entries] at hx; rcases List.mem_cons.1 hx with rfl | hx
    · rfl
    · exact h.no_key x (mem_discardOpenDraft.1 hx).1 hv
    · exact EntryState.noConfusion
    · exact h.not_deleted x (mem_discardOpenDraft.1 hx).1 hv
    · rw [hk.modal]
      exact Modal.isOn_iff.2 ⟨_, rfl, rfl⟩
    · exact absurd hs (h.not_clean_of_mem_discard hx hv)
  | closed hk =>
    refine h.of_subset (fun x hx _ => (mem_discardOpenDraft.1 (hk.entries ▸ hx)).1) fun x hx hv hs _ => ?_
    exact absurd hs (h.not_clean_of_mem_discard (hk.entries ▸ hx) hv)
  | @saved ed e k' hed he hs hk =>
    have state : ∀ x ∈ k'.entries, ∃ d ∈ k.entries, d.id = x.id ∧ d.record = x.record ∧ d.visible = x.visible ∧
        (x.state = d.state ∨ d.id = ed.entry ∧ x.state = .saving) :=
      fun x hx => mem_of_mem_modifyState (hk.entries ▸ hx)
    refine ⟨fun x hx hv => ?_, fun x hx hv => ?_, fun x hx hv hc => ?_⟩
    all_goals obtain ⟨d, hd, hi, hr, hvd, hst⟩ := state x hx
    · exact hr ▸ h.no_key d hd (hvd.trans hv)
    · rcases hst with hst | ⟨-, hst⟩
      · exact hst ▸ h.not_deleted d hd (hvd.trans hv)
      · rw [hst]; exact EntryState.noConfusion
    · rcases hst with hst | ⟨-, hst⟩
      · rw [hk.modal, Modal.isOn_modifyEditor Editor.continues_saving, ← hi]
        exact h.edited d hd (hvd.trans hv) (hst ▸ hc)
      · rw [hst] at hc; cases hc
  | dropped _ _ _ hk =>
    refine h.of_subset (fun x hx _ => (mem_removeEntry.1 (hk.entries ▸ hx)).1) fun x hx _ _ ho => ?_
    obtain ⟨ed, hed, hi⟩ := Modal.isOn_iff.1 ho
    rw [hk.modal]
    exact Modal.isOn_iff.2 ⟨ed, Modal.editor_closeIfOn.2 ⟨hed, hi ▸ (mem_removeEntry.1 (hk.entries ▸ hx)).2⟩, hi⟩
  | @deleted i e key k' he _ hkey hk =>
    refine h.of_subset (fun x hx hv => ?_) fun _ _ _ _ ho => hk.modal ▸ ho
    rw [hk.entries, mem_modifyEntry_of_lookup hn.nodup he] at hx
    rcases hx with ⟨hx, -⟩ | rfl
    · exact hx
    · -- an entry with a key is not hidden
      have := h.no_key e (mem_of_lookup he).1 hv
      rw [hkey] at this
      cases this

/-- A save that settles closes no editor on an entry other than its own. -/
theorem isOn_closeIfShowing (h : Seated k cs) {i j : EntryId} {s : Session} {r : Record} (hc : .save i s r ∈ cs)
    (hj : j ≠ i) (ho : k.modal.isOn j = true) : (k.modal.closeIfShowing s).isOn j = true := by
  obtain ⟨ed, hed, rfl⟩ := Modal.isOn_iff.1 ho
  exact Modal.isOn_iff.2 ⟨ed, Modal.editor_closeIfShowing.2 ⟨hed, fun hs => hj (h.on_entry i s r ed hc hed hs)⟩, rfl⟩

/-- Settlements keep the drafts. -/
theorem Drafts.settled {s : Settlement} {ch : Change} (h : Drafts k) (hn : Numbered k) (hm : Matched k cs)
    (ht : Seated k cs) (hc : s.call ∈ cs) (hs : Settled k s k' ch) : Drafts k' := by
  cases hs with
  | @saved i s r key e k' _ hk =>
    have other : ∀ x ∈ k'.entries, x.visible = false → x ∈ k.entries ∧ x.id ≠ i := by
      intro x hx hv
      rw [hk.entries] at hx
      rcases mem_replaceSaved.1 hx with hx | ⟨-, rfl⟩
      · exact hx
      · cases hv
    refine h.of_subset (fun x hx hv => (other x hx hv).1) fun x hx hv _ ho => ?_
    obtain ⟨ed, hed, hi⟩ := Modal.isOn_iff.1 (isOn_closeIfShowing ht hc (other x hx hv).2 ho)
    obtain ⟨hed, hs⟩ := Modal.editor_closeIfShowing.1 hed
    rw [hk.modal]
    refine Modal.isOn_iff.2 ⟨ed, Modal.editor_closeIfShowing.2 ⟨?_, hs⟩, hi⟩
    have hne : ed.entry ≠ i := hi ▸ (other x hx hv).2
    show k.modal.editor.map _ = some ed
    rw [hed, Option.map_some, if_neg hne]
  | discarded _ _ hk =>
    refine h.of_subset (fun x hx _ => (mem_removeEntry.1 (hk.entries ▸ hx)).1) fun x hx _ _ ho => ?_
    rw [hk.modal]
    exact isOn_closeIfShowing ht hc (mem_removeEntry.1 (hk.entries ▸ hx)).2 ho
  | @reverted i s r f e k' he hkey hk =>
    have other : ∀ x ∈ k'.entries, x.visible = false → x ∈ k.entries ∧ x.id ≠ i := by
      intro x hx hv
      rw [hk.entries, release, mem_modifyEntry_of_lookup hn.nodup he] at hx
      rcases hx with hx | rfl
      · exact hx
      · exact absurd (h.no_key e (mem_of_lookup he).1 hv) hkey
    refine h.of_subset (fun x hx hv => (other x hx hv).1) fun x hx hv _ ho => ?_
    rw [hk.modal]
    exact isOn_closeIfShowing ht hc (other x hx hv).2 ho
  | removed _ hk =>
    refine h.of_subset (fun x hx _ => (mem_removeEntry.1 (hk.entries ▸ hx)).1) fun x hx _ _ ho => ?_
    obtain ⟨ed, hed, hi⟩ := Modal.isOn_iff.1 ho
    rw [hk.modal]
    exact Modal.isOn_iff.2 ⟨ed, Modal.editor_closeIfOn.2 ⟨hed, hi ▸ (mem_removeEntry.1 (hk.entries ▸ hx)).2⟩, hi⟩
  | @restored i key f e k' he hk =>
    refine h.of_subset (fun x hx hv => ?_) fun _ _ _ _ ho => hk.modal ▸ ho
    rw [hk.entries, release, mem_modifyEntry_of_lookup hn.nodup he] at hx
    rcases hx with ⟨hx, -⟩ | rfl
    · exact hx
    · -- the entry was being deleted, so it is not hidden
      obtain ⟨y, hy, hyi, hyd, -⟩ := hm.fits _ hc
      obtain rfl := eq_of_lookup hn.nodup he hy hyi
      exact absurd hyd (h.not_deleted y hy hv)

end AckDesk.Desk
