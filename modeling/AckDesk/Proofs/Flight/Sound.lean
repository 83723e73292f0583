import AckDesk.Proofs.Flight.Editing

/-!
# Sound flights

What every run of a flight keeps, all together (`Sound`, `sound_run`). A call in flight therefore finds its entry, so
its settlement does one of the five things that a settlement can do (`Sound.settled`).
-/

namespace AckDesk.Flight

/-- Numbers are in order, calls match the entries that wait, the editor is coherent with its entry, openings that
save are seated, and hidden entries are drafts. -/
structure Sound (f : Flight) : Prop where
  numbered : f.desk.Numbered
  matched : f.desk.Matched f.calls
  coherent : f.desk.Coherent
  seated : f.desk.Seated f.calls
  drafts : f.desk.Drafts

theorem sound_start (p : Page) (o : Options) : (start p o).Sound where
  numbered := Desk.numbered_page p o
  matched := Desk.matched_page p o
  coherent := fun _ _ hed => by cases hed
  seated := ⟨fun _ _ _ hc => (List.not_mem_nil hc).elim, fun _ _ _ _ hc => (List.not_mem_nil hc).elim⟩
  drafts := by
    have visible : ∀ e ∈ (p.desk o).entries, e.visible ≠ false := fun e he => by simp [(Desk.mem_page he).2.1]
    exact ⟨fun e he hv => absurd hv (visible e he), fun e he hv => absurd hv (visible e he),
      fun e he hv => absurd hv (visible e he)⟩

variable {f : Flight}

/-- The entry for which a call is in flight. -/
theorem Sound.exists_entry (h : f.Sound) {c : Call} (hc : c ∈ f.calls) :
    ∃ e, f.desk.entry? c.entry = some e ∧ c.Fits e := by
  obtain ⟨e, he, hi, hf⟩ := h.matched.fits c hc
  exact ⟨e, (Desk.entry?_eq_some h.numbered.nodup).2 ⟨he, hi⟩, hf⟩

/-- The order of the calls does not matter. -/
theorem Sound.of_perm (h : f.Sound) {cs : List Call} (hp : f.calls.Perm cs) : Sound ⟨f.desk, cs⟩ :=
  ⟨h.numbered, h.matched.of_perm hp, h.coherent,
    h.seated.of_keeps f.desk.modal.keeps_refl fun _ hc => hp.mem_iff.2 hc, h.drafts⟩

/-- A call in flight is the one for its entry. -/
theorem Sound.fits (h : f.Sound) {c : Call} (hc : c ∈ f.calls) {e : Entry} (he : e ∈ f.desk.entries)
    (hi : c.entry = e.id) : c.Fits e := by
  obtain ⟨d, hd, hdi, hf⟩ := h.matched.fits c hc
  rwa [Desk.eq_of_id_eq h.numbered.nodup hd he (hdi.trans hi)] at hf

/-- An entry waits for one call, which fits it. -/
theorem Sound.exists_call (h : f.Sound) {e : Entry} (he : e ∈ f.desk.entries) (hs : e.state ≠ .clean) :
    ∃ c, f.calls.filter (·.entry = e.id) = [c] ∧ c.entry = e.id ∧ c.Fits e := by
  obtain ⟨c, hc, hi⟩ := h.matched.called e he hs
  refine ⟨c, ?_, hi, h.fits hc he hi⟩
  -- any other call would be for another entry
  have hp : f.calls.filter (·.entry = e.id) = f.calls.filter (· = c) :=
    List.filter_congr fun x hx => decide_eq_decide.2
      ⟨fun hxi => h.matched.eq_of_entry_eq hx hc (hxi.trans hi.symm), fun hxc => hxc ▸ hi⟩
  rw [hp, List.filter_eq, List.count_eq_one_of_mem h.matched.once.of_map hc, List.replicate_one]

/-- No call is for a number that was not given. -/
theorem Sound.entry_ne_nextId (h : f.Sound) {c : Call} (hc : c ∈ f.calls) : c.entry ≠ f.desk.nextId := by
  obtain ⟨e, he, hi, -⟩ := h.matched.fits c hc
  exact hi ▸ h.numbered.ne_nextId he

theorem Sound.settled (h : f.Sound) {s : Settlement} (hs : s.call ∈ f.calls) :
    f.desk.Settled s (f.desk.settle s).1 (f.desk.settle s).2 := by
  obtain ⟨e, he, -⟩ := h.exists_entry hs
  exact Desk.settled_settle he

theorem Sound.event (h : f.Sound) {e : Event} {k : Desk} {c : Option Call} (hh : f.desk.Handled e k c) :
    Sound ⟨k, f.calls ++ c.toList⟩ where
  numbered := h.numbered.handled hh
  matched := h.matched.handled h.numbered.nodup h.coherent hh
  coherent := h.coherent.handled h.numbered hh
  seated := h.seated.handled h.numbered hh
  drafts := h.drafts.handled h.numbered hh

theorem Sound.settle (h : f.Sound) {s : Settlement} (hs : s.call ∈ f.calls) :
    Sound ⟨(f.desk.settle s).1, f.calls.erase s.call⟩ where
  numbered := h.numbered.settled (h.settled hs)
  matched := h.matched.settled hs (h.settled hs)
  coherent := h.coherent.settled h.numbered h.matched hs (h.settled hs)
  seated := h.seated.settled h.matched hs (h.settled hs)
  drafts := h.drafts.settled h.numbered h.matched h.seated hs (h.settled hs)

theorem Sound.lastId_le_step (h : f.Sound) (m : Move) : f.desk.lastId ≤ (f.step m).desk.lastId := by
  rcases step_cases f m with ⟨hm, -⟩ | ⟨e, k, c, -, hh, hm⟩ | ⟨s, -, hs, hm⟩
  · exact Nat.le_of_eq (by rw [hm])
  · rw [hm]; exact (Desk.handled_of_handle hh).lastId_le
  · rw [hm]; exact (h.settled hs).lastId_le

theorem Sound.lastSession_le_step (h : f.Sound) (m : Move) :
    f.desk.modal.lastSession ≤ (f.step m).desk.modal.lastSession := by
  rcases step_cases f m with ⟨hm, -⟩ | ⟨e, k, c, -, hh, hm⟩ | ⟨s, -, hs, hm⟩
  · exact Nat.le_of_eq (by rw [hm])
  · rw [hm]; exact (Desk.handled_of_handle hh).lastSession_le
  · rw [hm]; exact Nat.le_of_eq (h.settled hs).lastSession_eq.symm

/-- What is sound stays so. -/
theorem Sound.run (h : f.Sound) (ms : List Move) : (f.run ms).Sound :=
  run_induction h (fun h hh => h.event hh) (fun h hs => h.settle hs) ms

/-- No run takes back the number of an opening that was shown. -/
theorem Sound.session_le_run (h : f.Sound) {ed : Editor} (hed : f.desk.modal.editor = some ed) (ms : List Move) :
    ed.session.number ≤ (f.run ms).desk.modal.lastSession := by
  induction ms using List.reverseRecOn with
  | nil => exact h.numbered.session_le ed hed
  | append_singleton ms m ih =>
    rw [run_concat]
    exact Nat.le_trans ih ((h.run ms).lastSession_le_step m)

/-- **Every run is sound.** -/
theorem sound_run (p : Page) (o : Options) (ms : List Move) : ((start p o).run ms).Sound := (sound_start p o).run ms

end AckDesk.Flight
