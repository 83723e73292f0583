import AckDesk.Proofs.Desk.Settling
import AckDesk.Proofs.Desk.Turnover
import AckDesk.Proofs.Flight.Opening

/-!
# Desks that take any settlement

A desk applies whatever settlement it is given: one that it was given before, and one for an entry that it does not
have. `Desk.run` are the runs in which settlements come like this; those of a flight are among them
(`Flight.exists_desk_run`).

From one desk of such a run to a later one, an entry or an opening of the editor is new only under a number that was
not given before (`Leads`). This is said once for each kind of move, and holds of runs as it is transitive
(`leads_run`). So what was given and is gone stays away (`Leads.not_mem_ids`, `Leads.not_showing`).
-/

namespace AckDesk

/-- The region after the settlement of a call for an entry that is not there. -/
def Modal.leave (m : Modal) : Settlement → Modal
  | .save _ t _ _ => m.closeIfShowing t
  | .delete .. => m

theorem Modal.keeps_leave (m : Modal) (s : Settlement) : m.Keeps (m.leave s) := by
  cases s with
  | save i t r result => exact m.keeps_closeIfShowing t
  | delete i key result => exact m.keeps_refl

namespace Desk

variable {k k' k'' : Desk} {m : Move} {i : EntryId} {t : Session}

/-- The desk after a move. A refused event changes nothing, and a settlement is applied, whatever it is for. -/
def after (k : Desk) : Move → Desk
  | .event e =>
    match k.handle e with
    | .ok (k', _) => k'
    | .error _ => k
  | .settle s => (k.settle s).1

/-- The desk after some moves. -/
def run (k : Desk) (ms : List Move) : Desk := ms.foldl after k

theorem run_append (k : Desk) (ms ns : List Move) : k.run (ms ++ ns) = (k.run ms).run ns := List.foldl_append

theorem run_concat (k : Desk) (ms : List Move) (m : Move) : k.run (ms ++ [m]) = (k.run ms).after m := run_append ..

/-- A settlement for an entry that is not there is ignored. -/
theorem settle_of_unknown {s : Settlement} (h : k.entry? s.call.entry = none) :
    k.settle s = ({ k with modal := k.modal.leave s }, .ignored s.call.entry) := by
  cases s with
  | save i t r result =>
    change k.entry? i = none at h
    simp only [settle, settleSave, h]
    rfl
  | delete i key result =>
    change k.entry? i = none at h
    simp only [settle, settleDelete, h]
    rfl

/-- A move changes nothing, or is an event that is not refused, or settles a call for an entry that is there, or one
for an entry that is not there. -/
theorem after_cases (k : Desk) (m : Move) : k.after m = k ∨
    (∃ e k' c, m = .event e ∧ k.handle e = .ok (k', c) ∧ k.after m = k') ∨
    (∃ s, m = .settle s ∧ Settled k s (k.after m) (k.settle s).2) ∨
    ∃ s, m = .settle s ∧ k.after m = { k with modal := k.modal.leave s } := by
  cases m with
  | event e =>
    cases h : k.handle e with
    | error _ => exact .inl (by simp [after, h])
    | ok q => exact .inr (.inl ⟨e, q.1, q.2, rfl, h, by simp [after, h]⟩)
  | settle s =>
    cases h : k.entry? s.call.entry with
    | some e => exact .inr (.inr (.inl ⟨s, rfl, settled_settle h⟩))
    | none => exact .inr (.inr (.inr ⟨s, rfl, by simp [after, settle_of_unknown h]⟩))

/-- Numbers stay in order, whatever is settled. -/
theorem Numbered.after (h : Numbered k) (m : Move) : Numbered (k.after m) := by
  rcases after_cases k m with hm | ⟨e, k', c, -, hh, hm⟩ | ⟨s, -, hs⟩ | ⟨s, -, hm⟩
  · rw [hm]; exact h
  · rw [hm]; exact h.handled (handled_of_handle hh)
  · exact h.settled hs
  · rw [hm]; exact h.of_sublist (.refl _) rfl (k.modal.keeps_leave s)

theorem Numbered.run (h : Numbered k) (ms : List Move) : Numbered (k.run ms) := by
  induction ms using List.reverseRecOn with
  | nil => exact h
  | append_singleton ms m ih =>
    rw [run_concat]
    exact ih.after m

/-! ## What is new -/

/-- What is in the second desk and not in the first has a number that was not given before. -/
structure Leads (k k' : Desk) : Prop where
  lastId_le : k.lastId ≤ k'.lastId
  lastSession_le : k.modal.lastSession ≤ k'.modal.lastSession
  ids : ∀ i ∈ k'.ids, i ∈ k.ids ∨ k.lastId < i.number
  showing : ∀ t, k'.modal.isShowing t = true → k.modal.isShowing t = true ∨ k.modal.lastSession < t.number

theorem leads_refl (k : Desk) : Leads k k := ⟨Nat.le_refl _, Nat.le_refl _, fun _ => .inl, fun _ => .inl⟩

theorem Leads.trans (h : Leads k k') (h' : Leads k' k'') : Leads k k'' where
  lastId_le := Nat.le_trans h.lastId_le h'.lastId_le
  lastSession_le := Nat.le_trans h.lastSession_le h'.lastSession_le
  ids := by
    intro i hi
    rcases h'.ids i hi with hi | hi
    · exact h.ids i hi
    · exact .inr (Nat.lt_of_le_of_lt h.lastId_le hi)
  showing := by
    intro t ht
    rcases h'.showing t ht with ht | ht
    · exact h.showing t ht
    · exact .inr (Nat.lt_of_le_of_lt h.lastSession_le ht)

theorem Handled.leads {e : Event} {c : Option Call} (hh : Handled k e k' c) : Leads k k' where
  lastId_le := hh.lastId_le
  lastSession_le := hh.lastSession_le
  ids := by
    intro i hi
    obtain ⟨x, hx, rfl⟩ := List.mem_map.1 hi
    rcases hh.origin hx with hx | ⟨_, -, -, -, rfl⟩
    · exact .inl hx.mem_ids
    · exact .inr (Nat.lt_succ_self _)
  showing := by
    intro t ht
    obtain ⟨ed, hed, rfl⟩ := Modal.isShowing_iff.1 ht
    rcases hh.editor hed with ⟨_, -, rfl⟩ | ⟨d, hd⟩
    · exact .inr (Nat.lt_succ_self _)
    · exact .inl (Modal.isShowing_iff.2 ⟨d, hd.editor, hd.session.symm⟩)

theorem Settled.leads {s : Settlement} {ch : Change} (hs : Settled k s k' ch) : Leads k k' where
  lastId_le := hs.lastId_le
  lastSession_le := Nat.le_of_eq hs.lastSession_eq.symm
  ids := by
    intro i hi
    obtain ⟨x, hx, rfl⟩ := List.mem_map.1 hi
    rcases hs.origin hx with hx | ⟨_, _, _, _, -, rfl⟩
    · exact .inl hx.mem_ids
    · exact .inr (Nat.lt_succ_self _)
  showing := by
    intro t ht
    obtain ⟨d, hd, rfl⟩ := Modal.isShowing_iff.1 ht
    rw [hs.editor_eq] at hd
    obtain ⟨ed, hed, hd⟩ := Option.bind_eq_some_iff.1 hd
    exact .inl (Modal.isShowing_iff.2 ⟨ed, hed, (s.session_of_onEditor hd).symm⟩)

/-- A region that keeps what it shows gives nothing new. -/
theorem leads_of_keeps {r : Modal} (h : k.modal.Keeps r) : Leads k { k with modal := r } where
  lastId_le := Nat.le_refl _
  lastSession_le := Nat.le_of_eq h.lastSession.symm
  ids := fun _ => .inl
  showing := by
    intro t ht
    obtain ⟨d, hd, rfl⟩ := Modal.isShowing_iff.1 ht
    obtain ⟨ed, hed, hc⟩ := h.editor d hd
    exact .inl (Modal.isShowing_iff.2 ⟨ed, hed, hc.session.symm⟩)

/-- What a move makes new gets a new number. -/
theorem leads_after (k : Desk) (m : Move) : Leads k (k.after m) := by
  rcases after_cases k m with hm | ⟨e, k', c, -, hh, hm⟩ | ⟨s, -, hs⟩ | ⟨s, -, hm⟩
  · rw [hm]; exact leads_refl k
  · rw [hm]; exact (handled_of_handle hh).leads
  · exact hs.leads
  · rw [hm]; exact leads_of_keeps (k.modal.keeps_leave s)

/-- So does what a run makes new. -/
theorem leads_run (k : Desk) (ms : List Move) : Leads k (k.run ms) := by
  induction ms using List.reverseRecOn with
  | nil => exact leads_refl k
  | append_singleton ms m ih =>
    rw [run_concat]
    exact ih.trans (leads_after _ m)

/-- A number that was given and is not in the list does not come into it. -/
theorem Leads.not_mem_ids (h : Leads k k') (hi : i.number ≤ k.lastId) (hg : i ∉ k.ids) : i ∉ k'.ids := by
  intro hmem
  rcases h.ids i hmem with hmem | hlt
  · exact hg hmem
  · exact Nat.not_lt.2 hi hlt

/-- An opening that was there and is not shown does not come back. -/
theorem Leads.not_showing (h : Leads k k') (ht : t.number ≤ k.modal.lastSession) (hg : k.modal.isShowing t = false) :
    k'.modal.isShowing t = false := by
  refine Bool.eq_false_iff.2 fun hs => ?_
  rcases h.showing t hs with hs | hlt
  · rw [hg] at hs; cases hs
  · exact Nat.not_lt.2 ht hlt

end Desk

/-- What a run of a flight does to its desk, the desk does in a run of its own: with those moves that are applied. -/
theorem Flight.exists_desk_run (f : Flight) (ms : List Move) : ∃ ns, (f.run ms).desk = f.desk.run ns := by
  induction ms using List.reverseRecOn with
  | nil => exact ⟨[], rfl⟩
  | append_singleton ms m ih =>
    obtain ⟨ns, h⟩ := ih
    rw [run_concat]
    rcases step_cases (f.run ms) m with ⟨hm, -⟩ | ⟨e, k, c, rfl, hh, hm⟩ | ⟨s, rfl, -, hm⟩
    · exact ⟨ns, by rw [hm, h]⟩
    · refine ⟨ns ++ [.event e], ?_⟩
      rw [h] at hh
      simp [hm, Desk.run_concat, Desk.after, hh]
    · exact ⟨ns ++ [.settle s], by rw [hm, Desk.run_concat, ← h]; rfl⟩

end AckDesk
