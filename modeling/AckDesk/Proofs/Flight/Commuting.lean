import AckDesk.Proofs.Desk.Renumbering
import AckDesk.Proofs.Flight.Lifecycle

/-!
# Settlements in either order

Two calls for different entries settle in any order. Each settlement turns its own entry only, and an editor is on one
entry, so that what becomes of an entry and of the editor is the same in both orders (`Exchange.onEntry`,
`Exchange.onEditor`), but for the new numbers, which the two settlements exchange. So the desks after both differ by a
renumbering (`Sound.renumbered`).

For a reader of the desk nothing else differs but the notices, and each settlement says the same about the list
(`commutes_run`).
-/

namespace AckDesk

namespace Settlement

variable {s t : Settlement} {a b a' b' : EntryId} {e : Entry} {ed : Editor} {φ : EntryId → EntryId}

/-! ## One after the other -/

theorem id_of_outcome {d : Entry} (h : s.outcome a e = some d) : d.id = a ∨ d.id = e.id := by
  unfold outcome at h
  split at h
  · cases h; exact .inl rfl
  · split at h
    · cases h
    · cases h; exact .inr rfl
  · cases h
  · cases h; exact .inr rfl

/-- What stands in the place of one settlement's entry is not touched by the other. -/
theorem bind_onEntry (hne : s.call.entry ≠ t.call.entry) (ha : a ≠ t.call.entry) (b : EntryId) (e : Entry) :
    (s.onEntry a e).bind (t.onEntry b) = if e.id = s.call.entry then s.outcome a e else t.onEntry b e := by
  by_cases hi : e.id = s.call.entry
  · rw [if_pos hi, onEntry, if_pos hi]
    cases hd : s.outcome a e with
    | none => rfl
    | some d =>
      refine onEntry_of_ne ?_
      rcases id_of_outcome hd with h | h
      · exact h ▸ ha
      · exact h ▸ hi ▸ hne
  · rw [if_neg hi, onEntry_of_ne hi]
    rfl

/-- An editor that was turned is closed by the other settlement if it was closed by it before. -/
theorem closes_turn (hne : s.call.entry ≠ t.call.entry) (ha : a ≠ t.call.entry) (ed : Editor) :
    t.closes (s.turn a ed) = t.closes ed := by
  obtain ⟨i, key, hturn, hi⟩ := s.turn_eq a ed
  rw [hturn]
  cases t with
  | save => rfl
  | delete j key' result =>
    cases result with
    | error f => rfl
    | ok _ =>
      rcases hi with rfl | ⟨hed, rfl⟩
      · rfl
      · have hj : ed.entry ≠ j := hed ▸ hne
        have hij : i ≠ j := ha
        simp [closes, hj, hij]

/-- An editor is turned by the settlement of its entry, and not by the other. -/
theorem turn_turn (hne : s.call.entry ≠ t.call.entry) (ha : a ≠ t.call.entry) (b : EntryId) (ed : Editor) :
    t.turn b (s.turn a ed) = if ed.entry = s.call.entry then s.turn a ed else t.turn b ed := by
  by_cases hi : ed.entry = s.call.entry
  · rw [if_pos hi]
    refine turn_of_ne ?_
    obtain ⟨i, key, hturn, h⟩ := s.turn_eq a ed
    rw [hturn]
    rcases h with rfl | ⟨-, rfl⟩
    · exact hi ▸ hne
    · exact ha
  · rw [if_neg hi, turn_of_ne hi]

theorem bind_onEditor (hne : s.call.entry ≠ t.call.entry) (ha : a ≠ t.call.entry) (b : EntryId) (ed : Editor) :
    (s.onEditor a ed).bind (t.onEditor b) =
      if s.closes ed || t.closes ed then none
      else some (if ed.entry = s.call.entry then s.turn a ed else t.turn b ed) := by
  unfold onEditor
  cases hc : s.closes ed with
  | true => simp
  | false => simp [closes_turn hne ha, turn_turn hne ha]

/-! ## In the other order -/

/-- The settlements give the numbers `a` and `b` in one order, and the numbers `a'` and `b'` in the other. -/
structure Exchange (s t : Settlement) (φ : EntryId → EntryId) (a b a' b' : EntryId) : Prop where
  entry_ne : s.call.entry ≠ t.call.entry
  first_ne : a ≠ t.call.entry
  second_ne : b' ≠ s.call.entry
  first : s.isSaved = true → φ a = a'
  second : t.isSaved = true → φ b = b'

/-- What becomes of an entry in either order. -/
theorem Exchange.onEntry (h : Exchange s t φ a b a' b') (he : φ e.id = e.id) :
    ((s.onEntry a e).bind (t.onEntry b)).map (·.renumber φ) = (t.onEntry b' e).bind (s.onEntry a') := by
  rw [bind_onEntry h.entry_ne h.first_ne, bind_onEntry h.entry_ne.symm h.second_ne]
  unfold Settlement.onEntry
  by_cases hs : e.id = s.call.entry
  · have ht : e.id ≠ t.call.entry := hs ▸ h.entry_ne
    rw [if_pos hs, if_neg ht, if_pos hs]
    exact map_outcome h.first he
  · rw [if_neg hs, if_neg hs]
    by_cases ht : e.id = t.call.entry
    · rw [if_pos ht, if_pos ht]
      exact map_outcome h.second he
    · rw [if_neg ht, if_neg ht, Option.map_some, Entry.renumber, he]

/-- What becomes of the editor in either order. -/
theorem Exchange.onEditor (h : Exchange s t φ a b a' b') (hed : φ ed.entry = ed.entry) :
    ((s.onEditor a ed).bind (t.onEditor b)).map (·.renumber φ) = (t.onEditor b' ed).bind (s.onEditor a') := by
  have hturn : Editor.renumber φ (if ed.entry = s.call.entry then s.turn a ed else t.turn b ed) =
      if ed.entry = t.call.entry then t.turn b' ed else s.turn a' ed := by
    by_cases hs : ed.entry = s.call.entry
    · have ht : ed.entry ≠ t.call.entry := hs ▸ h.entry_ne
      rw [if_pos hs, if_neg ht]
      exact renumber_turn h.first hed
    · rw [if_neg hs, renumber_turn h.second hed]
      by_cases ht : ed.entry = t.call.entry
      · rw [if_pos ht]
      · rw [if_neg ht, turn_of_ne hs, turn_of_ne ht]
  rw [bind_onEditor h.entry_ne h.first_ne, bind_onEditor h.entry_ne.symm h.second_ne, Bool.or_comm]
  split
  · rfl
  · rw [Option.map_some, hturn]

/-- The numbers that are given in the two orders. -/
theorem exchange_numbers (n : Nat) (hne : s.call.entry ≠ t.call.entry) (hs : s.call.entry.number ≤ n)
    (ht : t.call.entry.number ≤ n) :
    Exchange s t (exchange n s t) ⟨n + 1⟩ ⟨n + (if s.isSaved then 1 else 0) + 1⟩
      ⟨n + (if t.isSaved then 1 else 0) + 1⟩ ⟨n + 1⟩ where
  entry_ne := hne
  first_ne := by
    intro h
    rw [← h] at ht
    exact Nat.not_succ_le_self n ht
  second_ne := by
    intro h
    rw [← h] at hs
    exact Nat.not_succ_le_self n hs
  first := by
    intro hs
    cases ht : t.isSaved with
    | false => simp [exchange, ht, Renumbering.refl]
    | true => simp [exchange, hs, ht, Renumbering.swap]
  second := by
    intro ht
    cases hs : s.isSaved with
    | false => simp [exchange, hs, Renumbering.refl]
    | true => simp [exchange, hs, ht, Renumbering.swap]

end Settlement

namespace Flight

variable {f : Flight} {s t : Settlement}

/-- The call for the other entry is still in flight. -/
theorem mem_erase_of_entry_ne (ht : t.call ∈ f.calls) (hne : s.call.entry ≠ t.call.entry) :
    t.call ∈ f.calls.erase s.call := by
  refine (List.mem_erase_of_ne ?_).2 ht
  intro h
  exact hne (congrArg Call.entry h).symm

/-- The number of an entry with a call in flight was given. -/
theorem Sound.entry_number_le (h : f.Sound) (hs : s.call ∈ f.calls) : s.call.entry.number ≤ f.desk.lastId := by
  obtain ⟨e, he, hi, -⟩ := h.matched.fits s.call hs
  exact hi ▸ h.numbered.id_le e he

/-- The next number after one settlement. -/
theorem Sound.nextId_settle (h : f.Sound) (hs : s.call ∈ f.calls) :
    (f.desk.settle s).1.nextId = ⟨f.desk.lastId + (if s.isSaved then 1 else 0) + 1⟩ := by
  unfold Desk.nextId
  rw [(h.settled hs).lastId_eq]

/-- The list after two settlements, entry by entry. -/
theorem Sound.entries_settle_settle (h : f.Sound) (hs : s.call ∈ f.calls) (ht : t.call ∈ f.calls)
    (hne : s.call.entry ≠ t.call.entry) : ((f.desk.settle s).1.settle t).1.entries =
      f.desk.entries.filterMap fun e =>
        (s.onEntry f.desk.nextId e).bind (t.onEntry (f.desk.settle s).1.nextId) := by
  have h' := h.settle hs
  have hs' := h.settled hs
  have ht' := h'.settled (mem_erase_of_entry_ne ht hne)
  rw [ht'.entries_eq h'.numbered.nodup, hs'.entries_eq h.numbered.nodup, List.filterMap_filterMap]

/-- The open editor after two settlements. -/
theorem Sound.editor_settle_settle (h : f.Sound) (hs : s.call ∈ f.calls) (ht : t.call ∈ f.calls)
    (hne : s.call.entry ≠ t.call.entry) : ((f.desk.settle s).1.settle t).1.modal.editor =
      f.desk.modal.editor.bind fun ed =>
        (s.onEditor f.desk.nextId ed).bind (t.onEditor (f.desk.settle s).1.nextId) := by
  have ht' := (h.settle hs).settled (mem_erase_of_entry_ne ht hne)
  rw [ht'.editor_eq, (h.settled hs).editor_eq, Option.bind_assoc]

/-- The desks after two settlements in either order differ by a renumbering. -/
theorem Sound.renumbered (h : f.Sound) (hs : s.call ∈ f.calls) (ht : t.call ∈ f.calls)
    (hne : s.call.entry ≠ t.call.entry) :
    Desk.Renumbered (Settlement.exchange f.desk.lastId s t) ((f.desk.settle s).1.settle t).1
      ((f.desk.settle t).1.settle s).1 := by
  have hs' := h.settled hs
  have ht' := h.settled ht
  have hst := (h.settle hs).settled (mem_erase_of_entry_ne ht hne)
  have hts := (h.settle ht).settled (mem_erase_of_entry_ne hs hne.symm)
  have hx := Settlement.exchange_numbers f.desk.lastId hne (h.entry_number_le hs) (h.entry_number_le ht)
  rw [← h.nextId_settle hs, ← h.nextId_settle ht] at hx
  exact {
    access := by simp
    options := by simp
    search := by simp
    capacity := by simp
    lastId := by
      rw [hst.lastId_eq, hts.lastId_eq, hs'.lastId_eq, ht'.lastId_eq]
      omega
    lastSession := by
      rw [hst.lastSession_eq, hts.lastSession_eq, hs'.lastSession_eq, ht'.lastSession_eq]
    entries := by
      rw [h.entries_settle_settle hs ht hne, h.entries_settle_settle ht hs hne.symm, List.map_filterMap]
      refine List.filterMap_congr fun e he => (hx.onEntry ?_).symm
      exact Renumbering.fixes _ e.id (h.numbered.id_le e he)
    editor := by
      rw [h.editor_settle_settle hs ht hne, h.editor_settle_settle ht hs hne.symm]
      cases hed : f.desk.modal.editor with
      | none => rfl
      | some ed => exact (hx.onEditor (Renumbering.fixes _ ed.entry (h.numbered.editor_le ed hed))).symm }

/-- A settlement says the same about the list, whether the other came before it or not. -/
theorem Sound.change_alike (h : f.Sound) (hs : s.call ∈ f.calls) (ht : t.call ∈ f.calls)
    (hne : s.call.entry ≠ t.call.entry) :
    (f.desk.settle s).2.Alike f.desk.lastId ((f.desk.settle t).1.settle s).2 := by
  obtain ⟨e, he, -⟩ := h.exists_entry hs
  obtain ⟨hmem, hi⟩ := Desk.mem_of_lookup he
  have h' := h.settle ht
  have hts := h'.settled (mem_erase_of_entry_ne hs hne.symm)
  -- the other settlement left the entry as it was
  have he' : Desk.entry? (f.desk.settle t).1 s.call.entry = some e := by
    refine (Desk.entry?_eq_some h'.numbered.nodup).2 ⟨?_, hi⟩
    show e ∈ (f.desk.settle t).1.entries
    rw [(h.settled ht).entries_eq h.numbered.nodup, List.mem_filterMap]
    exact ⟨e, hmem, Settlement.onEntry_of_ne (hi ▸ hne)⟩
  rw [(h.settled hs).change_eq he, hts.change_eq he']
  refine s.change_alike (.inr ⟨Nat.lt_succ_self _, ?_⟩) e
  rw [h.nextId_settle ht]
  show f.desk.lastId < f.desk.lastId + _ + 1
  omega

/-- Two settlements come to the same in either order. -/
structure Commutes (f : Flight) (s t : Settlement) : Prop where
  desk : Desk.Alike f.desk.lastId (f.run [.settle s, .settle t]).desk (f.run [.settle t, .settle s]).desk
  calls : (f.run [.settle s, .settle t]).calls = (f.run [.settle t, .settle s]).calls
  /-- What the one says about the list, when it is first and when it is second. -/
  left : (f.desk.settle s).2.Alike f.desk.lastId ((f.step (.settle t)).desk.settle s).2
  /-- What the other says. -/
  right : (f.desk.settle t).2.Alike f.desk.lastId ((f.step (.settle s)).desk.settle t).2

/-- Both settlements are applied. -/
theorem run_settle_settle (hs : s.call ∈ f.calls) (ht : t.call ∈ f.calls) (hne : s.call.entry ≠ t.call.entry) :
    f.run [.settle s, .settle t] =
      ⟨((f.desk.settle s).1.settle t).1, (f.calls.erase s.call).erase t.call⟩ := by
  show (f.step (.settle s)).step (.settle t) = _
  rw [step_settle hs]
  exact step_settle (mem_erase_of_entry_ne ht hne)

theorem Sound.commutes (h : f.Sound) (hs : s.call ∈ f.calls) (ht : t.call ∈ f.calls)
    (hne : s.call.entry ≠ t.call.entry) : f.Commutes s t := by
  refine ⟨?_, ?_, ?_, ?_⟩
  · rw [run_settle_settle hs ht hne, run_settle_settle ht hs hne.symm]
    exact (h.renumbered hs ht hne).alike
  · rw [run_settle_settle hs ht hne, run_settle_settle ht hs hne.symm]
    exact List.erase_comm ..
  · rw [step_settle ht]
    exact h.change_alike hs ht hne
  · rw [step_settle hs]
    exact h.change_alike ht hs hne.symm

/-- **Settlements in either order**: after every run, two calls in flight for different entries settle in either order
with the same list, the same editor on the same card and the same changes, whatever was answered. Only new numbers and
the notices may differ. -/
theorem commutes_run (p : Page) (o : Options) (ms : List Move) {s t : Settlement}
    (hs : s.call ∈ ((start p o).run ms).calls) (ht : t.call ∈ ((start p o).run ms).calls)
    (hne : s.call.entry ≠ t.call.entry) : ((start p o).run ms).Commutes s t :=
  (sound_run p o ms).commutes hs ht hne

/-- Both cards are opened and saved, and the first is opened again. -/
def bothSaving : List Move :=
  [.event (.cardClicked ⟨1⟩), .event .saveClicked, .event (.cardClicked ⟨2⟩), .event .saveClicked,
    .event (.cardClicked ⟨1⟩)]

/-- The save of the first card succeeds. -/
def savedBoot : Settlement := .save ⟨1⟩ ⟨1⟩ ⟨some ⟨"k1"⟩, "boot", ⟨[], [], []⟩, some ""⟩ (.ok ⟨"k1"⟩)

/-- The save of the second card succeeds. -/
def savedNet : Settlement := .save ⟨2⟩ ⟨2⟩ ⟨some ⟨"k2"⟩, "net", ⟨[], [], []⟩, some ""⟩ (.ok ⟨"k2"⟩)

/-- The editor is turned to the number that the first card gets, which depends on the order. -/
theorem commutes_bothSaving :
    ((start twoCards {}).run bothSaving).Commutes savedBoot savedNet ∧
    ((((start twoCards {}).run bothSaving).run [.settle savedBoot, .settle savedNet]).desk.modal.editor.map
      (·.entry)) = some ⟨3⟩ ∧
    ((((start twoCards {}).run bothSaving).run [.settle savedNet, .settle savedBoot]).desk.modal.editor.map
      (·.entry)) = some ⟨4⟩ := by
  have hs : savedBoot.call ∈ ((start twoCards {}).run bothSaving).calls := by decide +kernel
  have ht : savedNet.call ∈ ((start twoCards {}).run bothSaving).calls := by decide +kernel
  have hne : savedBoot.call.entry ≠ savedNet.call.entry := by decide
  exact ⟨commutes_run twoCards {} bothSaving hs ht hne, by decide +kernel, by decide +kernel⟩

end Flight

end AckDesk
