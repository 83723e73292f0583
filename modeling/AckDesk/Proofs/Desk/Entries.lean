import AckDesk.Desk.Handle
import AckDesk.Desk.Settle
import AckDesk.Page.Loading
import Mathlib.Data.List.Nodup

/-!
# Which entries a desk has after an operation

The operations of a desk change its list by four means: an entry is modified in place, replaced under a new number,
taken off, or put on top. Each is described by the members that the list has afterwards (`mem_modifyEntry`,
`mem_replaceSaved`, `mem_removeEntry`, `mem_discardOpenDraft`) and by its numbers (`ids_modifyEntry`,
`ids_replaceSaved`, `ids_removeEntry_sublist`, `ids_discardOpenDraft_sublist`). As long as no two entries have one
number, the entry with a number is the member with it (`entry?_eq_some`).
-/

namespace AckDesk.Desk

variable {k : Desk} {i : EntryId} {d e : Entry} {f : Entry → Entry}

/-- The numbers of the entries, from the top of the list. -/
def ids (k : Desk) : List EntryId := k.entries.map (·.id)

/-! ## The entries of a page -/

theorem mem_entriesFrom {rs : List Record} : ∀ {n : Nat}, e ∈ entriesFrom n rs →
    e.state = .clean ∧ e.visible = true ∧ e.record ∈ rs := by
  induction rs with
  | nil => intro n he; cases he
  | cons r rs ih =>
    intro n he
    rcases List.mem_cons.1 he with rfl | he
    · exact ⟨rfl, rfl, List.mem_cons_self⟩
    · obtain ⟨hs, hv, hr⟩ := ih he
      exact ⟨hs, hv, List.mem_cons_of_mem r hr⟩

theorem map_record_entriesFrom (rs : List Record) : ∀ n, (entriesFrom n rs).map (·.record) = rs := by
  induction rs with
  | nil => exact fun _ => rfl
  | cons r rs ih => intro n; simp [entriesFrom, ih]

/-- A page starts with visible entries at rest. -/
theorem mem_page {p : Page} {o : Options} (he : e ∈ (p.desk o).entries) :
    e.state = .clean ∧ e.visible = true ∧ e.record ∈ p.records :=
  mem_entriesFrom he

/-! ## Looking up -/

theorem mem_of_lookup (h : k.entry? i = some e) : e ∈ k.entries ∧ e.id = i :=
  ⟨List.mem_of_find?_eq_some h, by simpa using List.find?_some h⟩

theorem entry?_eq_none : k.entry? i = none ↔ ∀ e ∈ k.entries, e.id ≠ i := by
  unfold entry?
  simp

theorem entry?_eq_none_iff_ids : k.entry? i = none ↔ i ∉ k.ids := by
  rw [entry?_eq_none, ids, List.mem_map]
  exact ⟨fun h ⟨e, he, hi⟩ => h e he hi, fun h e he hi => h ⟨e, he, hi⟩⟩

theorem mem_ids_of_lookup (h : k.entry? i = some e) : i ∈ k.ids := List.mem_map.2 ⟨e, mem_of_lookup h⟩

theorem eq_of_id_eq (hn : k.ids.Nodup) (hd : d ∈ k.entries) (he : e ∈ k.entries) (h : d.id = e.id) : d = e :=
  List.inj_on_of_nodup_map hn hd he h

/-- The entry with a number is the only one with it. -/
theorem eq_of_lookup (hn : k.ids.Nodup) (he : k.entry? i = some e) (hd : d ∈ k.entries) (hi : d.id = i) : d = e := by
  obtain ⟨hmem, rfl⟩ := mem_of_lookup he
  exact eq_of_id_eq hn hd hmem hi

theorem entry?_eq_some (hn : k.ids.Nodup) : k.entry? i = some e ↔ e ∈ k.entries ∧ e.id = i := by
  refine ⟨mem_of_lookup, fun ⟨he, hi⟩ => ?_⟩
  cases h : k.entry? i with
  | none => exact absurd hi (entry?_eq_none.1 h e he)
  | some d =>
    obtain ⟨hd, hdi⟩ := mem_of_lookup h
    rw [eq_of_id_eq hn hd he (hdi.trans hi.symm)]

/-! ## Modifying in place -/

theorem mem_modifyEntry : e ∈ (k.modifyEntry i f).entries ↔
    (e ∈ k.entries ∧ e.id ≠ i) ∨ ∃ d ∈ k.entries, d.id = i ∧ f d = e := by
  simp only [modifyEntry, List.mem_map]
  constructor
  · rintro ⟨d, hd, rfl⟩
    by_cases h : d.id = i
    · exact .inr ⟨d, hd, h, by simp [h]⟩
    · exact .inl ⟨by simpa [h] using hd, by simp [h]⟩
  · rintro (⟨he, hi⟩ | ⟨d, hd, hi, rfl⟩)
    · exact ⟨e, he, by simp [hi]⟩
    · exact ⟨d, hd, by simp [hi]⟩

theorem mem_modifyEntry_of_lookup (hn : k.ids.Nodup) (hd : k.entry? i = some d) :
    e ∈ (k.modifyEntry i f).entries ↔ (e ∈ k.entries ∧ e.id ≠ i) ∨ e = f d := by
  obtain ⟨hmem, hi⟩ := mem_of_lookup hd
  rw [mem_modifyEntry]
  refine or_congr_right ⟨?_, fun h => ⟨d, hmem, hi, h.symm⟩⟩
  rintro ⟨c, hc, hci, rfl⟩
  rw [eq_of_lookup hn hd hc hci]

theorem ids_modifyEntry (hf : ∀ d ∈ k.entries, (f d).id = d.id) : (k.modifyEntry i f).ids = k.ids := by
  simp only [ids, modifyEntry, List.map_map]
  refine List.map_congr_left fun d hd => ?_
  by_cases h : d.id = i
  · simp [h, hf d hd]
  · simp [h]

theorem ids_modifyState (k : Desk) (i : EntryId) (st : EntryState) :
    (k.modifyEntry i fun e => { e with state := st }).ids = k.ids :=
  ids_modifyEntry fun _ _ => rfl

/-- A change of state in place leaves the rest of the entries as it was. -/
theorem mem_of_mem_modifyState {st : EntryState}
    (h : e ∈ (k.modifyEntry i fun e => { e with state := st }).entries) :
    ∃ d ∈ k.entries, d.id = e.id ∧ d.record = e.record ∧ d.visible = e.visible ∧
      (e.state = d.state ∨ d.id = i ∧ e.state = st) := by
  rcases mem_modifyEntry.1 h with ⟨he, -⟩ | ⟨d, hd, hi, rfl⟩
  · exact ⟨e, he, rfl, rfl, rfl, .inl rfl⟩
  · exact ⟨d, hd, rfl, rfl, rfl, .inr ⟨hi, rfl⟩⟩

/-! ## Replacing under a new number -/

theorem mem_replaceSaved {r : Record} {key : Key} : e ∈ (k.replaceSaved i r key).entries ↔
    (e ∈ k.entries ∧ e.id ≠ i) ∨ (∃ d ∈ k.entries, d.id = i) ∧ e = ⟨k.nextId, r.withKey key, .clean, true⟩ := by
  have hk : (k.replaceSaved i r key).entries =
      (k.modifyEntry i fun _ => ⟨k.nextId, r.withKey key, .clean, true⟩).entries := rfl
  rw [hk, mem_modifyEntry]
  constructor
  · rintro (h | ⟨d, hd, hi, rfl⟩)
    · exact .inl h
    · exact .inr ⟨⟨d, hd, hi⟩, rfl⟩
  · rintro (h | ⟨⟨d, hd, hi⟩, rfl⟩)
    · exact .inl h
    · exact .inr ⟨d, hd, hi, rfl⟩

theorem ids_replaceSaved (r : Record) (key : Key) :
    (k.replaceSaved i r key).ids = k.ids.map fun j => if j = i then k.nextId else j := by
  simp only [ids, replaceSaved, modifyEntry, List.map_map]
  refine List.map_congr_left fun d _ => ?_
  by_cases h : d.id = i <;> simp [h]

/-! ## Taking off -/

theorem mem_removeEntry : e ∈ (k.removeEntry i).entries ↔ e ∈ k.entries ∧ e.id ≠ i := by simp [removeEntry]

theorem mem_ids_removeEntry {j : EntryId} (h : j ≠ i) : j ∈ (k.removeEntry i).ids ↔ j ∈ k.ids := by
  simp only [ids, List.mem_map, mem_removeEntry]
  constructor
  · rintro ⟨e, ⟨he, -⟩, rfl⟩
    exact ⟨e, he, rfl⟩
  · rintro ⟨e, he, rfl⟩
    exact ⟨e, ⟨he, h⟩, rfl⟩

theorem ids_removeEntry_sublist (k : Desk) (i : EntryId) : (k.removeEntry i).ids.Sublist k.ids :=
  List.filter_sublist.map _

/-- Only the clean hidden draft that is being edited goes. -/
theorem mem_discardOpenDraft : e ∈ k.discardOpenDraft.entries ↔
    e ∈ k.entries ∧ ¬(k.modal.isOn e.id = true ∧ e.isHiddenDraft = true ∧ e.state = .clean) := by
  unfold discardOpenDraft Modal.isOn
  cases k.modal.editor with
  | none => simp
  | some ed =>
    simp only [List.mem_filter, Option.any_some, Bool.not_eq_true', beq_iff_eq]
    by_cases h : ed.entry = e.id
    · simp [h]
    · simp [h, Ne.symm h]

theorem ids_discardOpenDraft_sublist (k : Desk) : k.discardOpenDraft.ids.Sublist k.ids := by
  unfold discardOpenDraft
  cases k.modal.editor with
  | none => exact List.Sublist.refl _
  | some ed => exact List.filter_sublist.map _

/-- Entries other than the draft that is being edited survive its discard. -/
theorem entry?_discardOpenDraft (h : k.modal.isOn i = false) :
    k.discardOpenDraft.entry? i = k.entry? i := by
  unfold discardOpenDraft
  cases hed : k.modal.editor with
  | none => rfl
  | some ed =>
    have hne : ed.entry ≠ i := by simpa [Modal.isOn, hed] using h
    simp only [List.find?_filter, entry?]
    congr 1
    funext e
    by_cases hi : e.id = i
    · simp [hi, hne.symm]
    · simp [hi]

@[simp] theorem modal_discardOpenDraft (k : Desk) : k.discardOpenDraft.modal = k.modal := by
  unfold discardOpenDraft
  cases h : k.modal.editor <;> rfl

@[simp] theorem access_discardOpenDraft (k : Desk) : k.discardOpenDraft.access = k.access := by
  unfold discardOpenDraft
  cases h : k.modal.editor <;> rfl

@[simp] theorem lastId_discardOpenDraft (k : Desk) : k.discardOpenDraft.lastId = k.lastId := by
  unfold discardOpenDraft
  cases h : k.modal.editor <;> rfl

end AckDesk.Desk
