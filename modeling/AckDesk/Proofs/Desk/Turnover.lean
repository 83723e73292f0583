import AckDesk.Proofs.Desk.Outcomes

/-!
# Entries that come and go

Most of what happens at a desk leaves the entries where they are and changes at most their state (`Shows`).

* An entry that is there after an event was there before, or is the draft that the event put on top
  (`Handled.origin`). One that is there after a settlement was there before, or came for a save that succeeded
  (`Settled.origin`).
* A card that the user sees goes by one event only, the deletion of an entry without a key (`Handled.gone`,
  `ids_of_dropped`), and by a settlement in three ways (`Settled.gone`, `Settled.not_mem_ids`): it was deleted, or it was
  saved and is replaced where it stands (`entries_replaceSaved`), or it has no key and its save failed.
-/

namespace AckDesk.Desk

variable {k k' : Desk} {e x : Entry}

/-- The list has the entry, in whatever state. -/
def Shows (k : Desk) (e : Entry) : Prop :=
  ∃ d ∈ k.entries, d.id = e.id ∧ d.record = e.record ∧ d.visible = e.visible

theorem shows_of_mem (he : e ∈ k.entries) : k.Shows e := ⟨e, he, rfl, rfl, rfl⟩

theorem Shows.mem_ids (h : k.Shows e) : e.id ∈ k.ids := by
  obtain ⟨d, hd, hi, -⟩ := h
  exact List.mem_map.2 ⟨d, hd, hi⟩

/-- A change of state in place shows the same entries, seen from after it. -/
theorem shows_of_mem_modifyState {i : EntryId} {st : EntryState}
    (h : x ∈ (k.modifyEntry i fun e => { e with state := st }).entries) : k.Shows x := by
  obtain ⟨d, hd, hi, hr, hv, -⟩ := mem_of_mem_modifyState h
  exact ⟨d, hd, hi, hr, hv⟩

/-! ## Where an entry comes from -/

/-- An entry that is there after an event was there before, or is a new draft. -/
theorem Handled.origin {ev : Event} {c : Option Call} (hh : Handled k ev k' c) (hx : x ∈ k'.entries) :
    k.Shows x ∨ ∃ t, t = Text.trim k.search.query ∧ t ≠ "" ∧ ev = .addFromSearchClicked ∧
      x = ⟨k.nextId, .draft t, .clean, false⟩ := by
  cases hh with
  | aside _ hk => rw [hk.entries] at hx; exact .inl (shows_of_mem hx)
  | edited _ hk => rw [hk.entries] at hx; exact .inl (shows_of_mem hx)
  | opened _ _ hk =>
    rw [hk.entries] at hx
    split at hx
    · exact .inl (shows_of_mem hx)
    · exact .inl (shows_of_mem (mem_discardOpenDraft.1 hx).1)
  | @added t k' ht hn hk =>
    rw [hk.entries] at hx
    rcases List.mem_cons.1 hx with rfl | hx
    · exact .inr ⟨t, ht, hn, rfl, rfl⟩
    · exact .inl (shows_of_mem (mem_discardOpenDraft.1 hx).1)
  | closed hk => rw [hk.entries] at hx; exact .inl (shows_of_mem (mem_discardOpenDraft.1 hx).1)
  | saved _ _ _ hk => rw [hk.entries] at hx; exact .inl (shows_of_mem_modifyState hx)
  | dropped _ _ _ hk => rw [hk.entries] at hx; exact .inl (shows_of_mem (mem_removeEntry.1 hx).1)
  | deleted _ _ _ hk => rw [hk.entries] at hx; exact .inl (shows_of_mem_modifyState hx)

/-- An entry that is there after a settlement was there before, or came for a save that succeeded. -/
theorem Settled.origin {s : Settlement} {ch : Change} (hs : Settled k s k' ch) (hx : x ∈ k'.entries) :
    k.Shows x ∨ ∃ i t r key, s = .save i t r (.ok key) ∧ x = ⟨k.nextId, r.withKey key, .clean, true⟩ := by
  cases hs with
  | @saved i t r key e k' _ hk =>
    rw [hk.entries] at hx
    rcases mem_replaceSaved.1 hx with ⟨hx, -⟩ | ⟨-, rfl⟩
    · exact .inl (shows_of_mem hx)
    · exact .inr ⟨i, t, r, key, rfl, rfl⟩
  | discarded _ _ hk => rw [hk.entries] at hx; exact .inl (shows_of_mem (mem_removeEntry.1 hx).1)
  | reverted _ _ hk => rw [hk.entries] at hx; exact .inl (shows_of_mem_modifyState hx)
  | removed _ hk => rw [hk.entries] at hx; exact .inl (shows_of_mem (mem_removeEntry.1 hx).1)
  | restored _ hk => rw [hk.entries] at hx; exact .inl (shows_of_mem_modifyState hx)

/-! ## Where a card goes -/

/-- What the user sees is no draft that could be discarded. -/
theorem mem_discardOpenDraft_of_visible (hv : e.visible = true) : e ∈ k.discardOpenDraft.entries ↔ e ∈ k.entries := by
  rw [mem_discardOpenDraft]
  refine and_iff_left fun h => ?_
  have hd := h.2.1
  simp [Entry.isHiddenDraft, hv] at hd

/-- An event takes a card off the list only by deleting an entry without a key. -/
theorem Handled.gone {ev : Event} {c : Option Call} (hh : Handled k ev k' c) (hn : k.ids.Nodup) (he : e ∈ k.entries)
    (hv : e.visible = true) (hg : e.id ∉ k'.ids) :
    ev = .deleteClicked e.id ∧ e.record.key = none ∧ c = none := by
  have stays : e ∈ k'.entries → False := fun h => hg (shows_of_mem h).mem_ids
  have moved : k'.ids = k.ids → False := fun h => hg (h ▸ (shows_of_mem he).mem_ids)
  cases hh with
  | aside _ hk => exact (stays (hk.entries ▸ he)).elim
  | edited _ hk => exact (stays (hk.entries ▸ he)).elim
  | opened _ _ hk =>
    refine (stays ?_).elim
    rw [hk.entries]
    split
    · exact he
    · exact (mem_discardOpenDraft_of_visible hv).2 he
  | added _ _ hk =>
    refine (stays ?_).elim
    rw [hk.entries]
    exact List.mem_cons_of_mem _ ((mem_discardOpenDraft_of_visible hv).2 he)
  | closed hk => exact (stays (hk.entries ▸ (mem_discardOpenDraft_of_visible hv).2 he)).elim
  | saved _ _ _ hk => exact (moved (hk.ids.trans (ids_modifyState k _ _))).elim
  | @dropped i d k' hd _ hkey hk =>
    obtain ⟨hmem, rfl⟩ := mem_of_lookup hd
    by_cases hi : e.id = d.id
    · obtain rfl := eq_of_id_eq hn he hmem hi
      exact ⟨rfl, hkey, rfl⟩
    · exact (stays (hk.entries ▸ mem_removeEntry.2 ⟨he, hi⟩)).elim
  | deleted _ _ _ hk => exact (moved (hk.ids.trans (ids_modifyState k _ _))).elim

theorem not_mem_ids_removeEntry (k : Desk) (i : EntryId) : i ∉ (k.removeEntry i).ids := by
  intro h
  obtain ⟨x, hx, hi⟩ := List.mem_map.1 h
  exact (mem_removeEntry.1 hx).2 hi

/-- A deletion that asks for no call takes the entry off the list. -/
theorem ids_of_dropped {i : EntryId} {c : Option Call} (h : k.handle (.deleteClicked i) = .ok (k', c))
    (he : k.entry? i = some e) (hk : e.record.key = none) : i ∉ k'.ids := by
  unfold handle at h
  split at h
  · cases h
  · obtain ⟨d, hd, h⟩ := map_eq_ok (show k.startDelete i = .ok (k', c) from h)
    obtain rfl := Option.some.inj (he.symm.trans (idleEntry_eq_ok hd).1)
    rw [hk] at h
    cases h
    exact not_mem_ids_removeEntry k i

/-- Entries above and below an entry have other numbers. -/
theorem ne_of_around (hn : k.ids.Nodup) {above below : List Entry} (hk : k.entries = above ++ e :: below) :
    (∀ x ∈ above, x.id ≠ e.id) ∧ ∀ x ∈ below, x.id ≠ e.id := by
  have hids : ((above ++ e :: below).map (·.id)).Nodup := hk ▸ hn
  rw [List.map_append, List.map_cons, List.nodup_middle, List.nodup_cons, ← List.map_append] at hids
  refine List.forall_mem_append.1 fun x hx hi => hids.1 ?_
  exact List.mem_map.2 ⟨x, hx, hi⟩

/-- An entry is modified where it stands. -/
theorem entries_modifyEntry (hn : k.ids.Nodup) {above below : List Entry} (hk : k.entries = above ++ e :: below)
    (f : Entry → Entry) : (k.modifyEntry e.id f).entries = above ++ f e :: below := by
  have other : ∀ es : List Entry, (∀ x ∈ es, x.id ≠ e.id) → (es.map fun d => if d.id = e.id then f d else d) = es :=
    fun es hes => (List.map_congr_left fun d hd => if_neg (hes d hd)).trans (List.map_id' es)
  obtain ⟨ha, hb⟩ := ne_of_around hn hk
  simp [modifyEntry, hk, other above ha, other below hb]

/-- An entry is taken off where it stands. -/
theorem entries_removeEntry (hn : k.ids.Nodup) {above below : List Entry} (hk : k.entries = above ++ e :: below) :
    (k.removeEntry e.id).entries = above ++ below := by
  have other : ∀ es : List Entry, (∀ x ∈ es, x.id ≠ e.id) → es.filter (·.id != e.id) = es :=
    fun es hes => List.filter_eq_self.2 fun d hd => bne_iff_ne.2 (hes d hd)
  obtain ⟨ha, hb⟩ := ne_of_around hn hk
  simp [removeEntry, hk, other above ha, other below hb]

/-- A saved card stands where the card that it replaces stood. -/
theorem entries_replaceSaved (hn : k.ids.Nodup) {above below : List Entry} (hk : k.entries = above ++ e :: below)
    (r : Record) (key : Key) :
    (k.replaceSaved e.id r key).entries = above ++ ⟨k.nextId, r.withKey key, .clean, true⟩ :: below :=
  entries_modifyEntry hn hk _

/-- What a save that succeeded does to a desk. -/
theorem Settled.has_saved {i : EntryId} {t : Session} {r : Record} {key : Key} {ch : Change}
    (hs : Settled k (.save i t r (.ok key)) k' ch) :
    k'.Has (k.replaceSaved i r key).entries ((k.replaceSaved i r key).modal.closeIfShowing t) (k.lastId + 1) := by
  cases hs with
  | saved _ hk => exact hk

/-- The settlement is one that takes the entry off the list: its deletion, a save that puts another card in its place, or
the failure of its save if it has no key. -/
inductive Removes : Settlement → Entry → Prop
  | deleted {e : Entry} (key : Key) : Removes (.delete e.id key (.ok ())) e
  | saved {e : Entry} (t : Session) (r : Record) (key : Key) : Removes (.save e.id t r (.ok key)) e
  | discarded {e : Entry} (t : Session) (r : Record) (f : Backend.Failure) (hk : e.record.key = none) :
      Removes (.save e.id t r (.error f)) e

/-- A settlement takes an entry off the list in three ways. -/
theorem Settled.gone {s : Settlement} {ch : Change} (hs : Settled k s k' ch) (hn : k.ids.Nodup) (he : e ∈ k.entries)
    (hg : e.id ∉ k'.ids) : Removes s e := by
  have stays : e ∈ k'.entries → False := fun h => hg (shows_of_mem h).mem_ids
  have moved : k'.ids = k.ids → False := fun h => hg (h ▸ (shows_of_mem he).mem_ids)
  -- the settlement is for the entry, as it would stay otherwise
  have here : ∀ {i d}, k.entry? i = some d → (e.id ≠ i → e ∈ k'.entries) → d = e ∧ e.id = i := by
    intro i d hd hother
    obtain ⟨hmem, rfl⟩ := mem_of_lookup hd
    by_cases hi : e.id = d.id
    · exact ⟨(eq_of_id_eq hn he hmem hi).symm, hi⟩
    · exact (stays (hother hi)).elim
  cases hs with
  | @saved i t r key d k' hd hk =>
    obtain ⟨-, rfl⟩ := here hd fun hi => hk.entries ▸ mem_replaceSaved.2 (.inl ⟨he, hi⟩)
    exact .saved t r key
  | @discarded i t r f d k' hd hkey hk =>
    obtain ⟨rfl, rfl⟩ := here hd fun hi => hk.entries ▸ mem_removeEntry.2 ⟨he, hi⟩
    exact .discarded t r f hkey
  | reverted _ _ hk => exact (moved (hk.ids.trans (ids_modifyState k _ _))).elim
  | @removed i key d k' hd hk =>
    obtain ⟨-, rfl⟩ := here hd fun hi => hk.entries ▸ mem_removeEntry.2 ⟨he, hi⟩
    exact .deleted key
  | restored _ hk => exact (moved (hk.ids.trans (ids_modifyState k _ _))).elim

/-- In each of the three ways the entry goes. -/
theorem Settled.not_mem_ids {s : Settlement} {ch : Change} (hs : Settled k s k' ch) (hn : k.ids.Nodup)
    (he : e ∈ k.entries) (hnew : e.id ≠ k.nextId) (hr : Removes s e) : e.id ∉ k'.ids := by
  cases hr with
  | deleted key =>
    cases hs with
    | removed _ hk => exact hk.ids ▸ not_mem_ids_removeEntry k e.id
  | saved t r key =>
    have hids : k'.ids = k.ids.map fun j => if j = e.id then k.nextId else j :=
      hs.has_saved.ids.trans (ids_replaceSaved r key)
    rw [hids, List.mem_map]
    rintro ⟨j, -, hj⟩
    split at hj
    · exact hnew hj.symm
    · exact absurd hj ‹_›
  | discarded t r f hk =>
    generalize hs' : Settlement.save e.id t r (.error f) = s at hs
    cases hs with
    | discarded _ _ hh =>
      cases hs'
      exact hh.ids ▸ not_mem_ids_removeEntry k e.id
    | reverted hd hkey _ =>
      cases hs'
      cases ((entry?_eq_some hn).2 ⟨he, rfl⟩).symm.trans hd
      exact absurd hk hkey
    | saved => cases hs'
    | removed => cases hs'
    | restored => cases hs'

end AckDesk.Desk
