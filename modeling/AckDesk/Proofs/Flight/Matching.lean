import AckDesk.Proofs.Flight.Numbering

/-!
# Calls in flight and entries that wait

A call in flight and an entry that waits **match** (`Matched`): no two calls are for one entry, every call is for an
entry that waits for just this call, and every entry that waits has a call. Three lemmas say what keeps this: an
operation that leaves alone the entries that wait (`Matched.of_waiting`), one that makes an entry wait and adds its
call (`Matched.issue`), and one that settles a call and frees or takes off its entry (`Matched.answer`). Events and
settlements are cases of these (`Matched.handled`, `Matched.settled`).
-/

namespace AckDesk

/-- The entry waits for this call, and the call names what the entry shows. -/
def Call.Fits : Call → Entry → Prop
  | .save _ _ r, e => e.state = .saving ∧ r.key = e.record.key ∧ r.testName = e.record.testName
  | .delete _ key, e => e.state = .pendingDelete ∧ e.record.key = some key

theorem Call.Fits.waits {c : Call} {e : Entry} (h : c.Fits e) : e.state ≠ .clean := by
  cases c with
  | save i s r => rw [h.1]; exact EntryState.noConfusion
  | delete i key => rw [h.1]; exact EntryState.noConfusion

namespace Desk

/-- The calls in flight are those for which entries wait, one for each. -/
structure Matched (k : Desk) (cs : List Call) : Prop where
  once : (cs.map Call.entry).Nodup
  fits : ∀ c ∈ cs, ∃ e ∈ k.entries, e.id = c.entry ∧ c.Fits e
  called : ∀ e ∈ k.entries, e.state ≠ .clean → ∃ c ∈ cs, c.entry = e.id

variable {k k' : Desk} {cs : List Call}

theorem matched_page (p : Page) (o : Options) : Matched (p.desk o) [] :=
  ⟨.nil, fun _ hc => (List.not_mem_nil hc).elim, fun _ he hs => absurd (mem_page he).1 hs⟩

/-- The open editor saves under the key and the test name of the entry that it is on. -/
def Coherent (k : Desk) : Prop :=
  ∀ ed e, k.modal.editor = some ed → e ∈ k.entries → e.id = ed.entry →
    ed.key = e.record.key ∧ ed.testName = e.record.testName

/-! ## What keeps a match -/

/-- The call for an entry, found through the entry. -/
theorem Matched.eq_of_entry_eq (h : Matched k cs) {c d : Call} (hc : c ∈ cs) (hd : d ∈ cs) (he : c.entry = d.entry) :
    c = d :=
  List.inj_on_of_nodup_map h.once hc hd he

/-- The order of the calls does not matter. -/
theorem Matched.of_perm (h : Matched k cs) {ds : List Call} (hp : cs.Perm ds) : Matched k ds := by
  refine ⟨(hp.map _).nodup_iff.1 h.once, fun c hc => h.fits c (hp.mem_iff.2 hc), fun e he hs => ?_⟩
  obtain ⟨c, hc, hi⟩ := h.called e he hs
  exact ⟨c, hp.mem_iff.1 hc, hi⟩

theorem Matched.of_waiting (h : Matched k cs)
    (hw : ∀ e : Entry, e.state ≠ .clean → (e ∈ k'.entries ↔ e ∈ k.entries)) : Matched k' cs := by
  refine ⟨h.once, fun c hc => ?_, fun e he hs => h.called e ((hw e hs).1 he) hs⟩
  obtain ⟨e, he, hi, hf⟩ := h.fits c hc
  exact ⟨e, (hw e hf.waits).2 he, hi, hf⟩

/-- An entry at rest is made to wait for a new call. -/
theorem Matched.issue (h : Matched k cs) (hn : k.ids.Nodup) {c : Call} {e e' : Entry} (he : k.entry? c.entry = some e)
    (hs : e.state = .clean) (hf : c.Fits e') (hi : e'.id = c.entry)
    (hw : ∀ x, x ∈ k'.entries ↔ (x ∈ k.entries ∧ x.id ≠ c.entry) ∨ x = e') : Matched k' (cs ++ [c]) := by
  -- no call was in flight for an entry at rest
  have fresh : ∀ d ∈ cs, d.entry ≠ c.entry := by
    intro d hd hdc
    obtain ⟨x, hx, hxi, hxf⟩ := h.fits d hd
    obtain rfl := eq_of_lookup hn he hx (hxi.trans hdc)
    exact hxf.waits hs
  refine ⟨?_, fun d hd => ?_, fun x hx hxs => ?_⟩
  · rw [List.map_append, List.nodup_append]
    refine ⟨h.once, by simp, fun a ha b hb => ?_⟩
    obtain ⟨d, hd, rfl⟩ := List.mem_map.1 ha
    obtain rfl := List.mem_singleton.1 hb
    exact fresh d hd
  · rcases List.mem_append.1 hd with hd | hd
    · obtain ⟨x, hx, hxi, hxf⟩ := h.fits d hd
      exact ⟨x, (hw x).2 (.inl ⟨hx, hxi ▸ fresh d hd⟩), hxi, hxf⟩
    · obtain rfl := List.mem_singleton.1 hd
      exact ⟨e', (hw e').2 (.inr rfl), hi, hf⟩
  · rcases (hw x).1 hx with ⟨hx, -⟩ | rfl
    · obtain ⟨d, hd, hdx⟩ := h.called x hx hxs
      exact ⟨d, List.mem_append_left _ hd, hdx⟩
    · exact ⟨c, by simp, hi.symm⟩

/-- A call settles, and no entry waits for it any more. -/
theorem Matched.answer (h : Matched k cs) {c : Call} (hc : c ∈ cs)
    (hw : ∀ e : Entry, e.state ≠ .clean → (e ∈ k'.entries ↔ e ∈ k.entries ∧ e.id ≠ c.entry)) :
    Matched k' (cs.erase c) := by
  have hn : cs.Nodup := h.once.of_map
  refine ⟨(List.erase_sublist.map _).nodup h.once, fun d hd => ?_, fun e he hs => ?_⟩
  · obtain ⟨hdc, hd⟩ := (List.Nodup.mem_erase_iff hn).1 hd
    obtain ⟨e, he, hi, hf⟩ := h.fits d hd
    exact ⟨e, (hw e hf.waits).2 ⟨he, fun hec => hdc (h.eq_of_entry_eq hd hc (hi.symm.trans hec))⟩, hi, hf⟩
  · obtain ⟨he, hne⟩ := (hw e hs).1 he
    obtain ⟨d, hd, hde⟩ := h.called e he hs
    exact ⟨d, (List.Nodup.mem_erase_iff hn).2 ⟨fun hdc => hne (hdc ▸ hde.symm), hd⟩, hde⟩

/-! ## Events and settlements -/

/-- Entries that wait are no drafts that could be discarded. -/
theorem mem_discardOpenDraft_of_waits {e : Entry} (hs : e.state ≠ .clean) :
    e ∈ k.discardOpenDraft.entries ↔ e ∈ k.entries := by
  rw [mem_discardOpenDraft]
  exact and_iff_left fun h => hs h.2.2

/-- Events keep the match. -/
theorem Matched.handled {e : Event} {c : Option Call} (h : Matched k cs) (hn : k.ids.Nodup) (hc : Coherent k)
    (hh : Handled k e k' c) : Matched k' (cs ++ c.toList) := by
  cases hh with
  | aside _ hk => simpa using h.of_waiting fun x _ => by rw [hk.entries]
  | edited _ hk => simpa using h.of_waiting fun x _ => by rw [hk.entries]
  | opened _ _ hk =>
    refine (List.append_nil cs).symm ▸ h.of_waiting fun x hx => ?_
    rw [hk.entries]
    split
    · exact Iff.rfl
    · exact mem_discardOpenDraft_of_waits hx
  | added _ _ hk =>
    refine (List.append_nil cs).symm ▸ h.of_waiting fun x hx => ?_
    rw [hk.entries, List.mem_cons, mem_discardOpenDraft_of_waits hx]
    exact or_iff_right fun he => hx (he ▸ rfl)
  | closed hk =>
    refine (List.append_nil cs).symm ▸ h.of_waiting fun x hx => ?_
    rw [hk.entries]
    exact mem_discardOpenDraft_of_waits hx
  | @saved ed e k' hed he hs hk =>
    obtain ⟨hkey, hname⟩ := hc ed e hed (mem_of_lookup he).1 (mem_of_lookup he).2
    have hf : Call.Fits (.save ed.entry ed.session ed.request) { e with state := .saving } := ⟨rfl, hkey, hname⟩
    refine h.issue hn he hs hf (mem_of_lookup he).2 fun x => ?_
    rw [hk.entries]
    exact mem_modifyEntry_of_lookup hn he
  | @dropped i e k' he hs _ hk =>
    refine (List.append_nil cs).symm ▸ h.of_waiting fun x hx => ?_
    rw [hk.entries, mem_removeEntry]
    exact and_iff_left_of_imp fun hxm hxi => hx (eq_of_lookup hn he hxm hxi ▸ hs)
  | @deleted i e key k' he hs hkey hk =>
    have hf : Call.Fits (.delete i key) { e with state := .pendingDelete } := ⟨rfl, hkey⟩
    refine h.issue hn he hs hf (mem_of_lookup he).2 fun x => ?_
    rw [hk.entries]
    exact mem_modifyEntry_of_lookup hn he

theorem mem_release_of_waits {i : EntryId} {e : Entry} (hs : e.state ≠ .clean) :
    e ∈ (k.release i).entries ↔ e ∈ k.entries ∧ e.id ≠ i := by
  rw [release, mem_modifyEntry]
  refine or_iff_left ?_
  rintro ⟨d, -, -, rfl⟩
  exact hs rfl

/-- A settlement keeps the match of the calls that are left. -/
theorem Matched.settled {s : Settlement} {ch : Change} (h : Matched k cs) (hc : s.call ∈ cs)
    (hs : Settled k s k' ch) : Matched k' (cs.erase s.call) := by
  refine h.answer hc fun x hx => ?_
  cases hs with
  | saved _ hk =>
    rw [hk.entries, mem_replaceSaved]
    exact or_iff_left fun hd => hx (hd.2 ▸ rfl)
  | discarded _ _ hk => rw [hk.entries]; exact mem_removeEntry
  | reverted _ _ hk => rw [hk.entries]; exact mem_release_of_waits hx
  | removed _ hk => rw [hk.entries]; exact mem_removeEntry
  | restored _ hk => rw [hk.entries]; exact mem_release_of_waits hx

end Desk

end AckDesk
