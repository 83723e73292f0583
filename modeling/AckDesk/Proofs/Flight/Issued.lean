import AckDesk.Proofs.Flight.Lifecycle

/-!
# The calls of a run

The calls that a run asks for, settled or not (`issued`). An entry without a key has none behind it: a save or a delete
that settles leaves no entry without a key under the number that it was for (`Settled.id_ne`), so the calls for such an
entry are those that are in flight for it (`recorded_run`).
-/

namespace AckDesk

/-- After a settlement, an entry without a key is another one than that of the call. -/
theorem Desk.Settled.id_ne {k k' : Desk} {s : Settlement} {ch : Change} {e x : Entry} (hs : k.Settled s k' ch)
    (hn : k.ids.Nodup) (he : k.entry? s.call.entry = some e) (hf : s.call.Fits e) (hx : x ∈ k'.entries)
    (hk : x.record.key = none) : x.id ≠ s.call.entry := by
  cases hs with
  | saved _ hh =>
    rw [hh.entries] at hx
    rcases mem_replaceSaved.1 hx with ⟨-, hi⟩ | ⟨-, rfl⟩
    · exact hi
    · cases hk
  | discarded _ _ hh => exact (mem_removeEntry.1 (hh.entries ▸ hx)).2
  | removed _ hh => exact (mem_removeEntry.1 (hh.entries ▸ hx)).2
  | reverted hd hkey hh =>
    rw [hh.entries, release, mem_modifyEntry_of_lookup hn hd] at hx
    rcases hx with ⟨-, hi⟩ | rfl
    · exact hi
    · exact absurd hk hkey
  | restored hd hh =>
    rw [hh.entries, release, mem_modifyEntry_of_lookup hn hd] at hx
    rcases hx with ⟨-, hi⟩ | rfl
    · exact hi
    · -- what is deleted has a key
      cases he.symm.trans hd
      exact absurd (hk.symm.trans hf.2) (Option.some_ne_none _).symm

namespace Flight

variable {f : Flight} {m : Move} {cs : List Call}

/-- The calls that a move asks for: one at most. -/
def asked (f : Flight) : Move → List Call
  | .event e =>
    match f.desk.handle e with
    | .ok (_, c) => c.toList
    | .error _ => []
  | .settle _ => []

/-- The calls that a run asks for, in their order. -/
def issued (f : Flight) : List Move → List Call
  | [] => []
  | m :: ms => f.asked m ++ (f.step m).issued ms

theorem issued_concat (f : Flight) (ms : List Move) (m : Move) :
    f.issued (ms ++ [m]) = f.issued ms ++ (f.run ms).asked m := by
  induction ms generalizing f with
  | nil => simp [issued, run]
  | cons n ms ih =>
    show f.asked n ++ (f.step n).issued (ms ++ [m]) = f.asked n ++ (f.step n).issued ms ++ (f.run (n :: ms)).asked m
    rw [ih (f.step n), List.append_assoc]
    rfl

/-- A move that changes nothing asks for nothing. -/
theorem asked_eq_nil (h : f.step m = f) : f.asked m = [] := by
  cases m with
  | settle s => rfl
  | event e =>
    simp only [step] at h
    simp only [asked]
    cases hh : f.desk.handle e with
    | error _ => rfl
    | ok p =>
      rw [hh] at h
      have hc : f.calls ++ p.2.toList = f.calls := congrArg Flight.calls h
      simpa using hc

/-- The calls that were asked for are for numbers that were given, and for an entry without a key they are those that
are in flight. -/
structure Recorded (f : Flight) (cs : List Call) : Prop where
  number_le : ∀ c ∈ cs, c.entry.number ≤ f.desk.lastId
  keyless : ∀ e ∈ f.desk.entries, e.record.key = none →
    cs.filter (·.entry = e.id) = f.calls.filter (·.entry = e.id)

/-- A new entry has no calls. -/
theorem Recorded.filter_nextId (h : f.Recorded cs) : cs.filter (·.entry = f.desk.nextId) = [] := by
  refine List.filter_eq_nil_iff.2 fun c hc hi => ?_
  exact Desk.ne_nextId_of_le (h.number_le c hc) (by simpa using hi)

/-- An entry without a key that is there after a move has no calls but those in flight before it. -/
theorem Recorded.filter_eq (h : f.Recorded cs) (hf : f.Sound) {e : Entry} (he : e ∈ (f.step m).desk.entries)
    (hk : e.record.key = none) : cs.filter (·.entry = e.id) = f.calls.filter (·.entry = e.id) := by
  rcases hf.origin he with ⟨d, hd, hi, hr, -⟩ | ⟨-, -, rfl⟩ | ⟨-, rfl⟩
  · rw [← hi]
    exact h.keyless d hd (hr ▸ hk)
  · have hnone : f.calls.filter (·.entry = f.desk.nextId) = [] := by
      refine List.filter_eq_nil_iff.2 fun c hc hi => ?_
      exact hf.entry_ne_nextId hc (by simpa using hi)
    exact h.filter_nextId.trans hnone.symm
  · cases hk

/-- The calls for other entries stay when one settles. -/
theorem filter_erase {c : Call} {i : EntryId} (hn : f.calls.Nodup) (hi : i ≠ c.entry) :
    (f.calls.erase c).filter (·.entry = i) = f.calls.filter (·.entry = i) := by
  rw [hn.erase_eq_filter, List.filter_filter]
  refine List.filter_congr fun d _ => ?_
  by_cases hd : d.entry = i
  · have hne : d ≠ c := by
      intro h
      exact hi (hd.symm.trans (h ▸ rfl))
    simp [hd, hne]
  · simp [hd]

/-- A move keeps the record, with the calls that it asks for. -/
theorem Recorded.step (h : f.Recorded cs) (hf : f.Sound) (m : Move) : (f.step m).Recorded (cs ++ f.asked m) := by
  rcases step_cases f m with ⟨hm, -⟩ | ⟨ev, k, c, rfl, hh, hm⟩ | ⟨s, rfl, hs, hm⟩
  · rw [asked_eq_nil hm, hm, List.append_nil]
    exact h
  · have hf' := hf.event (Desk.handled_of_handle hh)
    have ha : f.asked (.event ev) = c.toList := by simp [asked, hh]
    refine ⟨fun d hd => ?_, fun e he hk => ?_⟩
    · rw [ha] at hd
      rw [hm]
      rcases List.mem_append.1 hd with hd | hd
      · exact Nat.le_trans (h.number_le d hd) (Desk.handled_of_handle hh).lastId_le
      · obtain ⟨x, hx, hi, -⟩ := hf'.matched.fits d (List.mem_append_right _ hd)
        exact hi ▸ hf'.numbered.id_le x hx
    · rw [ha, List.filter_append, h.filter_eq hf he hk, hm, List.filter_append]
  · obtain ⟨d, hd, hfit⟩ := hf.exists_entry hs
    have hst := hf.settled hs
    rw [show cs ++ f.asked (.settle s) = cs from List.append_nil cs]
    refine ⟨fun c hc => ?_, fun e he hk => ?_⟩
    · rw [hm]
      exact Nat.le_trans (h.number_le c hc) hst.lastId_le
    · have hne : e.id ≠ s.call.entry := hst.id_ne hf.numbered.nodup hd hfit (by rwa [hm] at he) hk
      rw [h.filter_eq hf he hk, hm]
      exact (filter_erase hf.matched.once.of_map hne).symm

/-- **Calls of a run**: after every run, the calls that it asked for are recorded. -/
theorem recorded_run (p : Page) (o : Options) (ms : List Move) :
    ((start p o).run ms).Recorded ((start p o).issued ms) := by
  induction ms using List.reverseRecOn with
  | nil => exact ⟨fun c hc => (List.not_mem_nil hc).elim, fun _ _ _ => rfl⟩
  | append_singleton ms m ih =>
    rw [run_concat, issued_concat]
    exact ih.step (sound_run p o ms) m

end Flight

end AckDesk
