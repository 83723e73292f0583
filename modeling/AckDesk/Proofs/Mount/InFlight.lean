import AckDesk.Proofs.Mount.Run
import Mathlib.Data.List.Dedup

/-!
# One call for each entry that waits

After every run of a mounted desk, over every backend, the calls in flight and the entries that are not at rest
correspond one to one (`accounted_run`). So the number of calls is never taken below zero, no two calls for one entry
are outstanding together, no settlement comes for an entry that is gone, and where no call is in flight every entry
is at rest.
-/

namespace AckDesk

namespace Flight

variable {f : Flight}

/-- The calls in flight are for the entries that wait, and for each of them once. -/
theorem Sound.perm_waiting (h : f.Sound) :
    (f.calls.map Call.entry).Perm ((f.desk.entries.filter (·.state ≠ .clean)).map (·.id)) := by
  have hn : ((f.desk.entries.filter (·.state ≠ .clean)).map (·.id)).Nodup :=
    (List.filter_sublist.map _).nodup h.numbered.nodup
  refine (List.perm_ext_iff_of_nodup h.matched.once hn).2 fun i => ?_
  simp only [List.mem_map, List.mem_filter, decide_eq_true_eq]
  constructor
  · rintro ⟨c, hc, rfl⟩
    obtain ⟨e, he, hi, hf⟩ := h.matched.fits c hc
    exact ⟨e, ⟨he, hf.waits⟩, hi⟩
  · rintro ⟨e, ⟨he, hs⟩, rfl⟩
    exact h.matched.called e he hs

/-- A settlement of a call in flight finds its entry. -/
theorem Sound.settle_ne_ignored (h : f.Sound) {s : Settlement} (hs : s.call ∈ f.calls) (i : EntryId) :
    (f.desk.settle s).2 ≠ .ignored i := by
  intro hi
  have ht := h.settled hs
  rw [hi] at ht
  generalize (f.desk.settle s).1 = k at ht
  generalize hc : Change.ignored i = c at ht
  cases ht with
  | saved => split at hc <;> cases hc
  | discarded => cases hc
  | reverted => cases hc
  | removed => cases hc
  | restored => cases hc

end Flight

namespace Mount

variable {σ ω : Type}

/-- The calls in flight are accounted for by the entries that wait for them. -/
structure Accounted (m : Mount σ) : Prop where
  /-- Entries have numbers of their own. -/
  ids : m.desk.ids.Nodup
  /-- No call is in flight for an entry at rest. -/
  clean : ∀ e ∈ m.desk.entries, e.state = .clean → m.calls.filter (·.entry = e.id) = []
  /-- For an entry that is saving, one call is in flight: a save. -/
  saving : ∀ e ∈ m.desk.entries, e.state = .saving → ∃ s r, m.calls.filter (·.entry = e.id) = [.save e.id s r]
  /-- For an entry that is being deleted, one call is in flight: a delete of its key. -/
  deleting : ∀ e ∈ m.desk.entries, e.state = .pendingDelete →
    ∃ key, e.record.key = some key ∧ m.calls.filter (·.entry = e.id) = [.delete e.id key]
  /-- Every call in flight is for an entry that waits. -/
  known : ∀ c ∈ m.calls, ∃ e ∈ m.desk.entries, e.id = c.entry ∧ e.state ≠ .clean
  /-- No two calls are for one entry. -/
  once : (m.calls.map Call.entry).Nodup
  /-- The number of calls in flight is the number of entries that wait. -/
  waiting : m.inFlight = m.desk.entries.countP (·.state ≠ .clean)
  /-- It is the length of the queues. -/
  counted : m.inFlight = m.calls.length
  /-- Applying a settlement counts one call less, and the settlement is not ignored. -/
  applied : ∀ n m' ch, m.applyNth? n = some (m', ch) → m'.inFlight + 1 = m.inFlight ∧ ∀ i, ch ≠ .ignored i
  /-- Where no call is in flight, every entry is at rest. -/
  rest : m.calls = [] → ∀ e ∈ m.desk.entries, e.state = .clean

/-- What holds of the calls in flight when they are sound and counted. -/
theorem Accounted.of_sound {m : Mount σ} (h : m.flight.Sound) (hn : m.inFlight = m.calls.length) : m.Accounted := by
  have one : ∀ e ∈ m.desk.entries, e.state ≠ .clean →
      ∃ c, m.calls.filter (·.entry = e.id) = [c] ∧ c.entry = e.id ∧ c.Fits e := fun e he hs => h.exists_call he hs
  refine ⟨h.numbered.nodup, fun e he hs => ?_, fun e he hs => ?_, fun e he hs => ?_, fun c hc => ?_,
    h.matched.once, ?_, hn, fun n m' ch happ => ?_, fun hc e he => ?_⟩
  · refine List.filter_eq_nil_iff.2 fun c hc hi => ?_
    exact (h.fits hc he (by simpa using hi)).waits hs
  · obtain ⟨c, hc, hi, hf⟩ := one e he (hs ▸ EntryState.noConfusion)
    cases c with
    | save i s r =>
      obtain rfl : i = e.id := hi
      exact ⟨s, r, hc⟩
    | delete i key => exact absurd (hs.symm.trans hf.1) EntryState.noConfusion
  · obtain ⟨c, hc, hi, hf⟩ := one e he (hs ▸ EntryState.noConfusion)
    cases c with
    | save i s r => exact absurd (hs.symm.trans hf.1) EntryState.noConfusion
    | delete i key =>
      obtain rfl : i = e.id := hi
      exact ⟨key, hf.2, hc⟩
  · obtain ⟨e, he, hi, hf⟩ := h.matched.fits c hc
    exact ⟨e, he, hi, hf.waits⟩
  · have := h.perm_waiting.length_eq
    rw [List.length_map, List.length_map] at this
    rw [hn, List.countP_eq_length_filter]
    exact this
  · obtain ⟨s, ss, hp, hd, hm'⟩ := applyNth?_eq_some happ
    have hc : m.calls.Perm (s.call :: { m with settled := ss }.calls) := calls_perm_cons hp
    have hs : s.call ∈ m.calls := hc.mem_iff.2 List.mem_cons_self
    refine ⟨?_, fun i hi => ?_⟩
    · have := hn.trans hc.length_eq
      rw [List.length_cons] at this
      rw [hm', this, Nat.add_sub_cancel]
    · refine h.settle_ne_ignored hs i ?_
      rw [show m.flight.desk = m.desk from rfl, ← hd]
      exact hi
  · by_contra hs
    obtain ⟨c, hf, -⟩ := one e he hs
    rw [hc] at hf
    cases hf

/-- **Calls in flight and entries that wait** correspond one to one after every run, over every backend and with
every change of it from outside. -/
theorem accounted_run [Backend σ] (turn : ω → σ → σ) (p : Page) (o : Options) (b : σ) (as : List (Act ω)) :
    ((start p o b).run turn as).Accounted := by
  obtain ⟨ms, h⟩ := exists_flight turn p o b as
  exact .of_sound (sound_flight_run turn p o b as) h.inFlight

end Mount

end AckDesk
