import AckDesk.Mount
import AckDesk.Proofs.Flight.Sound
import Mathlib.Data.List.Rotate

/-!
# Runs of mounted desks

Between the events of the user, the calls that a mounted desk asked for reach its backend, are carried out there and
have their settlements applied, each time in any order (`Act`); and from outside the backend may be changed. What
such a run does to the desk is a run of its flight, where the calls in flight are those in the three queues of the
mount (`calls`), and the mount counts them rightly (`exists_flight`).
-/

namespace AckDesk

/-- What happens to a mounted desk. The number says which of the calls of a queue takes its turn, counted from the
front and around; `ω` are the ways to change the backend from outside. -/
inductive Act (ω : Type) where
  | event (e : Event)
  | arrive (n : Nat)
  | complete (n : Nat)
  | apply (n : Nat)
  | turn (w : ω)

namespace Mount

variable {σ ω : Type}

/-- The desk of a page over a backend, before anything happened. -/
def start (p : Page) (o : Options) (b : σ) : Mount σ := { desk := p.desk o, backend := b }

/-- The calls in flight: started, at the backend, or carried out there. -/
def calls (m : Mount σ) : List Call := m.started ++ (m.arrived.map (·.1) ++ m.settled.map (·.call))

/-- The desk with the calls in flight. -/
def flight (m : Mount σ) : Flight := ⟨m.desk, m.calls⟩

/-- The settlement that is `n`-th in the queue reaches the desk. -/
def applyNth? (m : Mount σ) (n : Nat) : Option (Mount σ × Change) :=
  { m with settled := m.settled.rotate n }.applyNext?

variable [Backend σ] (turn : ω → σ → σ)

/-- The mount after something happened. -/
def act (m : Mount σ) : Act ω → Mount σ
  | .event e =>
    match m.dispatch e with
    | .ok m' => m'
    | .error _ => m
  | .arrive n => { m with started := m.started.rotate n }.arriveNext
  | .complete n => { m with arrived := m.arrived.rotate n }.completeNext
  | .apply n =>
    match m.applyNth? n with
    | some (m', _) => m'
    | none => m
  | .turn w => { m with backend := turn w m.backend }

def run (m : Mount σ) (as : List (Act ω)) : Mount σ := as.foldl (act turn) m

theorem run_concat (m : Mount σ) (as : List (Act ω)) (a : Act ω) :
    m.run turn (as ++ [a]) = (m.run turn as).act turn a :=
  List.foldl_append

/-! ## One act -/

/-- An event is refused and changes nothing, or it is handled by the desk. -/
theorem event_eq (m : Mount σ) (e : Event) : m.act turn (.event e) = m ∨
    ∃ k c, m.desk.handle e = .ok (k, c) ∧ m.act turn (.event e) = { m with
      desk := k
      started := m.started ++ c.toList
      inFlight := m.inFlight + c.toList.length } := by
  cases h : m.desk.handle e with
  | error _ => exact .inl (by simp [act, dispatch, h, Except.map])
  | ok p =>
    obtain ⟨k, c⟩ := p
    exact .inr ⟨k, c, rfl, by cases c <;> simp [act, dispatch, h, Except.map]⟩

/-- An arrival changes nothing, or one of the started calls reaches the backend. -/
theorem arrive_eq (m : Mount σ) (n : Nat) : m.act turn (.arrive n) = m ∨
    ∃ c cs, (c :: cs).Perm m.started ∧ m.act turn (.arrive n) = { m with
      backend := (Backend.receive m.backend c.request).1
      started := cs
      arrived := m.arrived ++ [(c, (Backend.receive m.backend c.request).2)] } := by
  cases hs : m.started.rotate n with
  | nil =>
    have : m.started = [] := List.rotate_eq_nil_iff.1 hs
    exact .inl (by simp [act, arriveNext, this]; rw [← this])
  | cons c cs => exact .inr ⟨c, cs, hs ▸ m.started.rotate_perm n, by simp [act, arriveNext, hs]⟩

/-- A completion changes nothing, or one of the arrived calls is carried out. -/
theorem complete_eq (m : Mount σ) (n : Nat) : m.act turn (.complete n) = m ∨
    ∃ c f cs, ((c, f) :: cs).Perm m.arrived ∧ m.act turn (.complete n) = { m with
      backend := (carryOut m.backend c f).1
      arrived := cs
      settled := m.settled ++ [(carryOut m.backend c f).2] } := by
  cases hs : m.arrived.rotate n with
  | nil =>
    have : m.arrived = [] := List.rotate_eq_nil_iff.1 hs
    exact .inl (by simp [act, completeNext, this]; rw [← this])
  | cons p cs => exact .inr ⟨p.1, p.2, cs, hs ▸ m.arrived.rotate_perm n, by simp [act, completeNext, hs]⟩

omit [Backend σ] in
/-- The settlement that is applied leaves its queue. -/
theorem applyNth?_eq_some {m m' : Mount σ} {n : Nat} {ch : Change} (h : m.applyNth? n = some (m', ch)) :
    ∃ s ss, (s :: ss).Perm m.settled ∧ (m'.desk, ch) = m.desk.settle s ∧
      m' = { m with desk := m'.desk, settled := ss, inFlight := m.inFlight - 1 } := by
  unfold applyNth? applyNext? at h
  cases hs : m.settled.rotate n with
  | nil => simp only [hs] at h; cases h
  | cons s ss =>
    simp only [hs] at h
    cases h
    exact ⟨s, ss, hs ▸ m.settled.rotate_perm n, rfl, rfl⟩

/-- An application changes nothing, or one of the settlements reaches the desk. -/
theorem apply_eq (m : Mount σ) (n : Nat) : m.act turn (.apply n) = m ∨
    ∃ s ss, (s :: ss).Perm m.settled ∧ m.act turn (.apply n) = { m with
      desk := (m.desk.settle s).1
      settled := ss
      inFlight := m.inFlight - 1 } := by
  cases h : m.applyNth? n with
  | none => exact .inl (by simp [act, h])
  | some p =>
    obtain ⟨s, ss, hp, hd, hm⟩ := applyNth?_eq_some h
    refine .inr ⟨s, ss, hp, ?_⟩
    rw [← hd, ← hm]
    simp [act, h]

/-- A settlement is about the call that was carried out. -/
theorem call_carryOut (b : σ) (c : Call) (f : Option Backend.Failure) : (carryOut b c f).2.call = c := by
  cases c <;> cases f <;> rfl

/-! ## The flight of a mount -/

omit [Backend σ] in
theorem call_mem_calls {m : Mount σ} {s : Settlement} (hs : s ∈ m.settled) : s.call ∈ m.calls :=
  List.mem_append_right _ (List.mem_append_right _ (List.mem_map_of_mem hs))

omit [Backend σ] in
/-- The calls in flight where a settlement waits first. -/
theorem calls_perm_cons {m : Mount σ} {s : Settlement} {ss : List Settlement} (h : (s :: ss).Perm m.settled) :
    m.calls.Perm (s.call :: { m with settled := ss }.calls) := by
  have hs : (s.call :: ss.map (·.call)).Perm (m.settled.map (·.call)) := h.map _
  refine ((hs.symm.append_left _).append_left m.started).trans ?_
  rw [calls, ← List.append_assoc, ← List.append_assoc]
  exact List.perm_middle

/-- The flight has the desk of the mount and the calls in its queues, and the mount counts them. -/
structure Follows (m : Mount σ) (f : Flight) : Prop where
  desk : f.desk = m.desk
  calls : f.calls.Perm m.calls
  inFlight : m.inFlight = m.calls.length

variable {m : Mount σ} {f : Flight}

omit [Backend σ] in
/-- A call that goes on to another queue is still in flight. -/
theorem Follows.of_perm (h : m.Follows f) {m' : Mount σ} (hd : m'.desk = m.desk) (hn : m'.inFlight = m.inFlight)
    (hc : m.calls.Perm m'.calls) : m'.Follows f :=
  ⟨h.desk.trans hd.symm, h.calls.trans hc, by rw [hn, h.inFlight, hc.length_eq]⟩

/-- What happens to the mount is a move of the flight, or none at all. -/
theorem Follows.act (h : m.Follows f) (a : Act ω) : ∃ ms, (m.act turn a).Follows (f.run ms) := by
  cases a with
  | event e =>
    rcases event_eq turn m e with ha | ⟨k, c, hk, ha⟩
    · exact ⟨[], ha.symm ▸ h⟩
    · refine ⟨[.event e], ?_⟩
      have hf : f.run [.event e] = ⟨k, f.calls ++ c.toList⟩ := by
        simp [Flight.run, Flight.step, h.desk, hk]
      have hc : (m.calls ++ c.toList).Perm (m.act turn (.event e)).calls := by
        rw [ha, Mount.calls, Mount.calls]
        simp only [List.append_assoc]
        rw [← List.append_assoc (m.arrived.map _)]
        exact List.perm_append_comm.append_left m.started
      rw [hf]
      refine ⟨by rw [ha], (h.calls.append_right _).trans hc, ?_⟩
      rw [← hc.length_eq, ha, List.length_append, h.inFlight]
  | arrive n =>
    refine ⟨[], ?_⟩
    rcases arrive_eq turn m n with ha | ⟨c, cs, hp, ha⟩
    · exact ha.symm ▸ h
    · refine h.of_perm (by rw [ha]) (by rw [ha]) ((hp.symm.append_right _).trans ?_)
      simp only [ha, Mount.calls, List.map_append, List.map_singleton, List.append_assoc, List.cons_append]
      rw [← List.append_assoc cs, ← List.append_assoc cs]
      exact List.perm_middle.symm
  | complete n =>
    refine ⟨[], ?_⟩
    rcases complete_eq turn m n with ha | ⟨c, b, cs, hp, ha⟩
    · exact ha.symm ▸ h
    · have hq : (m.arrived.map (·.1)).Perm (c :: cs.map (·.1)) := (hp.map (·.1)).symm
      refine h.of_perm (by rw [ha]) (by rw [ha]) (((hq.append_right _).append_left m.started).trans ?_)
      simp only [ha, Mount.calls, List.map_append, List.map_cons, List.map_nil, call_carryOut]
      refine List.Perm.append_left _ ?_
      rw [← List.append_assoc]
      exact (List.perm_append_singleton c _).symm
  | apply n =>
    rcases apply_eq turn m n with ha | ⟨s, ss, hp, ha⟩
    · exact ⟨[], ha.symm ▸ h⟩
    · have hc : m.calls.Perm (s.call :: (m.act turn (.apply n)).calls) := ha ▸ calls_perm_cons hp
      have hs : s.call ∈ f.calls := h.calls.mem_iff.2 (hc.mem_iff.2 List.mem_cons_self)
      refine ⟨[.settle s], ?_⟩
      have hf : f.run [.settle s] = ⟨(m.desk.settle s).1, f.calls.erase s.call⟩ := by
        simp [Flight.run, Flight.step, h.desk, hs]
      rw [hf]
      refine ⟨by rw [ha], ?_, ?_⟩
      · simpa using (h.calls.trans hc).erase s.call
      · have := hc.length_eq
        rw [List.length_cons] at this
        rw [show (m.act turn (.apply n)).inFlight = m.inFlight - 1 by rw [ha], h.inFlight, this, Nat.add_sub_cancel]
  | turn w => exact ⟨[], h.desk, h.calls, h.inFlight⟩

/-- **What a run does to the desk of a mount is a run of its flight**, with the calls in the queues of the mount. -/
theorem exists_flight (p : Page) (o : Options) (b : σ) (as : List (Act ω)) :
    ∃ ms, ((start p o b).run turn as).Follows ((Flight.start p o).run ms) := by
  induction as using List.reverseRecOn with
  | nil => exact ⟨[], rfl, .refl _, rfl⟩
  | append_singleton as a ih =>
    obtain ⟨ms, h⟩ := ih
    obtain ⟨ns, h⟩ := h.act turn a
    rw [run_concat]
    exact ⟨ms ++ ns, Flight.run_append .. ▸ h⟩

/-- The calls of a mounted desk are sound at any time: the run lemma of calls in flight, for a run of the mount. -/
theorem sound_flight_run (p : Page) (o : Options) (b : σ) (as : List (Act ω)) :
    ((start p o b).run turn as).flight.Sound := by
  obtain ⟨ms, h⟩ := exists_flight turn p o b as
  have hf := (Flight.sound_run p o ms).of_perm h.calls
  rwa [h.desk] at hf

end Mount

end AckDesk
