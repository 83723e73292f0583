import AckDesk.Proofs.Backend.Table
import AckDesk.Proofs.History
import Mathlib.Data.List.Rotate

/-!
# Calls that wait at a store

Calls arrive at a store one after the other, and are carried out later, each once and in any order; in between the store
may be told to fail the next requests, or to go offline and come back. Whether a call fails is settled when it arrives
(`verdict`), and what it does happens when it is carried out, so the log and the records run on different clocks.

The store is a table at every moment: that to which the calls that were carried out and did not fail on arrival were
applied, in the order in which they were carried out (`serves_run`). The key of a record that has none is made up when
its save is carried out. It is new exactly if no record brought it (`Brought`); if one did, this record is overwritten
(`serves_firstKeyTaken`).
-/

namespace AckDesk.Backend

open Store (Ascending madeKey)

/-- A call that arrived: how many arrived before it, what it asks, and the failure that was settled then. -/
structure Ticket where
  number : Nat
  request : Request
  failure : Option Failure

/-- The call did not fail on arrival, and saves a record that has the key. -/
def Ticket.Brings (key : Key) (c : Ticket) : Prop := c.failure = none ∧ ∃ r, c.request = .save r ∧ r.key = some key

/-- The call did not fail on arrival, and deletes the key. -/
def Ticket.Takes (key : Key) (c : Ticket) : Prop := c.failure = none ∧ c.request = .delete key

namespace Table

/-- What a call does, and its answer. One that failed on arrival does nothing. -/
def answer (t : Table) (c : Ticket) : Table × Answer :=
  match c.failure with
  | some f => (t, .error f)
  | none => t.apply c.request

/-- The table after some calls, and their answers. -/
def serve (t : Table) (cs : List Ticket) : Table × List Answer :=
  cs.foldl (fun p c => ((p.1.answer c).1, p.2 ++ [(p.1.answer c).2])) (t, [])

theorem serve_concat (t : Table) (cs : List Ticket) (c : Ticket) : t.serve (cs ++ [c]) =
    (((t.serve cs).1.answer c).1, (t.serve cs).2 ++ [((t.serve cs).1.answer c).2]) :=
  List.foldl_append

end Table

/-- A store carries a call out as the table of its records answers it, so that the proofs below need no shelf. -/
theorem Store.carryOut_answer {s : Store} (h : Ascending s.shelf) (c : Ticket) :
    ((s.carryOut c.request c.failure).1.table, (s.carryOut c.request c.failure).2) = s.table.answer c := by
  obtain ⟨n, q, f⟩ := c
  cases f with
  | some f => rfl
  | none => exact Store.carryOut_table h q

/-- A call that fails leaves the store as it is. -/
theorem Store.carryOut_of_error {s : Store} {q : Request} {g : Option Failure} {f : Failure}
    (h : (s.carryOut q g).2 = .error f) : (s.carryOut q g).1 = s := by
  match q, g, h with
  | _, some _, _ => rfl
  | .delete key, none, h =>
    show (s.delete key).1 = s
    unfold Store.delete
    split
    · rename_i hany
      have hok : (s.carryOut (.delete key) none).2 = .ok none := by
        simp [Store.carryOut, Store.delete, hany, Except.map]
      cases hok.symm.trans h
    · rfl

/-- Carrying a call out neither changes the log nor turns a switch. -/
theorem Store.switches_carryOut (s : Store) (q : Request) (f : Option Failure) :
    (s.carryOut q f).1.requests = s.requests ∧ (s.carryOut q f).1.offline = s.offline ∧
      (s.carryOut q f).1.failuresLeft = s.failuresLeft := by
  match q, f with
  | _, some _ => exact ⟨rfl, rfl, rfl⟩
  | .save r, none =>
    show (s.put r.canonical).1.requests = _ ∧ (s.put r.canonical).1.offline = _ ∧
      (s.put r.canonical).1.failuresLeft = _
    cases hk : r.canonical.key <;> simp [Store.put, hk]
  | .delete key, none =>
    show (s.delete key).1.requests = _ ∧ (s.delete key).1.offline = _ ∧ (s.delete key).1.failuresLeft = _
    unfold Store.delete
    split <;> exact ⟨rfl, rfl, rfl⟩

/-- What the arrival of a request does to a store, and what is settled for it. -/
theorem Store.receive_eq (s : Store) (q : Request) : s.receive q =
    ({ s with
        requests := s.requests ++ [q]
        failuresLeft := if s.offline then s.failuresLeft else s.failuresLeft - 1 },
      if s.offline then some (.unavailable "offline")
      else if s.failuresLeft = 0 then none else some (.unavailable "scripted failure")) := by
  unfold Store.receive
  cases hoff : s.offline with
  | true => simp
  | false => by_cases hleft : s.failuresLeft = 0 <;> simp [hleft]

/-- A new store is online, and neither has a log nor fails anything. -/
theorem Store.switches_ofRecords (rs : List Record) :
    (Store.ofRecords rs).requests = [] ∧ (Store.ofRecords rs).offline = false ∧
      (Store.ofRecords rs).failuresLeft = 0 := by
  induction rs using List.reverseRecOn with
  | nil => exact ⟨rfl, rfl, rfl⟩
  | append_singleton rs r ih =>
    rw [Store.ofRecords_concat]
    cases hk : r.key <;> simpa [Store.put, hk] using ih

/-- A store, the calls that wait at it, and those that were carried out, with their answers. -/
structure Service where
  store : Store
  waiting : List Ticket := []
  answered : List (Ticket × Answer) := []

namespace Service

/-- What happens at a store. The number says which of the waiting calls is carried out, counted from the front and
around. -/
inductive Act where
  | arrive (q : Request)
  | complete (n : Nat)
  | failNext (count : Nat)
  | setOffline (offline : Bool)

/-- The store of some records, before any call. -/
def start (rs : List Record) : Service := ⟨.ofRecords rs, [], []⟩

/-- A call reaches the store, and waits there. -/
def arrive (w : Service) (q : Request) : Service :=
  { w with
    store := (w.store.receive q).1
    waiting := w.waiting ++ [⟨w.store.requests.length, q, (w.store.receive q).2⟩] }

/-- A call that waited is carried out. -/
def answer (w : Service) (c : Ticket) (cs : List Ticket) : Service where
  store := (w.store.carryOut c.request c.failure).1
  waiting := cs
  answered := w.answered ++ [(c, (w.store.carryOut c.request c.failure).2)]

/-- One of the waiting calls is carried out. -/
def complete (w : Service) (n : Nat) : Service :=
  match w.waiting.rotate n with
  | [] => w
  | c :: cs => w.answer c cs

def step (w : Service) : Act → Service
  | .arrive q => w.arrive q
  | .complete n => w.complete n
  | .failNext count => { w with store := w.store.failNext count }
  | .setOffline offline => { w with store := w.store.setOffline offline }

def run (w : Service) (as : List Act) : Service := as.foldl step w

theorem run_concat (w : Service) (as : List Act) (a : Act) : w.run (as ++ [a]) = (w.run as).step a :=
  List.foldl_append

/-- The calls that arrived, waiting or not. -/
def calls (w : Service) : List Ticket := w.answered.map (·.1) ++ w.waiting

/-! ## What a history says -/

def arrivals (as : List Act) : List Request := as.filterMap fun a => match a with | .arrive q => some q | _ => none

/-- The store is offline, by the acts from the latest to the first. -/
def offlineBack : List Act → Bool
  | [] => false
  | .setOffline offline :: _ => offline
  | _ :: as => offlineBack as

/-- How many failures are left, by the acts from the latest to the first: a request that arrives while the store is
online uses up one. -/
def leftBack : List Act → Nat
  | [] => 0
  | .failNext count :: _ => count
  | .arrive _ :: as => if offlineBack as then leftBack as else leftBack as - 1
  | _ :: as => leftBack as

/-- What is settled for a call that arrives after these acts. -/
def verdict (as : List Act) : Option Failure :=
  if offlineBack as.reverse then some (.unavailable "offline")
  else if leftBack as.reverse = 0 then none
  else some (.unavailable "scripted failure")

/-- The call arrived in the course of these acts. -/
def Arrived (as : List Act) (c : Ticket) : Prop := ∃ before after,
  as = before ++ .arrive c.request :: after ∧ c.number = (arrivals before).length ∧ c.failure = verdict before

variable {as : List Act} {a : Act} {c : Ticket} {q : Request} {w : Service} {rs : List Record}

theorem arrivals_concat_arrive (as : List Act) (q : Request) :
    arrivals (as ++ [.arrive q]) = arrivals as ++ [q] := List.filterMap_append

theorem arrivals_concat (h : ∀ q, a ≠ .arrive q) : arrivals (as ++ [a]) = arrivals as := by
  unfold arrivals
  rw [List.filterMap_append]
  cases a with
  | arrive q => exact absurd rfl (h q)
  | _ => exact List.append_nil _

/-- A call arrived before, or it arrives with the last act, and its failure is settled by the acts before that one. -/
theorem arrived_concat : Arrived (as ++ [a]) c ↔ Arrived as c ∨
    a = .arrive c.request ∧ c.number = (arrivals as).length ∧ c.failure = verdict as := by
  constructor
  · rintro ⟨before, after, h, hc⟩
    rcases append_cons_eq_concat_iff.1 h.symm with ⟨rfl, ha, -⟩ | ⟨after, -, rfl⟩
    · exact .inr ⟨ha.symm, hc⟩
    · exact .inl ⟨before, after, rfl, hc⟩
  · rintro (⟨before, after, rfl, hc⟩ | ⟨rfl, hc⟩)
    · exact ⟨before, after ++ [a], by simp, hc⟩
    · exact ⟨as, [], rfl, hc⟩

/-- With any other act no call arrives. -/
theorem arrived_concat_of_ne (h : ∀ q, a ≠ .arrive q) : Arrived (as ++ [a]) c ↔ Arrived as c := by
  rw [arrived_concat]
  exact or_iff_left fun hc => h _ hc.1

/-- A call has the number of those that arrived before it. -/
theorem Arrived.number_lt (h : Arrived as c) : c.number < (arrivals as).length := by
  obtain ⟨before, after, rfl, hn, -⟩ := h
  have harr : arrivals (before ++ .arrive c.request :: after) = arrivals before ++ c.request :: arrivals after := by
    simp [arrivals]
  rw [hn, harr, List.length_append, List.length_cons]
  omega

/-- Calls that fail on arrival fail because the store is unavailable. -/
theorem verdict_eq_some {f : Failure} (h : verdict as = some f) : ∃ reason, f = .unavailable reason := by
  unfold verdict at h
  split at h
  · exact ⟨_, (Option.some.inj h).symm⟩
  · split at h
    · cases h
    · exact ⟨_, (Option.some.inj h).symm⟩

/-- A call fails on arrival when the store is offline or has failures left. -/
theorem verdict_ne_none : verdict as ≠ none ↔ offlineBack as.reverse = true ∨ 0 < leftBack as.reverse := by
  unfold verdict
  split
  · rename_i hoff
    simp [hoff]
  · rename_i hoff
    split
    · rename_i hleft
      simp [hoff, hleft]
    · rename_i hleft
      simp [Nat.pos_of_ne_zero hleft]

/-! ## What every run keeps -/

/-- The switches of the store are as the acts left them, the log is that of the arrivals, and the table is that to which
the calls were applied. -/
structure Follows (rs : List Record) (as : List Act) (w : Service) : Prop where
  requests : w.store.requests = arrivals as
  offline : w.store.offline = offlineBack as.reverse
  failuresLeft : w.store.failuresLeft = leftBack as.reverse
  calls : ∀ c, c ∈ w.calls ↔ Arrived as c
  numbers : (w.calls.map (·.number)).Nodup
  ascending : Ascending w.store.shelf
  replay : (w.store.table, w.answered.map (·.2)) = (Table.ofRecords rs).serve (w.answered.map (·.1))
  answers : ∀ p ∈ w.answered, ∃ t : Table, p.2 = (t.answer p.1).2

theorem follows_start (rs : List Record) : Follows rs [] (start rs) where
  requests := (Store.switches_ofRecords rs).1
  offline := (Store.switches_ofRecords rs).2.1
  failuresLeft := (Store.switches_ofRecords rs).2.2
  calls := by
    intro c
    refine iff_of_false List.not_mem_nil ?_
    rintro ⟨before, after, h, -⟩
    cases before <;> cases h
  numbers := List.nodup_nil
  ascending := Store.ascending_ofRecords rs
  replay := Prod.ext (Store.table_ofRecords rs) rfl
  answers := fun _ hp => absurd hp List.not_mem_nil

/-- A call that arrives gets the next number and the verdict of its time, and waits. -/
theorem Follows.arrive (h : Follows rs as w) (q : Request) : Follows rs (as ++ [.arrive q]) (w.arrive q) := by
  have hcalls : (w.arrive q).calls = w.calls ++ [⟨w.store.requests.length, q, (w.store.receive q).2⟩] :=
    (List.append_assoc ..).symm
  have hverdict : (w.store.receive q).2 = verdict as := by
    rw [Store.receive_eq, h.offline, h.failuresLeft]
    rfl
  have htable : (w.store.receive q).1.table = w.store.table := by
    rw [Store.receive_eq]
    rfl
  refine ⟨?_, ?_, ?_, fun c => ?_, ?_, ?_, ?_, h.answers⟩
  · show (w.store.receive q).1.requests = _
    rw [Store.receive_eq, arrivals_concat_arrive, ← h.requests]
  · show (w.store.receive q).1.offline = _
    rw [Store.receive_eq, List.reverse_concat]
    exact h.offline
  · show (w.store.receive q).1.failuresLeft = _
    rw [Store.receive_eq, List.reverse_concat, leftBack, ← h.offline, ← h.failuresLeft]
  · rw [hcalls, List.mem_append, List.mem_singleton, h.calls, arrived_concat, hverdict, h.requests]
    obtain ⟨n, p, f⟩ := c
    simp [eq_comm, and_left_comm]
  · rw [hcalls, List.map_append, List.nodup_append]
    refine ⟨h.numbers, List.nodup_singleton _, ?_⟩
    rintro n hn m hm rfl
    obtain ⟨c, hc, rfl⟩ := List.mem_map.1 hn
    have hlt := ((h.calls c).1 hc).number_lt
    rw [List.map_singleton, List.mem_singleton] at hm
    dsimp only at hm
    rw [h.requests] at hm
    omega
  · show Ascending (w.store.receive q).1.shelf
    rw [Store.shelf_receive]
    exact h.ascending
  · show ((w.store.receive q).1.table, w.answered.map (·.2)) = _
    rw [htable]
    exact h.replay

/-- What follows an act that is no arrival, and after which the switches and the calls are as they were. -/
theorem Follows.of_calls {w' : Service} (h : Follows rs as w) (ha : ∀ q, a ≠ .arrive q)
    (hrequests : w'.store.requests = w.store.requests) (hoff : w'.store.offline = offlineBack (as ++ [a]).reverse)
    (hleft : w'.store.failuresLeft = leftBack (as ++ [a]).reverse) (hcalls : w'.calls.Perm w.calls)
    (hasc : Ascending w'.store.shelf)
    (hreplay : (w'.store.table, w'.answered.map (·.2)) = (Table.ofRecords rs).serve (w'.answered.map (·.1)))
    (hanswers : ∀ p ∈ w'.answered, ∃ t : Table, p.2 = (t.answer p.1).2) : Follows rs (as ++ [a]) w' where
  requests := by rw [hrequests, arrivals_concat ha, h.requests]
  offline := hoff
  failuresLeft := hleft
  calls := fun c => by rw [hcalls.mem_iff, h.calls, arrived_concat_of_ne ha]
  numbers := (hcalls.map _).nodup_iff.2 h.numbers
  ascending := hasc
  replay := hreplay
  answers := hanswers

/-- A call that is carried out waits no longer, and is answered by the table as it is then. Where none waits, nothing
happens. -/
theorem Follows.complete (h : Follows rs as w) (n : Nat) : Follows rs (as ++ [.complete n]) (w.complete n) := by
  have hoff : w.store.offline = offlineBack (as ++ [Act.complete n]).reverse := by
    rw [List.reverse_concat]
    exact h.offline
  have hleft : w.store.failuresLeft = leftBack (as ++ [Act.complete n]).reverse := by
    rw [List.reverse_concat]
    exact h.failuresLeft
  have hwait : (w.waiting.rotate n).Perm w.waiting := w.waiting.rotate_perm n
  unfold Service.complete
  cases hc : w.waiting.rotate n with
  | nil => exact h.of_calls nofun rfl hoff hleft (.refl _) h.ascending h.replay h.answers
  | cons c cs =>
    obtain ⟨hrequests, hoff', hleft'⟩ := w.store.switches_carryOut c.request c.failure
    have hanswer := Store.carryOut_answer h.ascending c
    refine h.of_calls nofun hrequests (hoff'.trans hoff) (hleft'.trans hleft) ?_
      (Store.ascending_carryOut h.ascending ..) ?_ ?_
    · rw [hc] at hwait
      simpa [answer, Service.calls] using hwait.append_left (w.answered.map (·.1))
    · simp only [answer, List.map_append, List.map_singleton, Table.serve_concat, ← h.replay, ← hanswer]
    · intro p hp
      rcases List.mem_append.1 hp with hp | hp
      · exact h.answers p hp
      · obtain rfl := List.mem_singleton.1 hp
        exact ⟨w.store.table, congrArg Prod.snd hanswer⟩

/-- Every act keeps what the history says: one case for each kind of act. -/
theorem Follows.step (h : Follows rs as w) (a : Act) : Follows rs (as ++ [a]) (w.step a) := by
  cases a with
  | arrive q => exact h.arrive q
  | complete n => exact h.complete n
  | failNext count =>
    refine h.of_calls nofun rfl ?_ ?_ (.refl _) h.ascending h.replay h.answers
    · rw [List.reverse_concat]
      exact h.offline
    · rw [List.reverse_concat]
      rfl
  | setOffline offline =>
    refine h.of_calls nofun rfl ?_ ?_ (.refl _) h.ascending h.replay h.answers
    · rw [List.reverse_concat]
      rfl
    · rw [List.reverse_concat]
      exact h.failuresLeft

/-- The history says what a service is after any acts. -/
theorem follows_run (rs : List Record) (as : List Act) : Follows rs as ((start rs).run as) := by
  induction as using List.reverseRecOn with
  | nil => exact follows_start rs
  | append_singleton as a ih =>
    rw [run_concat]
    exact ih.step a

/-! ## Keys that records brought -/

/-- A record of the store's first ones has the key, or one that was saved, and no delete took the key since. -/
def Brought (rs : List Record) (cs : List Ticket) (key : Key) : Prop :=
  ((∃ r ∈ rs, r.key = some key) ∧ ∀ c ∈ cs, ¬c.Takes key) ∨
    ∃ before c after, cs = before ++ c :: after ∧ c.Brings key ∧ ∀ d ∈ after, ¬d.Takes key

variable {key : Key} {cs : List Ticket}

/-- After one more call a key is brought if the call brings it, or if it was and the call does not take it. -/
theorem brought_concat : Brought rs (cs ++ [c]) key ↔ c.Brings key ∨ Brought rs cs key ∧ ¬c.Takes key := by
  constructor
  · rintro (⟨hr, ht⟩ | ⟨before, d, after, h, hd, ht⟩)
    · exact .inr ⟨.inl ⟨hr, fun d hd => ht d (List.mem_append_left _ hd)⟩, ht c (by simp)⟩
    · rcases append_cons_eq_concat_iff.1 h.symm with ⟨rfl, rfl, -⟩ | ⟨after, rfl, rfl⟩
      · exact .inl hd
      · refine .inr ⟨.inr ⟨before, d, after, rfl, hd, fun x hx => ht x ?_⟩, ht _ (by simp)⟩
        simp [hx]
  · rintro (hc | ⟨⟨hr, ht⟩ | ⟨before, d, after, rfl, hd, ht⟩, hc⟩)
    · exact .inr ⟨cs, c, [], rfl, hc, fun _ hx => absurd hx List.not_mem_nil⟩
    · exact .inl ⟨hr, by simpa [or_imp, forall_and] using ⟨ht, hc⟩⟩
    · exact .inr ⟨before, d, after ++ [c], by simp, hd, by simpa [or_imp, forall_and] using ⟨ht, hc⟩⟩

/-- Before any call a key is brought by the records alone. -/
theorem brought_nil : Brought rs [] key ↔ ∃ r ∈ rs, r.key = some key := by
  constructor
  · rintro (⟨hr, -⟩ | ⟨before, c, after, h, -⟩)
    · exact hr
    · cases before <;> cases h
  · exact fun hr => .inl ⟨hr, fun _ hc => absurd hc List.not_mem_nil⟩

/-- The keys of the table, after any calls, are those that were brought, and some of those that were made up. -/
theorem stocked_serve (rs : List Record) (cs : List Ticket) :
    Table.Stocked (Brought rs cs) ((Table.ofRecords rs).serve cs).1 := by
  induction cs using List.reverseRecOn with
  | nil =>
    have hB : Brought rs [] = fun key => ∃ r ∈ rs, r.key = some key := funext fun _ => propext brought_nil
    rw [hB]
    exact Table.stocked_ofRecords rs
  | append_singleton cs c ih =>
    rw [Table.serve_concat]
    obtain ⟨n, q, f⟩ := c
    match q, f with
    | q, some f =>
      have hB : Brought rs (cs ++ [⟨n, q, some f⟩]) = Brought rs cs :=
        funext fun _ => propext (by simp [brought_concat, Ticket.Brings, Ticket.Takes])
      rw [hB]
      exact ih
    | .save r, none =>
      refine Table.Stocked.put (r := r.canonical) ih fun key => ?_
      simp [brought_concat, Ticket.Brings, Ticket.Takes, Record.canonical]
    | .delete key, none =>
      refine Table.Stocked.delete ih fun k => ?_
      simp [brought_concat, Ticket.Brings, Ticket.Takes, eq_comm]

/-! ## What callers see -/

/-- What a store is, after some acts, to those who call it. -/
structure Serves (rs : List Record) (as : List Act) (w : Service) : Prop where
  /-- The log has every request that arrived, in the order of arrival. -/
  requests : w.store.requests = arrivals as
  /-- Every call that arrived waits or was carried out, and none was carried out twice. -/
  calls : ∀ c, c ∈ w.calls ↔ Arrived as c
  once : (w.calls.map (·.number)).Nodup
  /-- A call finds the store unavailable exactly if this was offline when the call arrived, or had failures left. -/
  unavailable : ∀ c a, (c, a) ∈ w.answered → ∃ before after, as = before ++ .arrive c.request :: after ∧
    c.number = (arrivals before).length ∧ ((∃ reason, a = .error (.unavailable reason)) ↔
      offlineBack before.reverse = true ∨ 0 < leftBack before.reverse)
  /-- The other calls are applied in the order in which they were carried out. -/
  replay : (w.store.table, w.answered.map (·.2)) = (Table.ofRecords rs).serve (w.answered.map (·.1))
  /-- A call that fails changes no record. -/
  harmless : ∀ n c f, (w.complete n).answered = w.answered ++ [(c, .error f)] →
    (w.complete n).store.records = w.store.records
  /-- The records are those of the table, each with the key under which it is stored. -/
  held : ∀ key r, w.store.table.record? key = some r ↔ r ∈ w.store.records ∧ r.key = some key
  /-- The keys of the records ascend. -/
  keyed : w.store.records.map (·.key) = w.store.keys.map some
  ascending : w.store.keys.Pairwise fun k l => k.text < l.text
  /-- A save that succeeds stores the canonical record under the key that it answers, which is the record's own if it has
  one. -/
  saved : ∀ n c r key, c.request = .save r → (w.complete n).answered = w.answered ++ [(c, .ok (some key))] →
    (w.complete n).store.table.record? key = some (r.canonical.withKey key) ∧ ∀ own, r.key = some own → key = own
  /-- The key of a record without one is new, so that nothing was stored under it, exactly if no record brought it. -/
  fresh : ∀ n c r key, c.request = .save r → r.key = none →
    (w.complete n).answered = w.answered ++ [(c, .ok (some key))] →
    (w.store.table.record? key = none ↔ ¬Brought rs (w.answered.map (·.1)) key)

/-- A call is answered as unavailable exactly when it failed on arrival. -/
theorem Follows.unavailable (h : Follows rs as w) {x : Ticket × Answer} (hx : x ∈ w.answered) :
    (∃ reason, x.2 = .error (.unavailable reason)) ↔ x.1.failure ≠ none := by
  obtain ⟨t, ht⟩ := h.answers x hx
  have hc : x.1 ∈ w.calls := List.mem_append_left _ (List.mem_map_of_mem hx)
  obtain ⟨before, after, -, -, hv⟩ := (h.calls x.1).1 hc
  rw [ht]
  unfold Table.answer
  cases hf : x.1.failure with
  | some f =>
    obtain ⟨reason, rfl⟩ := verdict_eq_some (hv.symm.trans hf)
    exact iff_of_true ⟨reason, rfl⟩ nofun
  | none =>
    refine iff_of_false ?_ (by simp)
    rintro ⟨reason, hr⟩
    exact t.apply_ne_unavailable _ reason hr

/-- A call that was answered is carried out by the store. -/
theorem complete_of_answered {n : Nat} {a : Answer} (h : (w.complete n).answered = w.answered ++ [(c, a)]) :
    w.store.carryOut c.request c.failure = ((w.complete n).store, a) := by
  unfold complete at h ⊢
  cases hc : w.waiting.rotate n with
  | nil => simp [hc] at h
  | cons d ds =>
    rw [hc] at h
    obtain ⟨rfl, ha⟩ := Prod.mk.inj (List.singleton_inj.1 (List.append_cancel_left h))
    exact Prod.ext rfl ha

/-- A call that fails changes nothing in the store. -/
theorem complete_of_error {n : Nat} {f : Failure} (h : (w.complete n).answered = w.answered ++ [(c, .error f)]) :
    (w.complete n).store = w.store := by
  have hc := complete_of_answered h
  have hstore : (w.store.carryOut c.request c.failure).1 = (w.complete n).store := congrArg Prod.fst hc
  rw [← hstore]
  exact Store.carryOut_of_error (congrArg Prod.snd hc)

/-- A save that succeeds puts the canonical record into the table, and answers its key. -/
theorem complete_of_saved {n : Nat} {r : Record} (ha : Ascending w.store.shelf) (hq : c.request = .save r)
    (h : (w.complete n).answered = w.answered ++ [(c, .ok (some key))]) :
    (w.complete n).store.table = (w.store.table.put r.canonical).1 ∧ key = (w.store.table.put r.canonical).2 := by
  have htable := Store.carryOut_answer ha c
  rw [complete_of_answered h] at htable
  unfold Table.answer at htable
  cases hf : c.failure with
  | some f =>
    rw [hf] at htable
    cases congrArg Prod.snd htable
  | none =>
    rw [hf, hq] at htable
    obtain ⟨ht, hk⟩ := Prod.mk.inj htable
    exact ⟨ht, Option.some.inj (Except.ok.inj hk)⟩

/-- The keys of the store are those that were brought, and some of those that were made up. -/
theorem Follows.stocked (h : Follows rs as w) :
    Table.Stocked (Brought rs (w.answered.map (·.1))) w.store.table := by
  rw [show w.store.table = _ from congrArg Prod.fst h.replay]
  exact stocked_serve rs _

/-- The records on the shelf have the keys under which they stand. -/
theorem Follows.key_of_mem_shelf (h : Follows rs as w) {p : Key × Record} (hp : p ∈ w.store.shelf) :
    p.2.key = some p.1 :=
  h.stocked.keyed _ _ ((Store.record?_eq_some h.ascending).2 hp)

/-- The table finds a record under the key that it has. -/
theorem Follows.record?_eq_some (h : Follows rs as w) {r : Record} :
    w.store.table.record? key = some r ↔ r ∈ w.store.records ∧ r.key = some key := by
  rw [Store.record?_eq_some h.ascending]
  constructor
  · intro hp
    exact ⟨List.mem_map_of_mem hp, h.key_of_mem_shelf hp⟩
  · rintro ⟨hr, hk⟩
    obtain ⟨p, hp, rfl⟩ := List.mem_map.1 hr
    cases (h.key_of_mem_shelf hp).symm.trans hk
    exact hp

/-- **A key-value store with atomic failures**: after every run, the log is that of the arrivals, what failed is what
arrived while the store was offline or had failures left, and the records are those of the table to which the other
calls were applied as they were carried out. -/
theorem serves_run (rs : List Record) (as : List Act) : Serves rs as ((start rs).run as) := by
  have h := follows_run rs as
  generalize (start rs).run as = w at h
  refine ⟨h.requests, h.calls, h.numbers, fun c a hc => ?_, h.replay, fun n c f hf => ?_, fun key r => ?_, ?_, ?_,
    fun n c r key hq hsaved => ?_, fun n c r key hq hr hsaved => ?_⟩
  · have hcalls : c ∈ w.calls := List.mem_append_left _ (List.mem_map_of_mem hc)
    obtain ⟨before, after, has, hn, hv⟩ := (h.calls c).1 hcalls
    exact ⟨before, after, has, hn, by rw [h.unavailable hc, hv, verdict_ne_none]⟩
  · rw [complete_of_error hf]
  · exact h.record?_eq_some
  · simp only [Store.records, Store.keys, List.map_map]
    exact List.map_congr_left fun _ => h.key_of_mem_shelf
  · exact List.pairwise_map.2 h.ascending
  · obtain ⟨ht, hk⟩ := complete_of_saved h.ascending hq hsaved
    rw [ht, Table.record?_put, ← hk, Function.update_self]
    exact ⟨rfl, fun own hown => hk.trans (Table.put_snd_of_key (r := r.canonical) hown)⟩
  · obtain ⟨-, hk⟩ := complete_of_saved h.ascending hq hsaved
    rw [hk, Table.put_snd_of_no_key (r := r.canonical) hr]
    exact h.stocked.next_eq_none

/-- One record, which has the key that a store makes up first. -/
def firstKeyTaken : List Record := [⟨some ⟨"ack-1"⟩, "boot", ⟨[], [], []⟩, none⟩]

/-- A save of a record without a key has arrived. -/
def draftArrived : List Act := [.arrive (.save (.draft "net"))]

/-- The record without a key gets the key of the other one, and takes its place. -/
theorem serves_firstKeyTaken :
    (((start firstKeyTaken).run draftArrived).complete 0).answered =
      ((start firstKeyTaken).run draftArrived).answered ++ [(⟨0, .save (.draft "net"), none⟩, .ok (some ⟨"ack-1"⟩))] ∧
    Brought firstKeyTaken (((start firstKeyTaken).run draftArrived).answered.map (·.1)) ⟨"ack-1"⟩ ∧
    ((start firstKeyTaken).run draftArrived).store.table.record? ⟨"ack-1"⟩ ≠ none ∧
    (((start firstKeyTaken).run draftArrived).complete 0).store.records =
      [⟨some ⟨"ack-1"⟩, "net", ⟨[], [], []⟩, none⟩] := by
  have hanswered : (((start firstKeyTaken).run draftArrived).complete 0).answered =
      ((start firstKeyTaken).run draftArrived).answered ++
        [(⟨0, .save (.draft "net"), none⟩, .ok (some ⟨"ack-1"⟩))] := rfl
  have hbrought : Brought firstKeyTaken (((start firstKeyTaken).run draftArrived).answered.map (·.1)) ⟨"ack-1"⟩ :=
    brought_nil.2 ⟨_, List.mem_cons_self, rfl⟩
  have hfresh := (serves_run firstKeyTaken draftArrived).fresh 0 _ _ _ rfl rfl hanswered
  exact ⟨hanswered, hbrought, fun hnone => hfresh.1 hnone hbrought, by decide +kernel⟩

end Service

end AckDesk.Backend
