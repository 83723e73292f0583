import AckDesk.Proofs.Backend.Operations

/-!
# Keys that a store makes up

A store numbers the keys that it makes up and does not look whether a record has such a key already. A record brings
its key to a store that is created with it, or in which it is saved under this key (`Brought`), and the key is the
record's own until a delete of it succeeds.

* After every run, the keys on the shelf are those that were brought, and some of those that were made up so far
  (`held_run`).
* So the next key that is made up is new exactly if it was not brought; if it was, a record is overwritten
  (`fresh_run`). For the same reason a store may hold fewer records than it was created with.
-/

namespace AckDesk.Backend.Store

variable {s s' : Store} {key : Key} {r : Record} {rs : List Record}

/-! ## The records that a store is created with -/

/-- One record more is one draft more if it has no key. -/
theorem countP_isDraft_concat (rs : List Record) (r : Record) : (rs ++ [r]).countP (·.isDraft) =
    if r.key = none then rs.countP (·.isDraft) + 1 else rs.countP (·.isDraft) := by
  rw [List.countP_append]
  cases hr : r.key <;> simp [Record.isDraft, hr]

/-- A new store has made up a key for each record without one. -/
theorem lastKey_ofRecords (rs : List Record) : (ofRecords rs).lastKey = rs.countP (·.isDraft) := by
  induction rs using List.reverseRecOn with
  | nil => rfl
  | append_singleton rs r ih => rw [ofRecords_concat, lastKey_put, ih, countP_isDraft_concat]

/-- A new store has the keys of its records, and those that it made up for the others. -/
theorem mem_keys_ofRecords : key ∈ (ofRecords rs).keys ↔
    (∃ r ∈ rs, r.key = some key) ∨ ∃ n, 0 < n ∧ n ≤ rs.countP (·.isDraft) ∧ key = madeKey n := by
  induction rs using List.reverseRecOn with
  | nil =>
    constructor
    · intro h
      cases h
    · rintro (⟨r, hr, -⟩ | ⟨n, hn, hle, -⟩)
      · cases hr
      · rw [List.countP_nil] at hle
        omega
  | append_singleton rs r ih =>
    have hkeys : key ∈ (ofRecords (rs ++ [r])).keys ↔ key = (ofRecords rs).keyFor r ∨ key ∈ (ofRecords rs).keys := by
      rw [keys, ofRecords_concat, shelf_put]
      exact mem_keys_putIn (ascending_ofRecords rs)
    rw [hkeys, ih, countP_isDraft_concat, keyFor, lastKey_ofRecords]
    cases hr : r.key with
    | some k => grind
    | none => grind

/-- No record has a key that the store makes up for another. -/
def Unclaimed (rs : List Record) : Prop :=
  ∀ r ∈ rs, ∀ n, 0 < n → n ≤ rs.countP (·.isDraft) → r.key ≠ some (madeKey n)

/-- The store is no larger than the list that it was stocked from. -/
theorem length_ofRecords_le (rs : List Record) : (ofRecords rs).shelf.length ≤ rs.length := by
  induction rs using List.reverseRecOn with
  | nil => exact Nat.zero_le _
  | append_singleton rs r ih =>
    rw [ofRecords_concat, length_put (ascending_ofRecords rs), List.length_append, List.length_singleton]
    split <;> omega

/-- The key of one more record is new, if and only if it is not claimed twice. -/
theorem unclaimed_concat (hd : ((rs ++ [r]).filterMap (·.key)).Nodup) :
    Unclaimed (rs ++ [r]) ↔ Unclaimed rs ∧ (ofRecords rs).keyFor r ∉ (ofRecords rs).keys := by
  simp only [Unclaimed, countP_isDraft_concat, mem_keys_ofRecords, keyFor, lastKey_ofRecords, List.mem_append,
    List.mem_singleton]
  cases hr : r.key with
  | some k =>
    -- no more keys are made up, and the record shares its own with none of the others
    have hnew : ∀ q ∈ rs, q.key ≠ some k := by
      intro q hq hk
      rw [List.filterMap_append, List.nodup_append] at hd
      exact hd.2.2 k (List.mem_filterMap.2 ⟨q, hq, hk⟩) k (by simp [hr]) rfl
    grind
  | none =>
    -- one more key is made up, which differs from those before it
    have hinj : ∀ m n, madeKey m = madeKey n → m = n := fun _ _ => madeKey_inj
    grind

/-- A new store holds all the records that it was created with, exactly if none has a key that is made up for
another. -/
theorem length_ofRecords_eq (hd : (rs.filterMap (·.key)).Nodup) :
    (ofRecords rs).shelf.length = rs.length ↔ Unclaimed rs := by
  induction rs using List.reverseRecOn with
  | nil => exact iff_of_true rfl fun r hr => absurd hr List.not_mem_nil
  | append_singleton rs r ih =>
    have hd' : (rs.filterMap (·.key)).Nodup := by
      rw [List.filterMap_append, List.nodup_append] at hd
      exact hd.1
    have hle := length_ofRecords_le rs
    rw [unclaimed_concat hd, ← ih hd', ofRecords_concat, length_put (ascending_ofRecords rs), List.length_append,
      List.length_singleton]
    split
    · rename_i hk
      exact iff_of_false (by omega) fun h => h.2 hk
    · rename_i hk
      rw [and_iff_left hk]
      omega

/-! ## Keys that were brought -/

/-- The store was created with a record that has the key, or such a record was saved in it, and no delete of the key
succeeded since. -/
inductive Brought (rs : List Record) : List Operation → Key → Prop
  | created {r : Record} {key : Key} (hr : r ∈ rs) (hk : r.key = some key) : Brought rs [] key
  | saved {os : List Operation} {o : Operation} {key : Key} (hb : Brings ((ofRecords rs).after os) key o) :
      Brought rs (os ++ [o]) key
  | kept {os : List Operation} {o : Operation} {key : Key} (h : Brought rs os key)
      (ht : ¬Takes ((ofRecords rs).after os) key o) : Brought rs (os ++ [o]) key

variable {os : List Operation} {o : Operation}

/-- Before any operation a key is brought by the records alone. -/
theorem brought_nil : Brought rs [] key ↔ ∃ r ∈ rs, r.key = some key := by
  constructor
  · intro h
    generalize hos : ([] : List Operation) = os at h
    cases h with
    | created hr hk => exact ⟨_, hr, hk⟩
    | saved => simp at hos
    | kept => simp at hos
  · rintro ⟨r, hr, hk⟩
    exact .created hr hk

theorem brought_concat : Brought rs (os ++ [o]) key ↔
    Brings ((ofRecords rs).after os) key o ∨ Brought rs os key ∧ ¬Takes ((ofRecords rs).after os) key o := by
  constructor
  · intro h
    generalize hos : os ++ [o] = os' at h
    cases h with
    | created => simp at hos
    | saved hb =>
      obtain ⟨rfl, ho⟩ := List.append_inj' hos rfl
      cases ho
      exact .inl hb
    | kept h ht =>
      obtain ⟨rfl, ho⟩ := List.append_inj' hos rfl
      cases ho
      exact .inr ⟨h, ht⟩
  · rintro (hb | ⟨h, ht⟩)
    · exact .saved hb
    · exact .kept h ht

/-- The keys on the shelf are those that were brought, and some of those that were made up so far. -/
structure Held (rs : List Record) (os : List Operation) (s : Store) : Prop where
  ascending : Ascending s.shelf
  brought : ∀ key, Brought rs os key → key ∈ s.keys
  stored : ∀ key ∈ s.keys, Brought rs os key ∨ ∃ n, n ≤ s.lastKey ∧ key = madeKey n

/-- A store that was just stocked keeps the invariant, with nothing performed yet. -/
theorem held_ofRecords (rs : List Record) : Held rs [] (ofRecords rs) where
  ascending := ascending_ofRecords rs
  brought := fun key h => mem_keys_ofRecords.2 (.inl (brought_nil.1 h))
  stored := by
    intro key h
    rcases mem_keys_ofRecords.1 h with h | ⟨n, -, hn, hk⟩
    · exact .inl (brought_nil.2 h)
    · exact .inr ⟨n, (lastKey_ofRecords rs).symm ▸ hn, hk⟩

/-- A save that succeeds brings the key of its record, or makes one up. -/
theorem Held.saved (h : Held rs os ((ofRecords rs).after os)) (hs : (((ofRecords rs).after os).saveNow r).2 = .ok key)
    (hsave : ((ofRecords rs).after os).Saves r key s') : Held rs (os ++ [.save r]) s' := by
  refine ⟨hsave.shelf ▸ ascending_putIn h.ascending, fun k hb => ?_, fun k hk => ?_⟩
  · rw [mem_keys_of_saves hsave h.ascending]
    rcases brought_concat.1 hb with ⟨q, hq, -, hs'⟩ | ⟨hb, -⟩
    · cases hq
      rw [hs] at hs'
      exact .inl (Except.ok.inj hs').symm
    · exact .inr (h.brought k hb)
  · rcases (mem_keys_of_saves hsave h.ascending).1 hk with rfl | hk
    · cases hr : r.key with
      | some q =>
        have hkq : k = q := by rw [hsave.key_eq, keyFor, hr, Option.getD_some]
        exact .inl (.saved ⟨r, rfl, hr.trans (congrArg some hkq.symm), hs⟩)
      | none =>
        have hlast : s'.lastKey = ((ofRecords rs).after os).lastKey + 1 := by rw [hsave.lastKey, if_pos hr]
        have hkn : k = madeKey (((ofRecords rs).after os).lastKey + 1) := by
          rw [hsave.key_eq, keyFor, hr, Option.getD_none]
        exact .inr ⟨_, Nat.le_of_eq hlast.symm, hkn⟩
    · rcases h.stored k hk with hb | ⟨n, hn, hkn⟩
      · exact .inl (.kept hb fun ht => (by cases ht.1))
      · refine .inr ⟨n, ?_, hkn⟩
        rw [hsave.lastKey]
        split <;> omega

/-- A delete that succeeds takes the key, whether it was brought or made up. -/
theorem Held.deleted (h : Held rs os ((ofRecords rs).after os))
    (hs : (((ofRecords rs).after os).deleteNow key).2 = .ok ())
    (hshelf : s'.shelf = ((ofRecords rs).after os).shelf.filter (·.1 != key))
    (hlast : s'.lastKey = ((ofRecords rs).after os).lastKey) : Held rs (os ++ [.delete key]) s' := by
  refine ⟨hshelf ▸ h.ascending.filter _, fun k hb => ?_, fun k hk => ?_⟩
  · rw [mem_keys_of_filter hshelf]
    rcases brought_concat.1 hb with ⟨q, hq, -⟩ | ⟨hb, ht⟩
    · cases hq
    · refine ⟨h.brought k hb, ?_⟩
      rintro rfl
      exact ht ⟨rfl, hs⟩
  · obtain ⟨hk, hne⟩ := (mem_keys_of_filter hshelf).1 hk
    rcases h.stored k hk with hb | ⟨n, hn, hkn⟩
    · refine .inl (.kept hb ?_)
      rintro ⟨hq, -⟩
      cases hq
      exact hne rfl
    · exact .inr ⟨n, hlast ▸ hn, hkn⟩

/-- An operation keeps what is known about the keys. -/
theorem Held.perform (h : Held rs os ((ofRecords rs).after os)) (o : Operation) :
    Held rs (os ++ [o]) (((ofRecords rs).after os).perform o) := by
  have hp := performed_perform ((ofRecords rs).after os) o
  generalize ((ofRecords rs).after os).perform o = s' at hp
  cases hp with
  | saved hs hsave => exact h.saved hs hsave
  | deleted hs hshelf hlast => exact h.deleted hs hshelf hlast
  | idle hb ht hshelf hlast =>
    refine ⟨hshelf ▸ h.ascending, fun k hbr => ?_, fun k hk => ?_⟩
    · rw [keys, hshelf]
      rcases brought_concat.1 hbr with hbr | ⟨hbr, -⟩
      · exact absurd hbr (hb k)
      · exact h.brought k hbr
    · rw [keys, hshelf] at hk
      rcases h.stored k hk with hbr | ⟨n, hn, hkn⟩
      · exact .inl (.kept hbr (ht k))
      · exact .inr ⟨n, hlast ▸ hn, hkn⟩

/-- What is known about the keys after every run. -/
theorem held_run (rs : List Record) (os : List Operation) : Held rs os ((ofRecords rs).after os) := by
  induction os using List.reverseRecOn with
  | nil => exact held_ofRecords rs
  | append_singleton os o ih =>
    rw [after_concat]
    exact ih.perform o

/-! ## Fresh keys -/

/-- Nothing was stored under the key, and what was stored stays as it is. -/
structure Fresh (s : Store) (key : Key) (s' : Store) : Prop where
  unused : ∀ q ∈ s.shelf, q.1 ≠ key
  kept : ∀ q ∈ s.shelf, q ∈ s'.shelf

/-- A save is fresh if nothing was stored under its key. -/
theorem Saves.fresh_iff (h : s.Saves r key s') (ha : Ascending s.shelf) : Fresh s key s' ↔ key ∉ s.keys := by
  constructor
  · intro hf hk
    obtain ⟨q, hq, hqk⟩ := mem_keys.1 hk
    exact hf.unused q hq hqk
  · intro hk
    have unused : ∀ q ∈ s.shelf, q.1 ≠ key := by
      intro q hq hqk
      exact hk (mem_keys.2 ⟨q, hq, hqk⟩)
    refine ⟨unused, fun q hq => ?_⟩
    rw [h.shelf, mem_putIn ha]
    exact .inr ⟨hq, unused q hq⟩

/-- The key that is made up next is on the shelf exactly if it was brought. -/
theorem Held.next_mem_keys (h : Held rs os s) :
    madeKey (s.lastKey + 1) ∈ s.keys ↔ Brought rs os (madeKey (s.lastKey + 1)) := by
  constructor
  · intro hk
    rcases h.stored _ hk with hb | ⟨n, hn, hkn⟩
    · exact hb
    · have := madeKey_inj hkn
      omega
  · exact h.brought _

/-- **Fresh keys**: a store that is created with records of distinct keys holds all of them exactly if none of these
keys is made up for another one, and the key that it makes up for a record, after any operations, is fresh exactly if
it was not brought to it. -/
theorem fresh_run (hd : (rs.filterMap (·.key)).Nodup) :
    ((ofRecords rs).records.length = rs.length ↔ Unclaimed rs) ∧
    ∀ os r key, r.key = none → (((ofRecords rs).after os).saveNow r).2 = .ok key →
      (Fresh ((ofRecords rs).after os) key (((ofRecords rs).after os).saveNow r).1 ↔ ¬Brought rs os key) := by
  refine ⟨?_, fun os r key hr hs => ?_⟩
  · rw [records, List.length_map]
    exact length_ofRecords_eq hd
  · have hsave := saves_of_saveNow hs
    have hkey : key = madeKey (((ofRecords rs).after os).lastKey + 1) := by
      rw [hsave.key_eq, keyFor, hr, Option.getD_none]
    rw [hsave.fresh_iff (held_run rs os).ascending, hkey, (held_run rs os).next_mem_keys]

/-- Two records, of which one has the key that a store makes up second. -/
def ackTwo : List Record := [⟨some ⟨"ack-2"⟩, "boot", ⟨[], [], []⟩, none⟩, .draft "net"]

/-- The key that was brought is given to a third record, unless it was deleted before. -/
theorem fresh_ackTwo : (ackTwo.filterMap (·.key)).Nodup ∧ Unclaimed ackTwo ∧
    (((ofRecords ackTwo).after []).saveNow (.draft "disk")).2 = .ok ⟨"ack-2"⟩ ∧
    ¬Fresh ((ofRecords ackTwo).after []) ⟨"ack-2"⟩ (((ofRecords ackTwo).after []).saveNow (.draft "disk")).1 ∧
    (((ofRecords ackTwo).after [.delete ⟨"ack-2"⟩]).saveNow (.draft "disk")).2 = .ok ⟨"ack-2"⟩ ∧
    ¬Brought ackTwo [.delete ⟨"ack-2"⟩] ⟨"ack-2"⟩ := by
  have hd : (ackTwo.filterMap (·.key)).Nodup := by decide
  have hlen : (ofRecords ackTwo).records.length = ackTwo.length := by decide +kernel
  have hsave : (((ofRecords ackTwo).after []).saveNow (.draft "disk")).2 = .ok ⟨"ack-2"⟩ := by decide +kernel
  have hsave' : (((ofRecords ackTwo).after [.delete ⟨"ack-2"⟩]).saveNow (.draft "disk")).2 = .ok ⟨"ack-2"⟩ := by
    decide +kernel
  have hbrought : Brought ackTwo [] ⟨"ack-2"⟩ := .created List.mem_cons_self rfl
  have hfresh : Fresh ((ofRecords ackTwo).after [.delete ⟨"ack-2"⟩]) ⟨"ack-2"⟩
      (((ofRecords ackTwo).after [.delete ⟨"ack-2"⟩]).saveNow (.draft "disk")).1 :=
    ⟨by decide +kernel, by decide +kernel⟩
  obtain ⟨hall, hkey⟩ := fresh_run hd
  exact ⟨hd, hall.1 hlen, hsave, fun h => (hkey [] _ _ rfl hsave).1 h hbrought, hsave',
    (hkey _ _ _ rfl hsave').1 hfresh⟩

end AckDesk.Backend.Store
