import AckDesk.Proofs.Backend.Operations
import Mathlib.Logic.Function.Basic

/-!
# Stores as tables

A table is a function from keys to records, and the number of keys that were made up so far. It takes a request in one
step and answers it. A store is read as a table by looking keys up on its shelf (`Store.table`), and what the store does
with a request that does not fail is what the table does (`table_put`, `carryOut_table`).
-/

namespace AckDesk.Backend

open Store (Ascending madeKey putIn)

/-- What a call is answered: why it failed, or the key of the saved record. A delete has no more to say. -/
abbrev Answer := Except Failure (Option Key)

/-- Records under keys, and how many keys were made up. -/
@[ext]
structure Table where
  record? : Key → Option Record
  made : Nat

namespace Table

/-- No records, and no keys made up. -/
def empty : Table := ⟨fun _ => none, 0⟩

/-- Stores a record under its own key, or under the key that is made up next, whether or not this has a record. -/
def put (t : Table) (r : Record) : Table × Key :=
  let key := r.key.getD (madeKey (t.made + 1))
  (⟨Function.update t.record? key (some (r.withKey key)), if r.key = none then t.made + 1 else t.made⟩, key)

/-- The table with the given records, stored one after the other. -/
def ofRecords (rs : List Record) : Table := rs.foldl (fun t r => (t.put r).1) empty

/-- What a request does, and its answer: a save stores the canonical record, and a delete needs a record to delete. -/
def apply (t : Table) : Request → Table × Answer
  | .save r => ((t.put r.canonical).1, .ok (some (t.put r.canonical).2))
  | .delete key =>
    match t.record? key with
    | none => (t, .error (.httpStatus "DELETE" key.text 404))
    | some _ => ({ t with record? := Function.update t.record? key none }, .ok none)

/-! ## What is stored -/

/-- Every record is stored under the key that it carries. The keys with a record are those in `B`, and some of those that
were made up so far. -/
structure Stocked (B : Key → Prop) (t : Table) : Prop where
  keyed : ∀ key r, t.record? key = some r → r.key = some key
  kept : ∀ key, B key → t.record? key ≠ none
  known : ∀ key r, t.record? key = some r → B key ∨ ∃ n ≤ t.made, key = madeKey n

variable {B B' : Key → Prop} {t : Table} {r : Record}

/-- A record that has a key is put under it. -/
theorem put_snd_of_key {key : Key} (h : r.key = some key) : (t.put r).2 = key := by
  simp [put, h]

/-- A record without a key is put under the key that is made up next. -/
theorem put_snd_of_no_key (h : r.key = none) : (t.put r).2 = madeKey (t.made + 1) := by
  simp [put, h]

theorem stocked_empty : Stocked (fun _ => False) empty := ⟨nofun, nofun, nofun⟩

/-- A put record is found under its key, and every other key as before. -/
theorem record?_put (t : Table) (r : Record) :
    (t.put r).1.record? = Function.update t.record? (t.put r).2 (some (r.withKey (t.put r).2)) := rfl

/-- A record brings its own key to the table, if it has one. -/
theorem Stocked.put (h : Stocked B t) (hB : ∀ key, B' key ↔ r.key = some key ∨ B key) : Stocked B' (t.put r).1 := by
  have hmade : t.made ≤ (t.put r).1.made := by
    show t.made ≤ if r.key = none then t.made + 1 else t.made
    split <;> omega
  have hput : ∀ key q, (t.put r).1.record? key = some q →
      key = (t.put r).2 ∧ q = r.withKey (t.put r).2 ∨ t.record? key = some q := by
    intro key q hq
    by_cases hk : key = (t.put r).2
    · rw [record?_put, hk, Function.update_self] at hq
      exact .inl ⟨hk, (Option.some.inj hq).symm⟩
    · rw [record?_put, Function.update_of_ne hk] at hq
      exact .inr hq
  refine ⟨fun key q hq => ?_, fun key hb => ?_, fun key q hq => ?_⟩
  · rcases hput key q hq with ⟨rfl, rfl⟩ | hq
    · rfl
    · exact h.keyed key q hq
  · by_cases hk : key = (t.put r).2
    · rw [record?_put, hk, Function.update_self]
      exact Option.some_ne_none _
    · have hb : B key := ((hB key).1 hb).resolve_left fun hr => hk (put_snd_of_key hr).symm
      rw [record?_put, Function.update_of_ne hk]
      exact h.kept key hb
  · rcases hput key q hq with ⟨rfl, -⟩ | hq
    · cases hk : r.key with
      | some k => exact .inl ((hB _).2 (.inl (put_snd_of_key hk ▸ hk)))
      | none => exact .inr ⟨t.made + 1, by simp [Table.put, hk], put_snd_of_no_key hk⟩
    · rcases h.known key q hq with hb | ⟨n, hn, hkn⟩
      · exact .inl ((hB key).2 (.inr hb))
      · exact .inr ⟨n, Nat.le_trans hn hmade, hkn⟩

/-- A delete takes its key from the table. -/
theorem Stocked.delete {key : Key} (h : Stocked B t) (hB : ∀ k, B' k ↔ B k ∧ k ≠ key) :
    Stocked B' (t.apply (.delete key)).1 := by
  unfold Table.apply
  dsimp only
  split
  · rename_i hnone
    refine ⟨h.keyed, fun k hb => h.kept k ((hB k).1 hb).1, fun k r hr => (h.known k r hr).imp_left fun hb => ?_⟩
    refine (hB k).2 ⟨hb, ?_⟩
    rintro rfl
    cases hnone.symm.trans hr
  · have hsub : ∀ k r, Function.update t.record? key none k = some r → k ≠ key ∧ t.record? k = some r := by
      intro k r hr
      by_cases hk : k = key
      · simp [hk] at hr
      · exact ⟨hk, (Function.update_of_ne hk ..).symm.trans hr⟩
    refine ⟨fun k r hr => h.keyed k r (hsub k r hr).2, fun k hb => ?_, fun k r hr => ?_⟩
    · obtain ⟨hb, hk⟩ := (hB k).1 hb
      show Function.update t.record? key none k ≠ none
      rw [Function.update_of_ne hk]
      exact h.kept k hb
    · obtain ⟨hk, hr⟩ := hsub k r hr
      exact (h.known k r hr).imp_left fun hb => (hB k).2 ⟨hb, hk⟩

theorem stocked_ofRecords (rs : List Record) : Stocked (fun key => ∃ r ∈ rs, r.key = some key) (ofRecords rs) := by
  induction rs using List.reverseRecOn with
  | nil =>
    show Stocked _ empty
    simpa using stocked_empty
  | append_singleton rs r ih =>
    rw [show ofRecords (rs ++ [r]) = ((ofRecords rs).put r).1 from List.foldl_append]
    refine ih.put fun key => ?_
    simp [or_and_right, exists_or, or_comm]

/-- The key that is made up next has a record already exactly if it is in `B`. -/
theorem Stocked.next_eq_none (h : Stocked B t) :
    t.record? (madeKey (t.made + 1)) = none ↔ ¬B (madeKey (t.made + 1)) := by
  constructor
  · intro hn hb
    exact h.kept _ hb hn
  · intro hb
    rw [Option.eq_none_iff_forall_ne_some]
    intro r hr
    rcases h.known _ r hr with hk | ⟨n, hn, hkn⟩
    · exact hb hk
    · have := Store.madeKey_inj hkn
      omega

/-! ## Answers -/

/-- The answer to a request is never that the store is unavailable. -/
theorem apply_ne_unavailable (t : Table) (q : Request) (reason : String) :
    (t.apply q).2 ≠ .error (.unavailable reason) := by
  cases q with
  | save r => exact nofun
  | delete key => unfold apply; dsimp only; split <;> exact nofun

end Table

namespace Store

variable {s : Store} {key k : Key} {r : Record}

/-- The records of the store under their keys. -/
def table (s : Store) : Table := ⟨fun key => (s.shelf.find? (·.1 == key)).map (·.2), s.lastKey⟩

/-- What is looked up is on the shelf. -/
theorem record?_eq_some (h : Ascending s.shelf) : s.table.record? key = some r ↔ (key, r) ∈ s.shelf := by
  constructor
  · intro hr
    obtain ⟨p, hp, rfl⟩ := Option.map_eq_some_iff.1 hr
    have hkey : p.1 = key := by simpa using List.find?_some hp
    exact hkey ▸ List.mem_of_find?_eq_some hp
  · intro hmem
    have hn : (s.shelf.map (·.1)).Nodup := h.nodup_keys
    cases hf : s.shelf.find? (·.1 == key) with
    | none => exact absurd (List.find?_eq_none.1 hf _ hmem) (by simp)
    | some p =>
      have hkey : p.1 = key := by simpa using List.find?_some hf
      have hp : p = (key, r) := List.inj_on_of_nodup_map hn (List.mem_of_find?_eq_some hf) hmem hkey
      show (s.shelf.find? (·.1 == key)).map (·.2) = some r
      rw [hf, hp]
      rfl

/-- A table has nothing under a key exactly when the shelf has not. -/
theorem record?_eq_none (h : Ascending s.shelf) : s.table.record? key = none ↔ key ∉ s.keys := by
  rw [mem_keys, Option.eq_none_iff_forall_ne_some]
  constructor
  · rintro hr ⟨q, hq, rfl⟩
    exact hr q.2 ((record?_eq_some h).2 hq)
  · rintro hk r hr
    exact hk ⟨_, (record?_eq_some h).1 hr, rfl⟩

/-- A table is that of a store if it has the records of its shelf. -/
theorem table_eq {t : Table} (h : Ascending s.shelf) (hr : ∀ key r, t.record? key = some r ↔ (key, r) ∈ s.shelf)
    (hm : t.made = s.lastKey) : s.table = t := by
  refine Table.ext (funext fun key => Option.ext fun r => ?_) hm.symm
  rw [record?_eq_some h, hr]

/-- Putting a record on the shelf is storing it in the table. -/
theorem table_put (h : Ascending s.shelf) (r : Record) : ((s.put r).1.table, (s.put r).2) = s.table.put r := by
  have hasc : Ascending (s.put r).1.shelf := by
    rw [shelf_put]
    exact ascending_putIn h
  refine Prod.ext (table_eq hasc (fun key q => ?_) (lastKey_put s r).symm) (put_snd s r)
  rw [shelf_put, mem_putIn h]
  show Function.update s.table.record? (s.keyFor r) (some (r.withKey (s.keyFor r))) key = some q ↔ _
  by_cases hk : key = s.keyFor r
  · subst hk
    simp [eq_comm]
  · rw [Function.update_of_ne hk, record?_eq_some h]
    simp [hk]

/-- A store stocked from records and a table stocked from them hold the same. -/
theorem table_ofRecords (rs : List Record) : (ofRecords rs).table = Table.ofRecords rs := by
  induction rs using List.reverseRecOn with
  | nil => rfl
  | append_singleton rs r ih =>
    have hput := table_put (ascending_ofRecords rs) r
    rw [ofRecords_concat, show Table.ofRecords (rs ++ [r]) = ((Table.ofRecords rs).put r).1 from List.foldl_append,
      ← ih, ← hput]

/-! ## Requests that do not fail on arrival -/

/-- Carries out a request, unless its failure was settled when it arrived. -/
def carryOut (s : Store) : Request → Option Failure → Store × Answer
  | _, some f => (s, .error f)
  | .save r, none => ((s.save r).1, (s.save r).2.map some)
  | .delete key, none => ((s.delete key).1, (s.delete key).2.map fun _ => none)

/-- Whatever a request does, the keys stay in order. -/
theorem ascending_carryOut (h : Ascending s.shelf) (q : Request) (f : Option Failure) :
    Ascending (s.carryOut q f).1.shelf := by
  match q, f with
  | _, some _ => exact h
  | .save r, none =>
    show Ascending (s.put r.canonical).1.shelf
    rw [shelf_put]
    exact ascending_putIn h
  | .delete key, none =>
    show Ascending (s.delete key).1.shelf
    unfold delete
    split
    · exact h.filter _
    · exact h

/-- What the store does with a request that did not fail on arrival is what its table does. -/
theorem carryOut_table (h : Ascending s.shelf) (q : Request) :
    ((s.carryOut q none).1.table, (s.carryOut q none).2) = s.table.apply q := by
  cases q with
  | save r =>
    have hput := table_put h r.canonical
    show ((s.put r.canonical).1.table, Except.ok (some (s.put r.canonical).2)) =
      ((s.table.put r.canonical).1, Except.ok (some (s.table.put r.canonical).2))
    rw [← hput]
  | delete key =>
    have hasc : Ascending (s.carryOut (.delete key) none).1.shelf := ascending_carryOut h _ _
    unfold carryOut delete at hasc ⊢
    unfold Table.apply
    by_cases hk : key ∈ s.keys
    · have hany : s.shelf.any (·.1 == key) = true := by
        obtain ⟨p, hp, hpk⟩ := mem_keys.1 hk
        exact List.any_eq_true.2 ⟨p, hp, by simp [hpk]⟩
      obtain ⟨r, hr⟩ := Option.ne_none_iff_exists'.1 fun hn => (record?_eq_none h).1 hn hk
      simp only [hany, if_true, hr] at hasc ⊢
      refine Prod.ext (table_eq hasc (fun k q => ?_) rfl) rfl
      show Function.update s.table.record? key none k = some q ↔ (k, q) ∈ s.shelf.filter (·.1 != key)
      rw [List.mem_filter]
      by_cases hkk : k = key
      · simp [hkk]
      · rw [Function.update_of_ne hkk, record?_eq_some h]
        simp [hkk]
    · have hany : s.shelf.any (·.1 == key) = false := by
        refine List.any_eq_false.2 fun p hp hpk => hk (mem_keys.2 ⟨p, hp, by simpa using hpk⟩)
      simp only [hany, Bool.false_eq_true, if_false, (record?_eq_none h).2 hk]
      rfl

end Store

end AckDesk.Backend
