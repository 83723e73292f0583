import AckDesk.Backend.Store
import Mathlib.Data.List.Induction
import Mathlib.Data.List.Nodup

/-!
# The shelf of a store

The shelf is ascending in its keys (`ascending_putIn`). A record put on it takes the place of the one that had the key,
and nothing else changes (`mem_putIn`). A store created with records that all have keys, each its own, holds these
records under their keys (`mem_shelf_ofRecords`).
-/

namespace AckDesk.Backend.Store

variable {key : Key} {r : Record} {p q : Key × Record} {ps : List (Key × Record)}

/-- Strictly ascending in the keys. -/
def Ascending (ps : List (Key × Record)) : Prop := ps.Pairwise fun p q => p.1.text < q.1.text

/-- No key is twice in ascending order. -/
theorem Ascending.nodup_keys (h : Ascending ps) : (ps.map (·.1)).Nodup := by
  refine List.Pairwise.map _ (fun p q hpq he => ?_) h
  rw [he] at hpq
  exact String.lt_irrefl _ hpq

/-! ## Putting a record on the shelf -/

/-- The record that had the key goes, and no other. -/
theorem mem_putIn (h : Ascending ps) : q ∈ putIn key r ps ↔ q = (key, r) ∨ q ∈ ps ∧ q.1 ≠ key := by
  induction ps with
  | nil => simp [putIn]
  | cons p ps ih =>
    obtain ⟨hp, hps⟩ := List.pairwise_cons.1 h
    unfold putIn
    split
    · rename_i hk
      have hne : ∀ q ∈ ps, q.1 ≠ key := by
        rintro q hq rfl
        have := hp q hq
        rw [hk] at this
        exact String.lt_irrefl _ this
      simp only [List.mem_cons]
      constructor
      · rintro (rfl | hq)
        · exact .inl rfl
        · exact .inr ⟨.inr hq, hne q hq⟩
      · rintro (rfl | ⟨rfl | hq, hqk⟩)
        · exact .inl rfl
        · exact absurd hk hqk
        · exact .inr hq
    · rename_i hk
      split
      · rename_i hlt
        have hne : ∀ q ∈ p :: ps, q.1 ≠ key := by
          rintro q hq rfl
          rcases List.mem_cons.1 hq with rfl | hq
          · exact hk rfl
          · exact String.lt_irrefl _ (String.lt_trans hlt (hp q hq))
        rw [List.mem_cons]
        exact or_congr_right (and_iff_left_of_imp (hne q)).symm
      · rw [List.mem_cons, ih hps, List.mem_cons]
        constructor
        · rintro (rfl | hq | ⟨hq, hqk⟩)
          · exact .inr ⟨.inl rfl, hk⟩
          · exact .inl hq
          · exact .inr ⟨.inr hq, hqk⟩
        · rintro (hq | ⟨rfl | hq, hqk⟩)
          · exact .inr (.inl hq)
          · exact .inl rfl
          · exact .inr (.inr ⟨hq, hqk⟩)

/-- Putting a record into its place keeps the order. -/
theorem ascending_putIn (h : Ascending ps) : Ascending (putIn key r ps) := by
  induction ps with
  | nil => exact List.pairwise_singleton ..
  | cons p ps ih =>
    obtain ⟨hp, hps⟩ := List.pairwise_cons.1 h
    unfold putIn
    split
    · rename_i hk
      exact List.pairwise_cons.2 ⟨fun q hq => hk ▸ hp q hq, hps⟩
    · rename_i hk
      split
      · rename_i hlt
        refine List.pairwise_cons.2 ⟨fun q hq => ?_, h⟩
        rcases List.mem_cons.1 hq with rfl | hq
        · exact hlt
        · exact String.lt_trans hlt (hp q hq)
      · rename_i hlt
        refine List.pairwise_cons.2 ⟨fun q hq => ?_, ih hps⟩
        rcases (mem_putIn hps).1 hq with rfl | ⟨hq, -⟩
        · -- the key is neither that of the first record nor below it
          refine String.not_le.1 fun hle => hk ?_
          have : p.1.text = key.text := String.le_antisymm (String.not_lt.1 hlt) hle
          cases hp1 : p.1
          cases key
          simp_all
        · exact hp q hq

/-! ## Keys that a store makes -/

/-- The key that a store makes up for its `n`-th record without one. -/
def madeKey (n : Nat) : Key := ⟨s!"ack-{n}"⟩

/-- The counter never makes one key at two values. -/
theorem madeKey_inj {m n : Nat} (h : madeKey m = madeKey n) : m = n := by
  have ht : ("ack-" ++ m.repr).toList = ("ack-" ++ n.repr).toList := congrArg (·.text.toList) h
  have hd : Nat.toDigits 10 m = Nat.toDigits 10 n := by simpa using ht
  calc
    m = Nat.ofDigitChars 10 (Nat.toDigits 10 m) 0 := by simp
    _ = Nat.ofDigitChars 10 (Nat.toDigits 10 n) 0 := by rw [hd]
    _ = n := by simp

/-- The key under which a record is put. -/
def keyFor (s : Store) (r : Record) : Key := r.key.getD (madeKey (s.lastKey + 1))

/-- A record that has a key is stored as it is. -/
theorem withKey_keyFor {s : Store} (h : r.key = some key) : r.withKey (s.keyFor r) = r := by
  cases r
  cases h
  rfl

theorem put_snd (s : Store) (r : Record) : (s.put r).2 = s.keyFor r := by
  cases h : r.key with
  | none => simp [put, keyFor, h]; rfl
  | some key => simp [put, keyFor, h]

/-- A put record stands under its key, with that key in it. -/
theorem shelf_put (s : Store) (r : Record) :
    (s.put r).1.shelf = putIn (s.keyFor r) (r.withKey (s.keyFor r)) s.shelf := by
  cases h : r.key with
  | none => simp [put, keyFor, h]; rfl
  | some key => rw [withKey_keyFor h]; simp [put, keyFor, h]

/-- Only a record without a key moves the counter. -/
theorem lastKey_put (s : Store) (r : Record) :
    (s.put r).1.lastKey = if r.key = none then s.lastKey + 1 else s.lastKey := by
  cases h : r.key <;> simp [put, h]

/-- A request that arrives changes no record yet. -/
theorem shelf_receive (s : Store) (q : Request) : (s.receive q).1.shelf = s.shelf := by
  unfold receive
  dsimp only
  split
  · rfl
  · split <;> rfl

/-- A request that arrives uses no key up. -/
theorem lastKey_receive (s : Store) (q : Request) : (s.receive q).1.lastKey = s.lastKey := by
  unfold receive
  dsimp only
  split
  · rfl
  · split <;> rfl

/-! ## The records that a store is created with -/

/-- Records that all have keys, each its own, and none that a store would make up. -/
structure Seed (rs : List Record) : Prop where
  keyed : ∀ r ∈ rs, r.key ≠ none
  distinct : (rs.map (·.key)).Nodup
  unmade : ∀ r ∈ rs, ∀ n, r.key ≠ some (madeKey n)

theorem ofRecords_concat (rs : List Record) (r : Record) : ofRecords (rs ++ [r]) = ((ofRecords rs).put r).1 :=
  List.foldl_append

/-- A store that was just stocked has its keys in order, as each record was put into its place. -/
theorem ascending_ofRecords (rs : List Record) : Ascending (ofRecords rs).shelf := by
  induction rs using List.reverseRecOn with
  | nil => exact .nil
  | append_singleton rs r ih =>
    rw [ofRecords_concat, shelf_put]
    exact ascending_putIn ih

/-- The store holds the records that it was created with, under their keys. -/
theorem mem_shelf_ofRecords {rs : List Record} (h : Seed rs) :
    p ∈ (ofRecords rs).shelf ↔ p.2 ∈ rs ∧ p.2.key = some p.1 := by
  obtain ⟨hk, hd, -⟩ := h
  induction rs using List.reverseRecOn with
  | nil => exact ⟨fun hp => (List.not_mem_nil hp).elim, fun hp => (List.not_mem_nil hp.1).elim⟩
  | append_singleton rs r ih =>
    rw [List.map_append, List.nodup_append] at hd
    obtain ⟨key, hr⟩ := Option.ne_none_iff_exists'.1 (hk r (by simp))
    have hkey : (ofRecords rs).keyFor r = key := by simp [keyFor, hr]
    rw [ofRecords_concat, shelf_put, withKey_keyFor hr, hkey, mem_putIn (ascending_ofRecords rs),
      ih (fun r hr => hk r (by simp [hr])) hd.1, List.mem_append, List.mem_singleton]
    constructor
    · rintro (rfl | ⟨⟨hp, hpk⟩, -⟩)
      · exact ⟨.inr rfl, hr⟩
      · exact ⟨.inl hp, hpk⟩
    · rintro ⟨hp | rfl, hpk⟩
      · refine .inr ⟨⟨hp, hpk⟩, fun hpr => ?_⟩
        exact hd.2.2 _ (List.mem_map_of_mem hp) r.key (by simp) (by rw [hpk, hpr, hr])
      · exact .inl (Prod.ext (Option.some.inj (hpk.symm.trans hr)) rfl)

end AckDesk.Backend.Store
