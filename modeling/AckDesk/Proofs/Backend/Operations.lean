import AckDesk.Proofs.Backend.Shelf

/-!
# What is done to a store

Records are saved and deleted, and the store is told to fail or to go offline. An operation does one of three things to
the shelf: a save that succeeds puts a record on it, a delete that succeeds takes one off it, and anything else leaves
it as it is (`performed_perform`).
-/

namespace AckDesk.Backend.Store

variable {s s' : Store} {key k : Key} {r : Record} {ps : List (Key × Record)}

/-! ## The keys on the shelf -/

/-- The keys under which records are stored, in their order. -/
def keys (s : Store) : List Key := s.shelf.map (·.1)

theorem mem_keys : key ∈ s.keys ↔ ∃ q ∈ s.shelf, q.1 = key := List.mem_map

/-- Putting a record into the shelf adds its key and removes none. -/
theorem mem_keys_putIn (h : Ascending ps) : k ∈ (putIn key r ps).map (·.1) ↔ k = key ∨ k ∈ ps.map (·.1) := by
  simp only [List.mem_map, mem_putIn h]
  constructor
  · rintro ⟨q, rfl | ⟨hq, -⟩, rfl⟩
    · exact .inl rfl
    · exact .inr ⟨q, hq, rfl⟩
  · rintro (rfl | ⟨q, hq, rfl⟩)
    · exact ⟨(k, r), .inl rfl, rfl⟩
    · by_cases hk : q.1 = key
      · exact ⟨(key, r), .inl rfl, hk.symm⟩
      · exact ⟨q, .inr ⟨hq, hk⟩, rfl⟩

/-- A shelf without one key. -/
theorem mem_keys_of_filter (h : s'.shelf = s.shelf.filter (·.1 != key)) : k ∈ s'.keys ↔ k ∈ s.keys ∧ k ≠ key := by
  simp only [mem_keys, h, List.mem_filter, bne_iff_ne, ne_eq]
  constructor
  · rintro ⟨q, ⟨hq, hne⟩, rfl⟩
    exact ⟨⟨q, hq, rfl⟩, hne⟩
  · rintro ⟨⟨q, hq, rfl⟩, hne⟩
    exact ⟨q, ⟨hq, hne⟩, rfl⟩

/-- A record that is put under a new key is one more. -/
theorem length_putIn (h : Ascending ps) :
    (putIn key r ps).length = if key ∈ ps.map (·.1) then ps.length else ps.length + 1 := by
  have hn : ((putIn key r ps).map (·.1)).Nodup := (ascending_putIn h).nodup_keys
  split
  · rename_i hk
    have hp : ((putIn key r ps).map (·.1)).Perm (ps.map (·.1)) := by
      refine (List.perm_ext_iff_of_nodup hn h.nodup_keys).2 fun k => ?_
      rw [mem_keys_putIn h]
      exact or_iff_right_of_imp fun hkk => hkk ▸ hk
    simpa using hp.length_eq
  · rename_i hk
    have hp : ((putIn key r ps).map (·.1)).Perm (key :: ps.map (·.1)) := by
      refine (List.perm_ext_iff_of_nodup hn (List.nodup_cons.2 ⟨hk, h.nodup_keys⟩)).2 fun k => ?_
      rw [mem_keys_putIn h, List.mem_cons]
    simpa using hp.length_eq

/-- The store grows by one exactly when the key was free. -/
theorem length_put (h : Ascending s.shelf) (r : Record) :
    (s.put r).1.shelf.length = if s.keyFor r ∈ s.keys then s.shelf.length else s.shelf.length + 1 := by
  rw [shelf_put]
  exact length_putIn h

/-! ## Operations -/

/-- What can be done to a store. -/
inductive Operation where
  | save (r : Record)
  | delete (key : Key)
  | failNext (count : Nat)
  | setOffline (offline : Bool)

/-- A save reaches the store, and is carried out at once if it does not fail. -/
def saveNow (s : Store) (r : Record) : Store × Except Failure Key :=
  match s.receive (.save r) with
  | (s, some f) => (s, .error f)
  | (s, none) => s.save r

/-- A delete reaches the store, and is carried out at once if it does not fail. -/
def deleteNow (s : Store) (key : Key) : Store × Except Failure Unit :=
  match s.receive (.delete key) with
  | (s, some f) => (s, .error f)
  | (s, none) => s.delete key

def perform (s : Store) : Operation → Store
  | .save r => (s.saveNow r).1
  | .delete key => (s.deleteNow key).1
  | .failNext count => s.failNext count
  | .setOffline offline => s.setOffline offline

def after (s : Store) (os : List Operation) : Store := os.foldl perform s

theorem after_concat (s : Store) (os : List Operation) (o : Operation) :
    s.after (os ++ [o]) = (s.after os).perform o := List.foldl_append

/-- A save that succeeds puts the record on the shelf, under its own key or the one that is made up next. -/
structure Saves (s : Store) (r : Record) (key : Key) (s' : Store) : Prop where
  key_eq : key = s.keyFor r
  shelf : s'.shelf = putIn key (r.canonical.withKey key) s.shelf
  lastKey : s'.lastKey = if r.key = none then s.lastKey + 1 else s.lastKey

/-- A save adds its key and removes none. -/
theorem mem_keys_of_saves (h : s.Saves r key s') (ha : Ascending s.shelf) : k ∈ s'.keys ↔ k = key ∨ k ∈ s.keys := by
  rw [keys, h.shelf]
  exact mem_keys_putIn ha

/-- A save that fails changes no record, and one that succeeds puts its record on the shelf. -/
theorem saves_or_kept (s : Store) (r : Record) :
    (∃ key, (s.saveNow r).2 = .ok key ∧ s.Saves r key (s.saveNow r).1) ∨
      (∃ f, (s.saveNow r).2 = .error f) ∧ (s.saveNow r).1.shelf = s.shelf ∧ (s.saveNow r).1.lastKey = s.lastKey := by
  have hshelf := shelf_receive s (.save r)
  have hlast := lastKey_receive s (.save r)
  unfold saveNow
  split
  · rename_i t f ht
    rw [ht] at hshelf hlast
    exact .inr ⟨⟨f, rfl⟩, hshelf, hlast⟩
  · rename_i t ht
    rw [ht] at hshelf hlast
    have hkey : t.keyFor r.canonical = s.keyFor r := by
      show r.key.getD _ = r.key.getD _
      rw [hlast]
    refine .inl ⟨t.keyFor r.canonical, congrArg Except.ok (put_snd t r.canonical), hkey, ?_, ?_⟩
    · show (t.put r.canonical).1.shelf = _
      rw [shelf_put, hshelf]
    · show (t.put r.canonical).1.lastKey = _
      rw [lastKey_put, hlast]
      rfl

/-- A save that is answered with a key has done what `Saves` says. -/
theorem saves_of_saveNow (h : (s.saveNow r).2 = .ok key) : s.Saves r key (s.saveNow r).1 := by
  rcases saves_or_kept s r with ⟨k, hk, hs⟩ | ⟨⟨f, hf⟩, -⟩
  · cases hk.symm.trans h
    exact hs
  · exact absurd (hf.symm.trans h) nofun

/-- A delete that fails changes no record, and one that succeeds takes the record of the key off the shelf. -/
theorem deletes_or_kept (s : Store) (key : Key) :
    (s.deleteNow key).1.lastKey = s.lastKey ∧
      ((s.deleteNow key).2 = .ok () ∧ (s.deleteNow key).1.shelf = s.shelf.filter (·.1 != key) ∨
        (∃ f, (s.deleteNow key).2 = .error f) ∧ (s.deleteNow key).1.shelf = s.shelf) := by
  have hshelf := shelf_receive s (.delete key)
  have hlast := lastKey_receive s (.delete key)
  unfold deleteNow
  split
  · rename_i t f ht
    rw [ht] at hshelf hlast
    exact ⟨hlast, .inr ⟨⟨f, rfl⟩, hshelf⟩⟩
  · rename_i t ht
    rw [ht] at hshelf hlast
    unfold delete
    split
    · exact ⟨hlast, .inl ⟨rfl, congrArg (List.filter _) hshelf⟩⟩
    · exact ⟨hlast, .inr ⟨⟨_, rfl⟩, hshelf⟩⟩

/-- The operation is a save that succeeds, of a record that has the key. -/
def Brings (s : Store) (key : Key) (o : Operation) : Prop :=
  ∃ r, o = .save r ∧ r.key = some key ∧ (s.saveNow r).2 = .ok key

/-- The operation is a delete of the key that succeeds. -/
def Takes (s : Store) (key : Key) (o : Operation) : Prop := o = .delete key ∧ (s.deleteNow key).2 = .ok ()

/-- What an operation does to the shelf: a save that succeeds, a delete that succeeds, or nothing. -/
inductive Performed (s : Store) : Operation → Store → Prop
  | saved {r : Record} {key : Key} {s' : Store} (hs : (s.saveNow r).2 = .ok key) (h : s.Saves r key s') :
      Performed s (.save r) s'
  | deleted {key : Key} {s' : Store} (hs : (s.deleteNow key).2 = .ok ()) (shelf : s'.shelf = s.shelf.filter (·.1 != key))
      (lastKey : s'.lastKey = s.lastKey) : Performed s (.delete key) s'
  | idle {o : Operation} {s' : Store} (hb : ∀ key, ¬s.Brings key o) (ht : ∀ key, ¬s.Takes key o)
      (shelf : s'.shelf = s.shelf) (lastKey : s'.lastKey = s.lastKey) : Performed s o s'

/-- Every operation does what is said of its kind. -/
theorem performed_perform (s : Store) (o : Operation) : s.Performed o (s.perform o) := by
  cases o with
  | save r =>
    rcases saves_or_kept s r with ⟨key, hk, hs⟩ | ⟨⟨f, hf⟩, hshelf, hlast⟩
    · exact .saved hk hs
    · refine .idle ?_ (fun _ h => nomatch h.1) hshelf hlast
      rintro key ⟨q, hq, -, hs⟩
      cases hq
      exact absurd (hf.symm.trans hs) nofun
  | delete key =>
    obtain ⟨hlast, ⟨hs, hshelf⟩ | ⟨⟨f, hf⟩, hshelf⟩⟩ := deletes_or_kept s key
    · exact .deleted hs hshelf hlast
    · refine .idle (fun _ ⟨_, h, _⟩ => nomatch h) ?_ hshelf hlast
      rintro k ⟨hq, hs⟩
      cases hq
      exact absurd (hf.symm.trans hs) nofun
  | failNext count => exact .idle (fun _ ⟨_, h, _⟩ => nomatch h) (fun _ h => nomatch h.1) rfl rfl
  | setOffline offline => exact .idle (fun _ ⟨_, h, _⟩ => nomatch h) (fun _ h => nomatch h.1) rfl rfl

end AckDesk.Backend.Store
