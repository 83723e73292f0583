import AckDesk.Proofs.Flight.Lifecycle

/-!
# The slot of a card

A card that is saved gets a new number, and the editor is turned to it. The **slot** of an entry is the entry with all
that replaces it: `follow` says which number it has after a run, and `savesOf` which of its saves succeeded.

* The open editor saves under the key and the test name that its card shows, so a slot keeps its test name, and a save
  without a key, which creates a record, is sent only for a slot of which no save succeeded (`tracks_run`).
* So one draft creates one record at most, and a save always goes to the record that its card shows (`faithful_run`).
-/

namespace AckDesk

/-- A call to save is asked for by the open editor, for its entry. -/
theorem Desk.Handled.eq_save {k k' : Desk} {ev : Event} {i : EntryId} {s : Session} {r : Record}
    (hh : k.Handled ev k' (some (.save i s r))) :
    ∃ ed e, k.modal.editor = some ed ∧ k.entry? ed.entry = some e ∧ i = ed.entry ∧ s = ed.session ∧ r = ed.request := by
  generalize hc : some (Call.save i s r) = c at hh
  cases hh with
  | @saved ed e k' hed he _ _ =>
    cases hc
    exact ⟨ed, e, hed, he, rfl, rfl, rfl⟩
  | aside => cases hc
  | edited => cases hc
  | opened => cases hc
  | added => cases hc
  | closed => cases hc
  | dropped => cases hc
  | deleted => cases hc

namespace Flight

variable {f g : Flight} {m : Move} {x : Entry} {i : EntryId} {ps : List (Record × Key)}

/-- What was sent, and the key that came back, if the move is the success of a save in flight for the entry. -/
def saved? (f : Flight) (i : EntryId) : Move → Option (Record × Key)
  | .settle (.save j t r (.ok key)) => if j = i ∧ .save j t r ∈ f.calls then some (r, key) else none
  | _ => none

theorem saved?_eq_some {r : Record} {key : Key} : f.saved? i m = some (r, key) ↔
    ∃ t, m = .settle (.save i t r (.ok key)) ∧ .save i t r ∈ f.calls := by
  constructor
  · intro h
    unfold saved? at h
    split at h
    · rename_i j t q key'
      split at h
      · rename_i hj
        obtain ⟨rfl, hc⟩ := hj
        cases h
        exact ⟨t, rfl, hc⟩
      · cases h
    · cases h
  · rintro ⟨t, rfl, hc⟩
    simp [saved?, hc]

/-- The number after a move of what has the number `i` before. -/
def heir (f : Flight) (i : EntryId) (m : Move) : EntryId := if (f.saved? i m).isSome then f.desk.nextId else i

/-- The number after a run of what has the number `i` before. -/
def follow (f : Flight) (i : EntryId) : List Move → EntryId
  | [] => i
  | m :: ms => (f.step m).follow (f.heir i m) ms

/-- The saves that succeeded in a run, for what has the number `i` before. -/
def savesOf (f : Flight) (i : EntryId) : List Move → List (Record × Key)
  | [] => []
  | m :: ms => (f.saved? i m).toList ++ (f.step m).savesOf (f.heir i m) ms

theorem follow_concat (f : Flight) (i : EntryId) (ms : List Move) (m : Move) :
    f.follow i (ms ++ [m]) = (f.run ms).heir (f.follow i ms) m := by
  induction ms generalizing f i with
  | nil => rfl
  | cons n ms ih => exact ih (f.step n) (f.heir i n)

theorem savesOf_concat (f : Flight) (i : EntryId) (ms : List Move) (m : Move) :
    f.savesOf i (ms ++ [m]) = f.savesOf i ms ++ ((f.run ms).saved? (f.follow i ms) m).toList := by
  induction ms generalizing f i with
  | nil => exact List.append_nil _
  | cons n ms ih =>
    show (f.saved? i n).toList ++ (f.step n).savesOf (f.heir i n) (ms ++ [m]) = _
    rw [ih, ← List.append_assoc]
    rfl

/-- The number `i` has the slot of the entry `x` now, and the saves `ps` of the slot succeeded so far. -/
structure Tracks (x : Entry) (ps : List (Record × Key)) (i : EntryId) (g : Flight) : Prop where
  number_le : i.number ≤ g.desk.lastId
  testName : ∀ e ∈ g.desk.entries, e.id = i → e.record.testName = x.record.testName
  unsaved : ∀ e ∈ g.desk.entries, e.id = i → e.record.key = none → ps = []
  created : ps.countP (·.1.isDraft) ≤ 1

theorem tracks_self (hf : f.Sound) (hx : x ∈ f.desk.entries) : Tracks x [] x.id f where
  number_le := hf.numbered.id_le x hx
  testName := fun e he hi => by rw [Desk.eq_of_id_eq hf.numbered.nodup he hx hi]
  unsaved := fun _ _ _ _ => rfl
  created := Nat.zero_le 1

/-- A move that is no successful save of the slot leaves its entry as it was, if it leaves it. -/
theorem Tracks.step_of_none (h : Tracks x ps i g) (hg : g.Sound) (m : Move) : Tracks x ps i (g.step m) := by
  have old : ∀ e ∈ (g.step m).desk.entries, e.id = i → ∃ d ∈ g.desk.entries, d.id = i ∧ d.record = e.record := by
    intro e he hi
    have hne : i ≠ g.desk.nextId := Desk.ne_nextId_of_le h.number_le
    rcases hg.origin he with ⟨d, hd, hdi, hr, -⟩ | ⟨-, -, rfl⟩ | ⟨-, rfl⟩
    · exact ⟨d, hd, hdi.trans hi, hr⟩
    · exact absurd hi.symm hne
    · exact absurd hi.symm hne
  refine ⟨Nat.le_trans h.number_le (hg.lastId_le_step m), fun e he hi => ?_, fun e he hi hk => ?_, h.created⟩
  · obtain ⟨d, hd, hdi, hr⟩ := old e he hi
    exact hr ▸ h.testName d hd hdi
  · obtain ⟨d, hd, hdi, hr⟩ := old e he hi
    exact h.unsaved d hd hdi (hr ▸ hk)

/-- A save that succeeds puts the slot on a new number, under the key that came back. -/
theorem Tracks.step_of_saved (h : Tracks x ps i g) (hg : g.Sound) {t : Session} {r : Record} {key : Key}
    (hc : .save i t r ∈ g.calls) :
    Tracks x (ps ++ [(r, key)]) g.desk.nextId (g.step (.settle (.save i t r (.ok key)))) := by
  obtain ⟨d, hd, -, hkey, hname⟩ := hg.exists_entry hc
  obtain ⟨hmem, hi⟩ := Desk.mem_of_lookup hd
  have hk := (hg.settled (s := .save i t r (.ok key)) hc).has_saved
  rw [step_settle (s := .save i t r (.ok key)) hc]
  -- the card that came is the only one with the new number
  have new : ∀ e ∈ (g.desk.settle (.save i t r (.ok key))).1.entries, e.id = g.desk.nextId →
      e = ⟨g.desk.nextId, r.withKey key, .clean, true⟩ := by
    intro e he hn
    rw [hk.entries] at he
    rcases Desk.mem_replaceSaved.1 he with ⟨he, -⟩ | ⟨-, he⟩
    · exact absurd hn (hg.numbered.ne_nextId he)
    · exact he
  refine ⟨Nat.le_of_eq hk.lastId.symm, fun e he hn => ?_, fun e he hn hnone => ?_, ?_⟩
  · rw [new e he hn]
    exact hname.trans (h.testName d hmem hi)
  · rw [new e he hn] at hnone
    cases hnone
  · rw [List.countP_append]
    cases hr : r.key with
    | none =>
      rw [h.unsaved d hmem hi (hkey.symm.trans hr), List.countP_nil, Nat.zero_add]
      exact List.countP_le_length
    | some _ =>
      have hone : [(r, key)].countP (·.1.isDraft) = 0 := by simp [Record.isDraft, hr]
      rw [hone]
      exact h.created

/-- A slot is tracked through every run. -/
theorem tracks_run (hf : f.Sound) (hx : x ∈ f.desk.entries) (ns : List Move) :
    Tracks x (f.savesOf x.id ns) (f.follow x.id ns) (f.run ns) := by
  induction ns using List.reverseRecOn with
  | nil => exact tracks_self hf hx
  | append_singleton ns m ih =>
    rw [savesOf_concat, follow_concat, run_concat, heir]
    cases hs : (f.run ns).saved? (f.follow x.id ns) m with
    | none =>
      rw [Option.toList_none, List.append_nil]
      exact ih.step_of_none (hf.run ns) m
    | some q =>
      obtain ⟨t, rfl, hc⟩ := saved?_eq_some.1 hs
      exact ih.step_of_saved (hf.run ns) hc

/-- What is sent for an entry has the key and the test name that the entry shows. -/
theorem Sound.sends (h : f.Sound) {ev : Event} {k : Desk} {s : Session} {r : Record}
    (hh : f.desk.handle ev = .ok (k, some (.save i s r))) :
    ∃ e, f.desk.entry? i = some e ∧ r.key = e.record.key ∧ r.testName = e.record.testName := by
  obtain ⟨ed, e, hed, he, rfl, -, rfl⟩ := (Desk.handled_of_handle hh).eq_save
  obtain ⟨hmem, hi⟩ := Desk.mem_of_lookup he
  exact ⟨e, he, h.coherent ed e hed hmem hi⟩

/-- What becomes of the slot of the entry `x` in the moves `ns`. -/
structure Slot (f : Flight) (x : Entry) (ns : List Move) : Prop where
  /-- Its test name stays. -/
  testName : ∀ e, (f.run ns).desk.entry? (f.follow x.id ns) = some e → e.record.testName = x.record.testName
  /-- A save that creates a record is sent for it only if no save of it succeeded. -/
  creates : ∀ ev k s r, (f.run ns).desk.handle ev = .ok (k, some (.save (f.follow x.id ns) s r)) →
    r.key = none → f.savesOf x.id ns = []
  /-- One save at most created a record. -/
  once : (f.savesOf x.id ns).countP (·.1.isDraft) ≤ 1

/-- Saves go to the records that the cards show. -/
structure Faithful (f : Flight) : Prop where
  /-- The open editor has the key and the test name of its card. -/
  editor : ∀ ed e, f.desk.modal.editor = some ed → f.desk.entry? ed.entry = some e →
    ed.key = e.record.key ∧ ed.testName = e.record.testName
  /-- So has every save that is sent. -/
  sends : ∀ ev k i s r, f.desk.handle ev = .ok (k, some (.save i s r)) →
    ∃ e, f.desk.entry? i = some e ∧ r.key = e.record.key ∧ r.testName = e.record.testName
  /-- A save that succeeds keeps the slot in its place, on a new number. -/
  place : ∀ e t r key above below, .save e.id t r ∈ f.calls → f.desk.entries = above ++ e :: below →
    f.heir e.id (.settle (.save e.id t r (.ok key))) = f.desk.nextId ∧
    (f.step (.settle (.save e.id t r (.ok key)))).desk.entries =
      above ++ ⟨f.desk.nextId, r.withKey key, .clean, true⟩ :: below
  /-- Every slot keeps its test name, and creates one record at most. -/
  slot : ∀ x ∈ f.desk.entries, ∀ ns, f.Slot x ns

/-- What is sound is faithful. -/
theorem Sound.faithful (h : f.Sound) : f.Faithful where
  editor := by
    intro ed e hed he
    obtain ⟨hmem, hi⟩ := Desk.mem_of_lookup he
    exact h.coherent ed e hed hmem hi
  sends := fun _ _ _ _ _ hh => h.sends hh
  place := by
    intro e t r key above below hc hb
    have hs : f.saved? e.id (.settle (.save e.id t r (.ok key))) = some (r, key) := saved?_eq_some.2 ⟨t, rfl, hc⟩
    exact ⟨by simp [heir, hs], h.entries_step_saved hc key hb⟩
  slot := by
    intro x hx ns
    have ht := tracks_run h hx ns
    refine ⟨fun e he => ?_, fun ev k s r hh hk => ?_, ht.created⟩
    · obtain ⟨hmem, hi⟩ := Desk.mem_of_lookup he
      exact ht.testName e hmem hi
    · obtain ⟨e, he, hkey, -⟩ := (h.run ns).sends hh
      obtain ⟨hmem, hi⟩ := Desk.mem_of_lookup he
      exact ht.unsaved e hmem hi (hkey.symm.trans hk)

/-- **Saves**: after every run, a save goes to the record that its card shows. -/
theorem faithful_run (p : Page) (o : Options) (ms : List Move) : ((start p o).run ms).Faithful :=
  (sound_run p o ms).faithful

end Flight

end AckDesk
