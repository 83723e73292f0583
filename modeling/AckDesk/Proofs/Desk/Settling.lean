import AckDesk.Proofs.Desk.Outcomes
import AckDesk.Proofs.Modal

/-!
# Settlements, entry by entry

A settlement deals with one entry, and with the open editor. `Settlement.onEntry` says what becomes of an entry of the
list, `Settlement.onEditor` what becomes of the open editor, and `Settlement.change` what is said about it. They look at
the desk in one point only, the number that a saved card gets.

The list after a settlement is the list before it with every entry replaced by what becomes of it (`Settled.entries_eq`),
and the region shows what becomes of the editor (`Settled.editor_eq`). Of the rest of the desk, only the notices and the
number that was given last may change (`settle_eq`).
-/

namespace AckDesk

namespace Settlement

/-- The settlement is the success of a save, so that a new number is given. -/
def isSaved : Settlement → Bool
  | .save _ _ _ (.ok _) => true
  | _ => false

/-- What stands in the place of the entry that the call was for, where `n` is the next number. -/
def outcome (n : EntryId) (e : Entry) : Settlement → Option Entry
  | .save _ _ r (.ok key) => some ⟨n, r.withKey key, .clean, true⟩
  | .save _ _ _ (.error _) => if e.record.isDraft then none else some { e with state := .clean }
  | .delete _ _ (.ok _) => none
  | .delete _ _ (.error _) => some { e with state := .clean }

/-- What becomes of an entry of the list. -/
def onEntry (s : Settlement) (n : EntryId) (e : Entry) : Option Entry :=
  if e.id = s.call.entry then s.outcome n e else some e

/-- The settlement closes the editor: the editor sent the save, or its entry was deleted. -/
def closes (ed : Editor) : Settlement → Bool
  | .save _ t _ _ => ed.session == t
  | .delete i _ (.ok _) => ed.entry == i
  | .delete _ _ (.error _) => false

/-- The editor on what stands in the place of its entry. -/
def turn (n : EntryId) (ed : Editor) : Settlement → Editor
  | .save i _ _ (.ok key) => if ed.entry = i then ed.retarget n key else ed
  | _ => ed

/-- What becomes of the open editor. -/
def onEditor (s : Settlement) (n : EntryId) (ed : Editor) : Option Editor :=
  if s.closes ed then none else some (s.turn n ed)

/-- How the list is said to change, where `e` is the entry that the call was for. -/
def change (n : EntryId) (e : Entry) : Settlement → Change
  | .save i _ _ (.ok key) => if e.record.isDraft then .inserted n key else .replaced i n key
  | .save i _ _ (.error f) => if e.record.isDraft then .discarded i f.message else .reverted i f.message
  | .delete i key (.ok _) => .removed i key
  | .delete i _ (.error f) => .reverted i f.message

theorem onEntry_of_ne {s : Settlement} {n : EntryId} {e : Entry} (h : e.id ≠ s.call.entry) :
    s.onEntry n e = some e := by
  simp [onEntry, h]

theorem turn_of_ne {s : Settlement} {n : EntryId} {ed : Editor} (h : ed.entry ≠ s.call.entry) :
    s.turn n ed = ed := by
  unfold turn
  split
  · exact if_neg h
  · rfl

/-- Turning an editor leaves all but its entry and its key. -/
theorem turn_eq (s : Settlement) (n : EntryId) (ed : Editor) :
    ∃ i key, s.turn n ed = { ed with entry := i, key := key } ∧ (i = ed.entry ∨ ed.entry = s.call.entry ∧ i = n) := by
  unfold turn
  split
  · rename_i i t r key
    by_cases h : ed.entry = i
    · exact ⟨n, some key, by simp [h, Editor.retarget], .inr ⟨h, rfl⟩⟩
    · exact ⟨ed.entry, ed.key, by simp [h], .inl rfl⟩
  · exact ⟨ed.entry, ed.key, rfl, .inl rfl⟩

/-- An editor that stays open is the same opening. -/
theorem session_of_onEditor {s : Settlement} {n : EntryId} {ed d : Editor} (h : s.onEditor n ed = some d) :
    d.session = ed.session := by
  unfold onEditor at h
  split at h
  · cases h
  · obtain ⟨i, key, hturn, -⟩ := s.turn_eq n ed
    rw [← Option.some.inj h, hturn]

end Settlement

namespace Desk

variable {k k' : Desk} {s : Settlement} {ch : Change}

/-! ## What changes -/

/-- A modification in place, entry by entry. -/
theorem entries_modifyEntry_eq_filterMap {i : EntryId} {f : Entry → Entry} {g : Entry → Option Entry}
    (h : ∀ e ∈ k.entries, g e = some (if e.id = i then f e else e)) :
    (k.modifyEntry i f).entries = k.entries.filterMap g := by
  have hmap : (k.modifyEntry i f).entries = k.entries.filterMap fun e => some (if e.id = i then f e else e) := by
    rw [List.filterMap_eq_map']
    rfl
  rw [hmap]
  exact (List.filterMap_congr h).symm

/-- A removal, entry by entry. -/
theorem entries_removeEntry_eq_filterMap {i : EntryId} {g : Entry → Option Entry}
    (h : ∀ e ∈ k.entries, g e = if e.id = i then none else some e) :
    (k.removeEntry i).entries = k.entries.filterMap g := by
  have hfilter : (k.removeEntry i).entries = k.entries.filterMap (Option.guard fun e => e.id != i) :=
    (congrFun List.filterMap_eq_filter _).symm
  rw [hfilter]
  refine List.filterMap_congr fun e he => ?_
  rw [h e he]
  by_cases hi : e.id = i <;> simp [hi]

/-- The list after a settlement, entry by entry. -/
theorem Settled.entries_eq (hs : Settled k s k' ch) (hn : k.ids.Nodup) :
    k'.entries = k.entries.filterMap (s.onEntry k.nextId) := by
  cases hs with
  | @saved i t r key e k' he hk =>
    rw [hk.entries]
    refine entries_modifyEntry_eq_filterMap fun x _ => ?_
    by_cases hi : x.id = i <;> simp [Settlement.onEntry, Settlement.outcome, Settlement.call, Call.entry, hi]
  | @discarded i t r f e k' he hkey hk =>
    rw [hk.entries]
    refine entries_removeEntry_eq_filterMap fun x hx => ?_
    by_cases hi : x.id = i
    · obtain rfl := eq_of_lookup hn he hx hi
      simp [Settlement.onEntry, Settlement.outcome, Settlement.call, Call.entry, hi, Record.isDraft, hkey]
    · simp [Settlement.onEntry, Settlement.call, Call.entry, hi]
  | @reverted i t r f e k' he hkey hk =>
    rw [hk.entries]
    refine entries_modifyEntry_eq_filterMap fun x hx => ?_
    by_cases hi : x.id = i
    · obtain rfl := eq_of_lookup hn he hx hi
      simp [Settlement.onEntry, Settlement.outcome, Settlement.call, Call.entry, hi, Record.isDraft, hkey]
    · simp [Settlement.onEntry, Settlement.call, Call.entry, hi]
  | @removed i key e k' he hk =>
    rw [hk.entries]
    refine entries_removeEntry_eq_filterMap fun x _ => ?_
    by_cases hi : x.id = i <;> simp [Settlement.onEntry, Settlement.outcome, Settlement.call, Call.entry, hi]
  | @restored i key f e k' he hk =>
    rw [hk.entries]
    refine entries_modifyEntry_eq_filterMap fun x _ => ?_
    by_cases hi : x.id = i <;> simp [Settlement.onEntry, Settlement.outcome, Settlement.call, Call.entry, hi]

/-- The open editor after a settlement. -/
theorem Settled.editor_eq (hs : Settled k s k' ch) :
    k'.modal.editor = k.modal.editor.bind (s.onEditor k.nextId) := by
  cases hs with
  | @saved i t r key e k' _ hk =>
    rw [hk.modal]
    show ((k.modal.modifyEditor fun ed => if ed.entry = i then ed.retarget k.nextId key else ed).closeIfShowing t).editor
      = _
    rw [Modal.editor_closeIfShowing_eq, Modal.editor_modifyEditor]
    cases k.modal.editor with
    | none => rfl
    | some ed =>
      have hsession : (if ed.entry = i then ed.retarget k.nextId key else ed).session = ed.session := by split <;> rfl
      simp [Settlement.onEditor, Settlement.closes, Settlement.turn, hsession]
  | discarded _ _ hk =>
    rw [hk.modal, Modal.editor_closeIfShowing_eq]
    cases k.modal.editor <;> simp [Settlement.onEditor, Settlement.closes, Settlement.turn]
  | reverted _ _ hk =>
    rw [hk.modal, Modal.editor_closeIfShowing_eq]
    cases k.modal.editor <;> simp [Settlement.onEditor, Settlement.closes, Settlement.turn]
  | removed _ hk =>
    rw [hk.modal, Modal.editor_closeIfOn_eq]
    cases k.modal.editor <;> simp [Settlement.onEditor, Settlement.closes, Settlement.turn]
  | restored _ hk =>
    rw [hk.modal]
    cases k.modal.editor <;> simp [Settlement.onEditor, Settlement.closes, Settlement.turn]

theorem Settled.lastId_eq (hs : Settled k s k' ch) : k'.lastId = k.lastId + (if s.isSaved then 1 else 0) := by
  cases hs with
  | saved _ hk => exact hk.lastId
  | discarded _ _ hk => exact hk.lastId
  | reverted _ _ hk => exact hk.lastId
  | removed _ hk => exact hk.lastId
  | restored _ hk => exact hk.lastId

/-- What is said about the change of the list. -/
theorem Settled.change_eq (hs : Settled k s k' ch) {e : Entry} (he : k.entry? s.call.entry = some e) :
    ch = s.change k.nextId e := by
  cases hs with
  | saved hd _ => cases he.symm.trans hd; rfl
  | discarded hd hk _ => cases he.symm.trans hd; simp [Settlement.change, Record.isDraft, hk]
  | reverted hd hk _ => cases he.symm.trans hd; simp [Settlement.change, Record.isDraft, hk]
  | removed hd _ => rfl
  | restored hd _ => rfl

/-! ## What stays -/

theorem report_eq (k : Desk) (kind : NoticeKind) (testName : String) (f : Backend.Failure) :
    ∃ q, k.report kind testName f = { k with notices := { k.notices with queue := q } } := by
  unfold report
  split
  · exact ⟨k.notices.queue, rfl⟩
  · exact ⟨_, rfl⟩

/-- A settlement changes the list, the region, the queue of notices and the number that was given last, and nothing
else. -/
theorem settle_eq (k : Desk) (s : Settlement) :
    ∃ es m q n, (k.settle s).1 =
      { k with entries := es, modal := m, notices := { k.notices with queue := q }, lastId := n } := by
  cases s with
  | save i t r result =>
    cases he : k.entry? i with
    | none => exact ⟨_, _, k.notices.queue, _, by simp only [settle, settleSave, he]; rfl⟩
    | some e =>
      cases result with
      | ok key => exact ⟨_, _, k.notices.queue, _, by simp only [settle, settleSave, he]; rfl⟩
      | error f =>
        obtain ⟨q, hq⟩ := k.report_eq .saveFailed r.testName f
        cases hd : e.record.isDraft with
        | true => exact ⟨_, _, q, _, by simp only [settle, settleSave, he, hq, hd]; rfl⟩
        | false => exact ⟨_, _, q, _, by simp only [settle, settleSave, he, hq, hd]; rfl⟩
  | delete i key result =>
    cases he : k.entry? i with
    | none => exact ⟨k.entries, k.modal, k.notices.queue, k.lastId, by simp only [settle, settleDelete, he]⟩
    | some e =>
      cases result with
      | ok _ => exact ⟨_, _, k.notices.queue, _, by simp only [settle, settleDelete, he]; rfl⟩
      | error f =>
        obtain ⟨q, hq⟩ := k.report_eq .deleteFailed e.record.testName f
        exact ⟨_, _, q, _, by simp only [settle, settleDelete, he, hq]; rfl⟩

@[simp] theorem access_settle (k : Desk) (s : Settlement) : (k.settle s).1.access = k.access := by
  obtain ⟨es, m, q, n, hk⟩ := k.settle_eq s
  rw [hk]

@[simp] theorem options_settle (k : Desk) (s : Settlement) : (k.settle s).1.options = k.options := by
  obtain ⟨es, m, q, n, hk⟩ := k.settle_eq s
  rw [hk]

@[simp] theorem search_settle (k : Desk) (s : Settlement) : (k.settle s).1.search = k.search := by
  obtain ⟨es, m, q, n, hk⟩ := k.settle_eq s
  rw [hk]

@[simp] theorem capacity_settle (k : Desk) (s : Settlement) :
    (k.settle s).1.notices.capacity = k.notices.capacity := by
  obtain ⟨es, m, q, n, hk⟩ := k.settle_eq s
  rw [hk]

end Desk

end AckDesk
