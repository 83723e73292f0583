import AckDesk.Proofs.Desk.Settling
import Mathlib.Logic.Equiv.Basic

/-!
# Desks that differ in new numbers

Which number an entry gets depends on what was settled before. A **renumbering above `n`** gives new numbers to the
entries, leaves the numbers up to `n` as they are and keeps different numbers different. `Renumbered` says that one desk
is the other with other numbers, and `Alike` says what this comes to for a reader of the two desks: the same cards in
the same order, the same editor on a card at the same place, and different numbers only where both are above `n`
(`Renumbered.alike`).
-/

namespace AckDesk

/-- New numbers for the entries, which leave the numbers up to `n` as they are. -/
structure Renumbering (n : Nat) where
  toFun : EntryId → EntryId
  injective : toFun.Injective
  fixes : ∀ i, i.number ≤ n → toFun i = i

instance (n : Nat) : CoeFun (Renumbering n) fun _ => EntryId → EntryId := ⟨Renumbering.toFun⟩

/-- The two numbers are the same, or both are new. -/
def EntryId.Alike (n : Nat) (i j : EntryId) : Prop := i = j ∨ n < i.number ∧ n < j.number

namespace Renumbering

variable {n : Nat}

def refl (n : Nat) : Renumbering n := ⟨id, Function.injective_id, fun _ _ => rfl⟩

def swap {i j : EntryId} (hi : n < i.number) (hj : n < j.number) : Renumbering n where
  toFun := Equiv.swap i j
  injective := (Equiv.swap i j).injective
  fixes := by
    intro l hl
    refine Equiv.swap_apply_of_ne_of_ne ?_ ?_
    · rintro rfl
      exact Nat.not_lt.2 hl hi
    · rintro rfl
      exact Nat.not_lt.2 hl hj

/-- A new number stays new. -/
theorem alike (φ : Renumbering n) (i : EntryId) : i.Alike n (φ i) := by
  rcases Nat.lt_or_ge n i.number with hi | hi
  · rcases Nat.lt_or_ge n (φ i).number with hφ | hφ
    · exact .inr ⟨hi, hφ⟩
    · exact .inl (φ.injective (φ.fixes _ hφ)).symm
  · exact .inl (φ.fixes i hi).symm

end Renumbering

/-- The entry under another number. -/
def Entry.renumber (φ : EntryId → EntryId) (e : Entry) : Entry := { e with id := φ e.id }

/-- The editor on the same entry, which has another number. -/
def Editor.renumber (φ : EntryId → EntryId) (ed : Editor) : Editor := { ed with entry := φ ed.entry }

/-- Two entries with the same record, state and visibility. -/
structure Entry.Alike (n : Nat) (e e' : Entry) : Prop where
  id : e.id.Alike n e'.id
  record : e'.record = e.record
  state : e'.state = e.state
  visible : e'.visible = e.visible

/-- Two editors with the same contents. -/
structure Editor.Alike (n : Nat) (ed ed' : Editor) : Prop where
  entry : ed.entry.Alike n ed'.entry
  session : ed'.session = ed.session
  key : ed'.key = ed.key
  testName : ed'.testName = ed.testName
  chips : ed'.chips = ed.chips
  note : ed'.note = ed.note
  saving : ed'.saving = ed.saving

/-- Two changes of the same kind, with the same key and the same reason. -/
inductive Change.Alike (n : Nat) : Change → Change → Prop
  | inserted {i j : EntryId} (h : i.Alike n j) (key : Key) : Alike n (.inserted i key) (.inserted j key)
  | replaced (old : EntryId) {i j : EntryId} (h : i.Alike n j) (key : Key) :
      Alike n (.replaced old i key) (.replaced old j key)
  | same (c : Change) : Alike n c c

namespace Desk

variable {n : Nat} {k k' : Desk}

/-- Two desks that a reader can tell apart only by new numbers and by the notices that are up. -/
structure Alike (n : Nat) (k k' : Desk) : Prop where
  access : k'.access = k.access
  options : k'.options = k.options
  search : k'.search = k.search
  capacity : k'.notices.capacity = k.notices.capacity
  lastId : k'.lastId = k.lastId
  lastSession : k'.modal.lastSession = k.modal.lastSession
  entries : List.Forall₂ (Entry.Alike n) k.entries k'.entries
  isOpen : k'.modal.isOpen = k.modal.isOpen
  editor : ∀ ed ed', k.modal.editor = some ed → k'.modal.editor = some ed' → ed.Alike n ed'
  /-- The editors are on the entry at the same place, or both on none. -/
  place : ∀ ed ed', k.modal.editor = some ed → k'.modal.editor = some ed' →
    ∀ j : Nat, k.ids[j]? = some ed.entry ↔ k'.ids[j]? = some ed'.entry

/-- The second desk is the first with new numbers and other notices. -/
structure Renumbered (φ : EntryId → EntryId) (k k' : Desk) : Prop where
  access : k'.access = k.access
  options : k'.options = k.options
  search : k'.search = k.search
  capacity : k'.notices.capacity = k.notices.capacity
  lastId : k'.lastId = k.lastId
  lastSession : k'.modal.lastSession = k.modal.lastSession
  entries : k'.entries = k.entries.map (·.renumber φ)
  editor : k'.modal.editor = k.modal.editor.map (·.renumber φ)

theorem Renumbered.ids {φ : EntryId → EntryId} (h : Renumbered φ k k') : k'.ids = k.ids.map φ := by
  unfold Desk.ids
  rw [h.entries, List.map_map, List.map_map]
  rfl

/-- Desks that differ by a renumbering are alike. -/
theorem Renumbered.alike {φ : Renumbering n} (h : Renumbered φ k k') : Alike n k k' where
  access := h.access
  options := h.options
  search := h.search
  capacity := h.capacity
  lastId := h.lastId
  lastSession := h.lastSession
  entries := by
    rw [h.entries, List.forall₂_map_right_iff, List.forall₂_same]
    exact fun e _ => ⟨φ.alike e.id, rfl, rfl, rfl⟩
  isOpen := by
    unfold Modal.isOpen
    rw [h.editor, Option.isSome_map]
  editor := by
    intro ed ed' hed hed'
    rw [h.editor, hed] at hed'
    obtain rfl := Option.some.inj hed'
    exact ⟨φ.alike ed.entry, rfl, rfl, rfl, rfl, rfl, rfl⟩
  place := by
    intro ed ed' hed hed' j
    rw [h.editor, hed] at hed'
    obtain rfl := Option.some.inj hed'
    rw [h.ids, List.getElem?_map]
    exact (Option.map_injective φ.injective).eq_iff.symm

end Desk

/-! ## Numbers that a settlement gives -/

namespace Settlement

variable {n : Nat}

/-- The numbers that two settlements give change places, if both give one. -/
def exchange (n : Nat) (s t : Settlement) : Renumbering n :=
  if s.isSaved ∧ t.isSaved then
    .swap (show n < (EntryId.mk (n + 1)).number from Nat.lt_add_one n)
      (show n < (EntryId.mk (n + 2)).number from Nat.lt_add_of_pos_right Nat.two_pos)
  else .refl n

/-- What stands in the place of the entry, when the settlement gives another number. -/
theorem map_outcome {s : Settlement} {φ : EntryId → EntryId} {a b : EntryId} (hs : s.isSaved = true → φ a = b)
    {e : Entry} (he : φ e.id = e.id) : (s.outcome a e).map (·.renumber φ) = s.outcome b e := by
  have hrest : ({ e with state := .clean } : Entry).renumber φ = { e with state := .clean } := by
    unfold Entry.renumber
    rw [he]
  unfold outcome
  split
  · rw [Option.map_some, Entry.renumber, hs rfl]
  · split
    · rfl
    · rw [Option.map_some, hrest]
  · rfl
  · rw [Option.map_some, hrest]

/-- The editor on what stands in the place of its entry, when the settlement gives another number. -/
theorem renumber_turn {s : Settlement} {φ : EntryId → EntryId} {a b : EntryId} (hs : s.isSaved = true → φ a = b)
    {ed : Editor} (hed : φ ed.entry = ed.entry) : (s.turn a ed).renumber φ = s.turn b ed := by
  have hrest : ed.renumber φ = ed := by
    unfold Editor.renumber
    rw [hed]
  unfold turn
  split
  · split
    · unfold Editor.renumber Editor.retarget
      rw [← hs rfl]
    · exact hrest
  · exact hrest

/-- What is said about the change, when the settlement gives another number. -/
theorem change_alike (s : Settlement) {a b : EntryId} (h : a.Alike n b) (e : Entry) :
    (s.change a e).Alike n (s.change b e) := by
  unfold change
  split
  · split
    · exact .inserted h _
    · exact .replaced _ h _
  · exact .same _
  · exact .same _
  · exact .same _

end Settlement

end AckDesk
