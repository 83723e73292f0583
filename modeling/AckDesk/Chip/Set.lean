import AckDesk.Chip.Box
import AckDesk.Scope

/-!
# Chip sets

The values of one dimension while they are edited: distinct, in the order in which they were entered, with a text
box for more. A stored value is taken as it is; a typed one is trimmed, and refused if that leaves nothing or a
value that is there already. An empty set stands for all values of the dimension.
-/

namespace AckDesk

/-- Distinct values in the order of entry, and the text box for more. -/
structure ChipSet where
  values : List String
  box : ChipBox
  nodup : values.Nodup

namespace ChipSet

/-- No value, and an untouched text box. -/
def empty : ChipSet := ⟨[], {}, List.nodup_nil⟩

/-- Appends a value unless it is there already. -/
def insert (s : ChipSet) (v : String) : ChipSet :=
  if h : v ∈ s.values then s
  else { s with
    values := s.values ++ [v]
    nodup := by
      rw [List.nodup_append]
      refine ⟨s.nodup, by simp, fun a ha b hb => ?_⟩
      obtain rfl := List.mem_singleton.1 hb
      exact fun he => h (he ▸ ha) }

/-- The first occurrence of each stored value. -/
def ofStored (vs : List String) : ChipSet := vs.foldl insert empty

/-- The set with a typed value, or nothing if the value is blank or there already. -/
def add? (s : ChipSet) (text : String) : Option ChipSet :=
  let v := Text.trim text
  if v = "" ∨ v ∈ s.values then none else some (s.insert v)

/-- The set without a value, or nothing if the value is not there. -/
def remove? (s : ChipSet) (v : String) : Option ChipSet :=
  if v ∈ s.values then some { s with values := s.values.erase v, nodup := s.nodup.erase v } else none

/-- The values in ascending order, as they are sent. -/
def sorted (s : ChipSet) : List String := ascending s.values

/-- The set after an event at its text box, and whether a value was added. -/
def feed (s : ChipSet) (e : BoxEvent) : ChipSet × Bool :=
  let (box, committed) := s.box.step e
  let s := { s with box }
  match committed.bind s.add? with
  | some t => (t, true)
  | none => (s, false)

/-- A value that is there is not added again. -/
@[simp] theorem values_insert_of_mem {s : ChipSet} {v : String} (h : v ∈ s.values) : s.insert v = s := by
  simp [insert, h]

/-- A new value goes to the end, so that chips stay in the order in which they were added. -/
theorem values_insert_of_not_mem {s : ChipSet} {v : String} (h : v ∉ s.values) :
    (s.insert v).values = s.values ++ [v] := by
  simp [insert, h]

theorem box_insert (s : ChipSet) (v : String) : (s.insert v).box = s.box := by
  by_cases h : v ∈ s.values <;> simp [insert, h]

/-- Adding a value adds no other. -/
theorem mem_insert {s : ChipSet} {v w : String} : w ∈ (s.insert v).values ↔ w ∈ s.values ∨ w = v := by
  by_cases h : v ∈ s.values
  · rw [values_insert_of_mem h]
    exact ⟨.inl, fun h' => h'.elim id (· ▸ h)⟩
  · simp [values_insert_of_not_mem h]

/-- The chips of a stored list are its values. -/
theorem mem_ofStored {vs : List String} {w : String} : w ∈ (ofStored vs).values ↔ w ∈ vs := by
  have go : ∀ s : ChipSet, w ∈ (vs.foldl insert s).values ↔ w ∈ s.values ∨ w ∈ vs := by
    induction vs with
    | nil => simp
    | cons v vs ih =>
      intro s
      rw [List.foldl_cons, ih, mem_insert, List.mem_cons, or_assoc]
  exact (go empty).trans (by simp [empty])

/-- What a chip set stores ascends strictly. -/
theorem pairwise_sorted (s : ChipSet) : s.sorted.Pairwise (· < ·) := by
  have hn : s.sorted.Nodup := (List.mergeSort_perm s.values _).nodup_iff.2 s.nodup
  refine ((pairwise_ascending s.values).and hn).imp fun {a b} h => ?_
  exact String.not_le.1 fun hba => h.2 (String.le_antisymm h.1 hba)

/-- What a chip set stores are its chips. -/
theorem mem_sorted {s : ChipSet} {v : String} : v ∈ s.sorted ↔ v ∈ s.values := mem_ascending

end ChipSet

end AckDesk
