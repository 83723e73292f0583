import AckDesk.Editor

/-!
# What an editor sends

The values of a chip set are sent ascending and each once, so an editor sends a record in canonical form, as a backend
would store it (`canonical_request`). An editor that is opened on what another one sent, under a key, holds what that
one held, with ascending values, and sends the same record under the key (`restores_ofRecord`).
-/

namespace AckDesk

namespace ChipSet

/-- The values that a chip set sends are in canonical form. -/
theorem canonicalValues_sorted (s : ChipSet) : canonicalValues s.sorted = s.sorted :=
  eq_of_pairwise_lt (pairwise_canonicalValues _) s.pairwise_sorted fun _ => mem_canonicalValues

/-- Sorting only rearranges the chips. -/
theorem perm_sorted (s : ChipSet) : s.sorted.Perm s.values := List.mergeSort_perm ..

/-- Distinct values are taken from store as they are. -/
theorem values_ofStored {vs : List String} (h : vs.Nodup) : (ofStored vs).values = vs := by
  have go : ∀ s : ChipSet, (s.values ++ vs).Nodup → (vs.foldl insert s).values = s.values ++ vs := by
    induction vs with
    | nil => simp
    | cons v vs ih =>
      intro s hs
      have hv : v ∉ s.values := fun hv => (List.nodup_append.1 hs).2.2 v hv v List.mem_cons_self rfl
      have hvalues := values_insert_of_not_mem hv
      rw [List.append_cons] at hs
      rw [List.foldl_cons, ih (List.nodup_cons.1 h).2 (s.insert v) (hvalues ▸ hs), hvalues, ← List.append_cons]
  exact go empty h

/-- The values that were sent are taken from store as they are. -/
theorem values_ofStored_sorted (s : ChipSet) : (ofStored s.sorted).values = s.sorted :=
  values_ofStored (s.perm_sorted.nodup_iff.2 s.nodup)

/-- And they are sent as they were. -/
theorem sorted_ofStored_sorted (s : ChipSet) : (ofStored s.sorted).sorted = s.sorted :=
  eq_of_pairwise_lt (pairwise_sorted _) s.pairwise_sorted fun _ => mem_sorted.trans mem_ofStored

end ChipSet

namespace Editor

/-- The record that an editor sends is canonical already: each dimension is sorted and has no value twice. -/
theorem canonical_request (ed : Editor) : ed.request.canonical = ed.request := by
  have h : ed.request.scope.map canonicalValues = ed.request.scope :=
    Scoped.ext_get fun d => by simp [request, ChipSet.canonicalValues_sorted]
  rw [show ed.request.canonical = { ed.request with scope := ed.request.scope.map canonicalValues } from rfl, h]

/-- The editor `d` holds under a key what `ed` held, with ascending values, and sends the same record under the key. -/
structure Restores (d ed : Editor) (key : Key) : Prop where
  underKey : d.key = some key
  testName : d.testName = ed.testName
  note : d.note = ed.note
  chips : ∀ x, (d.chips.get x).values.Perm (ed.chips.get x).values
  ascending : ∀ x, (d.chips.get x).values.Pairwise (· < ·)
  request : d.request = ed.request.withKey key

/-- What was sent is restored from store. -/
theorem restores_ofRecord (ed : Editor) (key : Key) (i : EntryId) (t : Session) :
    (ofRecord i t (ed.request.withKey key)).Restores ed key := by
  have hvalues : ∀ x, ((ofRecord i t (ed.request.withKey key)).chips.get x).values = (ed.chips.get x).sorted := by
    intro x
    simp [ofRecord, Record.withKey, request, ChipSet.values_ofStored_sorted]
  have hscope : ((ed.chips.map ChipSet.sorted).map ChipSet.ofStored).map ChipSet.sorted = ed.chips.map ChipSet.sorted :=
    Scoped.ext_get fun x => by simp [ChipSet.sorted_ofStored_sorted]
  exact {
    underKey := rfl
    testName := rfl
    note := rfl
    chips := fun x => hvalues x ▸ (ed.chips.get x).perm_sorted
    ascending := fun x => hvalues x ▸ (ed.chips.get x).pairwise_sorted
    request := congrArg (fun s => (⟨some key, ed.testName, s, some ed.note⟩ : Record)) hscope }

end Editor

end AckDesk
