import AckDesk.Desk.View
import AckDesk.Proofs.View.Faces

/-!
# The view of a desk that may only be read

A face is **harmless** if it does not let the user change anything: it has no affordance that is a mutation, and a field
that takes text is disabled. Every part of a desk shows only harmless faces to a user who may only read, whatever the
part holds, and so does the whole desk (`Desk.harmless_view`).
-/

namespace AckDesk

open View View.Node

/-- The face lets the user change nothing. -/
structure View.Face.Harmless (f : Face) : Prop where
  affordance : ∀ a, f.affordance = some a → a.isMutation = false
  disabled : f.kind.isTextEntry = true → f.disabled = true

namespace View

variable {f : Face} {cs : List Node}

/-- A face that offers nothing and takes no text is harmless. -/
theorem Face.Harmless.of_none (ha : f.affordance = none) (ht : f.kind.isTextEntry = false) : f.Harmless where
  affordance := fun a h => by simp [ha] at h
  disabled := fun h => by simp [ht] at h

/-- A face that offers something harmless and takes no text is harmless. -/
theorem Face.Harmless.of_some {a : Affordance} (ha : f.affordance = some a) (hm : a.isMutation = false)
    (ht : f.kind.isTextEntry = false) : f.Harmless where
  affordance := by
    intro b h
    rw [ha] at h
    cases h
    exact hm
  disabled := fun h => by simp [ht] at h

/-- Nothing in the tree lets the user change anything. -/
abbrev Node.Harmless (n : Node) : Prop := n.Everywhere Face.Harmless

theorem Node.harmless_leaf (ha : f.affordance = none) (ht : f.kind.isTextEntry = false) : (leaf f).Harmless :=
  everywhere_leaf.2 (.of_none ha ht)

theorem Node.harmless_mk (ha : f.affordance = none) (ht : f.kind.isTextEntry = false)
    (hc : ∀ c ∈ cs, c.Harmless) : (mk f cs).Harmless :=
  everywhere_mk.2 ⟨.of_none ha ht, hc⟩

theorem Node.harmless_mk_some {a : Affordance} (ha : f.affordance = some a) (hm : a.isMutation = false)
    (ht : f.kind.isTextEntry = false) (hc : ∀ c ∈ cs, c.Harmless) : (mk f cs).Harmless :=
  everywhere_mk.2 ⟨.of_some ha hm ht, hc⟩

end View

/-- What only a user who may edit gets is not there. -/
@[simp] theorem Access.whenWritable_readOnly {α : Type} (x : α) : Access.readOnly.whenWritable x = none := rfl

/-! ## Parts of the desk -/

theorem Card.harmless_titleView (testName : String) : (Card.titleView testName).Harmless := by
  refine harmless_mk rfl rfl ?_
  simp only [List.forall_mem_cons]
  exact ⟨harmless_leaf rfl rfl, harmless_leaf rfl rfl, List.forall_mem_nil _⟩

theorem Card.harmless_summaryView (d : Dimension) (s : Summary) : (Card.summaryView d s).Harmless := by
  refine harmless_mk rfl rfl ?_
  simp only [List.forall_mem_cons]
  refine ⟨harmless_leaf rfl rfl, harmless_leaf rfl rfl, fun c hc => ?_⟩
  obtain ⟨text, -, rfl⟩ := Option.map_eq_some_iff.1 (Option.mem_toList.1 hc)
  exact harmless_leaf rfl rfl

/-- A card that cannot be deleted opens the editor, and nothing else. -/
theorem Card.harmless_view (i : EntryId) (r : Record) (visible pending : Bool) :
    (Card.view .readOnly i r visible pending).Harmless := by
  refine harmless_mk rfl rfl fun c hc => ?_
  rw [Access.whenWritable_readOnly] at hc
  obtain rfl := List.mem_singleton.1 hc
  refine harmless_mk_some rfl rfl rfl fun c hc => ?_
  rcases List.mem_cons.1 hc with rfl | hc
  · exact Card.harmless_titleView r.testName
  · obtain ⟨d, -, rfl⟩ := List.mem_map.1 hc
    exact Card.harmless_summaryView d _

/-- Chips that cannot be removed, without a box for more. -/
theorem ChipSet.harmless_view (s : ChipSet) (d : Dimension) : (s.view .readOnly d).Harmless := by
  refine harmless_mk rfl rfl ?_
  simp only [List.forall_mem_cons]
  refine ⟨?_, ?_, List.forall_mem_nil _⟩
  · refine harmless_mk rfl rfl ?_
    simp only [List.forall_mem_cons]
    exact ⟨harmless_leaf rfl rfl, List.forall_mem_nil _⟩
  · refine harmless_mk rfl rfl fun c hc => ?_
    obtain ⟨v, -, rfl⟩ := List.mem_map.1 hc
    exact harmless_mk rfl rfl (List.forall_mem_nil _)

/-- The note is shown in a disabled field. -/
theorem Editor.harmless_noteField (note : String) : (Editor.noteField .readOnly note).Harmless := by
  refine everywhere_leaf.2 ⟨fun a ha => ?_, fun _ => rfl⟩
  cases ha

/-- The editor can be closed, and not saved. -/
theorem Editor.harmless_view (ed : Editor) : (ed.view .readOnly).Harmless := by
  refine harmless_mk rfl rfl ?_
  simp only [List.forall_mem_cons]
  refine ⟨harmless_mk rfl rfl fun c hc => ?_, ?_, List.forall_mem_nil _⟩
  · simp only [List.cons_append, List.mem_cons, List.mem_append, List.not_mem_nil, or_false] at hc
    rcases hc with rfl | rfl | hc | rfl | rfl
    · exact harmless_leaf rfl rfl
    · exact harmless_leaf rfl rfl
    · obtain ⟨d, -, rfl⟩ := List.mem_map.1 hc
      exact ChipSet.harmless_view _ d
    · exact harmless_leaf rfl rfl
    · exact Editor.harmless_noteField ed.note
  · refine harmless_mk rfl rfl fun c hc => ?_
    rw [Access.whenWritable_readOnly] at hc
    obtain rfl := List.mem_singleton.1 hc
    exact harmless_mk_some rfl rfl rfl (List.forall_mem_nil _)

theorem Modal.harmless_view (m : Modal) : (m.view .readOnly).Harmless := by
  refine harmless_mk rfl rfl fun c hc => ?_
  obtain ⟨ed, -, rfl⟩ := Option.map_eq_some_iff.1 (Option.mem_toList.1 hc)
  exact Editor.harmless_view ed

/-- Notices can be taken down by everybody. -/
theorem NoticeBoard.harmless_view {b : NoticeBoard} {n : Node} (h : b.view = some n) : n.Harmless := by
  unfold NoticeBoard.view at h
  split at h
  · cases h
  · cases h
    refine harmless_mk rfl rfl fun c hc => ?_
    rcases List.mem_append.1 hc with hc | hc
    · obtain ⟨x, -, rfl⟩ := List.mem_map.1 hc
      exact harmless_leaf rfl rfl
    · obtain rfl := List.mem_singleton.1 hc
      refine harmless_mk_some rfl rfl rfl fun c hc => ?_
      obtain rfl := List.mem_singleton.1 hc
      exact harmless_leaf rfl rfl

namespace Desk

variable {k : Desk}

theorem harmless_headerView (a : Access) : (headerView a).Harmless := by
  refine harmless_mk rfl rfl ?_
  simp only [List.forall_mem_cons]
  exact ⟨harmless_leaf rfl rfl, harmless_leaf rfl rfl, List.forall_mem_nil _⟩

theorem harmless_cardsView (ha : k.access = .readOnly) : k.cardsView.Harmless := by
  refine harmless_mk rfl rfl fun c hc => ?_
  rw [ha] at hc
  obtain ⟨e, -, rfl⟩ := List.mem_map.1 hc
  exact Card.harmless_view e.id e.record e.visible _

/-- **A desk that may only be read** shows nothing that lets the user change anything. -/
theorem harmless_view (ha : k.access = .readOnly) : k.view.Harmless := by
  refine harmless_mk rfl rfl fun c hc => ?_
  rw [ha] at hc
  simp only [Access.whenWritable_readOnly, Option.toList_none, List.nil_append, List.cons_append, List.mem_cons,
    List.mem_append, Option.mem_toList, List.not_mem_nil, or_false] at hc
  rcases hc with rfl | rfl | hc | rfl
  · exact harmless_headerView _
  · exact harmless_cardsView ha
  · exact NoticeBoard.harmless_view hc
  · exact Modal.harmless_view k.modal

/-- No affordance of the view is a mutation. -/
theorem isMutation_of_mem_affordances (ha : k.access = .readOnly) {a : Affordance} (h : a ∈ k.view.affordances) :
    a.isMutation = false := by
  obtain ⟨f, hf, hP⟩ := (harmless_view ha).of_mem_affordances h
  exact hP.affordance a hf

/-- All that takes text is disabled. -/
theorem disabled_of_mem_textEntries (ha : k.access = .readOnly) {n : Node} (h : n ∈ k.view.textEntries) :
    n.face.disabled = true := by
  obtain ⟨ht, hP⟩ := (harmless_view ha).of_mem_textEntries h
  exact hP.disabled ht

end Desk

end AckDesk
