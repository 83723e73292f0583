import AckDesk.Proofs.View.Shown

/-!
# The controls that save and delete

Two controls lead to a call: the button that saves, below the open editor, and the control on a card that deletes its
entry. A view has no others, and each is disabled as the editor and the entry say (`Desk.wired_view`). A user who may
edit sees the button of the open editor, and the control of every visible card (`saveButton_mem_shown`,
`deleteControl_mem_shown`).
-/

namespace AckDesk

open View View.Node

namespace Desk

variable {k : Desk}

/-- A face that saves is that of the open editor's button, and one that deletes is that of an entry's control. -/
structure Wired (k : Desk) (f : Face) : Prop where
  save : f.affordance = some .save → ∃ ed, k.modal.editor = some ed ∧ f.disabled = ed.saving
  delete : ∀ i, f.affordance = some (.deleteEntry i) →
    ∃ e ∈ k.entries, e.id = i ∧ f.disabled = (e.state == .pendingDelete)

/-! ## No other controls -/

theorem wired_of_ne {f : Face} (hs : f.affordance ≠ some .save) (hd : ∀ i, f.affordance ≠ some (.deleteEntry i)) :
    k.Wired f :=
  ⟨fun h => absurd h hs, fun i h => absurd h (hd i)⟩

theorem wired_of_none {f : Face} (h : f.affordance = none) : k.Wired f :=
  wired_of_ne (by simp [h]) (by simp [h])

/-- A part that offers neither to save nor to delete is wired, whatever it shows. -/
theorem wired_of_affordances {n : Node} (h : ∀ a ∈ n.affordances, a ≠ .save ∧ ∀ i, a ≠ .deleteEntry i) :
    n.Everywhere k.Wired := by
  intro m hm
  have hoffer : ∀ a, m.face.affordance = some a → a ≠ .save ∧ ∀ i, a ≠ .deleteEntry i :=
    fun a ha => h a (List.mem_filterMap.2 ⟨m, hm, ha⟩)
  exact wired_of_ne (fun hs => (hoffer _ hs).1 rfl) fun i hi => (hoffer _ hi).2 i rfl

theorem wired_searchView (k : Desk) (s : Search) : s.view.Everywhere k.Wired := by
  refine wired_of_affordances fun a ha => ?_
  rw [Search.affordances_view, List.mem_append, List.mem_cons, List.mem_map, List.mem_singleton] at ha
  rcases ha with (rfl | ⟨name, -, rfl⟩) | rfl <;> simp

theorem wired_headerView (k : Desk) (a : Access) : (headerView a).Everywhere k.Wired := by
  refine wired_of_affordances fun a ha => ?_
  simp [headerView] at ha

theorem wired_boardView (k : Desk) {b : NoticeBoard} {n : Node} (h : b.view = some n) : n.Everywhere k.Wired := by
  refine wired_of_affordances fun a ha => ?_
  have hoffers : b.offers = n.affordances := by simp [← NoticeBoard.affordances_view, h]
  have hdismiss : a = .dismissNotices := by
    rw [← hoffers] at ha
    unfold NoticeBoard.offers at ha
    split at ha
    · cases ha
    · exact List.mem_singleton.1 ha
  simp [hdismiss]

theorem wired_entryView {e : Entry} (he : e ∈ k.entries) : (entryView k.access e).Everywhere k.Wired := by
  refine everywhere_mk.2 ⟨wired_of_none rfl, fun c hc => ?_⟩
  rcases List.mem_cons.1 hc with rfl | hc
  · refine wired_of_affordances fun a ha => ?_
    have hopen : a = .openEntry e.id := by
      simpa [Card.bodyView, Card.titleView, Dimension.all, Card.affordances_summaryView] using ha
    simp [hopen]
  · cases ha : k.access with
    | readOnly => simp [ha] at hc
    | writable =>
      obtain rfl : c = Card.deleteControl e.id (e.state == .pendingDelete) := by simpa [ha] using hc
      refine everywhere_mk.2 ⟨⟨by simp, fun i hi => ⟨e, he, ?_, rfl⟩⟩, fun c hc => ?_⟩
      · exact Affordance.deleteEntry.inj (Option.some.inj hi)
      · obtain rfl := List.mem_singleton.1 hc
        exact everywhere_leaf.2 (wired_of_none rfl)

theorem ne_of_mem_chipSet {s : ChipSet} {a : Access} {d : Dimension} {x : Affordance}
    (h : x ∈ (s.view a d).affordances) : x ≠ .save ∧ ∀ i, x ≠ .deleteEntry i := by
  rw [ChipSet.affordances_view] at h
  cases a with
  | readOnly => simp at h
  | writable =>
    simp only [Access.whenWritable_writable, Option.getD_some, List.mem_append, List.mem_map, List.mem_cons,
      List.not_mem_nil, or_false] at h
    rcases h with ⟨v, -, rfl⟩ | rfl | rfl <;> simp

theorem ne_of_mem_noteField {a : Access} {note : String} {x : Affordance}
    (h : x ∈ (Editor.noteField a note).affordances) : x ≠ .save ∧ ∀ i, x ≠ .deleteEntry i := by
  cases a with
  | readOnly => simp [Editor.noteField] at h
  | writable =>
    obtain rfl : x = .noteField := by simpa [Editor.noteField] using h
    simp

theorem wired_editorView {ed : Editor} (hed : k.modal.editor = some ed) :
    (ed.view k.access).Everywhere k.Wired := by
  refine everywhere_mk.2 ⟨wired_of_none rfl, ?_⟩
  simp only [List.forall_mem_cons]
  refine ⟨wired_of_affordances fun a ha => ?_, everywhere_mk.2 ⟨wired_of_none rfl, fun c hc => ?_⟩,
    List.forall_mem_nil _⟩
  · have hcontent : a ∈ (ed.chipViews k.access).flatMap affordances ∨
        a ∈ (Editor.noteField k.access ed.note).affordances := by simpa using ha
    rcases hcontent with ha | ha
    · obtain ⟨c, hc, ha⟩ := List.mem_flatMap.1 ha
      obtain ⟨d, -, rfl⟩ := List.mem_map.1 hc
      exact ne_of_mem_chipSet ha
    · exact ne_of_mem_noteField ha
  · rcases List.mem_cons.1 hc with rfl | hc
    · exact everywhere_leaf.2 (wired_of_ne (by simp) (by simp))
    · cases ha : k.access with
      | readOnly => simp [ha] at hc
      | writable =>
        obtain rfl : c = Editor.saveButton ed.saving := by simpa [ha] using hc
        exact everywhere_leaf.2 ⟨fun _ => ⟨ed, hed, rfl⟩, by simp⟩

/-- **The controls of a desk**: what saves is the button of the open editor, what deletes is the control of a card. -/
theorem wired_view (k : Desk) : k.view.Everywhere k.Wired := by
  refine everywhere_mk.2 ⟨wired_of_none rfl, fun c hc => ?_⟩
  simp only [List.mem_append, List.mem_cons, List.not_mem_nil, or_false, Option.mem_toList] at hc
  rcases hc with ((hc | rfl | rfl) | hc) | rfl
  · cases ha : k.access with
    | readOnly => simp [ha] at hc
    | writable =>
      obtain rfl : k.search.view = c := by simpa [ha] using hc
      exact wired_searchView k k.search
  · exact wired_headerView k k.access
  · refine everywhere_mk.2 ⟨wired_of_none rfl, fun c hc => ?_⟩
    obtain ⟨e, he, rfl⟩ := List.mem_map.1 hc
    exact wired_entryView he
  · exact wired_boardView k hc
  · refine everywhere_mk.2 ⟨wired_of_none rfl, fun c hc => ?_⟩
    obtain ⟨ed, hed, rfl⟩ := Option.map_eq_some_iff.1 (Option.mem_toList.1 hc)
    exact wired_editorView hed

/-! ## The controls are shown -/

theorem saveButton_mem_shown {ed : Editor} (ha : k.access = .writable) (hed : k.modal.editor = some ed) :
    Editor.saveButton ed.saving ∈ k.view.shown := by
  have hfooter : Editor.saveButton ed.saving ∈ (Editor.footer k.access ed.saving).shown := by
    refine mem_shown_of_child rfl ?_ (mem_shown_self rfl [])
    simp [ha, Editor.saveButton, leaf]
  have heditor : Editor.saveButton ed.saving ∈ (ed.view k.access).shown :=
    mem_shown_of_child rfl (.tail _ (.head _)) hfooter
  have hmodal : Editor.saveButton ed.saving ∈ (k.modal.view k.access).shown := by
    refine mem_shown_of_child ?_ ?_ heditor
    · simp [Modal.isOpen, hed]
    · simp [hed]
  exact mem_shown_of_child rfl (List.mem_append_right _ (.head _)) hmodal

theorem deleteControl_mem_shown {e : Entry} (ha : k.access = .writable) (he : e ∈ k.entries) (hv : e.visible = true) :
    Card.deleteControl e.id (e.state == .pendingDelete) ∈ k.view.shown := by
  have hcard : Card.deleteControl e.id (e.state == .pendingDelete) ∈ (entryView k.access e).shown := by
    refine mem_shown_of_child ?_ ?_ (mem_shown_self rfl _)
    · simp [hv]
    · simp [ha, Card.deleteControl]
  have hcards : Card.deleteControl e.id (e.state == .pendingDelete) ∈ k.cardsView.shown :=
    mem_shown_of_child rfl (List.mem_map_of_mem he) hcard
  exact mem_shown_of_child rfl (by simp) hcards

end Desk

end AckDesk
