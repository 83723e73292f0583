import AckDesk.Proofs.Chip.Replay

/-!
# The place of a chip set in the view

Around a place the view of a desk is a path of **frames**, each a node with a gap among its children, and `plug` puts a
tree into the gap of the last one. The frames around the chip set of a dimension (`Desk.frames`) are visible and depend
on all that the desk shows but this set (`Desk.view_eq_plug`, `Desk.frames_modifyChips`), so an edit of the set changes
the view in this place alone. There, a value that is removed takes its chip with it, and the mark for all values appears
if that was the last one (`ChipSet.dropsChip_view`).
-/

namespace AckDesk

open View View.Node

/-! ## Frames -/

namespace View.Node

/-- A node with a gap among its children. -/
structure Frame where
  face : Face
  before : List Node
  after : List Node

/-- The tree with `n` in the gap of the last frame. -/
def plug (fs : List Frame) (n : Node) : Node := fs.foldr (fun f m => mk f.face (f.before ++ m :: f.after)) n

/-- What is visible in the gap is visible in the whole, if the frames are. -/
theorem mem_shown_plug {fs : List Frame} (h : ∀ f ∈ fs, f.face.hidden = false) {m n : Node} (hm : m ∈ n.shown) :
    m ∈ (plug fs n).shown := by
  induction fs with
  | nil => exact hm
  | cons f fs ih =>
    rw [List.forall_mem_cons] at h
    exact mem_shown_of_child h.1 (List.mem_append_right _ List.mem_cons_self) (ih h.2)

end View.Node

/-! ## The view around a chip set -/

namespace Editor

def chipsBefore (ed : Editor) (a : Access) (d : Dimension) : List Node :=
  (Dimension.all.takeWhile (· ≠ d)).map fun x => (ed.chips.get x).view a x

def chipsAfter (ed : Editor) (a : Access) (d : Dimension) : List Node :=
  (Dimension.all.dropWhile (· ≠ d)).tail.map fun x => (ed.chips.get x).view a x

/-- The view of an editor around the chip set of a dimension. -/
def frames (ed : Editor) (a : Access) (d : Dimension) : List Frame := [
  ⟨{ kind := .container, className := "detail-editor" }, [], [footer a ed.saving]⟩,
  ⟨{ kind := .container, className := "modal-content" },
    .leaf { kind := .heading, className := "modal-title", text := "Test Acknowledgment" } ::
      .leaf { kind := .paragraph, className := "modal-test-name", text := "Test: " ++ ed.testName } ::
      ed.chipsBefore a d,
    ed.chipsAfter a d ++
      [.leaf { kind := .heading, className := "note-header", text := "Note:" }, noteField a ed.note]⟩]

theorem view_eq_plug (ed : Editor) (a : Access) (d : Dimension) :
    ed.view a = plug (ed.frames a d) ((ed.chips.get d).view a d) := by
  cases d <;> rfl

/-- The view around a chip set does not depend on it. -/
theorem frames_modifyChips (ed : Editor) (a : Access) (d : Dimension) (f : ChipSet → ChipSet) :
    (ed.modifyChips d f).frames a d = ed.frames a d := by
  cases d <;> rfl

end Editor

namespace Desk

variable {k : Desk} {ed : Editor}

/-- The view of a desk around a chip set of its open editor. -/
def frames (k : Desk) (ed : Editor) (d : Dimension) : List Frame :=
  ⟨{ kind := .container, className := "test-acknowledgments" },
    (k.access.whenWritable k.search.view).toList ++ [headerView k.access, k.cardsView] ++ k.notices.view.toList, []⟩ ::
  ⟨{ kind := .modal, className := "modal" }, [], []⟩ :: ed.frames k.access d

theorem hidden_frames {d : Dimension} {f : Frame} (hf : f ∈ k.frames ed d) : f.face.hidden = false := by
  simp only [frames, Editor.frames, List.mem_cons, List.not_mem_nil, or_false] at hf
  rcases hf with rfl | rfl | rfl | rfl <;> rfl

theorem view_eq_plug (hed : k.modal.editor = some ed) (d : Dimension) :
    k.view = plug (k.frames ed d) ((ed.chips.get d).view k.access d) := by
  have hmodal : k.modal.view k.access = .mk { kind := .modal, className := "modal" } [ed.view k.access] := by
    simp [Modal.view, Modal.isOpen, hed]
  rw [view, hmodal, ed.view_eq_plug k.access d]
  rfl

end Desk

/-! ## Removing a chip -/

namespace ChipSet

variable {s s' : ChipSet} {v : String}

/-- The mark for all values, as it stands hidden above the chips. -/
def hiddenMark : Node :=
  .leaf { kind := .allIndicator, className := "all-indicator", text := " All", hidden := true }

/-- The second view of a chip set is the first without the chip of a value. The mark for all values, hidden in the
first, is shown in the second if this was the last chip. -/
def DropsChip (d : Dimension) (v : String) (isLast : Bool) (n n' : Node) : Prop :=
  ∃ f header chips before after rest,
    n = .mk f (.mk header [hiddenMark] :: .mk chips (before ++ chipView .writable d v :: after) :: rest) ∧
    n' = .mk f (.mk header [if isLast then shownMark else hiddenMark] :: .mk chips (before ++ after) :: rest)

theorem headerView_eq (s : ChipSet) (d : Dimension) :
    s.headerView d = .mk { kind := .heading, className := "chip-set-header", text := d.label }
      [if s.values.isEmpty then shownMark else hiddenMark] := by
  unfold headerView
  cases s.values <;> rfl

/-- A set that lost a value shows all that it showed before but its chip. -/
theorem dropsChip_view (hv : v ∈ s.values) (hvalues : s'.values = s.values.erase v) (hbox : s'.box = s.box)
    (d : Dimension) : DropsChip d v s'.values.isEmpty (s.view .writable d) (s'.view .writable d) := by
  obtain ⟨before, after, hbefore, hsplit, herase⟩ := List.exists_erase_eq hv
  have hmark : s.values.isEmpty = false := by simp [hsplit]
  refine ⟨{ kind := .container, className := "chip-set" },
    { kind := .heading, className := "chip-set-header", text := d.label }, { kind := .container, className := "chips" },
    before.map (chipView .writable d), after.map (chipView .writable d), [s.box.view d], ?_, ?_⟩
  · rw [view, headerView_eq, hmark, hsplit, List.map_append, List.map_cons]
    rfl
  · rw [view, headerView_eq, hvalues, herase, hbox, List.map_append]
    rfl

end ChipSet

end AckDesk
