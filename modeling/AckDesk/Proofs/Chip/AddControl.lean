import AckDesk.Proofs.Chip.Replay
import AckDesk.Proofs.History
import Mathlib.Tactic.MkIffOfInductiveProp

/-!
# The add control of a text box

The control beside a text box is there for someone who is about to add a value. Two accounts of when it is shown are
compared with what the box does, after every run.

* It is shown **while the box has the focus or holds text**. This fails in one way only (`attended_run`): the box lost
  the focus while it held text, and was emptied after that, by typing or with Enter. Nothing hides the control then,
  until the focus comes back or is lost once more.
* It is **turned by four rules** (`ChipSet.turn?`): hidden at first, it appears with the focus, and goes when the box
  loses the focus while blank, or when a click of it adds a value. The box does not know what the set adds, and hides
  the control whenever a click commits. So the rules are kept exactly if no click has committed a value that was there
  already since they last turned the control (`obeyed_run`).
-/

namespace AckDesk

/-! ## Focus and text -/

/-- The event leaves a box with nothing to commit in it, and its control alone. -/
def BoxEvent.empties : BoxEvent → Bool
  | .textChanged text => Text.isBlankText text
  | .enterPressed => true
  | _ => false

namespace ChipBox

def run (b : ChipBox) (es : List BoxEvent) : ChipBox := es.foldl (fun b e => (b.step e).1) b

theorem run_concat (b : ChipBox) (es : List BoxEvent) (e : BoxEvent) :
    b.run (es ++ [e]) = ((b.run es).step e).1 := by
  rw [run, List.foldl_append, List.foldl_cons, List.foldl_nil, run]

/-- The last change of the focus gave it to the box. -/
def HasFocus (es : List BoxEvent) : Prop := (es.filter (· ∈ [.focused, .blurred])).getLast? = some .focused

instance (es : List BoxEvent) : Decidable (HasFocus es) := inferInstanceAs (Decidable (_ = _))

/-- The focus is gained by focusing, and kept by every event but leaving. -/
theorem hasFocus_concat {es : List BoxEvent} {e : BoxEvent} :
    HasFocus (es ++ [e]) ↔ e = .focused ∨ (e ≠ .blurred ∧ HasFocus es) := by
  cases e <;> simp [HasFocus, List.filter_append]

/-- The control is shown at a box that has lost the focus and holds text. -/
@[mk_iff]
structure Left (es : List BoxEvent) : Prop where
  shown : (run {} es).addShown = true
  unfocused : ¬HasFocus es
  filled : (run {} es).isBlank = false

/-- The control is shown at a box that has lost the focus and holds nothing. -/
@[mk_iff]
structure Lingers (es : List BoxEvent) : Prop where
  shown : (run {} es).addShown = true
  unfocused : ¬HasFocus es
  blank : (run {} es).isBlank = true

/-- The box was emptied after it had been left, and since then it was neither left once more nor given the focus or a
text. -/
def Deserted : List BoxEvent → Prop :=
  Since (fun before e => Left before ∧ e.empties = true) (fun _ e => e.empties = true ∨ e = .addClicked)

/-- The control comes to linger when a box that was left is emptied, and lingers until something other than a blank
commit happens. -/
theorem lingers_concat {es : List BoxEvent} {e : BoxEvent} :
    Lingers (es ++ [e]) ↔ (Left es ∧ e.empties = true) ∨ (Lingers es ∧ (e.empties = true ∨ e = .addClicked)) := by
  rw [lingers_iff, lingers_iff, left_iff, run_concat, hasFocus_concat]
  have htext : ∀ text shown, isBlank ⟨text, shown⟩ = Text.isBlankText text := fun _ _ => rfl
  have hempty : Text.isBlankText "" = true := rfl
  cases hblank : (run {} es).isBlank <;>
    cases e <;> simp [step, BoxEvent.empties, hblank, htext, hempty, and_assoc]

/-- The control lingers exactly in the histories that are called deserted. -/
theorem lingers_iff_deserted {es : List BoxEvent} : Lingers es ↔ Deserted es := by
  induction es using List.reverseRecOn with
  | nil => exact iff_of_false (fun h => by cases h.shown) not_since_nil
  | append_singleton es e ih => rw [lingers_concat, ih, Deserted, since_concat]

/-- **The control is shown while the box has the focus or holds text**, unless the box is deserted: at a deserted box it
is shown without either. -/
theorem attended_run (es : List BoxEvent) :
    ((run {} es).addShown = true → HasFocus es ∨ (run {} es).isBlank = false ∨ Deserted es) ∧
    (Deserted es → (run {} es).addShown = true ∧ ¬HasFocus es ∧ (run {} es).isBlank = true) := by
  constructor
  · intro hshown
    by_cases hfocus : HasFocus es
    · exact .inl hfocus
    · cases hblank : (run {} es).isBlank with
      | false => exact .inr (.inl rfl)
      | true => exact .inr (.inr (lingers_iff_deserted.1 ⟨hshown, hfocus, hblank⟩))
  · intro h
    obtain ⟨hshown, hfocus, hblank⟩ := lingers_iff_deserted.2 h
    exact ⟨hshown, hfocus, hblank⟩

/-- A text is left in the box and then committed with Enter. -/
def leftEntered : List BoxEvent := [.focused, .textChanged "main", .blurred, .enterPressed]

/-- A text that is entered and taken back without the focus leaves the control shown. -/
theorem attended_leftEntered : (run {} leftEntered).addShown = true ∧ ¬HasFocus leftEntered ∧
    (run {} leftEntered).isBlank = true ∧ Deserted leftEntered := by
  have hshown : (run {} leftEntered).addShown = true := by decide +kernel
  have hfocus : ¬HasFocus leftEntered := by decide
  have hblank : (run {} leftEntered).isBlank = true := by decide +kernel
  refine ⟨hshown, hfocus, hblank, ?_⟩
  rcases (attended_run leftEntered).1 hshown with h | h | h
  · exact absurd h hfocus
  · rw [hblank] at h
    cases h
  · exact h

end ChipBox

/-! ## The four rules -/

namespace ChipSet

/-- What the rules make of the control at an edit, if they turn it. -/
def turn? (s : ChipSet) : ChipEdit → Option Bool
  | .input .focused => some true
  | .input .blurred => if s.box.isBlank then some false else none
  | .input .addClicked => if (s.edit (.input .addClicked)).2 then some false else none
  | _ => none

/-- Whether the rules show the control after a run of edits. -/
def obeying (s : ChipSet) (shown : Bool) : List ChipEdit → Bool
  | [] => shown
  | e :: es => obeying (s.edit e).1 ((s.turn? e).getD shown) es

/-- The edit is a click that commits a value which the set has. -/
def Wasted (s : ChipSet) (e : ChipEdit) : Prop :=
  e = .input .addClicked ∧ s.box.isBlank = false ∧ Text.trim s.box.text ∈ s.values

instance (s : ChipSet) (e : ChipEdit) : Decidable (s.Wasted e) := inferInstanceAs (Decidable (_ ∧ _))

theorem run_concat (s : ChipSet) (es : List ChipEdit) (e : ChipEdit) : s.run (es ++ [e]) = ((s.run es).edit e).1 := by
  rw [run, List.foldl_append, List.foldl_cons, List.foldl_nil, run]

theorem obeying_concat (s : ChipSet) (shown : Bool) (es : List ChipEdit) (e : ChipEdit) :
    s.obeying shown (es ++ [e]) = ((s.run es).turn? e).getD (s.obeying shown es) := by
  induction es generalizing s shown with
  | nil => rfl
  | cons d es ih => exact ih (s.edit d).1 _

/-- A chip set starts with an untouched box. -/
theorem box_ofStored (vs : List String) : (ofStored vs).box = {} := by
  induction vs using List.reverseRecOn with
  | nil => rfl
  | append_singleton vs v ih =>
    rw [ofStored, List.foldl_append]
    exact (box_insert _ v).trans ih

/-- Adding and removing values leaves the box alone. -/
theorem box_edit_add (s : ChipSet) (text : String) : (s.edit (.add text)).1.box = s.box := by
  by_cases h : Text.trim text = "" ∨ Text.trim text ∈ s.values
  · rw [edit_add_of_refused h]
  · rw [edit_add_of_taken h, box_insert]

theorem box_edit_remove (s : ChipSet) (v : String) : (s.edit (.remove v)).1.box = s.box := by
  by_cases h : v ∈ s.values
  · rw [edit_remove_of_mem h]
  · rw [edit_remove_of_not_mem h]

theorem box_edit_input (s : ChipSet) (e : BoxEvent) : (s.edit (.input e)).1.box = (s.box.step e).1 := by
  cases h : s.box.step e with
  | mk b committed =>
    cases committed with
    | none => rw [edit_input_of_none h]
    | some text => rw [edit_input_of_some h, box_edit_add]

/-- Adding is reported as successful for a text that is not blank and not among the chips when trimmed. -/
theorem edit_add_snd (s : ChipSet) (text : String) :
    (s.edit (.add text)).2 = true ↔ Text.trim text ≠ "" ∧ Text.trim text ∉ s.values := by
  rw [ne_eq, ← not_or]
  by_cases h : Text.trim text = "" ∨ Text.trim text ∈ s.values
  · simp [edit_add_of_refused h, h]
  · simp [edit_add_of_taken h, h]

/-- A click adds what is typed, unless that is blank or there already. -/
theorem edit_addClicked_snd (s : ChipSet) : (s.edit (.input .addClicked)).2 = true ↔
    s.box.isBlank = false ∧ Text.trim s.box.text ∉ s.values := by
  have hblank : s.box.isBlank = true ↔ Text.trim s.box.text = "" := Text.isBlankText_iff
  cases h : s.box.isBlank with
  | true =>
    rw [edit_input_of_none (show s.box.step .addClicked = (s.box, none) from if_pos h)]
    simp
  | false =>
    have hne : Text.trim s.box.text ≠ "" := by
      intro hempty
      rw [hblank.2 hempty] at h
      cases h
    have hcommit : s.box.step .addClicked = ({}, some s.box.text) := if_neg (by simp [h])
    rw [edit_input_of_some hcommit, edit_add_snd]
    simp [hne]

/-- What an edit makes of the control. -/
theorem addShown_edit (s : ChipSet) (e : ChipEdit) : (s.edit e).1.box.addShown =
    if s.Wasted e then false else (s.turn? e).getD s.box.addShown := by
  cases e with
  | add text => simp [box_edit_add, turn?, Wasted]
  | remove v => simp [box_edit_remove, turn?, Wasted]
  | input e =>
    rw [box_edit_input]
    cases e with
    | textChanged text => simp [ChipBox.step, turn?, Wasted]
    | focused => simp [ChipBox.step, turn?, Wasted]
    | blurred => cases h : s.box.isBlank <;> simp [ChipBox.step, turn?, Wasted, h]
    | enterPressed => cases h : s.box.isBlank <;> simp [ChipBox.step, turn?, Wasted, h]
    | addClicked =>
      have hadds := s.edit_addClicked_snd
      cases h : s.box.isBlank with
      | true => simp_all [ChipBox.step, turn?, Wasted]
      | false => by_cases hmem : Text.trim s.box.text ∈ s.values <;> simp_all [ChipBox.step, turn?, Wasted]

/-- **The control is shown exactly if the rules show it** and no click has been wasted since they last turned it. -/
theorem obeyed_run (vs : List String) (es : List ChipEdit) :
    ((ofStored vs).run es).box.addShown = true ↔
      (ofStored vs).obeying false es = true ∧
        ¬Since (fun before e => ((ofStored vs).run before).Wasted e)
          (fun before e => ((ofStored vs).run before).turn? e = none) es := by
  induction es using List.reverseRecOn with
  | nil =>
    rw [show (ofStored vs).run [] = ofStored vs from rfl, box_ofStored]
    simp [obeying]
  | append_singleton es e ih =>
    rw [since_concat, obeying_concat, run_concat, addShown_edit]
    by_cases hwasted : ((ofStored vs).run es).Wasted e
    · simp [hwasted]
    · rw [if_neg hwasted]
      cases hturn : ((ofStored vs).run es).turn? e with
      | some shown => simp [hwasted]
      | none => simpa [hwasted] using ih

/-- A value that is there is typed, and the control is clicked. -/
def clickedAgain : List ChipEdit := [.input .focused, .input (.textChanged "main"), .input .addClicked]

/-- The control goes, and the rules would have kept it. -/
theorem obeyed_clickedAgain : ((ofStored ["main"]).run clickedAgain).box.addShown = false ∧
    (ofStored ["main"]).obeying false clickedAgain = true ∧
    Since (fun before e => ((ofStored ["main"]).run before).Wasted e)
      (fun before e => ((ofStored ["main"]).run before).turn? e = none) clickedAgain := by
  have hshown : ((ofStored ["main"]).run clickedAgain).box.addShown = false := by decide +kernel
  have hobeying : (ofStored ["main"]).obeying false clickedAgain = true := by decide +kernel
  refine ⟨hshown, hobeying, by_contra fun h => ?_⟩
  have hcontra := (obeyed_run ["main"] clickedAgain).2 ⟨hobeying, h⟩
  rw [hshown] at hcontra
  cases hcontra

end ChipSet

end AckDesk
