import AckDesk.Proofs.View.Shown
import Mathlib.Data.List.Induction

/-!
# Chip sets as lists

What a chip set holds is a plain list of values and the text in its box (`ChipSet.list`). An edit of the set is the
edit of that list which a user would make on paper (`list_edit`): a text is appended trimmed, if there is anything
left of it and it is not there yet, a removed value is erased, and Enter or the add control appends what is typed. So
a run of edits is replayed on the first occurrences of the stored values (`holds_run`), and what a chip set shows,
reports and sends is read off that list (`Holds`).
-/

namespace AckDesk

open View View.Node

/-- What a user does to a chip set: adds a text, removes a value, or works at the text box. -/
inductive ChipEdit where
  | add (text : String)
  | remove (value : String)
  | input (e : BoxEvent)
deriving DecidableEq

/-! ## The plain list -/

/-- A list of values, and what is typed for the next one. -/
structure ChipList where
  values : List String
  typed : String

namespace ChipList

/-- The first occurrences of the stored values, with nothing typed. -/
def ofStored (vs : List String) : ChipList := ⟨vs.eraseDups, ""⟩

/-- Appends a trimmed text, unless that leaves nothing or a value that is there. -/
def append (l : ChipList) (text : String) : ChipList :=
  if Text.trim text = "" ∨ Text.trim text ∈ l.values then l else { l with values := l.values ++ [Text.trim text] }

/-- Appends what is typed and clears it, if it is more than blanks. -/
def commit (l : ChipList) : ChipList :=
  if Text.trim l.typed = "" then l else { l with typed := "" }.append l.typed

def step (l : ChipList) : ChipEdit → ChipList
  | .add text => l.append text
  | .remove v => { l with values := l.values.erase v }
  | .input (.textChanged text) => { l with typed := text }
  | .input .enterPressed | .input .addClicked => l.commit
  | .input .focused | .input .blurred => l

def run (l : ChipList) (es : List ChipEdit) : ChipList := es.foldl step l

end ChipList

namespace ChipSet

/-- The set after an edit, and whether the edit was taken. -/
def edit (s : ChipSet) : ChipEdit → ChipSet × Bool
  | .add text => (s.add? text).elim (s, false) (·, true)
  | .remove v => (s.remove? v).elim (s, false) (·, true)
  | .input e => s.feed e

def run (s : ChipSet) (es : List ChipEdit) : ChipSet := es.foldl (fun s e => (s.edit e).1) s

/-- The set as a plain list. -/
def list (s : ChipSet) : ChipList := ⟨s.values, s.box.text⟩

/-! ## One edit -/

/-- Inserting shows on the reference list as an append, unless the value is there. -/
theorem list_insert (s : ChipSet) (v : String) :
    (s.insert v).list = if v ∈ s.values then s.list else { s.list with values := s.values ++ [v] } := by
  by_cases h : v ∈ s.values <;> simp [insert, list, h]

/-- Inserting values one by one appends the first occurrences of those that are not there. -/
theorem list_foldl_insert (s : ChipSet) (vs : List String) : (vs.foldl insert s).list =
    { s.list with values := s.values ++ (vs.filter (· ∉ s.values)).eraseDups } := by
  induction vs generalizing s with
  | nil => simp [list]
  | cons v vs ih =>
    rw [List.foldl_cons, ih]
    by_cases h : v ∈ s.values
    · rw [values_insert_of_mem h, List.filter_cons_of_neg (by simpa using h)]
    · -- what is new beside `v` is new after it, apart from `v` itself
      have hrest : vs.filter (· ∉ s.values ++ [v]) = (vs.filter (· ∉ s.values)).filter (!· == v) := by
        rw [List.filter_filter]
        refine List.filter_congr ?_
        intro w _
        by_cases hw : w = v <;> simp [hw]
      rw [list_insert, if_neg h, values_insert_of_not_mem h, hrest, List.filter_cons_of_pos (by simpa using h),
        List.eraseDups_cons, List.append_assoc, List.singleton_append]

/-- A chip set and its reference list start from the same values. -/
theorem list_ofStored (vs : List String) : (ofStored vs).list = .ofStored vs := by
  have hall : vs.filter (· ∉ empty.values) = vs := by
    apply List.filter_eq_self.2
    intro v _
    simp [empty]
  rw [ofStored, list_foldl_insert, hall]
  rfl

/-- A text that is blank or there already is not added. -/
theorem edit_add_of_refused {s : ChipSet} {text : String} (h : Text.trim text = "" ∨ Text.trim text ∈ s.values) :
    s.edit (.add text) = (s, false) := by
  simp only [edit, add?, if_pos h, Option.elim_none]

/-- A text that is taken is inserted, and the edit reports it. -/
theorem edit_add_of_taken {s : ChipSet} {text : String} (h : ¬(Text.trim text = "" ∨ Text.trim text ∈ s.values)) :
    s.edit (.add text) = (s.insert (Text.trim text), true) := by
  simp only [edit, add?, if_neg h, Option.elim_some]

/-- Removing a chip takes it out of the values and reports it. -/
theorem edit_remove_of_mem {s : ChipSet} {v : String} (h : v ∈ s.values) :
    s.edit (.remove v) = (⟨s.values.erase v, s.box, s.nodup.erase v⟩, true) := by
  simp only [edit, remove?, if_pos h, Option.elim_some]

/-- Removing what is no chip does nothing and reports that. -/
theorem edit_remove_of_not_mem {s : ChipSet} {v : String} (h : v ∉ s.values) : s.edit (.remove v) = (s, false) := by
  simp only [edit, remove?, if_neg h, Option.elim_none]

/-- An event that commits nothing changes the box alone. -/
theorem edit_input_of_none {s : ChipSet} {e : BoxEvent} {b : ChipBox} (h : s.box.step e = (b, none)) :
    s.edit (.input e) = ({ s with box := b }, false) := by
  simp only [edit, feed, h, Option.bind_none]

/-- What the box commits is added as any text. -/
theorem edit_input_of_some {s : ChipSet} {e : BoxEvent} {b : ChipBox} {text : String}
    (h : s.box.step e = (b, some text)) : s.edit (.input e) = { s with box := b }.edit (.add text) := by
  simp only [edit, feed, h, Option.bind_some]
  cases add? _ text <;> rfl

/-- Adding a text to the chip set is the append of the reference list. -/
theorem list_edit_add (s : ChipSet) (text : String) : (s.edit (.add text)).1.list = s.list.append text := by
  by_cases h : Text.trim text = "" ∨ Text.trim text ∈ s.values
  · rw [edit_add_of_refused h, ChipList.append]
    exact (if_pos h).symm
  · have hv : Text.trim text ∉ s.values := fun hv => h (.inr hv)
    rw [edit_add_of_taken h, list_insert, if_neg hv, ChipList.append]
    exact (if_neg h).symm

/-- A box that commits its text on Enter or on a click of the control does as the list does. -/
theorem list_edit_commit {s : ChipSet} {e : BoxEvent} {b : ChipBox} (hb : b.text = "")
    (h : s.box.step e = if s.box.isBlank then (s.box, none) else (b, some s.box.text)) :
    (s.edit (.input e)).1.list = s.list.commit := by
  have hblank : s.box.isBlank = true ↔ Text.trim s.list.typed = "" := Text.isBlankText_iff
  by_cases ht : s.box.isBlank = true
  · rw [if_pos ht] at h
    rw [edit_input_of_none h, ChipList.commit, if_pos (hblank.1 ht)]
  · rw [if_neg ht] at h
    rw [edit_input_of_some h, list_edit_add, ChipList.commit, if_neg (ht ∘ hblank.2), list, hb]
    rfl

/-- An edit of the set is an edit of the list. -/
theorem list_edit (s : ChipSet) (e : ChipEdit) : (s.edit e).1.list = s.list.step e := by
  cases e with
  | add text => exact list_edit_add s text
  | remove v =>
    by_cases h : v ∈ s.values
    · rw [edit_remove_of_mem h]
      rfl
    · rw [edit_remove_of_not_mem h, ChipList.step, show s.list.values.erase v = _ from List.erase_of_not_mem h]
  | input e =>
    cases e with
    | textChanged text => rw [edit_input_of_none rfl]; rfl
    | focused => rw [edit_input_of_none rfl]; rfl
    | blurred => rw [edit_input_of_none rfl]; rfl
    | enterPressed => exact list_edit_commit rfl rfl
    | addClicked => exact list_edit_commit rfl rfl

/-- The edit reports an added text exactly when the values change. -/
theorem edit_add_taken_iff (s : ChipSet) (text : String) :
    (s.edit (.add text)).2 = true ↔ (s.edit (.add text)).1.values ≠ s.values := by
  by_cases h : Text.trim text = "" ∨ Text.trim text ∈ s.values
  · simp [edit_add_of_refused h]
  · have hv : Text.trim text ∉ s.values := fun hv => h (.inr hv)
    simp [edit_add_of_taken h, values_insert_of_not_mem hv]

/-- An edit is taken if it changes the values. -/
theorem edit_taken_iff (s : ChipSet) (e : ChipEdit) : (s.edit e).2 = true ↔ (s.edit e).1.values ≠ s.values := by
  cases e with
  | add text => exact edit_add_taken_iff s text
  | remove v =>
    by_cases h : v ∈ s.values
    · have hne : s.values.erase v ≠ s.values := by
        intro he
        exact (s.nodup.mem_erase_iff.1 (he ▸ h)).1 rfl
      simpa [edit_remove_of_mem h] using hne
    · simp [edit_remove_of_not_mem h]
  | input e =>
    cases h : s.box.step e with
    | mk b committed =>
      cases committed with
      | none => simp [edit_input_of_none h]
      | some text =>
        -- what the box commits is added as any text, and no value depends on the box
        rw [edit_input_of_some h]
        exact edit_add_taken_iff { s with box := b } text

/-! ## The view -/

/-- A node displays values: it has a visible chip for each, and shows the mark for all values if there is none. -/
structure Displays (n : Node) (vs : List String) : Prop where
  chips : (n.nodes.filter (·.face.kind == .chip)).map (·.face.text) = vs
  visible : n.shown.filter (·.face.kind == .chip) = n.nodes.filter (·.face.kind == .chip)
  mark : (∃ m ∈ n.shown, m.face.kind = .allIndicator) ↔ vs = []

theorem nodes_chipView (a : Access) (d : Dimension) (v : String) :
    (chipView a d v).nodes = chipView a d v :: (a.whenWritable (removeControl d v)).toList := by
  cases a <;> simp [chipView, removeControl, nodes_mk, nodes_leaf]

theorem shown_chipView (a : Access) (d : Dimension) (v : String) :
    (chipView a d v).shown = (chipView a d v).nodes := by
  rw [nodes_chipView]
  cases a <;> simp [chipView, removeControl, shown_mk, shown_leaf]

theorem flatMap_shown_chips (a : Access) (d : Dimension) (vs : List String) :
    (vs.map (chipView a d)).flatMap shown = (vs.map (chipView a d)).flatMap nodes := by
  simp only [List.flatMap_map, shown_chipView]

/-- Among the nodes of rendered chips the chips are those rendered, with no chip inside another. -/
theorem chips_flatMap_nodes (a : Access) (d : Dimension) (vs : List String) :
    ((vs.map (chipView a d)).flatMap nodes).filter (·.face.kind == .chip) = vs.map (chipView a d) := by
  induction vs with
  | nil => rfl
  | cons v vs ih =>
    rw [List.map_cons, List.flatMap_cons, List.filter_append, ih, nodes_chipView]
    cases a <;> simp [chipView, removeControl]

theorem marks_flatMap_nodes (a : Access) (d : Dimension) (vs : List String) :
    ((vs.map (chipView a d)).flatMap nodes).filter (·.face.kind == .allIndicator) = [] := by
  induction vs with
  | nil => rfl
  | cons v vs ih =>
    rw [List.map_cons, List.flatMap_cons, List.filter_append, ih, nodes_chipView]
    cases a <;> simp [chipView, removeControl]

/-- The mark for all values, as it is shown over an empty set. -/
def shownMark : Node := .leaf { kind := .allIndicator, className := "all-indicator", text := " All" }

/-- The mark for all values is shown exactly when there is no chip. -/
theorem marks_view (s : ChipSet) (a : Access) (d : Dimension) :
    (s.view a d).shown.filter (·.face.kind == .allIndicator) = if s.values = [] then [shownMark] else [] := by
  by_cases h : s.values = [] <;>
    cases a <;> simp [view, headerView, ChipBox.view, shown_mk, shown_leaf, flatMap_shown_chips, marks_flatMap_nodes,
      apply_ite (List.filter _), shownMark, h]

/-- What is rendered shows the values, in either mode. -/
theorem displays_view (s : ChipSet) (a : Access) (d : Dimension) : Displays (s.view a d) s.values := by
  have hchips : (s.view a d).nodes.filter (·.face.kind == .chip) = s.values.map (chipView a d) := by
    cases a <;> simp [view, headerView, ChipBox.view, nodes_mk, nodes_leaf, chips_flatMap_nodes]
  have hvisible : (s.view a d).shown.filter (·.face.kind == .chip) = s.values.map (chipView a d) := by
    cases a <;> simp [view, headerView, ChipBox.view, shown_mk, shown_leaf, flatMap_shown_chips, chips_flatMap_nodes,
      apply_ite (List.filter _)]
  have hmark := s.marks_view a d
  refine ⟨?_, hvisible.trans hchips.symm, ?_⟩
  · rw [hchips, List.map_map]
    exact List.map_id s.values
  · constructor
    · rintro ⟨m, hm, hk⟩
      by_contra h
      rw [if_neg h] at hmark
      exact List.filter_eq_nil_iff.1 hmark m hm (by simp [hk])
    · intro h
      rw [if_pos h] at hmark
      obtain ⟨hm, hk⟩ := List.mem_filter.1 (hmark ▸ List.mem_singleton_self shownMark)
      exact ⟨shownMark, hm, by simpa using hk⟩

/-! ## A run -/

/-- A chip set and its reference list stay in step over any edits. -/
theorem list_run (vs : List String) (es : List ChipEdit) :
    ((ofStored vs).run es).list = (ChipList.ofStored vs).run es := by
  induction es using List.reverseRecOn with
  | nil => exact list_ofStored vs
  | append_singleton es e ih =>
    simp only [run, ChipList.run, List.foldl_append, List.foldl_cons, List.foldl_nil] at ih ⊢
    rw [list_edit, ih]

/-- The set holds exactly the listed values, and shows, reports and sends them. -/
structure Holds (s : ChipSet) (vs : List String) : Prop where
  values : s.values = vs
  nodup : vs.Nodup
  taken : ∀ e, (s.edit e).2 = true ↔ (s.edit e).1.values ≠ vs
  displays : ∀ a d, Displays (s.view a d) vs
  ascending : s.sorted.Pairwise (· < ·)
  sends : ∀ v, v ∈ s.sorted ↔ v ∈ vs

/-- After a run of edits a chip set holds what the same run makes of the first occurrences of the stored values. -/
theorem holds_run (vs : List String) (es : List ChipEdit) :
    ((ofStored vs).run es).Holds ((ChipList.ofStored vs).run es).values := by
  have hvalues : ((ofStored vs).run es).values = ((ChipList.ofStored vs).run es).values :=
    congrArg ChipList.values (list_run vs es)
  rw [← hvalues]
  exact {
    values := rfl
    nodup := ((ofStored vs).run es).nodup
    taken := edit_taken_iff _
    displays := displays_view _
    ascending := pairwise_sorted _
    sends := fun _ => mem_sorted }

end ChipSet

end AckDesk
