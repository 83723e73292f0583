import AckDesk.Proofs.Chip.Replay
import AckDesk.Proofs.Desk.Outcomes
import AckDesk.Proofs.Prompt.Lines
import AckDesk.Prompt.Run

/-!
# Lines that add and remove chips

To add a chip is four events at the text box of its dimension, to remove one is a single event, and all of them revise
the open editor. Where there is none, or it may not be changed, the first is refused and none is applied
(`dispatchAll_of_locked`); otherwise all are, one after the other (`dispatchAll_of_editable`). What they come to is a
change of one chip set (`Changes`): a value is typed into it, whatever was in its box (`ChipSet.typed_eq`), or taken out
(`ChipSet.without_eq`). So either line is carried out as a whole or not at all, and the second takes back what the first
did (`chip_lines`).
-/

namespace AckDesk

variable {σ : Type}

/-! ## Revising the open editor -/

namespace Mount

/-- The mount with the open editor changed. -/
def revise (m : Mount σ) (f : Editor → Editor) : Mount σ :=
  { m with desk := { m.desk with modal := m.desk.modal.modifyEditor f } }

/-- The mount with another chip set in a dimension of the open editor. -/
def withChips (m : Mount σ) (d : Dimension) (s : ChipSet) : Mount σ := m.revise (·.modifyChips d fun _ => s)

/-- There is an open editor, and the user may change it. -/
def Editable (m : Mount σ) : Prop := m.desk.access = .writable ∧ m.desk.modal.isOpen = true

variable {m : Mount σ} {f g : Editor → Editor}

/-- Only what a revision does to the open editor matters. -/
theorem revise_eq (m : Mount σ) (h : ∀ ed, m.desk.modal.editor = some ed → f ed = g ed) : m.revise f = m.revise g := by
  have heditor : m.desk.modal.editor.map f = m.desk.modal.editor.map g := Option.map_congr h
  rw [revise, revise, Modal.modifyEditor, Modal.modifyEditor, heditor]

theorem revise_id (m : Mount σ) : m.revise (fun ed => ed) = m := by
  rw [revise, Modal.modifyEditor, Option.map_id']

/-- Two revisions are one by their composition. -/
theorem revise_revise (m : Mount σ) (f g : Editor → Editor) : (m.revise f).revise g = m.revise fun ed => g (f ed) := by
  simp only [revise, Modal.modifyEditor, Option.map_map]
  rfl

theorem Editable.revise (h : m.Editable) (f : Editor → Editor) : (m.revise f).Editable :=
  ⟨h.1, (Option.isSome_map ..).trans h.2⟩

theorem not_editable_iff : ¬m.Editable ↔ m.desk.access = .readOnly ∨ m.desk.modal.editor = none := by
  unfold Editable Modal.isOpen
  cases m.desk.access <;> cases m.desk.modal.editor <;> simp

/-! ## Events that revise it -/

variable {e : Event}

/-- An event of revision only edits the open editor, or is refused for the access. -/
theorem handle_of_revision (k : Desk) (he : e.revision = some f) :
    k.handle e = if k.access.canEdit then Desk.quietly (k.edit f) else .error (.readOnly e.describe) := by
  cases hc : k.access.canEdit with
  | true => cases e <;> cases he <;> simp [Desk.handle, Desk.apply, hc]
  | false => cases e <;> cases he <;> simp [Desk.handle, Event.isMutation, hc]

/-- An event that revises the editor does nothing else. -/
theorem dispatch_of_editable (h : m.Editable) (he : e.revision = some f) : m.dispatch e = .ok (m.revise f) := by
  have hhandle : m.desk.handle e = .ok ({ m.desk with modal := m.desk.modal.modifyEditor f }, none) := by
    rw [handle_of_revision m.desk he, h.1, Access.canEdit, if_pos rfl, Desk.edit, if_pos h.2]
    rfl
  rw [dispatch, hhandle]
  rfl

/-- A mount that is not editable refuses every revision. -/
theorem dispatch_of_locked (h : ¬m.Editable) (he : e.revision = some f) : ∃ r, m.dispatch e = .error r := by
  have hhandle : ∃ r, m.desk.handle e = .error r := by
    rw [handle_of_revision m.desk he]
    rcases not_editable_iff.1 h with ha | ho
    · rw [ha, Access.canEdit, if_neg Bool.false_ne_true]
      exact ⟨_, rfl⟩
    · rw [Desk.edit, Modal.isOpen, ho]
      cases m.desk.access <;> exact ⟨_, rfl⟩
  obtain ⟨r, hr⟩ := hhandle
  refine ⟨r, ?_⟩
  rw [dispatch, hr]
  rfl

end Mount

namespace Editor

theorem modifyChips_id (ed : Editor) (d : Dimension) : ed.modifyChips d (fun s => s) = ed := by cases d <;> rfl

theorem modifyChips_modifyChips (ed : Editor) (d : Dimension) (f g : ChipSet → ChipSet) :
    (ed.modifyChips d f).modifyChips d g = ed.modifyChips d fun s => g (f s) := by
  cases d <;> rfl

end Editor

theorem Mount.withChips_withChips (m : Mount σ) (d : Dimension) (s t : ChipSet) :
    (m.withChips d s).withChips d t = m.withChips d t := by
  simp only [withChips, revise_revise, Editor.modifyChips_modifyChips]

namespace Prompt

open Text

variable {m : Mount σ} {es : List Event}

/-- The open editor after events that revise it. -/
def reviseAll (es : List Event) (ed : Editor) : Editor := es.foldl (fun ed e => (e.revision.getD id) ed) ed

/-- Events that revise an editor which the user may change are all applied. -/
theorem dispatchAll_of_editable (h : m.Editable) (hes : ∀ e ∈ es, e.revision.isSome = true) :
    dispatchAll m es = (m.revise (reviseAll es), "") := by
  induction es generalizing m with
  | nil => rw [dispatchAll, show reviseAll [] = fun ed => ed from rfl, m.revise_id]
  | cons e es ih =>
    obtain ⟨f, hf⟩ := Option.isSome_iff_exists.1 (hes e List.mem_cons_self)
    have hrest : ∀ e ∈ es, e.revision.isSome = true := fun e he => hes e (List.mem_cons_of_mem _ he)
    have hall : reviseAll (e :: es) = fun ed => reviseAll es (f ed) := by
      funext ed
      rw [reviseAll, List.foldl_cons, hf]
      rfl
    rw [dispatchAll, Mount.dispatch_of_editable h hf]
    dsimp only
    rw [ih (h.revise f) hrest, Mount.revise_revise, hall]

/-- Without such an editor the first one is refused, and none is applied. -/
theorem dispatchAll_of_locked {e : Event} (h : ¬m.Editable) (he : e.revision.isSome = true) :
    ∃ r, dispatchAll m (e :: es) = (m, outputLine (refused r)) := by
  obtain ⟨f, hf⟩ := Option.isSome_iff_exists.1 he
  obtain ⟨r, hr⟩ := Mount.dispatch_of_locked h hf
  exact ⟨r, by rw [dispatchAll, hr]⟩

end Prompt

/-! ## Typing a chip -/

namespace ChipSet

/-- A value is added at the end, unless it is there. -/
theorem values_insert (s : ChipSet) (v : String) :
    (s.insert v).values = if v ∈ s.values then s.values else s.values ++ [v] := by
  by_cases h : v ∈ s.values <;> simp [insert, h]

/-- A value without blanks around it is added as it is. -/
theorem edit_add_of_trimmed (s : ChipSet) {v : String} (hv : Text.Trimmed v) : (s.edit (.add v)).1 = s.insert v := by
  by_cases hmem : v ∈ s.values
  · rw [edit_add_of_refused (.inr (hv.trim_eq.symm ▸ hmem)), values_insert_of_mem hmem]
  · have htaken : ¬(Text.trim v = "" ∨ Text.trim v ∈ s.values) := by
      rw [hv.trim_eq, not_or]
      exact ⟨hv.ne_empty, hmem⟩
    rw [edit_add_of_taken htaken, hv.trim_eq]

/-- The set after a value is typed into the box and entered. -/
def typed (s : ChipSet) (v : String) : ChipSet :=
  [.focused, .textChanged v, .enterPressed, .blurred].foldl (fun s e => (s.feed e).1) s

/-- Typing replaces what was in the box, and entering it leaves the value in the set and the box untouched. -/
theorem typed_eq (s : ChipSet) {v : String} (hv : Text.Trimmed v) :
    (s.typed v).values = (if v ∈ s.values then s.values else s.values ++ [v]) ∧ (s.typed v).box = {} := by
  have hblank : (⟨v, true⟩ : ChipBox).isBlank = false := by
    apply Bool.eq_false_iff.2
    intro h
    rw [ChipBox.isBlank, Text.isBlankText_iff, hv.trim_eq] at h
    exact hv.ne_empty h
  have hentered : (⟨v, true⟩ : ChipBox).step .enterPressed = (⟨"", true⟩, some v) := by
    rw [ChipBox.step, hblank, if_neg Bool.false_ne_true]
  have hcommitted : (({ s with box := ⟨v, true⟩ } : ChipSet).feed .enterPressed).1 =
      ({ s with box := ⟨"", true⟩ } : ChipSet).insert v :=
    (congrArg Prod.fst (edit_input_of_some hentered)).trans (edit_add_of_trimmed _ hv)
  -- what was in the box is replaced before Enter, and it is empty when the focus goes
  have htyped : s.typed v = ((({ s with box := ⟨v, true⟩ } : ChipSet).feed .enterPressed).1.feed .blurred).1 := rfl
  rw [htyped, hcommitted]
  constructor
  · exact values_insert _ v
  · show ChipBox.mk _ (ChipBox.addShown (ChipSet.box _) && !ChipBox.isBlank (ChipSet.box _)) = _
    rw [box_insert]
    rfl

/-- The set without a value, whether it was there or not. -/
def without (s : ChipSet) (v : String) : ChipSet := (s.remove? v).getD s

/-- A chip set without a value: the box stays. -/
theorem without_eq (s : ChipSet) (v : String) :
    (s.without v).values = s.values.erase v ∧ (s.without v).box = s.box := by
  by_cases h : v ∈ s.values
  · rw [without, remove?, if_pos h]
    exact ⟨rfl, rfl⟩
  · rw [without, remove?, if_neg h]
    exact ⟨(List.erase_of_not_mem h).symm, rfl⟩

/-- What is typed can be taken back. -/
theorem values_without_typed (s : ChipSet) {v : String} (hv : Text.Trimmed v) :
    ((s.typed v).without v).values = s.values.erase v := by
  rw [((s.typed v).without_eq v).1, (s.typed_eq hv).1]
  split
  · rfl
  · rename_i hmem
    rw [List.erase_append_right _ hmem, List.erase_cons_head, List.append_nil, List.erase_of_not_mem hmem]

end ChipSet

/-! ## The lines -/

namespace Prompt

open Text

/-- The line calls a dimension and a value behind a word for the verb. -/
def Calls (verb : Verb) (d : Dimension) (v line : String) : Prop :=
  ∃ word argument, Line verb word argument line ∧ Names d v argument

variable {d : Dimension} {v line : String}

variable {m : Mount σ} {f : ChipSet → ChipSet} {e : Event} {es : List Event}

/-- The line is read as events that revise the open editor, and what they come to is a change of one chip set. -/
structure Changes (line : String) (d : Dimension) (f : ChipSet → ChipSet) (e : Event) (es : List Event) : Prop where
  read : Command.ofLine? line = .ok (some (.dispatch (e :: es)))
  revises : ∀ x ∈ e :: es, x.revision.isSome = true
  chips : ∀ ed, reviseAll (e :: es) ed = ed.modifyChips d f

/-- A line of events prints what the events print, and the desk after them. -/
theorem runLine_of_dispatch {out : String} {m' : Mount σ} (hline : Command.ofLine? line = .ok (some (.dispatch es)))
    (h : dispatchAll m es = (m', out)) : runLine m line = (m', out ++ showDesk m'.desk, false) := by
  rw [runLine, hline]
  dsimp only
  rw [runCommand, h]

/-- With an editor that may be changed, the chip set is put in its place and nothing is reported. -/
theorem Changes.runLine_of_open (h : Changes line d f e es) {ed : Editor} (ha : m.desk.access = .writable)
    (hed : m.desk.modal.editor = some ed) :
    runLine m line =
      (m.withChips d (f (ed.chips.get d)), showDesk (m.withChips d (f (ed.chips.get d))).desk, false) := by
  have hm : m.Editable := ⟨ha, by rw [Modal.isOpen, hed]; rfl⟩
  have hrevised : m.revise (reviseAll (e :: es)) = m.withChips d (f (ed.chips.get d)) := by
    apply m.revise_eq
    intro ed' hed'
    obtain rfl := Option.some.inj (hed.symm.trans hed')
    exact h.chips ed
  rw [runLine_of_dispatch h.read (dispatchAll_of_editable hm h.revises), hrevised, String.empty_append]

/-- Otherwise a refusal is reported, and nothing changes. -/
theorem Changes.runLine_of_locked (h : Changes line d f e es) (hm : ¬m.Editable) :
    ∃ r, runLine m line = (m, outputLine (refused r) ++ showDesk m.desk, false) := by
  have hrefused : ∃ r, dispatchAll m (e :: es) = (m, outputLine (refused r)) :=
    dispatchAll_of_locked hm (h.revises e List.mem_cons_self)
  obtain ⟨r, hr⟩ := hrefused
  exact ⟨r, runLine_of_dispatch h.read hr⟩

/-- In either case only the desk changes, and the prompt goes on. -/
theorem Changes.runLine_quiet (h : Changes line d f e es) :
    ∃ k out, runLine m line = ({ m with desk := k }, out, false) := by
  by_cases hm : m.Editable
  · exact ⟨_, _, runLine_of_dispatch h.read (dispatchAll_of_editable hm h.revises)⟩
  · obtain ⟨r, hr⟩ := h.runLine_of_locked hm
    exact ⟨m.desk, _, hr⟩

/-! ## Adding and removing -/

/-- Events in the box of a dimension change the chips of that dimension alone. -/
theorem reviseAll_chipBox (d : Dimension) (bs : List BoxEvent) (ed : Editor) :
    reviseAll (bs.map (.chipBox d)) ed = ed.modifyChips d fun s => bs.foldl (fun s b => (s.feed b).1) s := by
  induction bs generalizing ed with
  | nil => exact (ed.modifyChips_id d).symm
  | cons b bs ih =>
    rw [List.map_cons, reviseAll, List.foldl_cons]
    exact (ih _).trans (ed.modifyChips_modifyChips d _ _)

/-- A line that calls for a chip types it. -/
theorem Calls.changes_chip (h : Calls .chip d v line) : ∃ e es, Changes line d (·.typed v) e es := by
  obtain ⟨word, argument, hline, hnames⟩ := h
  refine ⟨.chipBox d .focused, [.textChanged v, .enterPressed, .blurred].map (.chipBox d), ?_, ?_, ?_⟩
  · rw [hline.ofLine?_eq, Command.ofVerb, (dimensionAndValue_eq_ok_iff hline.tight).2 hnames]
    rfl
  · intro x hx
    obtain ⟨b, -, rfl⟩ := List.mem_map.1 (show x ∈ Command.typeChip d v from hx)
    rfl
  · exact reviseAll_chipBox d [.focused, .textChanged v, .enterPressed, .blurred]

/-- A line that calls for its removal removes it. -/
theorem Calls.changes_unchip (h : Calls .unchip d v line) : ∃ e es, Changes line d (·.without v) e es := by
  obtain ⟨word, argument, hline, hnames⟩ := h
  refine ⟨.chipRemoveClicked d v, [], ?_, ?_, fun _ => rfl⟩
  · exact ofLine?_eq_dispatch_iff.2 ⟨.unchip, word, argument, .unchip hnames, hline⟩
  · intro x hx
    rw [List.mem_singleton.1 hx]
    rfl

/-- What a line that adds a chip and one that removes it do to a mount. -/
structure ChipLines (m : Mount σ) (d : Dimension) (v add remove : String) : Prop where
  /-- Without an editor that may be changed, both are refused and change nothing. -/
  locked : m.desk.access = .readOnly ∨ m.desk.modal.editor = none → ∀ line ∈ [add, remove],
    ∃ r, runLine m line = (m, outputLine (refused r) ++ showDesk m.desk, false)
  /-- Otherwise the chip set of the dimension alone changes. The value is appended, unless it is there, by the first
  line and gone after the second; the text box is empty after both, without its add control. -/
  inverse : ∀ ed, m.desk.access = .writable → m.desk.modal.editor = some ed → ∃ s t : ChipSet,
    runLine m add = (m.withChips d s, showDesk (m.withChips d s).desk, false) ∧
    runLine (m.withChips d s) remove = (m.withChips d t, showDesk (m.withChips d t).desk, false) ∧
    s.values = (if v ∈ (ed.chips.get d).values then (ed.chips.get d).values else (ed.chips.get d).values ++ [v]) ∧
    t.values = (ed.chips.get d).values.erase v ∧ s.box = {} ∧ t.box = {}
  /-- No call is started, and the prompt goes on. -/
  quiet : ∀ line ∈ [add, remove], ∃ k out, runLine m line = ({ m with desk := k }, out, false)

/-- **Lines that add and remove a chip** are carried out as a whole or not at all, and the second takes back what the
first did, over every backend and whatever the spacing, the words and the text box. -/
theorem chip_lines (m : Mount σ) {add remove : String} (hadd : Calls .chip d v add)
    (hremove : Calls .unchip d v remove) : ChipLines m d v add remove := by
  have hv : Trimmed v := by
    obtain ⟨word, argument, -, hnames⟩ := hadd
    exact hnames.1
  obtain ⟨e, es, hadds⟩ := hadd.changes_chip
  obtain ⟨e', es', hremoves⟩ := hremove.changes_unchip
  refine ⟨?_, ?_, ?_⟩
  · intro hlocked line hline
    have hm := Mount.not_editable_iff.2 hlocked
    rcases List.mem_pair.1 hline with rfl | rfl
    · exact hadds.runLine_of_locked hm
    · exact hremoves.runLine_of_locked hm
  · intro ed ha hed
    let s := (ed.chips.get d).typed v
    -- the second line runs on what the first one left, where the chip set is `s`
    have hs : (m.withChips d s).desk.modal.editor = some (ed.modifyChips d fun _ => s) :=
      congrArg (Option.map _) hed
    have hline := hremoves.runLine_of_open (m := m.withChips d s) ha hs
    rw [Editor.modifyChips, Scoped.get_modify_self, Mount.withChips_withChips] at hline
    obtain ⟨hvalues, hbox⟩ := (ed.chips.get d).typed_eq hv
    exact ⟨s, s.without v, hadds.runLine_of_open ha hed, hline, hvalues, (ed.chips.get d).values_without_typed hv, hbox,
      (s.without_eq v).2.trans hbox⟩
  · intro line hline
    rcases List.mem_pair.1 hline with rfl | rfl
    · exact hadds.runLine_quiet
    · exact hremoves.runLine_quiet

/-- An editor that is open on a card, with text left in the box for branches. -/
def halfTyped : Mount Unit :=
  let k := Desk.ofRecords [] [⟨some ⟨"k1"⟩, "boot", ⟨["main"], [], []⟩, none⟩] .writable {}
  let modal : Modal := Modal.openOn {} ⟨1⟩ ⟨some ⟨"k1"⟩, "boot", ⟨["main"], [], []⟩, none⟩
  let m : Mount Unit := { desk := { k with modal }, backend := () }
  m.revise (·.modifyChips .branches fun s => (s.feed (.textChanged "left over")).1)

theorem chip_lines_halfTyped :
    Calls .chip .branches "release 2" "\tCHIP\u3000Branch \u00a0release 2 " ∧
    Calls .unchip .branches "release 2" "uc b release 2" ∧
    ChipLines halfTyped .branches "release 2" "\tCHIP\u3000Branch \u00a0release 2 " "uc b release 2" ∧
    ∃ ed s, halfTyped.desk.modal.editor = some ed ∧
      (runLine halfTyped "\tCHIP\u3000Branch \u00a0release 2 ").1 = halfTyped.withChips .branches s ∧
      s.values = ["main", "release 2"] := by
  have hv : Trimmed "release 2" := by decide
  have hadd : Calls .chip .branches "release 2" "\tCHIP\u3000Branch \u00a0release 2 " := by
    refine ⟨"CHIP".toList, "Branch \u00a0release 2".toList, ⟨?_, ?_, ?_⟩, hv, "Branch".toList, ?_, ?_⟩
    · exact Verb.ofWord?_eq_some_iff.1 (by decide)
    · decide
    · exact ⟨['\t'], ['\u3000'], [' '], by decide, by decide, by decide, by decide, by decide⟩
    · exact dimension?_eq_some_iff.1 (by decide)
    · exact ⟨[], [' ', '\u00a0'], [], by decide, by decide, by decide, by decide, by decide⟩
  have hremove : Calls .unchip .branches "release 2" "uc b release 2" := by
    refine ⟨"uc".toList, "b release 2".toList, ⟨?_, ?_, ?_⟩, hv, "b".toList, ?_, ?_⟩
    · exact Verb.ofWord?_eq_some_iff.1 (by decide)
    · decide
    · exact spaced_blank (by decide)
    · exact dimension?_eq_some_iff.1 (by decide)
    · exact spaced_blank (by decide)
  have h := chip_lines halfTyped hadd hremove
  obtain ⟨ed, hed, hvalues⟩ : ∃ ed, halfTyped.desk.modal.editor = some ed ∧
      (ed.chips.get .branches).values = ["main"] := ⟨_, rfl, by decide⟩
  obtain ⟨s, -, hline, -, hs, -⟩ := h.inverse ed rfl hed
  refine ⟨hadd, hremove, h, ed, s, hed, congrArg Prod.fst hline, ?_⟩
  rw [hs, hvalues]
  decide

end Prompt

end AckDesk
