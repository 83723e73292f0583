import AckDesk.Proofs.Flight.Access
import AckDesk.Proofs.Flight.Offering
import AckDesk.Proofs.View.ChipPlace

/-!
# Removing a chip with its control

The controls that remove chips of a dimension stand in the view in the order of its values, one for each
(`Desk.filterMap_affordances_view`). Activating one of them is never refused; it takes this value off the dimension, and
changes nothing else at the desk or in the view but this chip and the mark for all values (`unchips_run`).
-/

namespace AckDesk

open View View.Node

/-- The value of a dimension that the affordance removes, if it does so. -/
def Affordance.chip? (d : Dimension) : Affordance → Option String
  | .removeChip d' v => if d' = d then some v else none
  | _ => none

theorem Affordance.chip?_eq_some {a : Affordance} {d : Dimension} {v : String} :
    a.chip? d = some v ↔ a = .removeChip d v := by
  cases a with
  | removeChip d' w => simp [chip?]
  | _ => simp [chip?]

/-! ## The controls in the view -/

/-- The controls of a dimension among those of a chip set. -/
theorem ChipSet.filterMap_offers (s : ChipSet) (x d : Dimension) :
    (s.values.map (Affordance.removeChip x) ++ [Affordance.chipField x, .addChip x]).filterMap (Affordance.chip? d) =
      if x = d then s.values else [] := by
  have hfield : [Affordance.chipField x, .addChip x].filterMap (Affordance.chip? d) = [] := rfl
  rw [List.filterMap_append, List.filterMap_map, hfield, List.append_nil]
  by_cases h : x = d <;> simp [Function.comp_def, Affordance.chip?, h]

/-- The controls of a dimension among those of an editor. -/
theorem Editor.filterMap_chipOffers (ed : Editor) (d : Dimension) :
    ed.chipOffers.filterMap (Affordance.chip? d) = (ed.chips.get d).values := by
  rw [chipOffers, List.filterMap_flatMap]
  simp only [ChipSet.filterMap_offers]
  cases d <;> simp [Dimension.all]

namespace Desk

variable {k : Desk} {ed : Editor} {d : Dimension} {v : String}

/-- **The controls that remove chips of a dimension** are those of its values, in their order. -/
theorem filterMap_affordances_view (ha : k.access = .writable) (hed : k.modal.editor = some ed) (d : Dimension) :
    k.view.affordances.filterMap (Affordance.chip? d) = (ed.chips.get d).values := by
  have hsearch : k.searchOffers.filterMap (Affordance.chip? d) = [] := by
    refine List.filterMap_eq_nil_iff.2 fun a h => ?_
    rcases mem_searchOffers h with rfl | ⟨name, rfl⟩ | rfl <;> rfl
  have hcards : k.cardOffers.filterMap (Affordance.chip? d) = [] := by
    refine List.filterMap_eq_nil_iff.2 fun a h => ?_
    obtain ⟨e, -, rfl | rfl⟩ := mem_cardOffers h <;> rfl
  have hnotices : k.notices.offers.filterMap (Affordance.chip? d) = [] := by
    refine List.filterMap_eq_nil_iff.2 fun a h => ?_
    rw [mem_notices_offers h]
    rfl
  have hmodal : k.modalOffers = ed.chipOffers ++ [.noteField, .close, .save] := by
    simp [modalOffers, hed, ha, Editor.offers]
  have hrest : [Affordance.noteField, .close, .save].filterMap (Affordance.chip? d) = [] := rfl
  simp only [affordances_view, hmodal, List.filterMap_append, hsearch, hcards, hnotices, hrest, List.nil_append,
    List.append_nil, Editor.filterMap_chipOffers]

theorem removeChip_mem_affordances_iff (ha : k.access = .writable) (hed : k.modal.editor = some ed) :
    .removeChip d v ∈ k.view.affordances ↔ v ∈ (ed.chips.get d).values := by
  rw [← filterMap_affordances_view ha hed, List.mem_filterMap]
  simp [Affordance.chip?_eq_some]

/-! ## Activating a control -/

/-- The desk `k'` with the open editor `ed'` is `k` with `ed`, but for one value of a dimension and what the view shows
of it. -/
structure Unchips (k : Desk) (ed : Editor) (d : Dimension) (v : String) (k' : Desk) (ed' : Editor) : Prop where
  desk : k' = { k with modal := { k.modal with editor := some ed' } }
  editor : ed' = { ed with chips := ed'.chips }
  values : (ed'.chips.get d).values = (ed.chips.get d).values.erase v
  box : (ed'.chips.get d).box = (ed.chips.get d).box
  others : ∀ x, x ≠ d → ed'.chips.get x = ed.chips.get x
  /-- The two views differ at most in the place where the chip set of the dimension stands. -/
  view : ∃ fs, k.view = plug fs ((ed.chips.get d).view .writable d) ∧
    k'.view = plug fs ((ed'.chips.get d).view .writable d)
  /-- There the chip is gone, and the mark for all values has come if it was the last one. -/
  chip : ChipSet.DropsChip d v (ed'.chips.get d).values.isEmpty ((ed.chips.get d).view .writable d)
    ((ed'.chips.get d).view .writable d)
  /-- The chip set is visible, with the chips that are left. -/
  shown : (ed'.chips.get d).view .writable d ∈ k'.view.shown
  displays : ChipSet.Displays ((ed'.chips.get d).view .writable d) (ed'.chips.get d).values

theorem unchips_handle (ha : k.access = .writable) (hed : k.modal.editor = some ed)
    (hv : v ∈ (ed.chips.get d).values) :
    ∃ k' ed', k.handle (.chipRemoveClicked d v) = .ok (k', none) ∧ k.Unchips ed d v k' ed' := by
  have hremove : (ed.chips.get d).remove? v = some
      ⟨(ed.chips.get d).values.erase v, (ed.chips.get d).box, (ed.chips.get d).nodup.erase v⟩ := if_pos hv
  let ed' := ed.modifyChips d fun s => (s.remove? v).getD s
  let k' : Desk := { k with modal := { k.modal with editor := some ed' } }
  have hget : ed'.chips.get d =
      ⟨(ed.chips.get d).values.erase v, (ed.chips.get d).box, (ed.chips.get d).nodup.erase v⟩ := by
    rw [show ed'.chips.get d = _ from Scoped.get_modify_self .., hremove, Option.getD_some]
  have hvalues : (ed'.chips.get d).values = (ed.chips.get d).values.erase v := by rw [hget]
  have hbox : (ed'.chips.get d).box = (ed.chips.get d).box := by rw [hget]
  have hframes : k'.frames ed' d = k.frames ed d := by
    simp only [frames, k', ed', Editor.frames_modifyChips]
    rfl
  have hview : k'.view = plug (k.frames ed d) ((ed'.chips.get d).view .writable d) := by
    rw [view_eq_plug (k := k') rfl d, hframes]
    exact congrArg (fun a => plug (k.frames ed d) ((ed'.chips.get d).view a d)) ha
  refine ⟨k', ed', ?_, ?_⟩
  · simp [handle, apply, edit, quietly, Except.map, Event.isMutation, Access.canEdit, ha, Modal.isOpen, hed,
      Modal.modifyEditor, k', ed']
  · exact {
      desk := rfl
      editor := rfl
      values := hvalues
      box := hbox
      others := fun x hx => Scoped.get_modify_of_ne _ _ hx
      view := ⟨k.frames ed d, ha ▸ view_eq_plug hed d, hview⟩
      chip := ChipSet.dropsChip_view hv hvalues hbox d
      shown := hview ▸ mem_shown_plug (fun _ hf => hidden_frames hf) (mem_shown_self rfl _)
      displays := ChipSet.displays_view _ _ _ }

end Desk

namespace Flight

/-- **Removing a chip with its control**: in every state of a run over a page that may be changed, the view offers for
each dimension of the open editor to remove its values, each once and in their order, and what is offered is done. -/
theorem unchips_run (p : Page) (o : Options) (hp : p.readOnly = false) (ms : List Move) {ed : Editor}
    (hed : ((start p o).run ms).desk.modal.editor = some ed) (d : Dimension) :
    ((start p o).run ms).desk.view.affordances.filterMap (Affordance.chip? d) = (ed.chips.get d).values ∧
    ∀ v, .removeChip d v ∈ ((start p o).run ms).desk.view.affordances → ∀ text, ∃ k' ed',
      ((start p o).run ms).desk.handle ((Affordance.removeChip d v).toEvent text) = .ok (k', none) ∧
      ((start p o).run ms).desk.Unchips ed d v k' ed' := by
  have ha : ((start p o).run ms).desk.access = .writable := by
    rw [access_run, hp]
    rfl
  refine ⟨Desk.filterMap_affordances_view ha hed d, ?_⟩
  intro v hv text
  exact Desk.unchips_handle ha hed ((Desk.removeChip_mem_affordances_iff ha hed).1 hv)

/-- A card with branches that nobody could type: blanks at both ends, no character at all, a quote. -/
def oddBranches : Page := ⟨[], [⟨some ⟨"k1"⟩, "boot", ⟨[" main ", "", "a\"b"], ["wall"], []⟩, none⟩], false⟩

theorem unchips_oddBranches : ∃ ed, oddBranches.readOnly = false ∧
    ((start oddBranches {}).run [.event (.cardClicked ⟨1⟩)]).desk.modal.editor = some ed ∧
    ((start oddBranches {}).run [.event (.cardClicked ⟨1⟩)]).desk.view.affordances.filterMap
      (Affordance.chip? .branches) = [" main ", "", "a\"b"] ∧
    ∃ k' ed', ((start oddBranches {}).run [.event (.cardClicked ⟨1⟩)]).desk.handle
        ((Affordance.removeChip .branches "").toEvent "ignored") = .ok (k', none) ∧
      ((start oddBranches {}).run [.event (.cardClicked ⟨1⟩)]).desk.Unchips ed .branches "" k' ed' ∧
      (ed'.chips.get .branches).values = [" main ", "a\"b"] := by
  obtain ⟨ed, hed, hvalues⟩ : ∃ ed, ((start oddBranches {}).run [.event (.cardClicked ⟨1⟩)]).desk.modal.editor =
      some ed ∧ (ed.chips.get .branches).values = [" main ", "", "a\"b"] := ⟨_, rfl, by decide⟩
  obtain ⟨hoffers, hdone⟩ := unchips_run oddBranches {} rfl [.event (.cardClicked ⟨1⟩)] hed .branches
  rw [hvalues] at hoffers
  have hoffered : .removeChip .branches "" ∈
      ((start oddBranches {}).run [.event (.cardClicked ⟨1⟩)]).desk.view.affordances := by
    have hlisted : "" ∈ ((start oddBranches {}).run [.event (.cardClicked ⟨1⟩)]).desk.view.affordances.filterMap
        (Affordance.chip? .branches) := by
      rw [hoffers]
      decide
    obtain ⟨a, ha, hv⟩ := List.mem_filterMap.1 hlisted
    exact Affordance.chip?_eq_some.1 hv ▸ ha
  obtain ⟨k', ed', hhandle, hunchips⟩ := hdone "" hoffered "ignored"
  refine ⟨ed, rfl, hed, hoffers, k', ed', hhandle, hunchips, ?_⟩
  rw [hunchips.values, hvalues]
  decide

end Flight

end AckDesk
