import AckDesk.Proofs.View.ReadOnly

/-!
# What a view offers

The affordances of a node are its own and those of its children, from first to last (`affordances_mk`). So each part of
a desk has a list of what it offers, in the order in which it stands in the tree, hidden nodes included, and the desk
offers the lists of its parts one after the other (`Desk.affordances_view`).
-/

namespace AckDesk

open View View.Node

namespace View.Node

variable {f : Face}

theorem preorders_eq_flatMap (ns : List Node) : preorders ns = ns.flatMap preorder := by
  induction ns with
  | nil => rfl
  | cons n ns ih => rw [preorders, ih, List.flatMap_cons]

@[simp] theorem affordances_mk (f : Face) (cs : List Node) :
    (mk f cs).affordances = f.affordance.toList ++ cs.flatMap affordances := by
  have hbelow : (cs.flatMap preorder).filterMap (·.face.affordance) = cs.flatMap affordances := by
    rw [List.filterMap_flatMap]
    exact congrArg (cs.flatMap ·) (funext fun c => by rw [affordances, nodes_eq_preorder])
  rw [affordances, nodes_eq_preorder, preorder, preorders_eq_flatMap, List.filterMap_cons, hbelow, face]
  cases f.affordance <;> rfl

@[simp] theorem affordances_leaf (f : Face) : (leaf f).affordances = f.affordance.toList := by simp [leaf]

/-- Parts that offer one thing each. -/
theorem flatMap_affordances_map {α : Type} (g : α → Node) (h : α → Affordance) (hg : ∀ x, (g x).affordances = [h x])
    (xs : List α) : (xs.map g).flatMap affordances = xs.map h := by
  induction xs with
  | nil => rfl
  | cons x xs ih => simp [hg, ih]

/-- Parts that offer nothing. -/
theorem flatMap_affordances_of_nil {ns : List Node} (h : ∀ n ∈ ns, n.affordances = []) :
    ns.flatMap affordances = [] :=
  List.flatMap_eq_nil_iff.2 h

end View.Node

@[simp] theorem Access.whenWritable_writable {α : Type} (x : α) : Access.writable.whenWritable x = some x := rfl

/-! ## Parts of the desk -/

theorem Search.affordances_view (s : Search) :
    s.view.affordances = .searchField :: s.suggestions.map .pickSuggestion ++ [.addFromSearch] := by
  simp [Search.view, Search.menuView, flatMap_affordances_map suggestionView .pickSuggestion fun _ => by
    simp [suggestionView]]

theorem Card.affordances_summaryView (d : Dimension) (s : Summary) : (Card.summaryView d s).affordances = [] := by
  cases h : s.count? <;> simp [Card.summaryView, Card.countView, h]

/-- A card opens its entry, and deletes it if the user may. -/
theorem Card.affordances_view (a : Access) (i : EntryId) (r : Record) (visible pending : Bool) :
    (Card.view a i r visible pending).affordances = .openEntry i :: (a.whenWritable (.deleteEntry i)).toList := by
  have hbody : (Card.bodyView a i r).affordances = [.openEntry i] := by
    simp [Card.bodyView, Card.titleView, Dimension.all, Card.affordances_summaryView]
  cases a <;> simp [Card.view, Card.deleteControl, hbody]

/-- A chip set removes each of its values and takes text for more, if the user may. -/
theorem ChipSet.affordances_view (s : ChipSet) (a : Access) (d : Dimension) : (s.view a d).affordances =
    (a.whenWritable (s.values.map (.removeChip d) ++ [.chipField d, .addChip d])).getD [] := by
  cases a with
  | readOnly =>
    have hchips : (s.values.map (ChipSet.chipView .readOnly d)).flatMap affordances = [] := by
      refine flatMap_affordances_of_nil fun n hn => ?_
      obtain ⟨v, -, rfl⟩ := List.mem_map.1 hn
      simp [ChipSet.chipView]
    simp [ChipSet.view, ChipSet.headerView, hchips]
  | writable =>
    have hchips : (s.values.map (ChipSet.chipView .writable d)).flatMap affordances = s.values.map (.removeChip d) :=
      flatMap_affordances_map _ _ (fun v => by simp [ChipSet.chipView, ChipSet.removeControl]) s.values
    simp [ChipSet.view, ChipSet.headerView, ChipBox.view, hchips]

def Editor.chipOffers (ed : Editor) : List Affordance :=
  Dimension.all.flatMap fun d => (ed.chips.get d).values.map (.removeChip d) ++ [.chipField d, .addChip d]

def Editor.offers (ed : Editor) : Access → List Affordance
  | .writable => ed.chipOffers ++ [.noteField, .close, .save]
  | .readOnly => [.close]

theorem Editor.affordances_view (ed : Editor) (a : Access) : (ed.view a).affordances = ed.offers a := by
  cases a <;>
    simp [Editor.view, Editor.chipViews, Editor.noteField, Editor.footer, Editor.closeButton, Editor.saveButton,
      Editor.offers, Editor.chipOffers, Dimension.all, ChipSet.affordances_view]

theorem Modal.affordances_view (m : Modal) (a : Access) :
    (m.view a).affordances = m.editor.toList.flatMap fun ed => ed.offers a := by
  cases h : m.editor <;> simp [Modal.view, h, Editor.affordances_view]

def NoticeBoard.offers (b : NoticeBoard) : List Affordance := if b.queue.isEmpty then [] else [.dismissNotices]

theorem NoticeBoard.affordances_view (b : NoticeBoard) : b.view.toList.flatMap affordances = b.offers := by
  have hnotices : (b.queue.map noticeView).flatMap affordances = [] := by
    refine flatMap_affordances_of_nil fun n hn => ?_
    obtain ⟨x, -, rfl⟩ := List.mem_map.1 hn
    simp [noticeView]
  unfold NoticeBoard.view NoticeBoard.offers
  split <;> simp [hnotices, dismissButton]

namespace Desk

/-- What the search box offers, if the user may search. -/
def searchOffers (k : Desk) : List Affordance :=
  (k.access.whenWritable (.searchField :: k.search.suggestions.map .pickSuggestion ++ [.addFromSearch])).getD []

def cardOffers (k : Desk) : List Affordance :=
  k.entries.flatMap fun e => .openEntry e.id :: (k.access.whenWritable (.deleteEntry e.id)).toList

def modalOffers (k : Desk) : List Affordance := k.modal.editor.toList.flatMap fun ed => ed.offers k.access

theorem affordances_cardsView (k : Desk) : k.cardsView.affordances = k.cardOffers := by
  have hcard : ∀ e : Entry, (entryView k.access e).affordances =
      .openEntry e.id :: (k.access.whenWritable (.deleteEntry e.id)).toList :=
    fun e => Card.affordances_view ..
  simp [cardsView, cardOffers, List.flatMap_map, hcard]

/-- **What a desk offers**, in the order of the tree: the search box, the cards, the notices and the modal region. -/
theorem affordances_view (k : Desk) :
    k.view.affordances = k.searchOffers ++ (k.cardOffers ++ (k.notices.offers ++ k.modalOffers)) := by
  have hsearch : (k.access.whenWritable k.search.view).toList.flatMap affordances = k.searchOffers := by
    unfold searchOffers
    cases k.access <;> simp [Access.whenWritable, Access.canEdit, Search.affordances_view]
  have hheader : (headerView k.access).affordances = [] := by simp [headerView]
  simp [view, hsearch, hheader, affordances_cardsView, NoticeBoard.affordances_view, Modal.affordances_view, modalOffers]

end Desk

end AckDesk
