import AckDesk.Desk.View
import AckDesk.Proofs.View.Shown
import AckDesk.View.Outline
import Mathlib.Data.List.Forall2

/-!
# What hidden nodes contribute

Cutting a tree takes away every hidden node below the root, with all that is below it (`Node.cut`). All visible nodes
are left (`map_face_shown_cut`) and no others (`everywhere_cut`), and the outline and the visible text stay as they are
(`likeShown_cut`).

Two trees that differ in nothing but the content of hidden nodes (`Node.Alike`) are cut to one and the same tree, so
that nobody can tell them apart by what is shown (`Alike.likeShown`). In the view of a desk the cards of hidden drafts
are cut, and these can as well be missing (`hidden_nodes_never_show`).
-/

namespace AckDesk

open View View.Node

namespace View.Node

/-- Nobody can tell the trees apart by what is shown. -/
structure LikeShown (n m : Node) : Prop where
  outline : n.outline = m.outline
  text : n.visibleText = m.visibleText

/-! ## Cutting a tree -/

mutual

/-- The tree without the hidden nodes below its root. -/
def cut : Node → Node
  | mk f cs => mk f (cuts cs)

/-- The trees that have a visible root, all of them cut. -/
def cuts : List Node → List Node
  | [] => []
  | n :: ns => if n.face.hidden then cuts ns else cut n :: cuts ns

end

theorem cuts_cons_of_hidden {n : Node} (h : n.face.hidden = true) (ns : List Node) : cuts (n :: ns) = cuts ns := by
  rw [cuts, if_pos h]

theorem cuts_cons_of_not_hidden {n : Node} (h : n.face.hidden = false) (ns : List Node) :
    cuts (n :: ns) = n.cut :: cuts ns := by
  rw [cuts, h, if_neg Bool.false_ne_true]

theorem cuts_append (ns ms : List Node) : cuts (ns ++ ms) = cuts ns ++ cuts ms := by
  induction ns with
  | nil => rfl
  | cons n ns ih =>
    cases h : n.face.hidden with
    | true => rw [List.cons_append, cuts_cons_of_hidden h, cuts_cons_of_hidden h, ih]
    | false => rw [List.cons_append, cuts_cons_of_not_hidden h, cuts_cons_of_not_hidden h, ih, List.cons_append]

/-! ## What is left -/

mutual

/-- No hidden node is left below a visible root. -/
theorem everywhere_cut : ∀ n : Node, n.face.hidden = false → Everywhere (·.hidden = false) n.cut
  | mk _ cs, h => everywhere_mk.2 ⟨h, everywhere_of_mem_cuts cs⟩

theorem everywhere_of_mem_cuts : ∀ (ns : List Node), ∀ c ∈ cuts ns, Everywhere (·.hidden = false) c
  | n :: ns, c, hc => by
    cases h : n.face.hidden with
    | true =>
      rw [cuts_cons_of_hidden h] at hc
      exact everywhere_of_mem_cuts ns c hc
    | false =>
      rw [cuts_cons_of_not_hidden h] at hc
      rcases List.mem_cons.1 hc with rfl | hc
      · exact everywhere_cut n h
      · exact everywhere_of_mem_cuts ns c hc

end

theorem shown_of_face_hidden {n : Node} (h : n.face.hidden = true) : n.shown = [] := by
  cases n
  exact shown_of_hidden h _

mutual

/-- All visible nodes are left, in their order. -/
theorem map_face_shown_cut : ∀ n : Node, n.cut.shown.map (·.face) = n.shown.map (·.face)
  | mk f cs => by
    rw [cut]
    cases h : f.hidden with
    | true => rw [shown_of_hidden h, shown_of_hidden h]
    | false =>
      rw [shown_of_not_hidden h, shown_of_not_hidden h, List.map_cons, List.map_cons, map_face_shown_cuts cs, face_mk,
        face_mk]

theorem map_face_shown_cuts : ∀ ns : List Node,
    ((cuts ns).flatMap shown).map (·.face) = (ns.flatMap shown).map (·.face)
  | [] => rfl
  | n :: ns => by
    rw [List.flatMap_cons]
    cases h : n.face.hidden with
    | true => rw [cuts_cons_of_hidden h, map_face_shown_cuts ns, shown_of_face_hidden h, List.nil_append]
    | false =>
      rw [cuts_cons_of_not_hidden h, List.flatMap_cons, List.map_append, List.map_append, map_face_shown_cut n,
        map_face_shown_cuts ns]

end

/-! ## What is shown -/

theorem outlineLines_of_hidden {n : Node} (h : n.face.hidden = true) (depth : Nat) : n.outlineLines depth = [] := by
  cases n
  exact if_pos h

mutual

/-- Hidden nodes have no line, and lines below and behind them stand at the same depth without them. -/
theorem outlineLines_cut : ∀ (n : Node) (depth : Nat), n.cut.outlineLines depth = n.outlineLines depth
  | mk f cs, depth => by
    rw [cut, outlineLines, outlineLines, outlinesLines_cuts cs depth, outlinesLines_cuts cs (depth + 1)]

theorem outlinesLines_cuts : ∀ (ns : List Node) (depth : Nat), outlinesLines depth (cuts ns) = outlinesLines depth ns
  | [], _ => rfl
  | n :: ns, depth => by
    rw [outlinesLines]
    cases h : n.face.hidden with
    | true => rw [cuts_cons_of_hidden h, outlinesLines_cuts ns, outlineLines_of_hidden h, List.nil_append]
    | false => rw [cuts_cons_of_not_hidden h, outlinesLines, outlineLines_cut n, outlinesLines_cuts ns]

end

/-- The visible text is what the visible nodes say, and these are left. -/
theorem visibleText_cut (n : Node) : n.cut.visibleText = n.visibleText := by
  have hsay : ∀ m : Node, m.visibleText = String.join ((m.shown.map (·.face)).map shownText) := by
    intro m
    rw [List.map_map, visibleText_eq_join]
    rfl
  rw [hsay, hsay, map_face_shown_cut]

/-- A tree shows what is left of it when it is cut. -/
theorem likeShown_cut (n : Node) : n.cut.LikeShown n :=
  ⟨by rw [Node.outline, Node.outline, outlineLines_cut], visibleText_cut n⟩

/-- Trees of which the same is left show the same. -/
theorem likeShown_of_cut_eq {n m : Node} (h : n.cut = m.cut) : n.LikeShown m := by
  refine ⟨?_, ?_⟩
  · rw [← (likeShown_cut n).outline, h, (likeShown_cut m).outline]
  · rw [← (likeShown_cut n).text, h, (likeShown_cut m).text]

/-! ## Trees that differ where they are hidden -/

/-- The trees have the same nodes, the content of hidden ones apart: what a hidden node is and what is below it may
differ in everything. -/
inductive Alike : Node → Node → Prop where
  | hidden {f g : Face} (hf : f.hidden = true) (hg : g.hidden = true) (cs ds : List Node) : Alike (mk f cs) (mk g ds)
  | visible {f : Face} (hf : f.hidden = false) {cs ds : List Node} (h : List.Forall₂ Alike cs ds) :
      Alike (mk f cs) (mk f ds)

mutual

/-- Alike trees are both hidden, or the same is left of them. -/
theorem Alike.hidden_or_cut_eq : ∀ (n : Node) {m : Node}, n.Alike m →
    (n.face.hidden = true ∧ m.face.hidden = true) ∨
      (n.face.hidden = false ∧ m.face.hidden = false ∧ n.cut = m.cut)
  | mk f cs, _, h => by
    cases h with
    | hidden hf hg => exact .inl ⟨hf, hg⟩
    | visible hf h => exact .inr ⟨hf, hf, by rw [cut, cut, cuts_eq_of_alike cs h]⟩

theorem cuts_eq_of_alike : ∀ (ns : List Node) {ms : List Node}, List.Forall₂ Alike ns ms → cuts ns = cuts ms
  | [], _, h => by rw [List.forall₂_nil_left_iff.1 h]
  | n :: ns, _, h => by
    obtain ⟨m, ms, hm, hms, rfl⟩ := List.forall₂_cons_left_iff.1 h
    rcases Alike.hidden_or_cut_eq n hm with ⟨hn, hm⟩ | ⟨hn, hm, hcut⟩
    · rw [cuts_cons_of_hidden hn, cuts_cons_of_hidden hm, cuts_eq_of_alike ns hms]
    · rw [cuts_cons_of_not_hidden hn, cuts_cons_of_not_hidden hm, hcut, cuts_eq_of_alike ns hms]

end

theorem Alike.likeShown {n m : Node} (h : n.Alike m) : n.LikeShown m := by
  rcases Alike.hidden_or_cut_eq n h with ⟨hn, hm⟩ | ⟨-, -, hcut⟩
  · -- below a hidden root the two may have nothing in common, but then neither shows anything
    refine ⟨?_, ?_⟩
    · rw [Node.outline, Node.outline, outlineLines_of_hidden hn, outlineLines_of_hidden hm]
    · rw [visibleText_eq_join, visibleText_eq_join, shown_of_face_hidden hn, shown_of_face_hidden hm]
  · exact likeShown_of_cut_eq hcut

end View.Node

/-! ## Hidden drafts -/

namespace Desk

/-- The desk without its hidden drafts. -/
def withoutHiddenDrafts (k : Desk) : Desk := { k with entries := k.entries.filter fun e => !e.isHiddenDraft }

theorem cuts_entryViews (a : Access) (es : List Entry) :
    cuts ((es.filter fun e => !e.isHiddenDraft).map (entryView a)) = cuts (es.map (entryView a)) := by
  induction es with
  | nil => rfl
  | cons e es ih =>
    cases h : e.isHiddenDraft with
    | true =>
      have hv : e.visible = false := by
        rw [Entry.isHiddenDraft, Bool.and_eq_true, Bool.not_eq_true'] at h
        exact h.2
      have hhidden : (entryView a e).face.hidden = true := by
        show (!e.visible) = true
        rw [hv]
        rfl
      rw [List.filter_cons_of_neg (by simp [h]), ih, List.map_cons, cuts_cons_of_hidden hhidden]
    | false =>
      rw [List.filter_cons_of_pos (by simp [h]), List.map_cons, List.map_cons, cuts, cuts, ih]

/-- The cards of hidden drafts are cut anyway. -/
theorem cut_view_withoutHiddenDrafts (k : Desk) : k.withoutHiddenDrafts.view.cut = k.view.cut := by
  have hcards : k.withoutHiddenDrafts.cardsView.cut = k.cardsView.cut := by
    rw [cardsView, cardsView, cut, cut]
    exact congrArg (Node.mk _) (cuts_entryViews k.access k.entries)
  have hheader : (headerView k.access).face.hidden = false := rfl
  have hvisible : ∀ k : Desk, k.cardsView.face.hidden = false := fun _ => rfl
  have hbody : cuts [headerView k.access, k.withoutHiddenDrafts.cardsView] =
      cuts [headerView k.access, k.cardsView] := by
    rw [cuts_cons_of_not_hidden hheader, cuts_cons_of_not_hidden hheader, cuts_cons_of_not_hidden (hvisible _),
      cuts_cons_of_not_hidden (hvisible _), hcards]
  rw [view, view, cut, cut]
  simp only [cuts_append]
  exact congrArg (fun ns => Node.mk _ (cuts (k.access.whenWritable k.search.view).toList ++ ns ++
    cuts k.notices.view.toList ++ cuts [k.modal.view k.access])) hbody

end Desk

/-- **Hidden nodes never show**, neither in the outline nor in the visible text: not if their content is changed, and
not if they are cut out. So the hidden drafts of a desk might as well be missing. -/
theorem hidden_nodes_never_show :
    (∀ n m : Node, n.Alike m → n.LikeShown m) ∧
    (∀ n : Node, n.face.hidden = false → (∀ m ∈ n.cut.nodes, m.face.hidden = false) ∧
      n.cut.shown.map (·.face) = n.shown.map (·.face) ∧ n.cut.LikeShown n) ∧
    (∀ k : Desk, k.withoutHiddenDrafts.view.LikeShown k.view) := by
  refine ⟨fun n m h => h.likeShown, ?_, ?_⟩
  · intro n h
    exact ⟨everywhere_cut n h, map_face_shown_cut n, likeShown_cut n⟩
  · intro k
    exact likeShown_of_cut_eq k.cut_view_withoutHiddenDrafts

/-- Two texts with something between them. -/
def between (n : Node) : Node :=
  .mk { kind := .container, className := "row" } [
    .leaf { kind := .text, text := "first" }, n, .leaf { kind := .text, text := "last" }]

/-- A hidden text. -/
def hiddenText : Node := .leaf { kind := .text, text := "secret", hidden := true }

/-- A hidden card that can be clicked and has a button on it. -/
def hiddenCard : Node :=
  .mk { kind := .card, hidden := true, affordance := some .close } [.leaf { kind := .button, text := "Save" }]

/-- The desk of an empty page after a draft is added for "boot". -/
def draftAdded : Desk :=
  { Desk.ofRecords [] [] .writable {} with entries := [⟨⟨1⟩, .draft "boot", .clean, false⟩], lastId := 1 }

theorem hidden_nodes_never_show_between :
    (between hiddenCard).Alike (between hiddenText) ∧
    (between hiddenCard).LikeShown (between hiddenText) ∧
    (between hiddenCard).outline = "first\nlast\n" ∧
    (between hiddenCard).face.hidden = false ∧ (between hiddenCard).cut.LikeShown (between hiddenCard) ∧
    draftAdded.withoutHiddenDrafts.entries = [] ∧ draftAdded.withoutHiddenDrafts.view.LikeShown draftAdded.view := by
  have htext : ∀ f : Face, f.hidden = false → (leaf f).Alike (leaf f) := fun f hf => .visible hf .nil
  have halike : (between hiddenCard).Alike (between hiddenText) :=
    .visible rfl (.cons (htext _ rfl) (.cons (.hidden rfl rfl _ _) (.cons (htext _ rfl) .nil)))
  obtain ⟨hlike, hcut, hdesk⟩ := hidden_nodes_never_show
  exact ⟨halike, hlike _ _ halike, by decide, rfl, (hcut _ rfl).2.2, by decide, hdesk draftAdded⟩

end AckDesk
