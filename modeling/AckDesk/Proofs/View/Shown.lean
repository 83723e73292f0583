import AckDesk.Proofs.View.Offers

/-!
# What a view shows

A node is visible if neither it nor a node above it is hidden. The visible nodes are listed in pre-order
(`Node.shown`): they are some of the nodes of the tree in their order (`shown_sublist`), and the visible text of a
tree is what they say one after the other (`visibleText_eq_join`).
-/

namespace AckDesk.View.Node

mutual

/-- The visible nodes, each before its children: a hidden node hides all below it. -/
def shown : Node → List Node
  | mk f cs => if f.hidden then [] else mk f cs :: showns cs

/-- The visible nodes of several trees, one tree after the other. -/
def showns : List Node → List Node
  | [] => []
  | n :: ns => shown n ++ showns ns

end

theorem showns_eq_flatMap (ns : List Node) : showns ns = ns.flatMap shown := by
  induction ns with
  | nil => rfl
  | cons n ns ih => rw [showns, ih, List.flatMap_cons]

@[simp] theorem face_mk (f : Face) (cs : List Node) : (mk f cs).face = f := rfl

@[simp] theorem face_leaf (f : Face) : (leaf f).face = f := rfl

theorem nodes_mk (f : Face) (cs : List Node) : (mk f cs).nodes = mk f cs :: cs.flatMap nodes := by
  rw [nodes_eq_preorder, preorder, preorders_eq_flatMap]
  exact congrArg (mk f cs :: cs.flatMap ·) (funext fun c => (nodes_eq_preorder c).symm)

theorem shown_mk (f : Face) (cs : List Node) :
    (mk f cs).shown = if f.hidden then [] else mk f cs :: cs.flatMap shown := by
  rw [shown, showns_eq_flatMap]

theorem nodes_leaf (f : Face) : (leaf f).nodes = [leaf f] := by rw [leaf, nodes_mk, List.flatMap_nil]

theorem shown_leaf (f : Face) : (leaf f).shown = if f.hidden then [] else [leaf f] := by
  rw [leaf, shown_mk, List.flatMap_nil]

theorem shown_of_hidden {f : Face} (h : f.hidden = true) (cs : List Node) : (mk f cs).shown = [] := by
  rw [shown_mk, if_pos h]

theorem shown_of_not_hidden {f : Face} (h : f.hidden = false) (cs : List Node) :
    (mk f cs).shown = mk f cs :: cs.flatMap shown := by
  rw [shown_mk, h, if_neg Bool.false_ne_true]

theorem mem_shown_self {f : Face} (h : f.hidden = false) (cs : List Node) : mk f cs ∈ (mk f cs).shown := by
  rw [shown_of_not_hidden h]
  exact List.mem_cons_self

/-- What a child shows is shown, unless the node is hidden. -/
theorem mem_shown_of_child {f : Face} {cs : List Node} {c n : Node} (h : f.hidden = false) (hc : c ∈ cs)
    (hn : n ∈ c.shown) : n ∈ (mk f cs).shown := by
  rw [shown_of_not_hidden h]
  exact List.mem_cons_of_mem _ (List.mem_flatMap.2 ⟨c, hc, hn⟩)

mutual

/-- The visible nodes are some of the nodes, in their order. -/
theorem shown_sublist : ∀ n : Node, n.shown.Sublist n.nodes
  | mk f cs => by
    rw [nodes_mk]
    cases h : f.hidden with
    | true => simp [shown_of_hidden h]
    | false =>
      rw [shown_of_not_hidden h]
      exact (flatMap_shown_sublist cs).cons_cons _

theorem flatMap_shown_sublist : ∀ ns : List Node, (ns.flatMap shown).Sublist (ns.flatMap nodes)
  | [] => List.Sublist.refl _
  | n :: ns => by
    simp only [List.flatMap_cons]
    exact (shown_sublist n).append (flatMap_shown_sublist ns)

end

mutual

/-- The visible text of a tree is what its visible nodes say. -/
theorem visibleText_eq_join : ∀ n : Node, n.visibleText = String.join (n.shown.map fun m => shownText m.face)
  | mk f cs => by
    cases h : f.hidden with
    | true => simp [visibleText, shown_of_hidden h, h]
    | false =>
      rw [visibleText, h, if_neg Bool.false_ne_true, visibleTexts_eq_join cs, shown_of_not_hidden h, List.map_cons,
        String.join_cons, face]

theorem visibleTexts_eq_join : ∀ ns : List Node,
    visibleTexts ns = String.join ((ns.flatMap shown).map fun m => shownText m.face)
  | [] => by simp [visibleTexts]
  | n :: ns => by
    rw [visibleTexts, visibleText_eq_join n, visibleTexts_eq_join ns, List.flatMap_cons, List.map_append,
      String.join_append]

end

end AckDesk.View.Node
