import AckDesk.View.Node

/-!
# What holds all over a view

A property holds **everywhere** in a tree if it holds of the face of every node, hidden ones included
(`Node.Everywhere`). It does so if it holds of the face on top and everywhere below (`everywhere_mk`), so that it is
proved along the definitions that build a view. What holds everywhere holds of all that a query finds
(`Everywhere.of_mem_affordances`, `Everywhere.of_mem_textEntries`).
-/

namespace AckDesk.View.Node

variable {P : Face → Prop} {f : Face} {cs : List Node} {n : Node}

/-- The property holds of every face of the tree. -/
def Everywhere (P : Face → Prop) (n : Node) : Prop := ∀ m ∈ n.nodes, P m.face

theorem mem_preorders {m : Node} {ns : List Node} : m ∈ preorders ns ↔ ∃ c ∈ ns, m ∈ preorder c := by
  induction ns with
  | nil => simp [preorders]
  | cons n ns ih => simp [preorders, ih]

theorem everywhere_mk : Everywhere P (mk f cs) ↔ P f ∧ ∀ c ∈ cs, Everywhere P c := by
  simp only [Everywhere, nodes_eq_preorder, preorder, List.forall_mem_cons, mem_preorders]
  refine and_congr_right fun _ => ⟨?_, ?_⟩
  · intro h c hc m hm
    exact h m ⟨c, hc, hm⟩
  · rintro h m ⟨c, hc, hm⟩
    exact h c hc m hm

theorem everywhere_leaf : Everywhere P (leaf f) ↔ P f := by simp [leaf, everywhere_mk]

/-- What holds everywhere holds of every node with an affordance. -/
theorem Everywhere.of_mem_affordances (h : Everywhere P n) {a : Affordance} (ha : a ∈ n.affordances) :
    ∃ f, f.affordance = some a ∧ P f := by
  obtain ⟨m, hm, hf⟩ := List.mem_filterMap.1 ha
  exact ⟨m.face, hf, h m hm⟩

/-- What holds everywhere holds of every node that takes text. -/
theorem Everywhere.of_mem_textEntries (h : Everywhere P n) {m : Node} (hm : m ∈ n.textEntries) :
    m.face.kind.isTextEntry = true ∧ P m.face := by
  obtain ⟨hm, ht⟩ := List.mem_filter.1 hm
  exact ⟨ht, h m hm⟩

end AckDesk.View.Node
