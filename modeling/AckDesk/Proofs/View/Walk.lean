import AckDesk.Proofs.View.Offers

/-!
# Walking a tree

A walk keeps the trees that it has still to visit on a stack, the next one last. Asked for a node, it takes that tree
off, answers with its root, and pushes the children from last to first, so that the first child comes next
(`Node.visit`). The stack stands for the nodes of its trees in pre-order, from the last tree to the first
(`Node.ahead`), and a visit takes the first of these nodes off (`visit_eq`). So **the answers of a walk are the
pre-order of its tree**, and then it ends (`answer_eq`).

A node has an address, the positions of the children on the way down to it (`Node.at?`). Pre-order is the ascending
order of the addresses: a way comes before those that lead on from it, and a way to the left before one to the right
(`pairwise_addresses`). Every address of the tree has its place there (`mem_addresses`), so that each node is visited
once, whatever else in the tree looks like it (`visited`).

The controls of a tree are its nodes with an affordance. Each has as its index the number of controls in front of it
(`affordances_getElem?_eq_some_iff`).
-/

namespace AckDesk.View.Node

/-! ## The stack -/

/-- One question to a walk: what it answers, and the stack that is left. -/
def visit (stack : List Node) : Option Node × List Node :=
  match stack.getLast? with
  | none => (none, stack)
  | some n => (some n, stack.dropLast ++ n.children.reverse)

/-- The answer of a walk that was asked `k` times before. -/
def answer : List Node → Nat → Option Node
  | stack, 0 => (visit stack).1
  | stack, k + 1 => answer (visit stack).2 k

/-- The nodes of the trees on a stack, the tree on top first. -/
def ahead (stack : List Node) : List Node := preorders stack.reverse

theorem visit_concat (stack : List Node) (n : Node) :
    visit (stack ++ [n]) = (some n, stack ++ n.children.reverse) := by
  simp [visit]

/-- The children are pushed in reverse, so that they stand for what is below their node, from first to last. -/
theorem ahead_concat (stack : List Node) (n : Node) :
    ahead (stack ++ [n]) = n :: ahead (stack ++ n.children.reverse) := by
  cases n with
  | mk f cs => simp [ahead, children, preorders, preorder, preorders_append]

/-- A visit takes the next node off what is ahead. -/
theorem visit_eq (stack : List Node) :
    (visit stack).1 = (ahead stack).head? ∧ ahead (visit stack).2 = (ahead stack).tail := by
  rcases List.eq_nil_or_concat stack with rfl | ⟨rest, n, rfl⟩
  · exact ⟨rfl, rfl⟩
  · rw [List.concat_eq_append, visit_concat, ahead_concat]
    exact ⟨rfl, rfl⟩

/-- **The answers of a walk** are the nodes ahead of it, one after the other, and then none. -/
theorem answer_eq (stack : List Node) (k : Nat) : answer stack k = (ahead stack)[k]? := by
  induction k generalizing stack with
  | zero => rw [answer, (visit_eq stack).1, List.head?_eq_getElem?]
  | succ k ih => rw [answer, ih, (visit_eq stack).2, List.getElem?_tail]

theorem answer_root (n : Node) (k : Nat) : answer [n] k = n.preorder[k]? := by
  rw [answer_eq, ahead, List.reverse_singleton, preorders, preorders, List.append_nil]

/-! ## Addresses -/

/-- The node at an address, the positions of the children on the way down. -/
def at? : Node → List Nat → Option Node
  | n, [] => some n
  | n, i :: p =>
    match n.children[i]? with
    | none => none
    | some c => at? c p

mutual

/-- The addresses of the nodes of a tree, each before those below it. -/
def addresses : Node → List (List Nat)
  | mk _ cs => [] :: addressesFrom 0 cs

/-- The addresses of the nodes of children, the first of which has the position `i`. -/
def addressesFrom (i : Nat) : List Node → List (List Nat)
  | [] => []
  | n :: ns => (addresses n).map (i :: ·) ++ addressesFrom (i + 1) ns

end

theorem mem_addressesFrom {i : Nat} {ns : List Node} {p : List Nat} :
    p ∈ addressesFrom i ns ↔ ∃ j n q, ns[j]? = some n ∧ q ∈ n.addresses ∧ p = (i + j) :: q := by
  induction ns generalizing i with
  | nil => simp [addressesFrom]
  | cons m ns ih =>
    rw [addressesFrom, List.mem_append, List.mem_map, ih]
    constructor
    · rintro (⟨q, hq, rfl⟩ | ⟨j, n, q, hn, hq, rfl⟩)
      · exact ⟨0, m, q, rfl, hq, rfl⟩
      · exact ⟨j + 1, n, q, hn, hq, by rw [Nat.add_assoc, Nat.add_comm 1 j]⟩
    · rintro ⟨j, n, q, hn, hq, rfl⟩
      cases j with
      | zero =>
        obtain rfl : m = n := Option.some.inj hn
        exact .inl ⟨q, hq, rfl⟩
      | succ j => exact .inr ⟨j, n, q, hn, hq, by rw [Nat.add_assoc, Nat.add_comm 1 j]⟩

/-- The addresses are those at which there is a node. -/
theorem mem_addresses {n : Node} {p : List Nat} : p ∈ n.addresses ↔ (n.at? p).isSome := by
  induction p generalizing n with
  | nil => cases n; simp [addresses, at?]
  | cons i p ih =>
    cases n with
    | mk f cs =>
      have hbelow : i :: p ∈ (mk f cs).addresses ↔ ∃ c, cs[i]? = some c ∧ p ∈ c.addresses := by
        simp only [addresses, List.mem_cons, List.cons_ne_nil, false_or, mem_addressesFrom, Nat.zero_add, List.cons.injEq]
        constructor
        · rintro ⟨j, c, q, hc, hq, rfl, rfl⟩
          exact ⟨c, hc, hq⟩
        · rintro ⟨c, hc, hp⟩
          exact ⟨i, c, p, hc, hp, rfl, rfl⟩
      rw [hbelow, at?, children]
      cases cs[i]? with
      | none => simp
      | some c => simp [ih]

mutual

/-- Pre-order is the order of the addresses. -/
theorem pairwise_addresses : ∀ n : Node, n.addresses.Pairwise (· < ·)
  | mk f cs => by
    refine List.pairwise_cons.2 ⟨?_, pairwise_addressesFrom 0 cs⟩
    intro p hp
    obtain ⟨j, n, q, -, -, rfl⟩ := mem_addressesFrom.1 hp
    exact List.nil_lt_cons _ _

theorem pairwise_addressesFrom : ∀ (i : Nat) (ns : List Node), (addressesFrom i ns).Pairwise (· < ·)
  | _, [] => .nil
  | i, n :: ns => by
    refine List.pairwise_append.2 ⟨?_, pairwise_addressesFrom (i + 1) ns, ?_⟩
    · refine List.pairwise_map.2 ((pairwise_addresses n).imp ?_)
      intro p q h
      exact List.cons_lt_cons_iff.2 (.inr ⟨rfl, h⟩)
    · -- an address through this child is to the left of one through a later child
      intro p hp q hq
      obtain ⟨p, -, rfl⟩ := List.mem_map.1 hp
      obtain ⟨j, m, q, -, -, rfl⟩ := mem_addressesFrom.1 hq
      exact List.cons_lt_cons_iff.2 (.inl (by omega))

end

mutual

/-- The nodes in pre-order are those at the addresses. -/
theorem map_at?_addresses : ∀ n : Node, n.addresses.map n.at? = n.preorder.map some
  | mk f cs => by
    rw [addresses, preorder, List.map_cons, List.map_cons, map_at?_addressesFrom 0 cs (mk f cs).at?]
    · rfl
    · intro j n hn p
      rw [Nat.zero_add, at?, children, hn]

/-- As long as `look` finds the nodes of the children under their positions. -/
theorem map_at?_addressesFrom : ∀ (i : Nat) (ns : List Node) (look : List Nat → Option Node),
    (∀ j n, ns[j]? = some n → ∀ p, look ((i + j) :: p) = n.at? p) →
    (addressesFrom i ns).map look = (preorders ns).map some
  | _, [], _, _ => rfl
  | i, n :: ns, look, h => by
    have hself : ((addresses n).map (i :: ·)).map look = (addresses n).map n.at? := by
      rw [List.map_map]
      exact List.map_congr_left fun p _ => h 0 n rfl p
    have hrest : ∀ j m, ns[j]? = some m → ∀ p, look ((i + 1 + j) :: p) = m.at? p := by
      intro j m hm p
      rw [Nat.add_assoc, Nat.add_comm 1 j]
      exact h (j + 1) m hm p
    rw [addressesFrom, preorders, List.map_append, List.map_append, hself, map_at?_addresses n,
      map_at?_addressesFrom (i + 1) ns look hrest]

end

/-! ## What is visited -/

/-- The walk over a tree, and what is looked up on it. -/
structure Visited (n : Node) : Prop where
  /-- The walk answers with the node and the nodes below each child from left to right, and then with none. -/
  answers : ∀ k, answer [n] k = n.preorder[k]?
  /-- It ends when it has answered with all of them. -/
  ends : ∀ k, answer [n] k = none ↔ n.preorder.length ≤ k
  /-- These are the nodes of the tree. -/
  collected : n.nodes = n.preorder
  /-- A node comes before its children, and what is below a child before the next child. -/
  unfolds : n.preorder = n :: n.children.flatMap preorder
  /-- Every address of the tree has its turn once, in the order of addresses. -/
  once : ∃ ps : List (List Nat),
    ps.Pairwise (· < ·) ∧ (∀ p, p ∈ ps ↔ (n.at? p).isSome) ∧ ps.map n.at? = n.preorder.map some
  affordances : n.affordances = n.preorder.filterMap (·.face.affordance)
  textEntries : n.textEntries = n.preorder.filter (·.face.kind.isTextEntry)
  byClass : ∀ className, n.findByClass className = n.preorder.filter (·.face.className == className)
  /-- The node that is found for an affordance is the first one that has it. -/
  byAffordance : ∀ a m, n.findByAffordance? a = some m ↔
    ∃ before after, n.preorder = before ++ m :: after ∧ m.face.affordance = some a ∧
      ∀ x ∈ before, x.face.affordance ≠ some a
  /-- None is found only if no node has it. -/
  without : ∀ a, n.findByAffordance? a = none ↔ ∀ x ∈ n.preorder, x.face.affordance ≠ some a

theorem visited (n : Node) : n.Visited where
  answers := answer_root n
  ends := by
    intro k
    rw [answer_root, List.getElem?_eq_none_iff]
  collected := nodes_eq_preorder n
  unfolds := by
    cases n with
    | mk f cs => rw [preorder, preorders_eq_flatMap, children]
  once := ⟨n.addresses, pairwise_addresses n, fun _ => mem_addresses, map_at?_addresses n⟩
  affordances := by rw [Node.affordances, nodes_eq_preorder]
  textEntries := by rw [Node.textEntries, nodes_eq_preorder]
  byClass := by
    intro className
    rw [findByClass, nodes_eq_preorder]
  byAffordance := by
    intro a m
    rw [findByAffordance?, nodes_eq_preorder, List.find?_eq_some_iff_append]
    constructor
    · rintro ⟨hm, before, after, hsplit, hbefore⟩
      exact ⟨before, after, hsplit, by simpa using hm, by simpa using hbefore⟩
    · rintro ⟨before, after, hsplit, hm, hbefore⟩
      exact ⟨by simpa using hm, before, after, hsplit, by simpa using hbefore⟩
  without := by
    intro a
    rw [findByAffordance?, nodes_eq_preorder, List.find?_eq_none]
    simp

/-- Two leaves that look alike are two nodes. -/
example :
    let twins : Node := .mk { kind := .container } [.leaf { kind := .chip }, .leaf { kind := .chip }]
    (List.range 4).map (fun k => (answer [twins] k).map (·.face.kind)) =
      [some .container, some .chip, some .chip, none] := by
  decide

/-! ## Controls -/

/-- What a filter has at an index comes from where that many others are in front of it. -/
theorem filterMap_getElem?_eq_some_iff {α β : Type} {f : α → Option β} {xs : List α} {i : Nat} {b : β} :
    (xs.filterMap f)[i]? = some b ↔
      ∃ x, f x = some b ∧ ∃ before after, xs = before ++ x :: after ∧ before.countP (fun y => (f y).isSome) = i := by
  constructor
  · intro h
    induction xs generalizing i with
    | nil => cases h
    | cons x xs ih =>
      cases hx : f x with
      | none =>
        rw [List.filterMap_cons_none hx] at h
        obtain ⟨y, hy, before, after, rfl, rfl⟩ := ih h
        exact ⟨y, hy, x :: before, after, rfl, List.countP_cons_of_neg (by simp [hx])⟩
      | some c =>
        rw [List.filterMap_cons_some hx] at h
        cases i with
        | zero => exact ⟨x, hx.trans h, [], xs, rfl, rfl⟩
        | succ i =>
          obtain ⟨y, hy, before, after, rfl, rfl⟩ := ih h
          exact ⟨y, hy, x :: before, after, rfl, List.countP_cons_of_pos (by simp [hx])⟩
  · rintro ⟨x, hx, before, after, rfl, rfl⟩
    rw [List.filterMap_append, List.filterMap_cons_some hx, ← List.length_filterMap_eq_countP]
    simp

/-- The number of nodes that have an affordance. -/
def controlsAmong (ns : List Node) : Nat := ns.countP (·.face.affordance.isSome)

/-- A node of the tree has the affordance, and `i` nodes in front of it have one. -/
def IsControl (n : Node) (i : Nat) (c : Node) (a : Affordance) : Prop :=
  c.face.affordance = some a ∧ ∃ before after, n.preorder = before ++ c :: after ∧ controlsAmong before = i

theorem affordances_getElem?_eq_some_iff {n : Node} {i : Nat} {a : Affordance} :
    n.affordances[i]? = some a ↔ ∃ c, n.IsControl i c a := by
  rw [n.visited.affordances]
  exact filterMap_getElem?_eq_some_iff

theorem length_affordances (n : Node) : n.affordances.length = controlsAmong n.preorder := by
  rw [n.visited.affordances, List.length_filterMap_eq_countP]
  rfl

end AckDesk.View.Node
