import AckDesk.View.Affordance

/-!
# View trees

The desk draws nothing itself: it makes a tree of nodes, and whoever shows it paints the tree. Hidden nodes stay in
the tree. Queries walk the tree with a stack of nodes still to visit (`Node.walk`), which **visits the nodes in
pre-order** (`Node.walk_eq_preorders`).
-/

namespace AckDesk.View

/-- The glyphs that icons show. -/
inductive Icon where
  | clear
  | add
  | infoOutline
deriving DecidableEq

def Icon.glyph : Icon → String
  | .clear => "clear"
  | .add => "add"
  | .infoOutline => "info_outline"

/-- What a node is. -/
inductive Kind where
  | container
  | heading
  | paragraph
  | label
  | text
  | chip
  | allIndicator
  | countIndicator
  | icon (icon : Icon)
  | textField
  | textArea
  | button
  | suggestions
  | card
  | modal
  | notice
deriving DecidableEq

/-- Nodes of the kind take text from the user. -/
def Kind.isTextEntry : Kind → Bool
  | .textField | .textArea => true
  | _ => false

/-- Everything about a node but its children. -/
structure Face where
  kind : Kind
  className : String := ""
  text : String := ""
  placeholder : Option String := none
  disabled : Bool := false
  hidden : Bool := false
  affordance : Option Affordance := none
deriving DecidableEq

/-- A node of the view with its children. -/
inductive Node where
  | mk (face : Face) (children : List Node)

namespace Node

def face : Node → Face
  | mk f _ => f

def children : Node → List Node
  | mk _ cs => cs

def leaf (f : Face) : Node := mk f []

/-! ## Pre-order -/

mutual

/-- The node and all below it, each before its children. -/
def preorder : Node → List Node
  | mk f cs => mk f cs :: preorders cs

/-- The nodes of several trees, one tree after the other. -/
def preorders : List Node → List Node
  | [] => []
  | n :: ns => preorder n ++ preorders ns

end

/-- The pre-order of two lists of nodes is one after the other. -/
theorem preorders_append (ns ms : List Node) : preorders (ns ++ ms) = preorders ns ++ preorders ms := by
  induction ns with
  | nil => rfl
  | cons n ns ih => simp [preorders, ih]

/-- The number of nodes on a stack of trees. -/
def weight (ns : List Node) : Nat := (preorders ns).length

/-- The weight of two lists of nodes is their sum. -/
theorem weight_append (ns ms : List Node) : weight (ns ++ ms) = weight ns + weight ms := by
  simp [weight, preorders_append]

/-- Taking a node off and putting its children on makes the stack lighter by one. -/
theorem weight_mk_cons (f : Face) (cs ns : List Node) : weight (mk f cs :: ns) = weight cs + weight ns + 1 := by
  simp only [weight, preorders, preorder, List.cons_append, List.length_cons, List.length_append]

/-- Visits the trees on a stack: the one on top, then its children in its place. -/
def walk : List Node → List Node
  | [] => []
  | mk f cs :: ns => mk f cs :: walk (cs ++ ns)
termination_by ns => weight ns
decreasing_by rw [weight_append, weight_mk_cons]; omega

/-- The nodes of the tree in the order of the walk. -/
def nodes (n : Node) : List Node := walk [n]

/-- The walk over a stack lists the trees on it in pre-order, from the top down. -/
theorem walk_eq_preorders (ns : List Node) : walk ns = preorders ns := by
  fun_induction walk ns with
  | case1 => rfl
  | case2 f cs ns ih => rw [ih, preorders_append, preorders, preorder, List.cons_append]

/-- The walk over a tree lists its nodes in pre-order. -/
theorem nodes_eq_preorder (n : Node) : n.nodes = n.preorder := by
  rw [nodes, walk_eq_preorders, preorders, preorders, List.append_nil]

/-! ## Queries -/

def findByClass (n : Node) (className : String) : List Node := n.nodes.filter (·.face.className == className)

def findByAffordance? (n : Node) (a : Affordance) : Option Node := n.nodes.find? (·.face.affordance == some a)

/-- The affordances of all nodes, hidden ones included. -/
def affordances (n : Node) : List Affordance := n.nodes.filterMap (·.face.affordance)

def textEntries (n : Node) : List Node := n.nodes.filter (·.face.kind.isTextEntry)

/-! ## Visible text -/

/-- The text that the face of a visible node adds; the name of a glyph is no text. -/
def shownText (f : Face) : String :=
  match f.kind with
  | .icon _ => ""
  | _ => f.text

mutual

/-- The texts of the visible nodes one after the other. -/
def visibleText : Node → String
  | mk f cs => if f.hidden then "" else shownText f ++ visibleTexts cs

/-- The visible text of several trees. -/
def visibleTexts : List Node → String
  | [] => ""
  | n :: ns => visibleText n ++ visibleTexts ns

end

end Node

end AckDesk.View
