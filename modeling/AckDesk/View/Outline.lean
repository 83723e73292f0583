import AckDesk.View.Node

/-!
# Outlines

An outline shows the visible part of a tree with one node on each line, indented below its ancestors. A container
without text has no line of its own, and its children stand at its depth. What can be activated is marked with its
affordance.
-/

namespace AckDesk.View

namespace Face

/-- The part of a node's line that depends on its kind. -/
def body (f : Face) : String :=
  match f.kind with
  | .icon icon => "[" ++ icon.glyph ++ "]"
  | .textField | .textArea =>
    "<" ++ f.text ++ ">" ++
      (if f.text = "" then (f.placeholder.map (" " ++ ·)).getD "" else "")
  | .button => "[ " ++ f.text ++ " ]"
  | _ => f.text

/-- The line of a node, indentation and line end apart. -/
def line (f : Face) : String :=
  f.body ++ (if f.disabled then " (disabled)" else "") ++ (f.affordance.map ("  <- " ++ ·.tag)).getD ""

/-- The node groups its children and shows nothing itself. -/
def isTransparent (f : Face) : Bool := f.kind == .container && f.text == ""

end Face

namespace Node

def indent (depth : Nat) : String := .ofList (List.replicate (2 * depth) ' ')

mutual

/-- The lines of the visible part of a tree at a depth. -/
def outlineLines (depth : Nat) : Node → List String
  | mk f cs =>
    if f.hidden then []
    else if f.isTransparent then outlinesLines depth cs
    else (indent depth ++ f.line) :: outlinesLines (depth + 1) cs

def outlinesLines (depth : Nat) : List Node → List String
  | [] => []
  | n :: ns => outlineLines depth n ++ outlinesLines depth ns

end

/-- The outline of the tree, every line closed by a line end. -/
def outline (n : Node) : String := String.join ((n.outlineLines 0).map (· ++ "\n"))

end Node

end AckDesk.View
