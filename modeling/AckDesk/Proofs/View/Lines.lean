import AckDesk.Proofs.View.Cut
import AckDesk.Text.Hex
import AckDesk.Text.Pieces

/-!
# Lines of an outline

The nodes of a tree are taken with what stands above each of them (`Node.places`), in pre-order (`map_node_places`).
A node is listed in the outline if neither it nor anything above it is hidden, and it is not transparent; it is indented
once for each node above it that is not transparent (`outlineLines_eq`).

What a node says is written as it is, so that a line end in its text ends the line as well. Every listed node has one
line more than there are line ends in what it says (`lines_outline`), and **the outline has one line for each listed
node** exactly if no listed node says a line end (`listed_by_lines`).
-/

namespace AckDesk

/-! ## Lines of a text -/

namespace Text

/-- The lines of a text: what stands in front of each line end. -/
def lines (s : String) : List String := ((s.toList.splitOn '\n').dropLast).map .ofList

/-- The parts of a text between its line ends. -/
def lineParts (s : String) : List String := (s.toList.splitOn '\n').map .ofList

theorem length_lineParts (s : String) : (lineParts s).length = s.toList.count '\n' + 1 := by
  rw [lineParts, List.length_map, List.splitOn, ← pieces_eq_splitOnP, length_pieces, List.count]

theorem lineParts_of_not_mem {s : String} (h : '\n' ∉ s.toList) : lineParts s = [s] := by
  have hnone : ∀ c ∈ s.toList, (c == '\n') = false := by
    intro c hc
    exact beq_eq_false_iff_ne.2 fun he => h (he ▸ hc)
  rw [lineParts, List.splitOn, List.splitOnP_eq_singleton hnone, List.map_singleton, String.ofList_toList]

/-- A text of closed lines has the parts of each line as its lines. -/
theorem lines_join_closed (ls : List String) : lines (String.join (ls.map (· ++ "\n"))) = ls.flatMap lineParts := by
  induction ls with
  | nil => rfl
  | cons l ls ih =>
    have hsplit : ((l ++ "\n") ++ String.join (ls.map (· ++ "\n"))).toList.splitOn '\n' =
        l.toList.splitOn '\n' ++ (String.join (ls.map (· ++ "\n"))).toList.splitOn '\n' := by
      rw [String.toList_append, String.toList_append, List.append_assoc]
      exact List.splitOnP_append_cons _ _ (beq_self_eq_true '\n')
    have hne : (String.join (ls.map (· ++ "\n"))).toList.splitOn '\n' ≠ [] := List.splitOnP_ne_nil _ _
    rw [List.map_cons, String.join_cons, lines, hsplit, List.dropLast_append_of_ne_nil hne, List.map_append,
      List.flatMap_cons, ← ih]
    rfl

end Text

/-! ## Text that stays on its line -/

namespace Text

/-- The digits of a number are digits of its base. -/
theorem exists_of_mem_toDigits {b n : Nat} {c : Char} (hb : 1 < b) (h : c ∈ Nat.toDigits b n) :
    ∃ d < b, c = Nat.digitChar d := by
  induction n using Nat.strongRecOn with
  | ind n ih =>
    by_cases hn : n < b
    · rw [Nat.toDigits_of_lt_base hn, List.mem_singleton] at h
      exact ⟨n, hn, h⟩
    · rw [Nat.toDigits_of_base_le hb (Nat.le_of_not_lt hn), List.mem_append, List.mem_singleton] at h
      rcases h with h | h
      · exact ih (n / b) (Nat.div_lt_self (by omega) hb) h
      · exact ⟨n % b, Nat.mod_lt n (by omega), h⟩

/-- Quoting a character leaves no line end. -/
theorem not_mem_quoteChar (c : Char) : '\n' ∉ quoteChar c := by
  have hdigits : '\n' ∉ Nat.toDigits 16 c.toNat := by
    intro h
    obtain ⟨d, hd, he⟩ := exists_of_mem_toDigits (by decide) h
    have hhex := hexDigit?_digitChar hd
    rw [← he] at hhex
    cases hhex
  grind [quoteChar, codePointEscape]

theorem not_mem_quoted (s : String) : '\n' ∉ (quoted s).toList := by
  simp [quoted, not_mem_quoteChar]

theorem not_mem_toString (n : Nat) : '\n' ∉ (toString n).toList := by
  rw [Nat.toString_eq_ofList_toDigits, String.toList_ofList]
  intro h
  exact absurd (Nat.isDigit_of_mem_toDigits (by decide) (by decide) h) (by decide)

end Text

namespace Affordance

theorem not_mem_enclosed {a s b : String} (ha : '\n' ∉ a.toList) (hs : '\n' ∉ s.toList) (hb : '\n' ∉ b.toList) :
    '\n' ∉ (a ++ s ++ b).toList := by
  simp [ha, hs, hb]

/-- A tag is on one line. -/
theorem not_mem_tag (a : Affordance) : '\n' ∉ a.tag.toList := by
  have hnumber : ∀ i : EntryId, '\n' ∉ (entryTag i).toList := by
    intro i
    exact not_mem_enclosed (by decide) (Text.not_mem_toString i.number) (by decide)
  have hdimension : ∀ d : Dimension, '\n' ∉ (dimensionTag d).toList := by
    intro d
    cases d <;> decide
  cases a with
  | pickSuggestion testName => exact not_mem_enclosed (by decide) (Text.not_mem_quoted testName) (by decide)
  | openEntry entry | deleteEntry entry => exact not_mem_enclosed (by decide) (hnumber entry) (by decide)
  | chipField d | addChip d => exact not_mem_enclosed (by decide) (hdimension d) (by decide)
  | removeChip d v =>
    have hfront := not_mem_enclosed (a := "RemoveChip(") (b := ", ") (by decide) (hdimension d) (by decide)
    exact not_mem_enclosed hfront (Text.not_mem_quoted v) (by decide)
  | _ => decide

end Affordance

namespace View

namespace Face

/-- What a node says: nothing for a glyph, and for an empty field what it asks for. -/
def said (f : Face) : String :=
  match f.kind with
  | .icon _ => ""
  | .textField | .textArea => if f.text = "" then f.placeholder.getD "" else f.text
  | _ => f.text

/-- A line has the line ends of what the node says, and no others. -/
theorem count_line (f : Face) : f.line.toList.count '\n' = f.said.toList.count '\n' := by
  have hbody : f.body.toList.count '\n' = f.said.toList.count '\n' := by
    cases hk : f.kind with
    | icon icon => cases icon <;> simp [body, said, hk, Icon.glyph]
    | textField | textArea =>
      by_cases ht : f.text = ""
      · cases hp : f.placeholder <;> simp [body, said, hk, ht, hp]
      · simp [body, said, hk, ht]
    | button => simp [body, said, hk]
    | _ => simp [body, said, hk]
  have htag : (((f.affordance.map ("  <- " ++ ·.tag)).getD "").toList).count '\n' = 0 := by
    cases f.affordance with
    | none => rfl
    | some a => simp [List.count_eq_zero_of_not_mem a.not_mem_tag]
  cases hd : f.disabled <;> simp [line, hbody, htag, hd]

end Face

/-- A node of a tree, and what is above it, the nearest first. -/
structure Place where
  above : List Face
  node : Node

namespace Place

/-- The node can be seen and says something itself. -/
def isListed (p : Place) : Bool :=
  p.above.all (!·.hidden) && !p.node.face.hidden && !p.node.face.isTransparent

/-- The number of steps by which the node is indented. -/
def depth (p : Place) : Nat := p.above.countP (!·.isTransparent)

def line (p : Place) : String := Node.indent p.depth ++ p.node.face.line

end Place

namespace Node

mutual

/-- The nodes of a tree below others, each before its children. -/
def places (above : List Face) : Node → List Place
  | mk f cs => ⟨above, mk f cs⟩ :: placesOf (f :: above) cs

/-- The nodes of several trees below others, one tree after the other. -/
def placesOf (above : List Face) : List Node → List Place
  | [] => []
  | n :: ns => places above n ++ placesOf above ns

end

mutual

theorem map_node_places : ∀ (n : Node) (above : List Face), (n.places above).map (·.node) = n.preorder
  | mk f cs, above => by rw [places, preorder, List.map_cons, map_node_placesOf cs]

theorem map_node_placesOf : ∀ (ns : List Node) (above : List Face), (placesOf above ns).map (·.node) = preorders ns
  | [], _ => rfl
  | n :: ns, above => by rw [placesOf, preorders, List.map_append, map_node_places n, map_node_placesOf ns]

end

def listed (n : Node) : List Place := (n.places []).filter (·.isListed)

mutual

/-- Nothing below a hidden node is listed. -/
theorem filter_places_of_hidden : ∀ (n : Node) (above : List Face), above.all (!·.hidden) = false →
    (n.places above).filter (·.isListed) = []
  | mk f cs, above, h => by
    have hbelow : (f :: above).all (!·.hidden) = false := by rw [List.all_cons, h, Bool.and_false]
    have hnot : ¬(Place.mk above (mk f cs)).isListed = true := by simp [Place.isListed, h]
    rw [places, List.filter_cons_of_neg hnot, filter_placesOf_of_hidden cs _ hbelow]

theorem filter_placesOf_of_hidden : ∀ (ns : List Node) (above : List Face), above.all (!·.hidden) = false →
    (placesOf above ns).filter (·.isListed) = []
  | [], _, _ => rfl
  | n :: ns, above, h => by
    rw [placesOf, List.filter_append, filter_places_of_hidden n above h, filter_placesOf_of_hidden ns above h,
      List.append_nil]

end

mutual

/-- The lines of a tree are those of its listed nodes. -/
theorem outlineLines_eq : ∀ (n : Node) (above : List Face), above.all (!·.hidden) = true →
    n.outlineLines (above.countP (!·.isTransparent)) = ((n.places above).filter (·.isListed)).map (·.line)
  | mk f cs, above, h => by
    have hself : (Place.mk above (mk f cs)).isListed = (!f.hidden && !f.isTransparent) := by
      rw [Place.isListed, h, Bool.true_and, face]
    rw [outlineLines, places]
    cases hf : f.hidden with
    | true =>
      have hbelow : (f :: above).all (!·.hidden) = false := by rw [List.all_cons, hf]; rfl
      rw [List.filter_cons_of_neg (by simp [hself, hf]), filter_placesOf_of_hidden cs _ hbelow, if_pos rfl]
      rfl
    | false =>
      have hbelow : (f :: above).all (!·.hidden) = true := by rw [List.all_cons, h, hf]; rfl
      rw [if_neg Bool.false_ne_true]
      cases ht : f.isTransparent with
      | true =>
        -- the children of a transparent node stand at its own depth
        have hdepth : (f :: above).countP (!·.isTransparent) = above.countP (!·.isTransparent) :=
          List.countP_cons_of_neg (by simp [ht])
        rw [List.filter_cons_of_neg (by simp [hself, ht]), if_pos rfl, ← hdepth, outlinesLines_eq cs _ hbelow]
      | false =>
        have hdepth : (f :: above).countP (!·.isTransparent) = above.countP (!·.isTransparent) + 1 :=
          List.countP_cons_of_pos (by simp [ht])
        rw [List.filter_cons_of_pos (by simp [hself, hf, ht]), if_neg Bool.false_ne_true, ← hdepth,
          outlinesLines_eq cs _ hbelow]
        rfl

theorem outlinesLines_eq : ∀ (ns : List Node) (above : List Face), above.all (!·.hidden) = true →
    outlinesLines (above.countP (!·.isTransparent)) ns = ((placesOf above ns).filter (·.isListed)).map (·.line)
  | [], _, _ => rfl
  | n :: ns, above, h => by
    rw [outlinesLines, placesOf, List.filter_append, List.map_append, outlineLines_eq n above h,
      outlinesLines_eq ns above h]

end

/-- The lines of an outline are the parts of the lines of its listed nodes. -/
theorem lines_outline (n : Node) : Text.lines n.outline = n.listed.flatMap fun p => Text.lineParts p.line := by
  have hlines : n.outlineLines 0 = n.listed.map (·.line) := outlineLines_eq n [] rfl
  rw [outline, Text.lines_join_closed, hlines, List.flatMap_map]

end Node

/-- The line of a place has the line ends of what its node says. -/
theorem Place.count_line (p : Place) : p.line.toList.count '\n' = p.node.face.said.toList.count '\n' := by
  have hindent : (Node.indent p.depth).toList.count '\n' = 0 := by
    rw [Node.indent, String.toList_ofList, List.count_replicate]
    rfl
  rw [line, String.toList_append, List.count_append, hindent, Nat.zero_add, Face.count_line]

theorem Place.length_lineParts (p : Place) :
    (Text.lineParts p.line).length = p.node.face.said.toList.count '\n' + 1 := by
  rw [Text.length_lineParts, count_line]

theorem Place.lineParts_of_not_mem {p : Place} (h : '\n' ∉ p.node.face.said.toList) :
    Text.lineParts p.line = [p.line] := by
  apply Text.lineParts_of_not_mem
  rw [← List.count_eq_zero, count_line, List.count_eq_zero]
  exact h

namespace Node

/-- There are as many lines more than listed nodes as there are line ends in what these say. -/
theorem length_lines_outline (n : Node) : (Text.lines n.outline).length =
    n.listed.length + (n.listed.flatMap fun p => p.node.face.said.toList).count '\n' := by
  rw [lines_outline]
  induction n.listed with
  | nil => rfl
  | cons p ps ih =>
    simp only [List.flatMap_cons, List.length_append, List.count_append, List.length_cons, ih, p.length_lineParts]
    omega

/-- **One line for each listed node**: the nodes of the tree are listed in pre-order, each line of the outline is a part
of the line of a listed node, and there are as many lines as listed nodes, the line of each, exactly if none of them
says a line end. -/
theorem listed_by_lines (n : Node) :
    (n.places []).map (·.node) = n.nodes ∧
    (Text.lines n.outline = n.listed.flatMap fun p => Text.lineParts p.line) ∧
    (∀ p : Place, (Text.lineParts p.line).length = p.node.face.said.toList.count '\n' + 1) ∧
    ((Text.lines n.outline).length = n.listed.length ↔ ∀ p ∈ n.listed, '\n' ∉ p.node.face.said.toList) ∧
    (Text.lines n.outline = n.listed.map (·.line) ↔ ∀ p ∈ n.listed, '\n' ∉ p.node.face.said.toList) := by
  have hlength : (Text.lines n.outline).length = n.listed.length ↔
      ∀ p ∈ n.listed, '\n' ∉ p.node.face.said.toList := by
    rw [length_lines_outline, Nat.add_eq_left, List.count_eq_zero]
    simp only [List.mem_flatMap, not_exists, not_and]
  refine ⟨?_, lines_outline n, Place.length_lineParts, hlength, ?_, ?_⟩
  · rw [map_node_places, nodes_eq_preorder]
  · intro h
    apply hlength.1
    rw [h, List.length_map]
  · intro h
    rw [lines_outline, ← List.flatMap_singleton' (n.listed.map _), List.flatMap_map]
    exact List.flatMap_congr fun p hp => Place.lineParts_of_not_mem (h p hp)

/-- A heading over a field that holds a note of two lines, and over a group with a button in it. -/
def noteTree : Node :=
  .mk { kind := .heading, text := "Note" } [
    .leaf { kind := .textArea, text := "first\nsecond" },
    .mk { kind := .container } [.leaf { kind := .button, text := "Save", affordance := some .save }]]

theorem listed_by_lines_noteTree :
    Text.lines noteTree.outline = ["Note", "  <first", "second>", "  [ Save ]  <- Save"] ∧
    noteTree.listed.map (·.line) = ["Note", "  <first\nsecond>", "  [ Save ]  <- Save"] ∧
    ¬((Text.lines noteTree.outline).length = noteTree.listed.length) := by
  obtain ⟨-, hlines, -, hlength, -⟩ := listed_by_lines noteTree
  have hsays : ¬∀ p ∈ noteTree.listed, '\n' ∉ p.node.face.said.toList := by decide +kernel
  refine ⟨?_, by decide +kernel, fun h => hsays (hlength.1 h)⟩
  rw [hlines]
  decide +kernel

end Node

end View

end AckDesk
