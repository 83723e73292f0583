import AckDesk.Prompt.Run
import AckDesk.Proofs.Prompt.Lines
import AckDesk.Proofs.View.Lines
import AckDesk.Proofs.View.Walk

/-!
# Taps on the listed controls

The prompt lists the controls of the desk, one on each line (`lines_listControls`), and lets the user tap on one by its
index. A tap is a line with a numeral of the index and a text for the field of the control (`Points`); the index may be
typed as the listing shows it (`points_toString`).

The listing and the taps both count the nodes of the view that have an affordance, in pre-order. So the index of a
control stands for it in both, and an index from the number of controls on stands for nothing (`indexed`).
-/

namespace AckDesk.Prompt

open Text View View.Node

/-! ## Lines that tap -/

/-- The argument is a numeral of an index, and behind it a text for the field of the control. -/
def Points (i : Nat) (text : String) (argument : List Char) : Prop :=
  Tight text.toList ∧ i < wordBound ∧ ∃ numeral, Numeral i numeral ∧ Spaced numeral text.toList argument

variable {i : Nat} {text : String} {word argument : List Char} {line : String}

/-- An argument that points at a control is read as a tap there. -/
theorem tapControl_eq_ok (ht : Tight argument) (h : Points i text argument) :
    Command.tapControl argument = .ok (.tap i text) := by
  obtain ⟨htight, hlt, numeral, hnumeral, hspaced⟩ := h
  have hfirst : Command.firstWord argument = (numeral, text.toList) := by
    have htrim := (firstWord_trimChars hnumeral.isWord htight hspaced).2
    rw [ht.trimChars_eq] at htrim
    exact htrim
  have hread : readBelow wordBound numeral = .ok i := (readBelow_eq_ok_iff (by decide)).2 ⟨hnumeral, hlt⟩
  rw [Command.tapControl, hfirst]
  simp only [hread, String.ofList_toList]

/-- An index may be typed as it is shown. -/
theorem points_toString (hi : i < wordBound) (ht : Tight text.toList) :
    Points i text ((toString i).toList ++ [' '] ++ text.toList) := by
  refine ⟨ht, hi, (toString i).toList, ?_, spaced_blank rfl⟩
  rw [Nat.toString_eq_ofList_toDigits, String.toList_ofList]
  exact numeral_toDigits i

variable {σ : Type} (m : Mount σ)

/-- A line that taps runs the tap, and nothing else. -/
theorem Line.runLine_tap (h : Line .tap word argument line) (hp : Points i text argument) :
    runLine m line = runCommand m (.tap i text) := by
  rw [runLine, h.ofLine?_eq, Command.ofVerb, tapControl_eq_ok h.tight hp]
  rfl

theorem Line.runLine_controls (h : Line .controls word argument line) :
    runLine m line = runCommand m .listControls := by
  rw [runLine, h.ofLine?_eq]
  rfl

/-! ## The listing -/

theorem not_mem_controlLine (i : Nat) (a : Affordance) : '\n' ∉ (controlLine i a).toList := by
  have hspaces : '\n' ∉ (String.ofList (List.replicate (3 - (toString i).length) ' ')).toList := by
    rw [String.toList_ofList]
    intro h
    exact absurd (List.eq_of_mem_replicate h) (by decide)
  have hindex := Affordance.not_mem_enclosed (b := "  ") hspaces (not_mem_toString i) (by decide)
  rw [controlLine, String.toList_append, List.mem_append]
  exact not_or.2 ⟨hindex, a.not_mem_tag⟩

/-- The listing has one line for each control, numbered from the start. -/
theorem listControls_eq (i : Nat) (as : List Affordance) :
    listControls i as = String.join ((as.mapIdx fun j a => controlLine (i + j) a).map (· ++ "\n")) := by
  induction as generalizing i with
  | nil => rfl
  | cons a as ih =>
    have hshift : (fun j b => controlLine (i + (j + 1)) b) = fun j b => controlLine (i + 1 + j) b := by
      funext j b
      rw [Nat.add_assoc, Nat.add_comm 1 j]
    rw [listControls, ih, List.mapIdx_cons, List.map_cons, String.join_cons, hshift]
    rfl

/-- The listing has a line for each control. -/
theorem lines_listControls (as : List Affordance) : lines (listControls 0 as) = as.mapIdx controlLine := by
  have hparts : ∀ l ∈ as.mapIdx controlLine, lineParts l = [l] := by
    intro l hl
    obtain ⟨j, hj, rfl⟩ := List.mem_mapIdx.1 hl
    exact lineParts_of_not_mem (not_mem_controlLine j _)
  simp only [listControls_eq, Nat.zero_add, lines_join_closed]
  rw [List.flatMap_congr hparts, List.flatMap_singleton']

/-- The lines that the listing of controls prints. -/
def listing : List String := lines (runCommand m .listControls).2.1

/-- The line at an index lists the control at that index. -/
theorem listing_getElem? (i : Nat) : (listing m)[i]? = m.desk.view.affordances[i]?.map (controlLine i) := by
  rw [listing, runCommand, lines_listControls, List.getElem?_mapIdx]

/-! ## Indices -/

/-- The index stands for an affordance: the listing shows it there, and a tap on the index activates it. -/
structure Denotes (m : Mount σ) (i : Nat) (a : Affordance) : Prop where
  shown : (listing m)[i]? = some (controlLine i a)
  tapped : ∀ text, runCommand m (.tap i text) = runCommand m (.dispatch [a.toEvent text])

/-- The index stands for nothing: the listing ends in front of it, and a tap on it changes nothing and is told how many
controls there are. -/
structure DenotesNothing (m : Mount σ) (i : Nat) : Prop where
  unshown : (listing m)[i]? = none
  refused : ∀ text, runCommand m (.tap i text) =
    (m, outputLine (noSuchControl i (controlsAmong m.desk.view.preorder)) ++ showDesk m.desk, false)

variable {m} {a : Affordance}

/-- An index that the listing has denotes the control listed there. -/
theorem denotes_of_some (h : m.desk.view.affordances[i]? = some a) : Denotes m i a where
  shown := by rw [listing_getElem?, h, Option.map_some]
  tapped := by
    intro text
    simp only [runCommand, h]

/-- An index beyond the controls denotes nothing. -/
theorem denotesNothing_of_le (h : controlsAmong m.desk.view.preorder ≤ i) : DenotesNothing m i := by
  have hnone : m.desk.view.affordances[i]? = none := by
    rw [List.getElem?_eq_none_iff, length_affordances]
    exact h
  constructor
  · rw [listing_getElem?, hnone, Option.map_none]
  · intro text
    simp only [runCommand, hnone, length_affordances]

/-- What the indices of a mount stand for, and which lines ask for them. -/
structure Indexed (m : Mount σ) : Prop where
  /-- The index of a control stands for its affordance. -/
  control : ∀ i c a, m.desk.view.IsControl i c a → Denotes m i a
  /-- The indices below the number of controls are those of controls. -/
  below : ∀ i < controlsAmong m.desk.view.preorder, ∃ c a, m.desk.view.IsControl i c a
  /-- The others stand for nothing. -/
  beyond : ∀ i, controlsAmong m.desk.view.preorder ≤ i → DenotesNothing m i
  /-- A line that asks for the controls gets the listing. -/
  listed : ∀ word argument line, Line .controls word argument line → runLine m line = runCommand m .listControls
  /-- A line that points to an index taps on it. -/
  pointed : ∀ i text word argument line, Line .tap word argument line → Points i text argument →
    runLine m line = runCommand m (.tap i text)

theorem indexed (m : Mount σ) : Indexed m where
  control := fun i c a h => denotes_of_some (affordances_getElem?_eq_some_iff.2 ⟨c, h⟩)
  below := by
    intro i hi
    rw [← length_affordances] at hi
    obtain ⟨c, hc⟩ := affordances_getElem?_eq_some_iff.1 (List.getElem?_eq_getElem hi)
    exact ⟨c, _, hc⟩
  beyond := fun i h => denotesNothing_of_le h
  listed := fun word argument line h => h.runLine_controls m
  pointed := fun i text word argument line h hp => h.runLine_tap m hp

/-- **Trees are walked in pre-order**, each node once, and what is looked up in a tree is what the recursive traversal
comes by. The controls of a mount are counted in this order for the listing and for taps, so that an index stands for
one control in both. An index below 2^64 may be typed as it is shown. -/
theorem visited_in_preorder :
    (∀ n : Node, n.Visited) ∧ (∀ {σ : Type} (m : Mount σ), Indexed m) ∧
    (∀ i text, i < wordBound → Tight text.toList →
      Points i text ((toString i).toList ++ [' '] ++ text.toList)) :=
  ⟨fun n => n.visited, fun m => indexed m, fun _ _ hi ht => points_toString hi ht⟩

/-- A desk with two cards that may be edited. -/
def twoCards : Mount Unit where
  desk := Desk.ofRecords [] [⟨some ⟨"k1"⟩, "boot", ⟨[], [], []⟩, none⟩, ⟨some ⟨"k2"⟩, "sleep", ⟨[], [], []⟩, none⟩]
    .writable {}
  backend := ()

/-- The second card is opened by the index at which it is listed, however the index is written. -/
theorem visited_in_preorder_twoCards :
    (∃ c, twoCards.desk.view.IsControl 4 c (.openEntry ⟨2⟩)) ∧
    (listing twoCards)[4]? = some "  4  OpenEntry(EntryId(2))" ∧
    runLine twoCards " LS " = runCommand twoCards .listControls ∧
    runLine twoCards "Tap +04 now" = runCommand twoCards (.dispatch [.cardClicked ⟨2⟩]) ∧
    Points 4 "now" "4 now".toList ∧
    runCommand twoCards (.tap 6 "") =
      (twoCards, outputLine "No control at index 6, there are 6" ++ showDesk twoCards.desk, false) := by
  obtain ⟨hvisited, hindexed, hpoints⟩ := visited_in_preorder
  have h := hindexed twoCards
  have hcontrol : ∃ c, twoCards.desk.view.IsControl 4 c (.openEntry ⟨2⟩) := by
    rw [← affordances_getElem?_eq_some_iff, (hvisited _).affordances]
    decide +kernel
  obtain ⟨c, hc⟩ := hcontrol
  have hdenotes := h.control 4 c _ hc
  refine ⟨⟨c, hc⟩, hdenotes.shown.trans (by decide +kernel), ?_, ?_, ?_, ?_⟩
  · refine h.listed "LS".toList [] _ ⟨Verb.ofWord?_eq_some_iff.1 (by decide), tight_nil, ?_⟩
    exact ⟨[' '], [], [' '], by decide, by decide, by decide, by decide, by decide⟩
  · have hline : Line .tap "Tap".toList "+04 now".toList "Tap +04 now" :=
      ⟨Verb.ofWord?_eq_some_iff.1 (by decide), by decide, spaced_blank (by decide)⟩
    refine (h.pointed 4 "now" _ _ _ hline ?_).trans (hdenotes.tapped "now")
    refine ⟨by decide, by decide, "+04".toList, ?_, spaced_blank (by decide)⟩
    exact ⟨"04".toList, .inr rfl, by decide, List.all_eq_true.1 (by decide), by decide⟩
  · exact hpoints 4 "now" (by decide) (by decide)
  · have hcount : controlsAmong twoCards.desk.view.preorder = 6 := by decide +kernel
    rw [(h.beyond 6 (Nat.le_of_eq hcount)).refused "", hcount]
    rfl

end AckDesk.Prompt
