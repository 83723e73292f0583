/-!
# Pieces

The parts of a text between marks, as `List.splitOnP` gives them (`pieces_eq_splitOnP`). There is one part more than
there are marks (`length_pieces`), and no part holds a mark (`not_mark_of_mem_pieces`).
-/

namespace AckDesk.Text

/-- The parts of `cs` between the characters that are marks. -/
def pieces (isMark : Char → Bool) : List Char → List (List Char)
  | [] => [[]]
  | c :: cs =>
    if isMark c then [] :: pieces isMark cs
    else
      match pieces isMark cs with
      | [] => [[c]]
      | p :: ps => (c :: p) :: ps

/-- The pieces are those of the library's split, whose lemmas apply to them in this way. -/
theorem pieces_eq_splitOnP (isMark : Char → Bool) (cs : List Char) : pieces isMark cs = cs.splitOnP isMark := by
  induction cs with
  | nil => rw [pieces, List.splitOnP_nil]
  | cons c cs ih =>
    rw [pieces, List.splitOnP_cons_eq_if_modifyHead, ih]
    split
    · rfl
    · cases h : cs.splitOnP isMark with
      | nil => exact absurd h (List.splitOnP_ne_nil _ _)
      | cons p ps => rfl

/-- A mark is where two texts are apart. -/
theorem pieces_append_cons {isMark : Char → Bool} {c : Char} (h : isMark c = true) (cs ds : List Char) :
    pieces isMark (cs ++ c :: ds) = pieces isMark cs ++ pieces isMark ds := by
  simp only [pieces_eq_splitOnP, List.splitOnP_append_cons cs ds h]

/-- A text without marks is one piece. -/
theorem pieces_of_not_mark {isMark : Char → Bool} {cs : List Char} (h : ∀ c ∈ cs, isMark c = false) :
    pieces isMark cs = [cs] := by
  rw [pieces_eq_splitOnP, List.splitOnP_eq_singleton h]

/-- Each mark makes one piece more, also at an end or beside another. -/
theorem length_pieces (isMark : Char → Bool) (cs : List Char) :
    (pieces isMark cs).length = cs.countP isMark + 1 := by
  induction cs with
  | nil => rfl
  | cons c cs ih =>
    by_cases h : isMark c = true
    · simp [pieces, h, ih]
    · simp only [pieces, h, Bool.false_eq_true, if_false, not_false_eq_true, List.countP_cons_of_neg]
      rw [← ih]
      cases hp : pieces isMark cs with
      | nil => simp [hp] at ih
      | cons p ps => rfl

/-- No piece has a mark in it. -/
theorem not_mark_of_mem_pieces {isMark : Char → Bool} {cs p : List Char} {c : Char} (hp : p ∈ pieces isMark cs)
    (hc : c ∈ p) : isMark c = false := by
  induction cs generalizing p with
  | nil => simp_all [pieces]
  | cons d cs ih =>
    by_cases h : isMark d = true
    · simp only [pieces, h, if_true, List.mem_cons] at hp
      rcases hp with rfl | hp
      · simp at hc
      · exact ih hp hc
    · cases hq : pieces isMark cs with
      | nil =>
        have hl := length_pieces isMark cs
        simp [hq] at hl
      | cons q qs =>
        simp only [pieces, h, Bool.false_eq_true, if_false, hq, List.mem_cons] at hp
        rcases hp with rfl | hp
        · rcases List.mem_cons.1 hc with rfl | hc
          · simpa using h
          · exact ih (by simp [hq]) hc
        · exact ih (by simp [hq, hp]) hc

end AckDesk.Text
