import AckDesk.Json.Fault

/-!
# Reading positions

What is left of a JSON text, and the place where it begins. A fault is reported either where reading has come to,
or one byte ahead, at the character that was looked at but not taken.
-/

namespace AckDesk.Json

/-- The rest of a text and the place where it begins. -/
structure Input where
  rest : List Char
  pos : Position := {}

namespace Input

def ofText (s : String) : Input := ⟨s.toList, {}⟩

def size (i : Input) : Nat := i.rest.length

def advance (i : Input) : Input :=
  match i.rest with
  | [] => i
  | c :: cs => ⟨cs, i.pos.after c⟩

/-- A fault where reading has come to. -/
def fail {α : Type} (i : Input) (f : Fault) : Except Error α := .error ⟨f, i.pos⟩

/-- A fault at the next character. -/
def failAhead {α : Type} (i : Input) (f : Fault) : Except Error α :=
  .error ⟨f, match i.rest with
    | [] => i.pos
    | c :: _ => i.pos.afterByte c⟩

/-- The characters that may stand between the parts of a text. -/
def isSpace (c : Char) : Bool := c = ' ' || c = '\n' || c = '\t' || c = '\r'

/-- Characters from a place on, without the spaces in front. -/
def dropSpaces (p : Position) : List Char → Input
  | [] => ⟨[], p⟩
  | c :: cs => if isSpace c then dropSpaces (p.after c) cs else ⟨c :: cs, p⟩

/-- The input without the spaces in front. -/
def skipSpaces (i : Input) : Input := dropSpaces i.pos i.rest

/-- What is left after the spaces is no longer than the text. -/
theorem size_dropSpaces_le (p : Position) (cs : List Char) : (dropSpaces p cs).size ≤ cs.length := by
  induction cs generalizing p with
  | nil => simp [dropSpaces, size]
  | cons c cs ih =>
    simp only [dropSpaces]
    split
    · exact Nat.le_succ_of_le (ih _)
    · simp [size]

/-- Skipping spaces does not make the input longer. -/
theorem size_skipSpaces_le (i : Input) : i.skipSpaces.size ≤ i.size := size_dropSpaces_le _ _

/-- A step forward does not make the input longer, also at its end. -/
theorem size_advance_le (i : Input) : i.advance.size ≤ i.size := by
  unfold advance
  split
  · exact Nat.le_refl _
  · rename_i h
    simp [size, h]

/-- A step over a character makes the input shorter. -/
theorem size_advance_lt {i : Input} {c : Char} {cs : List Char} (h : i.rest = c :: cs) : i.advance.size < i.size := by
  simp [advance, size, h]

end Input

/-- Takes the characters of a word, which must follow at once. -/
def takeWord : List Char → Input → Except Error Input
  | [], i => .ok i
  | w :: ws, i =>
    match i.rest with
    | [] => i.fail .eofInValue
    | c :: _ => if c = w then takeWord ws i.advance else .error ⟨.expectedIdent, i.pos.afterByte c⟩

/-- Reading a literal word does not make the input longer. -/
theorem takeWord_size_le {ws : List Char} {i j : Input} (h : takeWord ws i = .ok j) : j.size ≤ i.size := by
  induction ws generalizing i with
  | nil =>
    obtain rfl := Except.ok.inj h
    exact Nat.le_refl _
  | cons w ws ih =>
    simp only [takeWord] at h
    split at h
    · simp [Input.fail] at h
    · split at h
      · exact Nat.le_trans (ih h) (Input.size_advance_le i)
      · simp at h

end AckDesk.Json
