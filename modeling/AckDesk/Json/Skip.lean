import AckDesk.Json.Text

/-!
# Skipped values

Values that no member asks for are passed over without being built. The brackets that are still open are kept on a
stack, so that a value may be nested to any depth.
-/

namespace AckDesk.Json

/-! ## Numbers -/

def skipDigits (i : Input) : Input := ⟨i.rest.dropWhile Char.isDigit, i.pos.afterAll (i.rest.takeWhile Char.isDigit)⟩

/-- Takes one digit, which must follow at once. -/
def takeDigit (i : Input) : Except Error (Char × Input) :=
  match i.rest with
  | [] => i.fail .invalidNumber
  | c :: _ => if c.isDigit then .ok (c, i.advance) else i.failAhead .invalidNumber

/-- Passes over an exponent after its letter. -/
def skipExponent (i : Input) : Except Error Input :=
  let i := match i.rest with
    | '+' :: _ | '-' :: _ => i.advance
    | _ => i
  (takeDigit i).map fun x => skipDigits x.2

/-- Passes over an exponent, if there is one. -/
def skipExponent? (i : Input) : Except Error Input :=
  match i.rest with
  | 'e' :: _ | 'E' :: _ => skipExponent i.advance
  | _ => .ok i

/-- Passes over what follows the digits in front of the point. -/
def skipFraction? (i : Input) : Except Error Input :=
  match i.rest with
  | '.' :: cs =>
    if cs.head?.any Char.isDigit then skipExponent? (skipDigits i.advance) else i.advance.failAhead .invalidNumber
  | _ => skipExponent? i

/-- Passes over a number without its sign. -/
def skipNumeral (i : Input) : Except Error Input :=
  match takeDigit i with
  | .error e => .error e
  | .ok (c, j) =>
    if c ≠ '0' then skipFraction? (skipDigits j)
    else if j.rest.head?.any Char.isDigit then j.failAhead .invalidNumber
    else skipFraction? j

/-- Skipping digits does not make the input longer. -/
theorem size_skipDigits_le (i : Input) : (skipDigits i).size ≤ i.size :=
  (List.dropWhile_suffix Char.isDigit).length_le

/-- A digit takes up one character. -/
theorem takeDigit_size_lt {i j : Input} {c : Char} (h : takeDigit i = .ok (c, j)) : j.size < i.size := by
  unfold takeDigit at h
  split at h
  · simp [Input.fail] at h
  · rename_i hi
    split at h
    · simp only [Except.ok.injEq, Prod.mk.injEq] at h
      exact h.2 ▸ Input.size_advance_lt hi
    · simp [Input.failAhead] at h

/-- An exponent takes up at least its letter. -/
theorem skipExponent_size_lt {i j : Input} (h : skipExponent i = .ok j) : j.size < i.size := by
  unfold skipExponent at h
  cases hd : takeDigit (match i.rest with
    | '+' :: _ | '-' :: _ => i.advance
    | _ => i) with
  | error e => simp [hd, Except.map] at h
  | ok x =>
    simp only [hd, Except.map, Except.ok.injEq] at h
    have hx := takeDigit_size_lt hd
    have hj := size_skipDigits_le x.2
    have hi := Input.size_advance_le i
    rw [h] at hj
    split at hx <;> omega

/-- A numeral's exponent may be absent. -/
theorem skipExponent?_size_le {i j : Input} (h : skipExponent? i = .ok j) : j.size ≤ i.size := by
  unfold skipExponent? at h
  have hi := Input.size_advance_le i
  split at h
  · have hj := skipExponent_size_lt h
    omega
  · have hj := skipExponent_size_lt h
    omega
  · exact Except.ok.inj h ▸ Nat.le_refl _

/-- A numeral's fraction may be absent. -/
theorem skipFraction?_size_le {i j : Input} (h : skipFraction? i = .ok j) : j.size ≤ i.size := by
  unfold skipFraction? at h
  split at h
  · split at h
    · have hj := skipExponent?_size_le h
      have hi := Input.size_advance_le i
      have hd := size_skipDigits_le i.advance
      omega
    · simp [Input.failAhead] at h
  · exact skipExponent?_size_le h

/-- A numeral takes up at least one digit. -/
theorem skipNumeral_size_lt {i j : Input} (h : skipNumeral i = .ok j) : j.size < i.size := by
  unfold skipNumeral at h
  split at h
  · simp at h
  · rename_i c k hd
    have hk := takeDigit_size_lt hd
    split at h
    · have hj := skipFraction?_size_le h
      have hs := size_skipDigits_le k
      omega
    · split at h
      · simp [Input.failAhead] at h
      · have hj := skipFraction?_size_le h
        omega

/-! ## Brackets -/

/-- An open bracket. -/
inductive Bracket where
  | list
  | object
deriving DecidableEq

namespace Bracket

def close : Bracket → Char
  | list => ']'
  | object => '\x7d'

/-- The fault of a text that ends inside the bracket. -/
def eof : Bracket → Fault
  | list => .eofInList
  | object => .eofInObject

/-- The fault of a value that is followed neither by a comma nor by the closing bracket. -/
def expectedCommaOrEnd : Bracket → Fault
  | list => .expectedListCommaOrEnd
  | object => .expectedObjectCommaOrEnd

end Bracket

/-- Takes the first token of a value, and says which bracket it opens. -/
def skipToken (i : Input) : Except Error (Option Bracket × Input) :=
  match i.rest with
  | [] => i.fail .eofInValue
  | 'n' :: _ => (takeWord ['u', 'l', 'l'] i.advance).map ((none, ·))
  | 't' :: _ => (takeWord ['r', 'u', 'e'] i.advance).map ((none, ·))
  | 'f' :: _ => (takeWord ['a', 'l', 's', 'e'] i.advance).map ((none, ·))
  | '-' :: _ => (skipNumeral i.advance).map ((none, ·))
  | '"' :: cs => (skipString (i.pos.after '"') cs).map ((none, ·))
  | '[' :: _ => .ok (some .list, i.advance)
  | '\x7b' :: _ => .ok (some .object, i.advance)
  | c :: _ => if c.isDigit then (skipNumeral i).map ((none, ·)) else i.failAhead .expectedValue

/-- Takes closing brackets, and after a value one comma: the brackets that are open still, if any. -/
def closeBrackets (afterValue : Bool) (i : Input) : List Bracket → Except Error (List Bracket × Input)
  | [] => .ok ([], i)
  | b :: bs =>
    let i := i.skipSpaces
    match i.rest with
    | [] => i.fail b.eof
    | c :: _ =>
      if c = b.close then closeBrackets true i.advance bs
      else if !afterValue then .ok (b :: bs, i)
      else if c = ',' then .ok (b :: bs, i.advance)
      else i.failAhead b.expectedCommaOrEnd

def takeColon (i : Input) : Except Error Input :=
  let i := i.skipSpaces
  match i.rest with
  | [] => i.fail .eofInObject
  | c :: _ => if c = ':' then .ok i.advance else i.failAhead .expectedColon

def skipKey (i : Input) : Except Error Input :=
  let i := i.skipSpaces
  match i.rest with
  | [] => i.fail .eofInObject
  | c :: cs => if c = '"' then skipString (i.pos.after c) cs >>= takeColon else i.failAhead .keyMustBeString

/-- Passes over a token of a value and what leads to the next one: the brackets that are open still. -/
def skipStep (opened : List Bracket) (i : Input) : Except Error (List Bracket × Input) :=
  match skipToken i.skipSpaces with
  | .error e => .error e
  | .ok (bracket, i) =>
    match closeBrackets bracket.isNone i (bracket.toList ++ opened) with
    | .ok (.object :: bs, i) => (skipKey i).map ((.object :: bs, ·))
    | r => r

/-- A success that is paired with a value comes from a success. -/
theorem eq_ok_of_map {α : Type} {r : Except Error Input} {a b : α} {j : Input} (h : r.map ((a, ·)) = .ok (b, j)) :
    r = .ok j := by
  cases r with
  | error e => simp [Except.map] at h
  | ok k =>
    simp only [Except.map, Except.ok.injEq, Prod.mk.injEq] at h
    rw [h.2]

/-- A token of a skipped value takes up input: a scalar its text, an opening its bracket. -/
theorem skipToken_size_lt {i j : Input} {b : Option Bracket} (h : skipToken i = .ok (b, j)) : j.size < i.size := by
  have hw {w : List Char} {c : Char} {cs : List Char} (hi : i.rest = c :: cs)
      (h : (takeWord w i.advance).map ((none, ·)) = .ok (b, j)) : j.size < i.size :=
    Nat.lt_of_le_of_lt (takeWord_size_le (eq_ok_of_map h)) (Input.size_advance_lt hi)
  unfold skipToken at h
  split at h
  · simp [Input.fail] at h
  · exact hw ‹_› h
  · exact hw ‹_› h
  · exact hw ‹_› h
  · exact Nat.lt_trans (skipNumeral_size_lt (eq_ok_of_map h)) (Input.size_advance_lt ‹_›)
  · rename_i hi
    have hs := skipString_size_lt (eq_ok_of_map h)
    simp only [Input.size, hi, List.length_cons] at *
    omega
  · simp only [Except.ok.injEq, Prod.mk.injEq] at h
    exact h.2 ▸ Input.size_advance_lt ‹_›
  · simp only [Except.ok.injEq, Prod.mk.injEq] at h
    exact h.2 ▸ Input.size_advance_lt ‹_›
  · split at h
    · exact skipNumeral_size_lt (eq_ok_of_map h)
    · simp [Input.failAhead] at h

/-- Closing brackets does not make the input longer, as there may be none to close. -/
theorem closeBrackets_size_le {afterValue : Bool} {i j : Input} {bs cs : List Bracket}
    (h : closeBrackets afterValue i bs = .ok (cs, j)) : j.size ≤ i.size := by
  induction bs generalizing afterValue i with
  | nil =>
    simp only [closeBrackets, Except.ok.injEq, Prod.mk.injEq] at h
    exact h.2 ▸ Nat.le_refl _
  | cons b bs ih =>
    have hs := Input.size_skipSpaces_le i
    have ha := Input.size_advance_le i.skipSpaces
    simp only [closeBrackets] at h
    split at h
    · simp [Input.fail] at h
    · split at h
      · have := ih h
        omega
      · split at h
        · simp only [Except.ok.injEq, Prod.mk.injEq] at h
          exact h.2 ▸ hs
        · split at h
          · simp only [Except.ok.injEq, Prod.mk.injEq] at h
            rw [← h.2]
            omega
          · simp [Input.failAhead] at h

/-- A colon takes up input, with the spaces before it. -/
theorem takeColon_size_lt {i j : Input} (h : takeColon i = .ok j) : j.size < i.size := by
  have hs := Input.size_skipSpaces_le i
  simp only [takeColon] at h
  split at h
  · simp [Input.fail] at h
  · rename_i hi
    split at h
    · have ha := Input.size_advance_lt hi
      rw [← Except.ok.inj h]
      omega
    · simp [Input.failAhead] at h

/-- A member's name takes up input, with its colon. -/
theorem skipKey_size_lt {i j : Input} (h : skipKey i = .ok j) : j.size < i.size := by
  have hs := Input.size_skipSpaces_le i
  simp only [skipKey] at h
  split at h
  · simp [Input.fail] at h
  · rename_i c cs hi
    split at h
    · cases hk : skipString (i.skipSpaces.pos.after c) cs with
      | error e => simp [hk, bind, Except.bind] at h
      | ok k =>
        have := skipString_size_lt hk
        have := takeColon_size_lt (by simpa [hk, bind, Except.bind] using h)
        simp only [Input.size, hi, List.length_cons] at *
        omega
    · simp [Input.failAhead] at h

/-- A round of the skipping loop takes up input. The loop ends for this reason. -/
theorem skipStep_size_lt {opened bs : List Bracket} {i j : Input} (h : skipStep opened i = .ok (bs, j)) :
    j.size < i.size := by
  have hs := Input.size_skipSpaces_le i
  unfold skipStep at h
  split at h
  · simp at h
  · rename_i b k hk
    have := skipToken_size_lt hk
    split at h
    · rename_i hc
      have := closeBrackets_size_le hc
      have := skipKey_size_lt (eq_ok_of_map h)
      omega
    · have := closeBrackets_size_le h
      omega

/-- Passes over a value, and all values up to the end of the brackets that are open. -/
def skipUntilClosed (opened : List Bracket) (i : Input) : Except Error Input :=
  match _h : skipStep opened i with
  | .error e => .error e
  | .ok ([], j) => .ok j
  | .ok (b :: bs, j) => skipUntilClosed (b :: bs) j
termination_by i.size
decreasing_by exact skipStep_size_lt _h

def skipValue (i : Input) : Except Error Input := skipUntilClosed [] i

/-- The loop takes up input, as each of its rounds does. -/
theorem skipUntilClosed_size_lt {opened : List Bracket} {i j : Input} (h : skipUntilClosed opened i = .ok j) :
    j.size < i.size := by
  fun_induction skipUntilClosed opened i with
  | case1 => simp at h
  | case2 _ _ _ hs => exact Except.ok.inj h ▸ skipStep_size_lt hs
  | case3 _ _ _ _ _ hs ih => exact Nat.lt_trans (ih h) (skipStep_size_lt hs)

/-- A skipped value takes up input, so that the loop over the members around it ends as well. -/
theorem skipValue_size_lt {i j : Input} (h : skipValue i = .ok j) : j.size < i.size := skipUntilClosed_size_lt h

end AckDesk.Json
