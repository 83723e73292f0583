import AckDesk.Json.Numeral
import AckDesk.Json.Skip
import AckDesk.Text.Quoted

/-!
# Readers

A `Reader α` takes a value of `α` from the front of a text. It always takes something, so that readers can be
repeated until a list ends. A value of another kind is named in the fault, in the way of `unexpected`.
-/

namespace AckDesk.Json

/-- Takes a value from the front of an input, of which less is left. -/
structure Reader (α : Type) where
  read : Input → Except Error (α × Input)
  size_lt : ∀ {i a j}, read i = .ok (a, j) → j.size < i.size

/-- The fault of a value that is not of the expected kind, or that is no value at all. -/
def unexpected {α : Type} (expected : String) (i : Input) : Except Error α :=
  let invalid {β : Type} (found : String) (p : Position) : Except Error β := .error ⟨.invalidType found expected, p⟩
  match i.rest with
  | [] => i.failAhead .expectedValue
  | 'n' :: _ => takeWord ['u', 'l', 'l'] i.advance >>= fun j => invalid "null" j.pos
  | 't' :: _ => takeWord ['r', 'u', 'e'] i.advance >>= fun j => invalid "boolean `true`" j.pos
  | 'f' :: _ => takeWord ['a', 'l', 's', 'e'] i.advance >>= fun j => invalid "boolean `false`" j.pos
  | '-' :: _ => readNumeral true i.advance >>= fun (n, p) => invalid n.text p
  | '"' :: cs =>
    stringBody none (i.pos.after '"') cs >>= fun (s, j) => invalid ("string " ++ Text.quoted (.ofList s)) j.pos
  | '[' :: _ => invalid "sequence" i.pos
  | '\x7b' :: _ => invalid "map" i.pos
  | c :: _ =>
    if c.isDigit then readNumeral false i >>= fun (n, p) => invalid n.text p else i.failAhead .expectedValue

/-- An unexpected character is never a success. -/
theorem unexpected_ne_ok {α : Type} {expected : String} {i : Input} {a : α} : unexpected expected i ≠ .ok a := by
  have hb {β : Type} {r : Except Error β} {f : β → Except Error α} (hf : ∀ b, f b ≠ .ok a) : r >>= f ≠ .ok a := by
    cases r with
    | error e => simp [bind, Except.bind]
    | ok b => exact hf b
  unfold unexpected
  split
  · simp [Input.failAhead]
  · exact hb fun _ => by simp
  · exact hb fun _ => by simp
  · exact hb fun _ => by simp
  · exact hb fun _ => by simp
  · exact hb fun _ => by simp
  · simp
  · simp
  · split
    · exact hb fun _ => by simp
    · simp [Input.failAhead]

namespace Reader

variable {α β : Type}

/-- The same text, with a function applied to the value. -/
def map (f : α → β) (r : Reader α) : Reader β where
  read i := (r.read i).map fun x => (f x.1, x.2)
  size_lt {i a j} h := by
    cases hr : r.read i with
    | error e => simp [hr, Except.map] at h
    | ok x =>
      simp only [hr, Except.map, Except.ok.injEq, Prod.mk.injEq] at h
      exact h.2 ▸ r.size_lt (a := x.1) hr

/-! ## Strings and booleans -/

def readString (i : Input) : Except Error (String × Input) :=
  let i := i.skipSpaces
  match i.rest with
  | [] => i.fail .eofInValue
  | '"' :: cs => (stringBody none (i.pos.after '"') cs).map fun x => (.ofList x.1, x.2)
  | _ => unexpected "a string" i

/-- A string takes up at least its quotes. -/
theorem readString_size_lt {i j : Input} {s : String} (h : readString i = .ok (s, j)) : j.size < i.size := by
  have hs := Input.size_skipSpaces_le i
  simp only [readString] at h
  split at h
  · simp [Input.fail] at h
  · rename_i cs hi
    cases hb : stringBody none (i.skipSpaces.pos.after '"') cs with
    | error e => simp [hb, Except.map] at h
    | ok x =>
      simp only [hb, Except.map, Except.ok.injEq, Prod.mk.injEq] at h
      have hx := stringBody_size_lt (show stringBody _ _ _ = .ok (x.1, x.2) from hb)
      simp only [Input.size, hi, List.length_cons, h.2] at *
      omega
  · exact absurd h unexpected_ne_ok

def string : Reader String := ⟨readString, readString_size_lt⟩

def readBool (i : Input) : Except Error (Bool × Input) :=
  let i := i.skipSpaces
  match i.rest with
  | [] => i.fail .eofInValue
  | 't' :: _ => (takeWord ['r', 'u', 'e'] i.advance).map ((true, ·))
  | 'f' :: _ => (takeWord ['a', 'l', 's', 'e'] i.advance).map ((false, ·))
  | _ => unexpected "a boolean" i

/-- A truth value takes up at least one character. -/
theorem readBool_size_lt {i j : Input} {b : Bool} (h : readBool i = .ok (b, j)) : j.size < i.size := by
  have hs := Input.size_skipSpaces_le i
  have hw {w : List Char} {a : Bool} {c : Char} {cs : List Char} (hi : i.skipSpaces.rest = c :: cs)
      (h : (takeWord w i.skipSpaces.advance).map ((a, ·)) = .ok (b, j)) : j.size < i.size :=
    Nat.lt_of_lt_of_le (Nat.lt_of_le_of_lt (takeWord_size_le (eq_ok_of_map h)) (Input.size_advance_lt hi)) hs
  simp only [readBool] at h
  split at h
  · simp [Input.fail] at h
  · exact hw ‹_› h
  · exact hw ‹_› h
  · exact absurd h unexpected_ne_ok

def bool : Reader Bool := ⟨readBool, readBool_size_lt⟩

/-! ## Null -/

/-- Reads null or a value. -/
def readNullable (r : Reader α) (i : Input) : Except Error (Option α × Input) :=
  let i := i.skipSpaces
  match i.rest with
  | 'n' :: _ => (takeWord ['u', 'l', 'l'] i.advance).map ((none, ·))
  | _ => (r.read i).map fun x => (some x.1, x.2)

/-- A nullable value takes up input: null takes its letters, any other value what its reader takes. -/
theorem readNullable_size_lt {r : Reader α} {i j : Input} {a : Option α} (h : readNullable r i = .ok (a, j)) :
    j.size < i.size := by
  have hs := Input.size_skipSpaces_le i
  simp only [readNullable] at h
  split at h
  · rename_i hi
    have := takeWord_size_le (eq_ok_of_map h)
    have := Input.size_advance_lt hi
    omega
  · exact Nat.lt_of_lt_of_le ((r.map some).size_lt h) hs

/-- A value, or null in its place. -/
def nullable (r : Reader α) : Reader (Option α) := ⟨readNullable r, readNullable_size_lt⟩

/-! ## Lists -/

/-- Whether a further element follows in a list, and the input where it begins, or where the list ends. -/
def nextElement (isFirst : Bool) (i : Input) : Except Error (Bool × Input) :=
  let i := i.skipSpaces
  match i.rest with
  | [] => i.fail .eofInList
  | ']' :: _ => .ok (false, i)
  | c :: _ =>
    if isFirst then .ok (true, i)
    else if c = ',' then
      let j := i.advance.skipSpaces
      match j.rest with
      | [] => j.fail .eofInValue
      | ']' :: _ => j.failAhead .trailingComma
      | _ => .ok (true, j)
    else i.failAhead .expectedListCommaOrEnd

/-- The search for the next element does not make the input longer. -/
theorem nextElement_size_le {isFirst b : Bool} {i j : Input} (h : nextElement isFirst i = .ok (b, j)) :
    j.size ≤ i.size := by
  have hs := Input.size_skipSpaces_le i
  have ha := Input.size_advance_le i.skipSpaces
  have hj := Input.size_skipSpaces_le i.skipSpaces.advance
  simp only [nextElement] at h
  split at h
  · simp [Input.fail] at h
  · simp only [Except.ok.injEq, Prod.mk.injEq] at h
    exact h.2 ▸ hs
  · split at h
    · simp only [Except.ok.injEq, Prod.mk.injEq] at h
      exact h.2 ▸ hs
    · split at h
      · split at h
        · simp [Input.fail] at h
        · simp [Input.failAhead] at h
        · simp only [Except.ok.injEq, Prod.mk.injEq] at h
          rw [← h.2]
          omega
      · simp [Input.failAhead] at h

/-- Reads elements and the end of the list. -/
def readElements (r : Reader α) (isFirst : Bool) (i : Input) : Except Error (List α × Input) :=
  match _hn : nextElement isFirst i with
  | .error e => .error e
  | .ok (false, j) => .ok ([], j.advance)
  | .ok (true, j) =>
    match _hr : r.read j with
    | .error e => .error e
    | .ok (a, k) => (readElements r false k).map fun x => (a :: x.1, x.2)
termination_by i.size
decreasing_by exact Nat.lt_of_lt_of_le (r.size_lt _hr) (nextElement_size_le _hn)

/-- The elements of a list and its end do not make the input longer. -/
theorem readElements_size_le {r : Reader α} {isFirst : Bool} {i j : Input} {as : List α}
    (h : readElements r isFirst i = .ok (as, j)) : j.size ≤ i.size := by
  fun_induction readElements r isFirst i generalizing as with
  | case1 | case3 => simp at h
  | case2 _ _ k hn =>
    simp only [Except.ok.injEq, Prod.mk.injEq] at h
    rw [← h.2]
    exact Nat.le_trans (Input.size_advance_le k) (nextElement_size_le hn)
  | case4 isFirst i l hn a k hr ih =>
    cases he : readElements r false k with
    | error e => simp [he, Except.map] at h
    | ok x =>
      simp only [he, Except.map, Except.ok.injEq, Prod.mk.injEq] at h
      have := ih (show readElements r false k = .ok (x.1, j) by rw [he, ← h.2])
      have := r.size_lt hr
      have := nextElement_size_le hn
      omega

def readList (r : Reader α) (i : Input) : Except Error (List α × Input) :=
  let i := i.skipSpaces
  match i.rest with
  | [] => i.fail .eofInValue
  | '[' :: _ => readElements r true i.advance
  | _ => unexpected "a sequence" i

/-- A list takes up at least its bracket. -/
theorem readList_size_lt {r : Reader α} {i j : Input} {as : List α} (h : readList r i = .ok (as, j)) :
    j.size < i.size := by
  have hs := Input.size_skipSpaces_le i
  simp only [readList] at h
  split at h
  · simp [Input.fail] at h
  · rename_i hi
    have := readElements_size_le h
    have := Input.size_advance_lt hi
    omega
  · exact absurd h unexpected_ne_ok

def list (r : Reader α) : Reader (List α) := ⟨readList r, readList_size_lt⟩

/-! ## Whole texts -/

/-- The value of a text in which nothing but spaces follows it. -/
def whole (r : Reader α) (text : String) : Except Error α :=
  match r.read (.ofText text) with
  | .error e => .error e
  | .ok (a, i) =>
    let i := i.skipSpaces
    if i.rest = [] then .ok a else i.failAhead .trailingCharacters

end Reader

end AckDesk.Json
