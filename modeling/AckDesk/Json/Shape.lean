import AckDesk.Json.Reader

/-!
# Shapes

A shape says which members an object of one kind has. The members may come in any order, each at most once; those
that are not required may be missing, and members of other names are passed over. A list of the members' values in
the order of the shape is read in the same way.
-/

namespace AckDesk.Json

/-- A member of an object: its name, whether it must be there, and how its value changes what is built. -/
structure Member (α : Type) where
  name : String
  isRequired : Bool
  reader : Reader (α → α)

/-- The members of an object, and what is built from none of them. -/
structure Shape (α : Type) where
  title : String
  blank : α
  members : List (Member α)

namespace Shape

variable {α : Type}

/-- What is expected in the place of an object of the shape. -/
def expected (s : Shape α) : String := "struct " ++ s.title

/-- What is expected in the place of a list that is too short. -/
def expectedElements (s : Shape α) : String := s.expected ++ " with " ++ toString s.members.length ++ " elements"

def member? (s : Shape α) (name : String) : Option (Member α) := s.members.find? (·.name == name)

/-- The first required member that has not been seen. -/
def missing? (s : Shape α) (seen : List String) : Option (Member α) :=
  s.members.find? fun m => m.isRequired && !seen.contains m.name

/-! ## Objects -/

/-- The next key of an object, and the input after it, or where the object ends. -/
def nextKey (isFirst : Bool) (i : Input) : Except Error (Option String × Input) :=
  let i := i.skipSpaces
  let key (j : Input) : Except Error (Option String × Input) :=
    match j.rest with
    | [] => j.fail .eofInValue
    | '"' :: cs => (stringBody none (j.pos.after '"') cs).map fun x => (some (.ofList x.1), x.2)
    | '\x7d' :: _ => j.failAhead .trailingComma
    | _ => j.failAhead .keyMustBeString
  match i.rest with
  | [] => i.fail .eofInObject
  | '\x7d' :: _ => .ok (none, i)
  | c :: _ =>
    if isFirst then key i
    else if c = ',' then key i.advance.skipSpaces
    else i.failAhead .expectedObjectCommaOrEnd

/-- The place after the end of the object, if it ends here. -/
def endOfObject (i : Input) : Position :=
  let i := i.skipSpaces
  match i.rest with
  | '\x7d' :: _ => i.advance.pos
  | _ => i.pos

/-- Reads the value after a key: the keys seen so far, and what is built. -/
def readMember (s : Shape α) (seen : List String) (a : α) (key : String) (i : Input) :
    Except Error ((List String × α) × Input) :=
  match s.member? key with
  | none => (takeColon i >>= skipValue).map (((seen, a), ·))
  | some m =>
    if seen.contains key then .error ⟨.duplicateField key, endOfObject i⟩
    else
      match takeColon i with
      | .error e => .error e
      | .ok i => (m.reader.read i).map fun x => ((key :: seen, x.1 a), x.2)

/-- The search for the next member's name does not make the input longer. -/
theorem nextKey_size_le {isFirst : Bool} {i j : Input} {key : Option String} (h : nextKey isFirst i = .ok (key, j)) :
    j.size ≤ i.size := by
  have hs := Input.size_skipSpaces_le i
  have ha := Input.size_advance_le i.skipSpaces
  have hj := Input.size_skipSpaces_le i.skipSpaces.advance
  have hk {l : Input} {cs : List Char} (hl : l.rest = '"' :: cs) (h : (stringBody none (l.pos.after '"') cs).map
      (fun x => (some (String.ofList x.1), x.2)) = .ok (key, j)) : j.size ≤ l.size := by
    cases hb : stringBody none (l.pos.after '"') cs with
    | error e => simp [hb, Except.map] at h
    | ok x =>
      simp only [hb, Except.map, Except.ok.injEq, Prod.mk.injEq] at h
      have hx := stringBody_size_lt (show stringBody _ _ _ = .ok (x.1, x.2) from hb)
      simp only [Input.size, hl, List.length_cons, h.2] at *
      omega
  simp only [nextKey] at h
  split at h
  · simp [Input.fail] at h
  · simp only [Except.ok.injEq, Prod.mk.injEq] at h
    exact h.2 ▸ hs
  · split at h
    · split at h
      · simp [Input.fail] at h
      · exact Nat.le_trans (hk ‹_› h) hs
      · simp [Input.failAhead] at h
      · simp [Input.failAhead] at h
    · split at h
      · split at h
        · simp [Input.fail] at h
        · have := hk ‹_› h
          omega
        · simp [Input.failAhead] at h
        · simp [Input.failAhead] at h
      · simp [Input.failAhead] at h

/-- A member takes up input, whether it is a known one or one that is skipped. -/
theorem readMember_size_lt {s : Shape α} {seen : List String} {a : α} {key : String} {i j : Input}
    {x : List String × α} (h : s.readMember seen a key i = .ok (x, j)) : j.size < i.size := by
  unfold readMember at h
  split at h
  · have h := eq_ok_of_map h
    cases hc : takeColon i with
    | error e => simp [hc, bind, Except.bind] at h
    | ok k =>
      have := takeColon_size_lt hc
      have := skipValue_size_lt (by simpa [hc, bind, Except.bind] using h)
      omega
  · split at h
    · simp at h
    · split at h
      · simp at h
      · rename_i m _ _ _ k hc
        have hr : (m.reader.map fun f => (key :: seen, f a)).read k = .ok (x, j) := h
        exact Nat.lt_trans (Reader.size_lt _ hr) (takeColon_size_lt hc)

/-- Reads members and the end of the object. -/
def readMembers (s : Shape α) (isFirst : Bool) (seen : List String) (a : α) (i : Input) : Except Error (α × Input) :=
  match _hk : nextKey isFirst i with
  | .error e => .error e
  | .ok (none, j) =>
    match s.missing? seen with
    | some m => .error ⟨.missingField m.name, endOfObject j⟩
    | none => .ok (a, j.advance)
  | .ok (some key, j) =>
    match _hm : s.readMember seen a key j with
    | .error e => .error e
    | .ok (x, k) => s.readMembers false x.1 x.2 k
termination_by i.size
decreasing_by exact Nat.lt_of_lt_of_le (readMember_size_lt _hm) (nextKey_size_le _hk)

/-- The members of an object and its end do not make the input longer. -/
theorem readMembers_size_le {s : Shape α} {isFirst : Bool} {seen : List String} {a b : α} {i j : Input}
    (h : s.readMembers isFirst seen a i = .ok (b, j)) : j.size ≤ i.size := by
  fun_induction readMembers s isFirst seen a i with
  | case1 | case2 | case4 => simp at h
  | case3 _ _ _ _ k hk =>
    simp only [Except.ok.injEq, Prod.mk.injEq] at h
    rw [← h.2]
    exact Nat.le_trans (Input.size_advance_le k) (nextKey_size_le hk)
  | case5 _ _ _ _ _ _ hk _ _ hm ih =>
    have := ih h
    have := readMember_size_lt hm
    have := nextKey_size_le hk
    omega

/-! ## Lists of values -/

/-- Takes the end of a list, which must not go on. -/
def endOfList (i : Input) : Except Error Input :=
  let i := i.skipSpaces
  match i.rest with
  | [] => i.fail .eofInList
  | ']' :: _ => .ok i.advance
  | ',' :: _ =>
    let j := i.advance.skipSpaces
    match j.rest with
    | ']' :: _ => j.failAhead .trailingComma
    | _ => j.failAhead .trailingCharacters
  | _ => i.failAhead .trailingCharacters

/-- Reads the values of the members from the one at `index` on, and the end of the list. -/
def readValues (s : Shape α) (index : Nat) (a : α) (i : Input) : List (Member α) → Except Error (α × Input)
  | [] => (endOfList i).map ((a, ·))
  | m :: ms =>
    match Reader.nextElement (index = 0) i with
    | .error e => .error e
    | .ok (false, j) =>
      if m.isRequired then .error ⟨.invalidLength index s.expectedElements, j.advance.pos⟩
      else s.readValues (index + 1) a j ms
    | .ok (true, j) =>
      match m.reader.read j with
      | .error e => .error e
      | .ok (f, k) => s.readValues (index + 1) (f a) k ms

/-- The end of a list does not make the input longer. -/
theorem endOfList_size_le {i j : Input} (h : endOfList i = .ok j) : j.size ≤ i.size := by
  have hs := Input.size_skipSpaces_le i
  have ha := Input.size_advance_le i.skipSpaces
  simp only [endOfList] at h
  split at h
  · simp [Input.fail] at h
  · rw [← Except.ok.inj h]
    omega
  · split at h <;> simp [Input.failAhead] at h
  · simp [Input.failAhead] at h

/-- The values of a list and its end do not make the input longer, also where an optional value is absent. -/
theorem readValues_size_le {s : Shape α} {index : Nat} {a b : α} {i j : Input} {ms : List (Member α)}
    (h : s.readValues index a i ms = .ok (b, j)) : j.size ≤ i.size := by
  fun_induction readValues s index a i ms with
  | case1 => exact endOfList_size_le (eq_ok_of_map h)
  | case2 | case3 | case5 => simp at h
  | case4 _ _ _ _ _ _ hn _ ih => exact Nat.le_trans (ih h) (Reader.nextElement_size_le hn)
  | case6 _ _ _ m _ _ hn _ _ hr ih =>
    have := ih h
    have := m.reader.size_lt hr
    have := Reader.nextElement_size_le hn
    omega

/-! ## Readers of shapes -/

/-- Reads an object of the shape, or a list of its members' values. -/
def read (s : Shape α) (i : Input) : Except Error (α × Input) :=
  let i := i.skipSpaces
  match i.rest with
  | [] => i.fail .eofInValue
  | '[' :: _ => s.readValues 0 s.blank i.advance s.members
  | '\x7b' :: _ => s.readMembers true [] s.blank i.advance
  | _ => unexpected s.expected i

/-- An object takes up input in either form, so that a reader of objects may itself be a member's reader. -/
theorem read_size_lt {s : Shape α} {i j : Input} {a : α} (h : s.read i = .ok (a, j)) : j.size < i.size := by
  have hs := Input.size_skipSpaces_le i
  simp only [read] at h
  split at h
  · simp [Input.fail] at h
  · rename_i hi
    have := readValues_size_le h
    have := Input.size_advance_lt hi
    omega
  · rename_i hi
    have := readMembers_size_le h
    have := Input.size_advance_lt hi
    omega
  · exact absurd h unexpected_ne_ok

/-- An object of the shape, or a list of its members' values. -/
def reader (s : Shape α) : Reader α := ⟨s.read, read_size_lt⟩

end Shape

end AckDesk.Json
