import AckDesk.Json.Input

/-!
# The grammar of JSON texts

What a text says, laid down without a reader. Every rule takes something from the front of a list of characters and
names what is left: `Spaces l rest`, `Spells s l rest` for a string up to its closing quote, `Written part l rest`
for a value, an element or a row of them. A text says `t` (`IsText`) when one element `t` takes all of it.

- A `Tree` is a value without its layout. Numbers are not told apart. A string whose escapes leave half of a
  surrogate pair alone is a string in the grammar, but of no characters: it is `none`.
- The characters behind a backslash (`letters`), the digits (`IsHex`) and the code units of characters beyond 16
  bits (`highUnit`, `lowUnit`) are those of the standard, not those of the reader.
-/

namespace AckDesk.Json

/-- A value as a text lays it down. -/
inductive Tree where
  | null
  | bool (b : Bool)
  | number
  | string (s : Option String)
  | list (ts : List Tree)
  | object (ms : List (Option String × Tree))

/-- The spaces of the grammar, and what is left after them. -/
inductive Spaces : List Char → List Char → Prop
  | none {l : List Char} : Spaces l l
  | cons {c : Char} {l rest : List Char} (hc : c ∈ [' ', '\n', '\t', '\r']) (h : Spaces l rest) : Spaces (c :: l) rest

/-! ## Numbers -/

/-- At least one digit. -/
inductive Digits : List Char → List Char → Prop
  | last {d : Char} {rest : List Char} (hd : d.isDigit) : Digits (d :: rest) rest
  | cons {d : Char} {l rest : List Char} (hd : d.isDigit) (h : Digits l rest) : Digits (d :: l) rest

/-- An exponent, if there is one. -/
inductive Exponent : List Char → List Char → Prop
  | none {l : List Char} : Exponent l l
  | bare {e : Char} {l rest : List Char} (he : e ∈ ['e', 'E']) (h : Digits l rest) : Exponent (e :: l) rest
  | signed {e s : Char} {l rest : List Char} (he : e ∈ ['e', 'E']) (hs : s ∈ ['+', '-']) (h : Digits l rest) :
      Exponent (e :: s :: l) rest

/-- What follows the digits in front of a point. -/
inductive Fraction : List Char → List Char → Prop
  | none {l rest : List Char} (h : Exponent l rest) : Fraction l rest
  | point {l m rest : List Char} (h : Digits l m) (he : Exponent m rest) : Fraction ('.' :: l) rest

/-- A number without its sign. -/
inductive Unsigned : List Char → List Char → Prop
  | zero {l rest : List Char} (h : Fraction l rest) : Unsigned ('0' :: l) rest
  | digit {d : Char} {l rest : List Char} (hd : d.isDigit) (h₀ : d ≠ '0') (h : Fraction l rest) : Unsigned (d :: l) rest
  | digits {d : Char} {l m rest : List Char} (hd : d.isDigit) (h₀ : d ≠ '0') (hm : Digits l m) (h : Fraction m rest) :
      Unsigned (d :: l) rest

/-- A number. -/
inductive Number : List Char → List Char → Prop
  | positive {l rest : List Char} (h : Unsigned l rest) : Number l rest
  | negative {l rest : List Char} (h : Unsigned l rest) : Number ('-' :: l) rest

/-! ## Strings -/

def lowerHex : List Char := ['0', '1', '2', '3', '4', '5', '6', '7', '8', '9', 'a', 'b', 'c', 'd', 'e', 'f']

def upperHex : List Char := ['0', '1', '2', '3', '4', '5', '6', '7', '8', '9', 'A', 'B', 'C', 'D', 'E', 'F']

/-- A hexadecimal digit in either case, and its value. -/
def IsHex (c : Char) (n : Nat) : Prop := lowerHex[n]? = some c ∨ upperHex[n]? = some c

/-- Four hexadecimal digits, and the number they stand for. -/
def IsUnit (a b c d : Char) (n : Nat) : Prop :=
  ∃ w x y z, IsHex a w ∧ IsHex b x ∧ IsHex c y ∧ IsHex d z ∧ n = 0x1000 * w + 0x100 * x + 0x10 * y + z

/-- The letters that may stand behind a backslash, with the characters they stand for. -/
def letters : List (Char × Char) :=
  [('"', '"'), ('\\', '\\'), ('/', '/'), ('b', '\x08'), ('f', '\x0c'), ('n', '\n'), ('r', '\r'), ('t', '\t')]

/-- The first UTF-16 code unit of a character beyond 16 bits. -/
def highUnit (x : Char) : Nat := 0xD800 + (x.toNat - 0x10000) / 0x400

/-- The second UTF-16 code unit of a character beyond 16 bits. -/
def lowUnit (x : Char) : Nat := 0xDC00 + (x.toNat - 0x10000) % 0x400

/-- A string up to its closing quote, and the characters it spells. -/
inductive Spells : List Char → List Char → List Char → Prop
  | close {rest : List Char} : Spells [] ('"' :: rest) rest
  | plain {c : Char} {s l rest : List Char} (h₁ : ' ' ≤ c) (h₂ : c ≠ '"') (h₃ : c ≠ '\\') (h : Spells s l rest) :
      Spells (c :: s) (c :: l) rest
  | letter {e x : Char} {s l rest : List Char} (he : (e, x) ∈ letters) (h : Spells s l rest) :
      Spells (x :: s) ('\\' :: e :: l) rest
  | unit {a b c d x : Char} {s l rest : List Char} (hx : x.toNat < 0x10000) (hu : IsUnit a b c d x.toNat)
      (h : Spells s l rest) : Spells (x :: s) ('\\' :: 'u' :: a :: b :: c :: d :: l) rest
  | pair {a b c d a' b' c' d' x : Char} {s l rest : List Char} (hx : 0x10000 ≤ x.toNat)
      (hu : IsUnit a b c d (highUnit x)) (hu' : IsUnit a' b' c' d' (lowUnit x)) (h : Spells s l rest) :
      Spells (x :: s) ('\\' :: 'u' :: a :: b :: c :: d :: '\\' :: 'u' :: a' :: b' :: c' :: d' :: l) rest

/-- A string up to its closing quote, whatever it spells. -/
inductive Body : List Char → List Char → Prop
  | close {rest : List Char} : Body ('"' :: rest) rest
  | plain {c : Char} {l rest : List Char} (h₁ : ' ' ≤ c) (h₂ : c ≠ '"') (h₃ : c ≠ '\\') (h : Body l rest) :
      Body (c :: l) rest
  | letter {e x : Char} {l rest : List Char} (he : (e, x) ∈ letters) (h : Body l rest) : Body ('\\' :: e :: l) rest
  | unit {a b c d : Char} {n : Nat} {l rest : List Char} (hu : IsUnit a b c d n) (h : Body l rest) :
      Body ('\\' :: 'u' :: a :: b :: c :: d :: l) rest

/-- A string in its quotes. -/
inductive Quoted : Option String → List Char → List Char → Prop
  | whole {s l rest : List Char} (h : Spells s l rest) : Quoted (some (.ofList s)) ('"' :: l) rest
  | broken {l rest : List Char} (h : Body l rest) (hs : ∀ s, ¬Spells s l rest) : Quoted none ('"' :: l) rest

/-! ## Values -/

/-- A part of a text. An element is a value with the spaces around it. -/
inductive Part where
  | value (t : Tree)
  | element (t : Tree)
  | elements (ts : List Tree)
  | member (m : Option String × Tree)
  | members (ms : List (Option String × Tree))

/-- A part of a text, and what is left after it. -/
inductive Written : Part → List Char → List Char → Prop
  | null {rest : List Char} : Written (.value .null) ('n' :: 'u' :: 'l' :: 'l' :: rest) rest
  | isTrue {rest : List Char} : Written (.value (.bool true)) ('t' :: 'r' :: 'u' :: 'e' :: rest) rest
  | isFalse {rest : List Char} : Written (.value (.bool false)) ('f' :: 'a' :: 'l' :: 's' :: 'e' :: rest) rest
  | number {l rest : List Char} (h : Number l rest) : Written (.value .number) l rest
  | string {s : Option String} {l rest : List Char} (h : Quoted s l rest) : Written (.value (.string s)) l rest
  | emptyList {l rest : List Char} (h : Spaces l (']' :: rest)) : Written (.value (.list [])) ('[' :: l) rest
  | list {ts : List Tree} {l rest : List Char} (h : Written (.elements ts) l (']' :: rest)) :
      Written (.value (.list ts)) ('[' :: l) rest
  | emptyObject {l rest : List Char} (h : Spaces l ('\x7d' :: rest)) : Written (.value (.object [])) ('\x7b' :: l) rest
  | object {ms : List (Option String × Tree)} {l rest : List Char} (h : Written (.members ms) l ('\x7d' :: rest)) :
      Written (.value (.object ms)) ('\x7b' :: l) rest
  | element {t : Tree} {l m k rest : List Char} (hl : Spaces l m) (h : Written (.value t) m k) (hk : Spaces k rest) :
      Written (.element t) l rest
  | lastElement {t : Tree} {l rest : List Char} (h : Written (.element t) l rest) : Written (.elements [t]) l rest
  | elements {t : Tree} {ts : List Tree} {l m rest : List Char} (h : Written (.element t) l (',' :: m))
      (hs : Written (.elements ts) m rest) : Written (.elements (t :: ts)) l rest
  | member {name : Option String} {t : Tree} {l m k n rest : List Char} (hl : Spaces l m) (hm : Quoted name m k)
      (hk : Spaces k (':' :: n)) (h : Written (.element t) n rest) : Written (.member (name, t)) l rest
  | lastMember {m : Option String × Tree} {l rest : List Char} (h : Written (.member m) l rest) :
      Written (.members [m]) l rest
  | members {m : Option String × Tree} {ms : List (Option String × Tree)} {l k rest : List Char}
      (h : Written (.member m) l (',' :: k)) (hs : Written (.members ms) k rest) : Written (.members (m :: ms)) l rest

/-- The text says `t`, with nothing but spaces around it. -/
def IsText (t : Tree) (text : String) : Prop := Written (.element t) text.toList []

/-- What follows a member: a comma and the other members, if there are any. -/
inductive Follows : List (Option String × Tree) → List Char → List Char → Prop
  | done {rest : List Char} : Follows [] rest rest
  | more {m : Option String × Tree} {ms : List (Option String × Tree)} {l rest : List Char}
      (h : Written (.members (m :: ms)) l rest) : Follows (m :: ms) (',' :: l) rest

/-- Members begin with the first one, and the others follow it. -/
theorem Written.members_cons {m : Option String × Tree} {ms : List (Option String × Tree)} {l rest : List Char}
    (h : Written (.members (m :: ms)) l rest) : ∃ k, Written (.member m) l k ∧ Follows ms k rest := by
  cases h with
  | lastMember h => exact ⟨_, h, .done⟩
  | members h hs =>
    refine ⟨_, h, ?_⟩
    cases hs with
    | lastMember h => exact .more (.lastMember h)
    | members h hs => exact .more (.members h hs)

/-! ## Spaces -/

/-- The four spaces of the grammar. -/
theorem isSpace_iff {c : Char} : Input.isSpace c = true ↔ c ∈ [' ', '\n', '\t', '\r'] := by
  simp [Input.isSpace, or_assoc]

theorem skipSpaces_of_not_isSpace {c : Char} (hc : Input.isSpace c = false) (l : List Char) (p : Position) :
    (Input.mk (c :: l) p).skipSpaces = ⟨c :: l, p⟩ := by
  simp [Input.skipSpaces, Input.dropSpaces, hc]

/-- Spaces make no difference to where reading comes to when it passes over spaces. -/
theorem Spaces.skipSpaces_eq {l rest : List Char} (h : Spaces l rest) (p : Position) :
    ∃ q, (Input.mk l p).skipSpaces = (Input.mk rest q).skipSpaces := by
  induction h generalizing p with
  | none => exact ⟨p, rfl⟩
  | @cons c l rest hc _ ih =>
    obtain ⟨q, hq⟩ := ih (p.after c)
    refine ⟨q, ?_⟩
    rw [← hq]
    simp [Input.skipSpaces, Input.dropSpaces, isSpace_iff.2 hc]

theorem Spaces.skipSpaces_cons {l rest : List Char} {c : Char} (h : Spaces l (c :: rest))
    (hc : Input.isSpace c = false) (p : Position) : ∃ q, (Input.mk l p).skipSpaces = ⟨c :: rest, q⟩ := by
  obtain ⟨q, hq⟩ := h.skipSpaces_eq p
  exact ⟨q, by rw [hq, skipSpaces_of_not_isSpace hc]⟩

/-- Spaces that were skipped once are gone. -/
theorem skipSpaces_skipSpaces (i : Input) : i.skipSpaces.skipSpaces = i.skipSpaces := by
  have h (p : Position) (l : List Char) : (Input.dropSpaces p l).skipSpaces = Input.dropSpaces p l := by
    induction l generalizing p with
    | nil => rfl
    | cons c l ih =>
      simp only [Input.dropSpaces]
      split
      · exact ih _
      · rename_i hc
        exact skipSpaces_of_not_isSpace (by simpa using hc) l p
  exact h i.pos i.rest

/-! ## First characters -/

/-- The character is no space and closes no list. -/
def IsFirst (c : Char) : Prop := Input.isSpace c = false ∧ c ≠ ']'

theorem isFirst_of_isDigit {c : Char} (h : c.isDigit) : IsFirst c := by
  refine ⟨Bool.eq_false_iff.2 fun hs => ?_, ?_⟩
  · have hall : ∀ d ∈ [' ', '\n', '\t', '\r'], d.isDigit = false := by simp
    simp [hall c (isSpace_iff.1 hs)] at h
  · rintro rfl
    exact absurd h (by decide)

/-- A number without a sign begins with a digit. -/
theorem Unsigned.exists_cons {l rest : List Char} (h : Unsigned l rest) : ∃ d k, l = d :: k ∧ d.isDigit := by
  cases h with
  | zero => exact ⟨_, _, rfl, by decide⟩
  | digit hd => exact ⟨_, _, rfl, hd⟩
  | digits hd => exact ⟨_, _, rfl, hd⟩

/-- A number begins with a digit or its sign. -/
theorem Number.head {c : Char} {l rest : List Char} (h : Number (c :: l) rest) : c.isDigit ∨ c = '-' := by
  cases h with
  | positive h =>
    obtain ⟨d, k, hk, hd⟩ := h.exists_cons
    exact .inl ((List.cons.inj hk).1 ▸ hd)
  | negative _ => exact .inr rfl

/-- The first character of a value tells it from the end of what it is in. -/
theorem Written.value_head {t : Tree} {l rest : List Char} (h : Written (.value t) l rest) :
    ∃ c k, l = c :: k ∧ IsFirst c := by
  cases h with
  | number h =>
    cases h with
    | positive h =>
      obtain ⟨d, k, rfl, hd⟩ := h.exists_cons
      exact ⟨d, k, rfl, isFirst_of_isDigit hd⟩
    | negative _ => exact ⟨_, _, rfl, rfl, by decide⟩
  | string h => cases h <;> exact ⟨_, _, rfl, rfl, by decide⟩
  | _ => exact ⟨_, _, rfl, rfl, by decide⟩

/-- An element begins, after spaces, as a value does. -/
theorem Written.element_head {t : Tree} {l rest : List Char} (h : Written (.element t) l rest) :
    ∃ c k, Spaces l (c :: k) ∧ IsFirst c := by
  cases h with
  | element hl h _ =>
    obtain ⟨c, k, rfl, hc⟩ := h.value_head
    exact ⟨c, k, hl, hc⟩

theorem Written.elements_head {ts : List Tree} {l rest : List Char} (h : Written (.elements ts) l rest) :
    ∃ c k, Spaces l (c :: k) ∧ IsFirst c := by
  cases h with
  | lastElement h => exact h.element_head
  | elements h _ => exact h.element_head

/-- Members begin, after spaces, with the quote of a name. -/
theorem Written.members_head {ms : List (Option String × Tree)} {l rest : List Char}
    (h : Written (.members ms) l rest) : ∃ k, Spaces l ('"' :: k) := by
  have hm {m : Option String × Tree} {rest : List Char} (h : Written (.member m) l rest) :
      ∃ k, Spaces l ('"' :: k) := by
    cases h with
    | member hl hq _ _ => cases hq <;> exact ⟨_, hl⟩
  cases h with
  | lastMember h => exact hm h
  | members h _ => exact hm h

end AckDesk.Json
