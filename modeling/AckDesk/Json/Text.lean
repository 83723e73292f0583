import AckDesk.Json.Input
import AckDesk.Text.Hex

/-!
# JSON strings

The characters of a string up to its closing quote. Escapes of surrogates come in pairs that stand for one
character; where a string is only passed over, escapes are checked for their digits alone.
-/

namespace AckDesk.Json

/-- The number that four hexadecimal digits stand for. -/
def hexUnit? (a b c d : Char) : Option Nat :=
  match Text.hexDigit? a, Text.hexDigit? b, Text.hexDigit? c, Text.hexDigit? d with
  | some x, some y, some z, some w => some (((x * 16 + y) * 16 + z) * 16 + w)
  | _, _, _, _ => none

/-- The character that a letter after a backslash stands for. -/
def escaped? (c : Char) : Option Char :=
  match c with
  | '"' => some '"'
  | '\\' => some '\\'
  | '/' => some '/'
  | 'b' => some '\x08'
  | 'f' => some '\x0c'
  | 'n' => some '\n'
  | 'r' => some '\r'
  | 't' => some '\t'
  | _ => none

def isHighSurrogate (n : Nat) : Bool := 0xD800 ≤ n && n ≤ 0xDBFF

def isLowSurrogate (n : Nat) : Bool := 0xDC00 ≤ n && n ≤ 0xDFFF

/-- The character of a surrogate pair. -/
def pairChar (high low : Nat) : Char := .ofNat (0x10000 + (high - 0xD800) * 0x400 + (low - 0xDC00))

def byteLength (cs : List Char) : Nat := cs.foldr (fun c n => c.utf8Size + n) 0

/-- The fault of characters that should begin with four hexadecimal digits and do not. -/
def badHex {α : Type} (p : Position) (cs : List Char) : Except Error α :=
  if 4 ≤ byteLength cs then .error ⟨.invalidEscape, p.afterBytes 4 cs⟩ else .error ⟨.eofInString, p.afterAll cs⟩

/-- Puts a character in front of what was read. -/
def consChar (c : Char) (r : Except Error (List Char × Input)) : Except Error (List Char × Input) :=
  r.map fun x => (c :: x.1, x.2)

/-- The place after a backslash, the letter u and four hexadecimal digits. -/
def Position.afterUnit (p : Position) : Position := ⟨p.line, p.column + 6⟩

/-- The characters up to the closing quote, after the first half of a surrogate pair if one is `pending`. -/
def stringBody (pending : Option Nat) (p : Position) : List Char → Except Error (List Char × Input)
  | [] => .error ⟨.eofInString, p⟩
  | '\\' :: 'u' :: a :: b :: c :: d :: cs =>
    match hexUnit? a b c d, pending with
    | none, _ => badHex ((p.after '\\').after 'u') (a :: b :: c :: d :: cs)
    | some n, none =>
      if isHighSurrogate n then stringBody (some n) p.afterUnit cs
      else if isLowSurrogate n then .error ⟨.loneSurrogate, p.afterUnit⟩
      else consChar (.ofNat n) (stringBody none p.afterUnit cs)
    | some n, some high =>
      if isLowSurrogate n then consChar (pairChar high n) (stringBody none p.afterUnit cs)
      else .error ⟨.loneSurrogate, p.afterUnit⟩
  | '\\' :: 'u' :: cs => badHex ((p.after '\\').after 'u') cs
  | ['\\'] => .error ⟨.eofInString, p.after '\\'⟩
  | '\\' :: c :: cs =>
    match pending, escaped? c with
    | some _, _ => .error ⟨.unfinishedSurrogatePair, (p.after '\\').afterByte c⟩
    | none, some e => consChar e (stringBody none ((p.after '\\').after c) cs)
    | none, none => .error ⟨.invalidEscape, (p.after '\\').afterByte c⟩
  | c :: cs =>
    if pending.isSome then .error ⟨.unfinishedSurrogatePair, p.afterByte c⟩
    else if c = '"' then .ok ([], ⟨cs, p.after c⟩)
    else if c < ' ' then .error ⟨.controlCharacter, p.afterByte c⟩
    else consChar c (stringBody none (p.after c) cs)

/-- Passes over the characters up to the closing quote. -/
def skipString (p : Position) : List Char → Except Error Input
  | [] => .error ⟨.eofInString, p⟩
  | '\\' :: 'u' :: a :: b :: c :: d :: cs =>
    match hexUnit? a b c d with
    | none => badHex ((p.after '\\').after 'u') (a :: b :: c :: d :: cs)
    | some _ => skipString p.afterUnit cs
  | '\\' :: 'u' :: cs => badHex ((p.after '\\').after 'u') cs
  | ['\\'] => .error ⟨.eofInString, p.after '\\'⟩
  | '\\' :: c :: cs =>
    match escaped? c with
    | some _ => skipString ((p.after '\\').after c) cs
    | none => .error ⟨.invalidEscape, (p.after '\\').afterByte c⟩
  | c :: cs =>
    if c = '"' then .ok ⟨cs, p.after c⟩
    else if c < ' ' then .error ⟨.controlCharacter, p⟩
    else skipString (p.after c) cs

/-- A text with a character in front comes from the text behind it. -/
theorem consChar_eq_ok {c : Char} {r : Except Error (List Char × Input)} {cs : List Char} {i : Input}
    (h : consChar c r = .ok (cs, i)) : ∃ ds, r = .ok (ds, i) ∧ cs = c :: ds := by
  cases r with
  | error e => simp [consChar, Except.map] at h
  | ok x =>
    simp only [consChar, Except.map, Except.ok.injEq, Prod.mk.injEq] at h
    exact ⟨x.1, by rw [← h.2], h.1.symm⟩

theorem badHex_ne_ok {α : Type} {p : Position} {cs : List Char} {a : α} : badHex p cs ≠ .ok a := by
  unfold badHex
  split <;> simp

/-- The rest of a string takes up at least its closing quote, whichever half of a pair is pending. -/
theorem stringBody_size_lt {pending : Option Nat} {p : Position} {cs ds : List Char} {i : Input}
    (h : stringBody pending p cs = .ok (ds, i)) : i.size < cs.length := by
  fun_induction stringBody pending p cs generalizing ds with
  | case1 | case4 | case7 | case9 | case10 | case12 | case13 | case15 => simp at h
  | case2 | case8 => exact absurd h badHex_ne_ok
  | case3 =>
    rename_i ih
    have hlt := ih h
    simp only [List.length_cons]
    omega
  | case14 =>
    simp only [Except.ok.injEq, Prod.mk.injEq] at h
    simp [← h.2, Input.size]
  | case5 | case6 | case11 | case16 =>
    rename_i ih
    obtain ⟨_, hr, -⟩ := consChar_eq_ok h
    have hlt := ih hr
    simp only [List.length_cons]
    omega

/-- A string that is skipped takes up at least its closing quote. -/
theorem skipString_size_lt {p : Position} {cs : List Char} {i : Input} (h : skipString p cs = .ok i) :
    i.size < cs.length := by
  fun_induction skipString p cs with
  | case1 | case5 | case7 | case9 => simp at h
  | case2 | case4 => exact absurd h badHex_ne_ok
  | case8 =>
    obtain rfl := Except.ok.inj h
    simp [Input.size]
  | case3 | case6 | case10 =>
    rename_i ih
    have hlt := ih h
    simp only [List.length_cons]
    omega

end AckDesk.Json
