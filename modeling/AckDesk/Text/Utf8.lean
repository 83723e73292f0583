/-!
# Decoding UTF-8

Bytes are decoded one at a time; the first byte of a character says how many follow and which range the second is
from. A fault is reported at the first byte of the character, with the number of bytes that still fitted, or as
incomplete when the input ends inside the character.
-/

namespace AckDesk.Text

/-- Why bytes are no UTF-8. -/
inductive Utf8Error where
  /-- The bytes from `start` on, `length` of them, begin no character. -/
  | invalid (start length : Nat)
  /-- The input ends inside the character that begins at `start`. -/
  | incomplete (start : Nat)
deriving DecidableEq

def Utf8Error.message : Utf8Error → String
  | invalid start length => s!"invalid utf-8 sequence of {length} bytes from index {start}"
  | incomplete start => s!"incomplete utf-8 byte sequence from index {start}"

/-- A character of which some bytes are read: where it begins, how many bytes are read and how many are to come, the
range of the next one, and the bits so far. -/
structure Utf8Partial where
  start : Nat
  seen : Nat
  toCome : Nat
  low : Nat
  high : Nat
  bits : Nat

/-- The character that a first byte opens, if it can open one. -/
def openUtf8 (start b : Nat) : Option Utf8Partial :=
  if 0xC2 ≤ b ∧ b ≤ 0xDF then some ⟨start, 1, 1, 0x80, 0xBF, b - 0xC0⟩
  else if 0xE0 ≤ b ∧ b ≤ 0xEF then
    some ⟨start, 1, 2, if b = 0xE0 then 0xA0 else 0x80, if b = 0xED then 0x9F else 0xBF, b - 0xE0⟩
  else if 0xF0 ≤ b ∧ b ≤ 0xF4 then
    some ⟨start, 1, 3, if b = 0xF0 then 0x90 else 0x80, if b = 0xF4 then 0x8F else 0xBF, b - 0xF0⟩
  else none

/-- The characters of the bytes from position `pos` on, inside a character if one is open. -/
def decodeUtf8From (pos : Nat) (inside : Option Utf8Partial) : List UInt8 → Except Utf8Error (List Char)
  | [] =>
    match inside with
    | none => .ok []
    | some p => .error (.incomplete p.start)
  | b :: bs =>
    let n := b.toNat
    match inside with
    | none =>
      if n < 0x80 then (decodeUtf8From (pos + 1) none bs).map (Char.ofNat n :: ·)
      else
        match openUtf8 pos n with
        | some p => decodeUtf8From (pos + 1) (some p) bs
        | none => .error (.invalid pos 1)
    | some p =>
      if p.low ≤ n ∧ n ≤ p.high then
        let bits := p.bits * 0x40 + (n - 0x80)
        if p.toCome = 1 then (decodeUtf8From (pos + 1) none bs).map (Char.ofNat bits :: ·)
        else decodeUtf8From (pos + 1) (some ⟨p.start, p.seen + 1, p.toCome - 1, 0x80, 0xBF, bits⟩) bs
      else .error (.invalid p.start p.seen)

def decodeUtf8 (bs : List UInt8) : Except Utf8Error String := (decodeUtf8From 0 none bs).map String.ofList

end AckDesk.Text
