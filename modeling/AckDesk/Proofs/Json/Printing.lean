import AckDesk.Json.Value
import AckDesk.Proofs.Json.Grammar

/-!
# Values as they are printed

The text of a value is a text of the grammar, and it says the value (`Value.isText_text`). A string is printed with
the escapes that spell it (`quoted_printString`), whatever its characters are.
-/

namespace AckDesk.Json

/-! ## Strings -/

theorem isHex_digitChar {n : Nat} (h : n < 16) : IsHex (Nat.digitChar n) n := by
  have hall : ∀ m < 16, lowerHex[m]? = some (Nat.digitChar m) := by decide
  exact .inl (hall n h)

/-- A character in front of a string is printed in front of what spells the string. -/
theorem Spells.escapeChar {s l rest : List Char} (h : Spells s l rest) (c : Char) :
    Spells (c :: s) (escapeChar c ++ l) rest := by
  have hletter {e : Char} (he : (e, c) ∈ letters) : Spells (c :: s) ('\\' :: e :: l) rest := .letter he h
  unfold Json.escapeChar
  iterate 7
    split
    · subst c
      exact hletter (by decide)
  split
  · rename_i hc
    have hn : c.toNat < 32 := hc
    have hz : IsHex '0' 0 := .inl rfl
    refine .unit (by omega) ⟨0, 0, c.toNat / 16, c.toNat % 16, hz, hz, ?_, ?_, by omega⟩ h
    · exact isHex_digitChar (by omega)
    · exact isHex_digitChar (by omega)
  · exact .plain (Char.not_lt.1 ‹_›) ‹_› ‹_› h

/-- The escaped characters spell the text that was escaped, one character after the other. -/
theorem spells_flatMap (s rest : List Char) : Spells s (s.flatMap escapeChar ++ '"' :: rest) rest := by
  induction s with
  | nil => exact .close
  | cons c s ih => simpa using ih.escapeChar c

/-- A printed text is a string of the grammar. -/
theorem quoted_printString (s : String) (rest : List Char) : Quoted (some s) (printString s ++ rest) rest := by
  simpa [printString] using Quoted.whole (spells_flatMap s.toList rest)

example : printString "a\"\n\x01" = ['"', 'a', '\\', '"', '\\', 'n', '\\', 'u', '0', '0', '0', '1', '"'] := by decide

/-! ## Values -/

namespace Value

mutual

/-- The value as a text lays it down. -/
def tree : Value → Tree
  | null => .null
  | bool b => .bool b
  | string s => .string (some s)
  | list vs => .list (treeItems vs)
  | object ms => .object (treeMembers ms)

def treeItems : List Value → List Tree
  | [] => []
  | v :: vs => v.tree :: treeItems vs

def treeMembers : List (String × Value) → List (Option String × Tree)
  | [] => []
  | (name, v) :: ms => (some name, v.tree) :: treeMembers ms

end

theorem treeItems_eq_map (vs : List Value) : treeItems vs = vs.map tree := by
  induction vs with
  | nil => rfl
  | cons v vs ih => rw [treeItems, ih, List.map_cons]

mutual

/-- **A printed value is written as the grammar says**, whatever follows it. -/
theorem written_print : ∀ (v : Value) (rest : List Char), Written (.value v.tree) (v.print ++ rest) rest
  | null, _ => .null
  | bool true, _ => .isTrue
  | bool false, _ => .isFalse
  | string s, rest => .string (quoted_printString s rest)
  | list [], _ => .emptyList .none
  | list (v :: vs), rest => by
    have h := written_printItems (v :: vs) (by simp) (']' :: rest)
    simpa [print, tree] using Written.list h
  | object [], _ => .emptyObject .none
  | object (m :: ms), rest => by
    have h := written_printMembers (m :: ms) (by simp) ('\x7d' :: rest)
    simpa [print, tree] using Written.object h

theorem written_printItems : ∀ vs : List Value, vs ≠ [] → ∀ rest : List Char,
    Written (.elements (treeItems vs)) (printItems true vs ++ rest) rest
  | [], h, _ => absurd rfl h
  | [v], _, rest => by
    have h := written_print v rest
    simpa [printItems, separator, treeItems] using Written.lastElement (.element .none h .none)
  | v :: w :: vs, _, rest => by
    have h := written_print v (',' :: (printItems true (w :: vs) ++ rest))
    have hs := written_printItems (w :: vs) (by simp) rest
    simpa [printItems, separator, treeItems] using Written.elements (.element .none h .none) hs

theorem written_printMembers : ∀ ms : List (String × Value), ms ≠ [] → ∀ rest : List Char,
    Written (.members (treeMembers ms)) (printMembers true ms ++ rest) rest
  | [], h, _ => absurd rfl h
  | [(name, v)], _, rest => by
    have hq := quoted_printString name (':' :: (v.print ++ rest))
    have h := written_print v rest
    simpa [printMembers, separator, treeMembers] using
      Written.lastMember (.member .none hq .none (.element .none h .none))
  | (name, v) :: m :: ms, _, rest => by
    have hq := quoted_printString name (':' :: (v.print ++ ',' :: (printMembers true (m :: ms) ++ rest)))
    have h := written_print v (',' :: (printMembers true (m :: ms) ++ rest))
    have hs := written_printMembers (m :: ms) (by simp) rest
    simpa [printMembers, separator, treeMembers] using
      Written.members (.member .none hq .none (.element .none h .none)) hs

end

/-- The text of a value says the value. -/
theorem isText_text (v : Value) : IsText v.tree v.text := by
  have h := v.written_print []
  rw [List.append_nil] at h
  simpa [IsText, text] using Written.element .none h .none

end Value

end AckDesk.Json
