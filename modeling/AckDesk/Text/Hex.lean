/-!
# Hexadecimal digits

Digits are read in either case. A digit that was written **reads back** (`hexDigit?_digitChar`,
`hexDigit?_upperDigit`).
-/

namespace AckDesk.Text

/-- The value of a hexadecimal digit in either case. -/
def hexDigit? (c : Char) : Option Nat :=
  if '0' ≤ c ∧ c ≤ '9' then some (c.toNat - 0x30)
  else if 'a' ≤ c ∧ c ≤ 'f' then some (c.toNat - 0x57)
  else if 'A' ≤ c ∧ c ≤ 'F' then some (c.toNat - 0x37)
  else none

/-- The upper-case digit of a value below 16. -/
def upperDigit (n : Nat) : Char := if n < 10 then .ofNat (0x30 + n) else .ofNat (0x37 + n)

/-- The value of an upper-case digit is read back. -/
theorem hexDigit?_upperDigit {n : Nat} (h : n < 16) : hexDigit? (upperDigit n) = some n := by
  have hall : ∀ m ∈ List.range 16, hexDigit? (upperDigit m) = some m := by decide
  exact hall n (List.mem_range.2 h)

/-- The value of a lower-case digit is read back. -/
theorem hexDigit?_digitChar {n : Nat} (h : n < 16) : hexDigit? (Nat.digitChar n) = some n := by
  have hall : ∀ m ∈ List.range 16, hexDigit? (Nat.digitChar m) = some m := by decide
  exact hall n (List.mem_range.2 h)

end AckDesk.Text
