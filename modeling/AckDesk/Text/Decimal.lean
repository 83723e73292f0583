/-!
# Decimal numbers

Whole numbers as they are typed and counted: ASCII digits, at most one plus sign in front, and a bound. **Reading
gives back what was printed** (`readBelow_toDigits`), with or without the sign (`readBelow_plus_toDigits`).
-/

namespace AckDesk.Text

/-- Why a text is no number below a bound. The first character that rules it out counts. -/
inductive DecimalFault where
  | empty
  | invalidDigit
  | tooLarge
deriving DecidableEq

def DecimalFault.message : DecimalFault → String
  | empty => "cannot parse integer from empty string"
  | invalidDigit => "invalid digit found in string"
  | tooLarge => "number too large to fit in target type"

/-- The number that digits after `value` write, as long as it stays below `bound`. -/
def scanBelow (bound value : Nat) : List Char → Except DecimalFault Nat
  | [] => .ok value
  | c :: cs =>
    if !c.isDigit then .error .invalidDigit
    else
      let next := 10 * value + (c.toNat - '0'.toNat)
      if next < bound then scanBelow bound next cs else .error .tooLarge

/-- The number below `bound` written by `cs`, digits after an optional plus sign. -/
def readBelow (bound : Nat) (cs : List Char) : Except DecimalFault Nat :=
  match cs with
  | [] => .error .empty
  | ['+'] => .error .invalidDigit
  | '+' :: rest => scanBelow bound 0 rest
  | _ => scanBelow bound 0 cs

/-- One more than the largest number of 64 bits. -/
def wordBound : Nat := 1 <<< 64

/-- Digits only make the value larger, so that a value out of bounds stays out. -/
theorem le_ofDigitChars (value : Nat) (cs : List Char) : value ≤ Nat.ofDigitChars 10 cs value := by
  induction cs generalizing value with
  | nil => simp
  | cons c cs ih =>
    rw [Nat.ofDigitChars_cons]
    exact Nat.le_trans (by omega) (ih _)

/-- Digits of a number in bounds are read as that number. -/
theorem scanBelow_of_digits {bound value : Nat} {cs : List Char} (hd : ∀ c ∈ cs, c.isDigit = true)
    (h : Nat.ofDigitChars 10 cs value < bound) : scanBelow bound value cs = .ok (Nat.ofDigitChars 10 cs value) := by
  induction cs generalizing value with
  | nil => simp [scanBelow]
  | cons c cs ih =>
    rw [Nat.ofDigitChars_cons] at h ⊢
    have hlt := Nat.lt_of_le_of_lt (le_ofDigitChars _ cs) h
    simp only [scanBelow, hd c (by simp), Bool.not_true, Bool.false_eq_true, if_false, if_pos hlt]
    exact ih (fun d hm => hd d (by simp [hm])) h

/-- The digits of a number in bounds are read back from nothing. -/
theorem scanBelow_toDigits {n bound : Nat} (h : n < bound) : scanBelow bound 0 (Nat.toDigits 10 n) = .ok n := by
  have hn : Nat.ofDigitChars 10 (Nat.toDigits 10 n) 0 = n := Nat.ofDigitChars_toDigits (by decide) (by decide)
  have hs := scanBelow_of_digits (fun c hc => Nat.isDigit_of_mem_toDigits (by decide) (by decide) hc) (hn.symm ▸ h)
  rw [hs, hn]

/-- A number in bounds is read back from its digits. -/
theorem readBelow_toDigits {n bound : Nat} (h : n < bound) : readBelow bound (Nat.toDigits 10 n) = .ok n := by
  have hplus : ∀ rest, Nat.toDigits 10 n ≠ '+' :: rest := by
    intro rest he
    have hmem : '+' ∈ Nat.toDigits 10 n := by rw [he]; simp
    have hdigit := Nat.isDigit_of_mem_toDigits (by decide) (by decide) hmem
    simp [Char.isDigit] at hdigit
  unfold readBelow
  split
  · rename_i he
    exact absurd he Nat.toDigits_ne_nil
  · rename_i he
    exact absurd he (hplus [])
  · rename_i rest _ he
    exact absurd he (hplus rest)
  · exact scanBelow_toDigits h

/-- The number printed after a plus sign reads back too. -/
theorem readBelow_plus_toDigits {n bound : Nat} (h : n < bound) :
    readBelow bound ('+' :: Nat.toDigits 10 n) = .ok n := by
  unfold readBelow
  split
  · rename_i he
    exact absurd he (by simp)
  · rename_i he
    exact absurd (List.cons.inj he).2 Nat.toDigits_ne_nil
  · rename_i rest _ he
    rw [← (List.cons.inj he).2]
    exact scanBelow_toDigits h
  · rename_i hne
    exact (hne _ rfl).elim

end AckDesk.Text
