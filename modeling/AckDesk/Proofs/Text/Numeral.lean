import AckDesk.Proofs.Text.Spacing
import AckDesk.Text.Decimal

/-!
# Numerals

A numeral is a row of ASCII digits, at least one, after an optional plus sign; zeros in front do not count. Exactly
the numerals of numbers below the bound are read, each as its number (`readBelow_eq_ok_iff`). A numeral is a word
(`Numeral.isWord`).
-/

namespace AckDesk.Text

/-- Digits after an optional plus sign that write a number in the decimal system. -/
def Numeral (n : Nat) (cs : List Char) : Prop :=
  ∃ digits, (cs = digits ∨ cs = '+' :: digits) ∧ digits ≠ [] ∧ (∀ c ∈ digits, c.isDigit = true) ∧
    Nat.ofDigitChars 10 digits 0 = n

theorem numeral_toDigits (n : Nat) : Numeral n (Nat.toDigits 10 n) := by
  refine ⟨Nat.toDigits 10 n, .inl rfl, Nat.toDigits_ne_nil, ?_, Nat.ofDigitChars_toDigits (by decide) (by decide)⟩
  intro c hc
  exact Nat.isDigit_of_mem_toDigits (by decide) (by decide) hc

/-- Digits are read from a value below the bound on exactly if the number stays below it. -/
theorem scanBelow_eq_ok_iff {bound value n : Nat} {cs : List Char} (hv : value < bound) :
    scanBelow bound value cs = .ok n ↔
      (∀ c ∈ cs, c.isDigit = true) ∧ Nat.ofDigitChars 10 cs value = n ∧ n < bound := by
  constructor
  · intro h
    induction cs generalizing value with
    | nil =>
      obtain rfl := Except.ok.inj h
      exact ⟨by simp, rfl, hv⟩
    | cons c cs ih =>
      rw [scanBelow] at h
      split at h
      · cases h
      · rename_i hc
        dsimp only at h
        split at h
        · rename_i hnext
          obtain ⟨hd, hn, hb⟩ := ih hnext h
          refine ⟨?_, by rw [Nat.ofDigitChars_cons]; exact hn, hb⟩
          intro d hm
          rcases List.mem_cons.1 hm with rfl | hm
          · simpa using hc
          · exact hd d hm
        · cases h
  · rintro ⟨hd, rfl, hb⟩
    exact scanBelow_of_digits hd hb

/-- A plus sign in front of a numeral's digits is no digit. -/
theorem isDigit_plus : '+'.isDigit = false := by decide

/-- **Exactly the numerals of numbers below the bound are read.** -/
theorem readBelow_eq_ok_iff {bound n : Nat} (hbound : 0 < bound) {cs : List Char} :
    readBelow bound cs = .ok n ↔ Numeral n cs ∧ n < bound := by
  unfold readBelow
  split
  · constructor
    · intro h
      cases h
    · rintro ⟨⟨digits, rfl | h, hne, -⟩, -⟩
      · exact absurd rfl hne
      · cases h
  · constructor
    · intro h
      cases h
    · rintro ⟨⟨digits, rfl | h, hne, hd, -⟩, -⟩
      · exact absurd (hd '+' (by simp)) (by simp [isDigit_plus])
      · exact absurd (List.cons.inj h).2.symm hne
  · rename_i rest hrest
    rw [scanBelow_eq_ok_iff hbound]
    constructor
    · rintro ⟨hd, hn, hb⟩
      exact ⟨⟨rest, .inr rfl, fun he => hrest (by rw [he]), hd, hn⟩, hb⟩
    · rintro ⟨⟨digits, rfl | h, -, hd, hn⟩, hb⟩
      · exact absurd (hd '+' (by simp)) (by simp [isDigit_plus])
      · obtain rfl := (List.cons.inj h).2
        exact ⟨hd, hn, hb⟩
  · rename_i hnil _ hplus
    rw [scanBelow_eq_ok_iff hbound]
    constructor
    · rintro ⟨hd, hn, hb⟩
      exact ⟨⟨cs, .inl rfl, hnil, hd, hn⟩, hb⟩
    · rintro ⟨⟨digits, rfl | rfl, -, hd, hn⟩, hb⟩
      · exact ⟨hd, hn, hb⟩
      · exact absurd rfl (hplus digits)

/-- A numeral begins with a digit or a plus sign. -/
theorem Numeral.head {n : Nat} {cs : List Char} (h : Numeral n cs) {c : Char} (hc : cs.head? = some c) :
    c = '+' ∨ c.isDigit = true := by
  obtain ⟨digits, rfl | rfl, -, hd, -⟩ := h
  · exact .inr (hd c (List.mem_of_mem_head? hc))
  · left
    simpa using hc.symm

/-- A numeral has no blanks in it. -/
theorem Numeral.isWord {n : Nat} {cs : List Char} (h : Numeral n cs) : IsWord cs := by
  obtain ⟨digits, hdigits, hne, hd, -⟩ := h
  have hblank : ∀ c ∈ digits, isBlank c = false := fun c hc => isBlank_of_isDigit (hd c hc)
  rcases hdigits with rfl | rfl
  · exact ⟨hne, hblank⟩
  · exact ⟨List.cons_ne_nil _ _, List.forall_mem_cons.2 ⟨by decide, hblank⟩⟩

end AckDesk.Text
