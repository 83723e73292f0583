import AckDesk.Json.Text
import AckDesk.Proofs.Json.Grammar

/-!
# Strings as they are read

The characters up to a closing quote, in the grammar and in the readers.

- What the grammar spells is read (`Spells.stringBody_eq`), and from a string of the grammar nothing else is
  (`Body.spells_of_stringBody`): where half of a surrogate pair is left alone, the string is refused.
- Where a string is only passed over, every string of the grammar is (`Body.skipString_eq`).
-/

namespace AckDesk.Json

/-! ## Digits and code units -/

theorem IsHex.lt {c : Char} {n : Nat} (h : IsHex c n) : n < 16 := by
  rcases h with h | h <;> exact (List.getElem?_eq_some_iff.1 h).1

/-- A hexadecimal digit of the grammar is read as its value. -/
theorem IsHex.hexDigit?_eq {c : Char} {n : Nat} (h : IsHex c n) : Text.hexDigit? c = some n := by
  have hlower : ∀ m < 16, lowerHex[m]?.bind Text.hexDigit? = some m := by decide
  have hupper : ∀ m < 16, upperHex[m]?.bind Text.hexDigit? = some m := by decide
  have hn := h.lt
  rcases h with h | h
  · simpa [h] using hlower n hn
  · simpa [h] using hupper n hn

/-- A code unit has 16 bits. -/
theorem IsUnit.lt {a b c d : Char} {n : Nat} (h : IsUnit a b c d n) : n < 0x10000 := by
  obtain ⟨w, x, y, z, hw, hx, hy, hz, rfl⟩ := h
  have := hw.lt
  have := hx.lt
  have := hy.lt
  have := hz.lt
  omega

/-- Four hexadecimal digits of the grammar are read as their code unit. -/
theorem IsUnit.hexUnit?_eq {a b c d : Char} {n : Nat} (h : IsUnit a b c d n) : hexUnit? a b c d = some n := by
  obtain ⟨w, x, y, z, hw, hx, hy, hz, rfl⟩ := h
  simp only [hexUnit?, hw.hexDigit?_eq, hx.hexDigit?_eq, hy.hexDigit?_eq, hz.hexDigit?_eq, Option.some.injEq]
  omega

/-- A character is no half of a surrogate pair. -/
theorem toNat_lt_or_lt (x : Char) : x.toNat < 0xD800 ∨ 0xDFFF < x.toNat ∧ x.toNat < 0x110000 := x.valid

/-- Every number that is no half of a surrogate pair is that of a character. -/
theorem toNat_ofNat {n : Nat} (h : n < 0xD800 ∨ 0xDFFF < n ∧ n < 0x110000) : (Char.ofNat n).toNat = n := by
  rw [Char.ofNat, dif_pos h]
  rfl

theorem isHighSurrogate_iff {n : Nat} : isHighSurrogate n = true ↔ 0xD800 ≤ n ∧ n ≤ 0xDBFF := by
  simp [isHighSurrogate]

theorem isLowSurrogate_iff {n : Nat} : isLowSurrogate n = true ↔ 0xDC00 ≤ n ∧ n ≤ 0xDFFF := by
  simp [isLowSurrogate]

/-- A character beyond the first plane has a high surrogate as its first half. -/
theorem isHighSurrogate_highUnit {x : Char} (hx : 0x10000 ≤ x.toNat) : isHighSurrogate (highUnit x) = true := by
  have := toNat_lt_or_lt x
  exact isHighSurrogate_iff.2 (by unfold highUnit; omega)

/-- The second half of a character is a low surrogate. -/
theorem isLowSurrogate_lowUnit (x : Char) : isLowSurrogate (lowUnit x) = true :=
  isLowSurrogate_iff.2 (by unfold lowUnit; omega)

/-- The halves of a character put together. -/
theorem pairChar_units {x : Char} (hx : 0x10000 ≤ x.toNat) : pairChar (highUnit x) (lowUnit x) = x := by
  have hn : 0x10000 + (highUnit x - 0xD800) * 0x400 + (lowUnit x - 0xDC00) = x.toNat := by
    unfold highUnit lowUnit
    omega
  rw [pairChar, hn, Char.ofNat_toNat]

/-- The halves that a character is put together from are its code units. -/
theorem units_pairChar {h l : Nat} (hh : isHighSurrogate h = true) (hl : isLowSurrogate l = true) :
    0x10000 ≤ (pairChar h l).toNat ∧ highUnit (pairChar h l) = h ∧ lowUnit (pairChar h l) = l := by
  rw [isHighSurrogate_iff] at hh
  rw [isLowSurrogate_iff] at hl
  have hn : (pairChar h l).toNat = 0x10000 + (h - 0xD800) * 0x400 + (l - 0xDC00) := toNat_ofNat (by omega)
  unfold highUnit lowUnit
  omega

/-! ## One character -/

section

variable {p : Position} {l : List Char}

theorem ne_u_of_mem {e x : Char} (h : (e, x) ∈ letters) : e ≠ 'u' := by
  have hall : ∀ m ∈ letters, m.1 ≠ 'u' := by decide
  exact hall _ h

theorem stringBody_close : stringBody none p ('"' :: l) = .ok ([], ⟨l, p.after '"'⟩) := rfl

/-- A plain character is read as it is. -/
theorem stringBody_plain {c : Char} (h₁ : ' ' ≤ c) (h₂ : c ≠ '"') (h₃ : c ≠ '\\') :
    stringBody none p (c :: l) = consChar c (stringBody none (p.after c) l) := by
  have hc : ¬c < ' ' := Char.not_lt.2 h₁
  rw [stringBody]
  · simp [h₂, hc]
  all_goals simp [h₃]

/-- A letter after a backslash is read as the character that it stands for. -/
theorem stringBody_letter {e x : Char} (h : (e, x) ∈ letters) :
    stringBody none p ('\\' :: e :: l) = consChar x (stringBody none ((p.after '\\').after e) l) := by
  simp only [letters, List.mem_cons, Prod.mk.injEq, List.not_mem_nil, or_false] at h
  rcases h with ⟨rfl, rfl⟩ | ⟨rfl, rfl⟩ | ⟨rfl, rfl⟩ | ⟨rfl, rfl⟩ | ⟨rfl, rfl⟩ | ⟨rfl, rfl⟩ | ⟨rfl, rfl⟩ | ⟨rfl, rfl⟩ <;>
    rfl

/-- A letter after a backslash is passed over. -/
theorem skipString_letter {e x : Char} (h : (e, x) ∈ letters) :
    skipString p ('\\' :: e :: l) = skipString ((p.after '\\').after e) l := by
  simp only [letters, List.mem_cons, Prod.mk.injEq, List.not_mem_nil, or_false] at h
  rcases h with ⟨rfl, rfl⟩ | ⟨rfl, rfl⟩ | ⟨rfl, rfl⟩ | ⟨rfl, rfl⟩ | ⟨rfl, rfl⟩ | ⟨rfl, rfl⟩ | ⟨rfl, rfl⟩ | ⟨rfl, rfl⟩ <;>
    rfl

theorem stringBody_unit {pending : Option Nat} {a b c d : Char} {n : Nat} (h : IsUnit a b c d n) :
    stringBody pending p ('\\' :: 'u' :: a :: b :: c :: d :: l) =
      match pending with
      | none =>
        if isHighSurrogate n then stringBody (some n) p.afterUnit l
        else if isLowSurrogate n then .error ⟨.loneSurrogate, p.afterUnit⟩
        else consChar (.ofNat n) (stringBody none p.afterUnit l)
      | some high =>
        if isLowSurrogate n then consChar (pairChar high n) (stringBody none p.afterUnit l)
        else .error ⟨.loneSurrogate, p.afterUnit⟩ := by
  rw [stringBody.eq_def]
  simp only [h.hexUnit?_eq]
  cases pending <;> rfl

/-- The first half of a surrogate pair is followed by an escape of four digits, or the string is refused. -/
theorem stringBody_pending {high : Nat} {c : Char} {x : List Char × Input}
    (h : stringBody (some high) p (c :: l) = .ok x) : c = '\\' ∧ l.head? = some 'u' := by
  rw [stringBody.eq_def] at h
  split at h <;> simp_all

end

/-! ## Strings that are read -/

theorem consChar_ok (c : Char) (s : List Char) (i : Input) : consChar c (.ok (s, i)) = .ok (c :: s, i) := rfl

/-- The characters that a string spells are read from it. -/
theorem Spells.stringBody_eq {s l rest : List Char} (h : Spells s l rest) (p : Position) :
    ∃ q, stringBody none p l = .ok (s, ⟨rest, q⟩) := by
  induction h generalizing p with
  | close => exact ⟨_, rfl⟩
  | plain h₁ h₂ h₃ _ ih =>
    obtain ⟨q, hq⟩ := ih (p.after _)
    exact ⟨q, by rw [stringBody_plain h₁ h₂ h₃, hq, consChar_ok]⟩
  | letter he _ ih =>
    obtain ⟨q, hq⟩ := ih ((p.after '\\').after _)
    exact ⟨q, by rw [stringBody_letter he, hq, consChar_ok]⟩
  | @unit a b c d x s l rest hx hu _ ih =>
    obtain ⟨q, hq⟩ := ih p.afterUnit
    have hs := toNat_lt_or_lt x
    have hhigh : ¬isHighSurrogate x.toNat = true := by rw [isHighSurrogate_iff]; omega
    have hlow : ¬isLowSurrogate x.toNat = true := by rw [isLowSurrogate_iff]; omega
    refine ⟨q, ?_⟩
    rw [stringBody_unit hu]
    simp only [if_neg hhigh, if_neg hlow, hq, consChar_ok, Char.ofNat_toNat]
  | @pair a b c d a' b' c' d' x s l rest hx hu hu' _ ih =>
    obtain ⟨q, hq⟩ := ih p.afterUnit.afterUnit
    refine ⟨q, ?_⟩
    rw [stringBody_unit hu]
    simp only [isHighSurrogate_highUnit hx, if_true]
    rw [stringBody_unit hu']
    simp only [isLowSurrogate_lowUnit, if_true, hq, consChar_ok, pairChar_units hx]

/-- A string of the grammar that is read spells what is read, up to its own closing quote. The induction is on the
string, for both states of the reader: after the first half of a surrogate pair the string begins with that half. -/
theorem Body.spells_of_stringBody_aux {l rest : List Char} (h : Body l rest) :
    (∀ {p s j}, stringBody none p l = .ok (s, j) → Spells s l rest ∧ j.rest = rest) ∧
      ∀ {high p s j a b c d}, isHighSurrogate high = true → IsUnit a b c d high →
        stringBody (some high) p l = .ok (s, j) →
          Spells s ('\\' :: 'u' :: a :: b :: c :: d :: l) rest ∧ j.rest = rest := by
  induction h with
  | close =>
    refine ⟨fun h => ?_, fun _ _ h => ?_⟩
    · simp only [stringBody_close, Except.ok.injEq, Prod.mk.injEq] at h
      obtain ⟨rfl, rfl⟩ := h
      exact ⟨.close, rfl⟩
    · exact absurd (stringBody_pending h).1 (by decide)
  | plain h₁ h₂ h₃ _ ih =>
    refine ⟨fun h => ?_, fun _ _ h => absurd (stringBody_pending h).1 h₃⟩
    rw [stringBody_plain h₁ h₂ h₃] at h
    obtain ⟨s, hs, rfl⟩ := consChar_eq_ok h
    exact ⟨.plain h₁ h₂ h₃ (ih.1 hs).1, (ih.1 hs).2⟩
  | letter he _ ih =>
    refine ⟨fun h => ?_, fun _ _ h => ?_⟩
    · rw [stringBody_letter he] at h
      obtain ⟨s, hs, rfl⟩ := consChar_eq_ok h
      exact ⟨.letter he (ih.1 hs).1, (ih.1 hs).2⟩
    · exact absurd (Option.some.inj (stringBody_pending h).2) (ne_u_of_mem he)
  | @unit a b c d n l rest hu _ ih =>
    refine ⟨fun h => ?_, fun {high p s j a' b' c' d'} hh hu' h => ?_⟩
    · rw [stringBody_unit hu] at h
      simp only at h
      split at h
      · exact ih.2 ‹_› hu h
      · split at h
        · simp at h
        · rename_i hhigh hlow
          obtain ⟨s, hs, rfl⟩ := consChar_eq_ok h
          have hn : (Char.ofNat n).toNat = n := by
            have := hu.lt
            rw [isHighSurrogate_iff] at hhigh
            rw [isLowSurrogate_iff] at hlow
            exact toNat_ofNat (by omega)
          exact ⟨.unit (by rw [hn]; exact hu.lt) (by rwa [hn]) (ih.1 hs).1, (ih.1 hs).2⟩
    · rw [stringBody_unit hu] at h
      simp only at h
      split at h
      · rename_i hl
        obtain ⟨s, hs, rfl⟩ := consChar_eq_ok h
        obtain ⟨hx, h₁, h₂⟩ := units_pairChar hh hl
        exact ⟨.pair hx (by rwa [h₁]) (by rwa [h₂]) (ih.1 hs).1, (ih.1 hs).2⟩
      · simp at h

/-- A string that is read spells what was read, and ends where the reader stops. -/
theorem Body.spells_of_stringBody {l rest s : List Char} {p : Position} {j : Input} (h : Body l rest)
    (hs : stringBody none p l = .ok (s, j)) : Spells s l rest ∧ j.rest = rest :=
  h.spells_of_stringBody_aux.1 hs

/-! ## Strings that are passed over -/

/-- What spells a text is the body of a string. -/
theorem Spells.body {s l rest : List Char} (h : Spells s l rest) : Body l rest := by
  induction h with
  | close => exact .close
  | plain h₁ h₂ h₃ _ ih => exact .plain h₁ h₂ h₃ ih
  | letter he _ ih => exact .letter he ih
  | unit _ hu _ ih => exact .unit hu ih
  | pair _ hu hu' _ ih => exact .unit hu (.unit hu' ih)

theorem Quoted.exists_body {s : Option String} (h : Quoted s l rest) : ∃ k, l = '"' :: k ∧ Body k rest := by
  cases h with
  | whole h => exact ⟨_, rfl, h.body⟩
  | broken h _ => exact ⟨_, rfl, h⟩

/-- A string of the grammar is passed over, whatever it spells. -/
theorem Body.skipString_eq {l rest : List Char} (h : Body l rest) (p : Position) :
    ∃ q, skipString p l = .ok ⟨rest, q⟩ := by
  induction h generalizing p with
  | close => exact ⟨_, rfl⟩
  | @plain c l rest h₁ h₂ h₃ _ ih =>
    obtain ⟨q, hq⟩ := ih (p.after c)
    have hc : ¬c < ' ' := Char.not_lt.2 h₁
    refine ⟨q, ?_⟩
    rw [skipString.eq_def]
    split <;> simp_all
  | letter he _ ih =>
    obtain ⟨q, hq⟩ := ih ((p.after '\\').after _)
    exact ⟨q, by rw [skipString_letter he, hq]⟩
  | unit hu _ ih =>
    obtain ⟨q, hq⟩ := ih p.afterUnit
    refine ⟨q, ?_⟩
    rw [skipString.eq_def]
    simpa only [hu.hexUnit?_eq] using hq

end AckDesk.Json
