import AckDesk.Url.Basic
import Mathlib.Data.List.Basic

/-!
# Texts as segments of a path

A segment of a path is written with escapes. It has no character that would end it (`not_mem_escape`), and unescaping it
gives the bytes of the text, by which a text is known (`bytes_inj`), so that two texts have two segments (`escape_inj`).
A row of one or two dots stands for a folder: no other text is written as one (`isDot_escape`, `isDoubleDot_escape`).
-/

namespace AckDesk.Url

/-! ## Bytes -/

def bytes (cs : List Char) : List UInt8 := cs.flatMap String.utf8EncodeChar

/-- A text is known by its bytes. -/
theorem bytes_inj {cs ds : List Char} (h : bytes cs = bytes ds) : cs = ds := by
  have hencode : cs.utf8Encode = ds.utf8Encode := congrArg List.toByteArray h
  have hdecode : some cs.toArray = some ds.toArray := by
    rw [← List.utf8Decode?_utf8Encode, ← List.utf8Decode?_utf8Encode, hencode]
  simpa using hdecode

/-- Two texts have two segments. -/
theorem escape_inj {set : Char → Bool} (hp : set '%' = true) {cs ds : List Char} (h : escape set cs = escape set ds) :
    cs = ds := by
  refine bytes_inj ?_
  rw [bytes, bytes, ← unescape_escape hp cs, ← unescape_escape hp ds, h]

/-- A character in lower case is the character itself, or its capital was 32 before it. -/
theorem toLower_eq {c d : Char} (h : c.toLower = d) : c = d ∨ c.toNat + 32 = d.toNat ∧ 65 ≤ c.toNat ∧ c.toNat ≤ 90 := by
  unfold Char.toLower at h
  split at h
  · rename_i hc
    have hA : 65 ≤ c.val.toNat := UInt32.le_iff_toNat_le.1 hc.1
    have hZ : c.val.toNat ≤ 90 := UInt32.le_iff_toNat_le.1 hc.2
    subst h
    refine .inr ⟨?_, hA, hZ⟩
    show c.val.toNat + 32 = (c.val + 32).toNat
    rw [UInt32.toNat_add]
    show _ = (c.val.toNat + 32) % 2 ^ 32
    omega
  · exact .inl h

/-- What is no letter has no capital. -/
theorem toLower_eq_of_lt {c d : Char} (hd : d.toNat < 97) (h : c.toLower = d) : c = d := by
  rcases toLower_eq h with h | ⟨h, hA, -⟩
  · exact h
  · omega

theorem toLower_eq_e {c : Char} (h : c.toLower = 'e') : c = 'e' ∨ c = 'E' := by
  rcases toLower_eq h with h | ⟨h, -, -⟩
  · exact .inl h
  · have he : c.toNat + 32 = 101 := h
    exact .inr (Char.toNat_inj.1 (show c.toNat = 69 by omega))

/-- The ways to write a dot. -/
theorem isDot_iff {s : List Char} : Segments.isDot s = true ↔ s = ['.'] ∨ s = ['%', '2', 'e'] ∨ s = ['%', '2', 'E'] := by
  constructor
  · intro h
    simp only [Segments.isDot, decide_eq_true_eq, List.mem_cons, List.not_mem_nil, or_false] at h
    rcases h with h | h
    · left
      obtain ⟨a, s, rfl, ha, h⟩ := List.map_eq_cons_iff.1 h
      rw [toLower_eq_of_lt (by decide) ha, List.map_eq_nil_iff.1 h]
    · right
      obtain ⟨a, s, rfl, ha, h⟩ := List.map_eq_cons_iff.1 h
      obtain ⟨b, s, rfl, hb, h⟩ := List.map_eq_cons_iff.1 h
      obtain ⟨c, s, rfl, hc, h⟩ := List.map_eq_cons_iff.1 h
      rw [toLower_eq_of_lt (by decide) ha, toLower_eq_of_lt (by decide) hb, List.map_eq_nil_iff.1 h]
      exact (toLower_eq_e hc).imp (fun hc => by rw [hc]) fun hc => by rw [hc]
  · rintro (rfl | rfl | rfl) <;> decide

/-- Two dots are a dot and a dot. -/
theorem exists_of_isDoubleDot {s : List Char} (h : Segments.isDoubleDot s = true) :
    ∃ a b, s = a ++ b ∧ Segments.isDot a = true ∧ Segments.isDot b = true := by
  have hsplit : ∃ x ∈ [['.'], ['%', '2', 'e']], ∃ y ∈ [['.'], ['%', '2', 'e']], s.map Char.toLower = x ++ y := by
    simpa [Segments.isDoubleDot, or_assoc] using h
  obtain ⟨x, hx, y, hy, hs⟩ := hsplit
  obtain ⟨a, b, rfl, ha, hb⟩ := List.map_eq_append_iff.1 hs
  exact ⟨a, b, rfl, by simpa [Segments.isDot, ha] using hx, by simpa [Segments.isDot, hb] using hy⟩

theorem unescape_dot_append {s : List Char} (h : Segments.isDot s = true) (t : List Char) :
    unescape (s ++ t) = bytes ['.'] ++ unescape t := by
  have hdot : bytes ['.'] = [0x2E] := by decide
  rw [hdot]
  rcases isDot_iff.1 h with rfl | rfl | rfl
  · rw [List.singleton_append, unescape_cons_of_ne (by decide)]
    rfl
  · simp [unescape, byteOfDigits?, Text.hexDigit?]
  · simp [unescape, byteOfDigits?, Text.hexDigit?]

section

variable {set : Char → Bool} {cs : List Char}

/-- Only a dot is written as a dot. -/
theorem isDot_escape (hp : set '%' = true) (hd : set '.' = false) :
    Segments.isDot (escape set cs) = true ↔ cs = ['.'] := by
  constructor
  · intro h
    have hbytes := unescape_dot_append h []
    rw [List.append_nil, unescape_escape hp] at hbytes
    exact bytes_inj (hbytes.trans (by decide))
  · rintro rfl
    simp [escape, hd]
    decide

/-- Only two dots are written as two dots. -/
theorem isDoubleDot_escape (hp : set '%' = true) (hd : set '.' = false) :
    Segments.isDoubleDot (escape set cs) = true ↔ cs = ['.', '.'] := by
  constructor
  · intro h
    obtain ⟨a, b, hs, ha, hb⟩ := exists_of_isDoubleDot h
    have hbytes : unescape (escape set cs) = bytes ['.', '.'] := by
      rw [hs, unescape_dot_append ha, ← List.append_nil b, unescape_dot_append hb]
      decide
    rw [unescape_escape hp] at hbytes
    exact bytes_inj hbytes
  · rintro rfl
    simp [escape, hd]
    decide

end

end AckDesk.Url
