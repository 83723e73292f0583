import AckDesk.Proofs.Text.Spacing
import AckDesk.Prompt.Command
import Mathlib.Data.List.Forall2

/-!
# The words of the prompt

Verbs and dimensions are called by their words, each letter of which may also be a capital (`Text.InAnyCase`). No word
calls two verbs or two dimensions, so the prompt finds the one that is called (`ofWord?_eq_some_iff`,
`dimension?_eq_some_iff`), and none holds a blank (`Verb.IsCalled.isWord`, `Dimension.IsCalled.isWord`).
-/

namespace AckDesk

/-! ## Letters in any case -/

namespace Text

theorem toNat_toLower (c : Char) :
    c.toLower.toNat = if 65 ≤ c.toNat ∧ c.toNat ≤ 90 then c.toNat + 32 else c.toNat := by
  have hrange : (c.val ≥ 'A'.val ∧ c.val ≤ 'Z'.val) ↔ 65 ≤ c.toNat ∧ c.toNat ≤ 90 :=
    and_congr UInt32.le_iff_toNat_le UInt32.le_iff_toNat_le
  unfold Char.toLower
  by_cases h : c.val ≥ 'A'.val ∧ c.val ≤ 'Z'.val
  · rw [dif_pos h, if_pos (hrange.1 h)]
    have hz : c.val.toNat ≤ 90 := (hrange.1 h).2
    show (c.val + 32).toNat = c.val.toNat + 32
    rw [UInt32.toNat_add]
    show (c.val.toNat + 32) % 2 ^ 32 = _
    omega
  · rw [dif_neg h, if_neg (mt hrange.2 h)]

theorem toNat_toUpper (c : Char) :
    c.toUpper.toNat = if 97 ≤ c.toNat ∧ c.toNat ≤ 122 then c.toNat - 32 else c.toNat := by
  have hrange : ('a'.val ≤ c.val ∧ c.val ≤ 'z'.val) ↔ 97 ≤ c.toNat ∧ c.toNat ≤ 122 :=
    and_congr UInt32.le_iff_toNat_le UInt32.le_iff_toNat_le
  unfold Char.toUpper
  by_cases h : 'a'.val ≤ c.val ∧ c.val ≤ 'z'.val
  · rw [dif_pos h, if_pos (hrange.1 h)]
    have ha : 97 ≤ c.val.toNat := (hrange.1 h).1
    have hz : c.val.toNat ≤ 122 := (hrange.1 h).2
    show (c.val + ('A'.val - 'a'.val)).toNat = c.val.toNat - 32
    rw [UInt32.toNat_add]
    show (c.val.toNat + 4294967264) % 2 ^ 32 = _
    omega
  · rw [dif_neg h, if_neg (mt hrange.2 h)]

/-- What has a letter in lower case is the letter or its capital. -/
theorem toLower_eq_iff {c letter : Char} (h : letter.toLower = letter) :
    c.toLower = letter ↔ c = letter ∨ c = letter.toUpper := by
  simp only [← Char.toNat_inj, toNat_toLower, toNat_toUpper] at h ⊢
  split_ifs at h ⊢ <;> omega

/-- The characters are the word, any of its ASCII letters as a capital. -/
def InAnyCase (word : String) (cs : List Char) : Prop :=
  List.Forall₂ (fun letter c => c = letter ∨ c = letter.toUpper) word.toList cs

/-- A word of the prompt: not empty, without capitals, and without blanks in any case. -/
def Plain (word : String) : Prop :=
  word.toList ≠ [] ∧ ∀ c ∈ word.toList, c.toLower = c ∧ isBlank c = false ∧ isBlank c.toUpper = false

instance (word : String) : Decidable (Plain word) :=
  have := List.decidableBAll (fun c : Char => c.toLower = c ∧ isBlank c = false ∧ isBlank c.toUpper = false) word.toList
  inferInstanceAs (Decidable (_ ∧ _))

/-- Lowered characters give the letters exactly when each is a letter in either case. -/
theorem map_toLower_eq_iff {letters cs : List Char} (h : ∀ c ∈ letters, c.toLower = c) :
    cs.map Char.toLower = letters ↔ List.Forall₂ (fun letter c => c = letter ∨ c = letter.toUpper) letters cs := by
  induction letters generalizing cs with
  | nil => simp
  | cons letter letters ih =>
    have hletter := h letter List.mem_cons_self
    have hrest : ∀ c ∈ letters, c.toLower = c := fun c hc => h c (List.mem_cons_of_mem _ hc)
    cases cs with
    | nil => simp
    | cons c cs =>
      rw [List.map_cons, List.cons.injEq, List.forall₂_cons, toLower_eq_iff hletter, ih hrest]

theorem InAnyCase.isWord {word : String} {cs : List Char} (hp : Plain word) (h : InAnyCase word cs) : IsWord cs := by
  constructor
  · rintro rfl
    exact hp.1 (List.forall₂_nil_right_iff.1 h)
  · intro c hc
    obtain ⟨letter, hletter, hcase⟩ : ∃ letter ∈ word.toList, c = letter ∨ c = letter.toUpper := by
      obtain ⟨i, hi, rfl⟩ := List.mem_iff_getElem.1 hc
      have hi' : i < word.toList.length := h.length_eq ▸ hi
      exact ⟨_, List.getElem_mem hi', (List.forall₂_iff_get.1 h).2 i hi' hi⟩
    rcases hcase with rfl | rfl
    · exact (hp.2 _ hletter).2.1
    · exact (hp.2 _ hletter).2.2

end Text

open Text

namespace Prompt

/-- Folding gives a word exactly when the word is written in any case. -/
theorem foldCase_eq_iff {word : String} {cs : List Char} (h : Plain word) : foldCase cs = word ↔ InAnyCase word cs := by
  rw [foldCase, InAnyCase, ← map_toLower_eq_iff fun c hc => (h.2 c hc).1]
  constructor
  · rintro rfl
    rw [String.toList_ofList]
  · intro hc
    rw [hc, String.ofList_toList]

/-- Where no word calls two members of a list, the one that is called is found. -/
theorem find?_contains_iff {α : Type} {all : List α} {words : α → List String}
    (hfound : ∀ a ∈ all, ∀ w ∈ words a, all.find? (fun b => (words b).contains w) = some a) {a : α} (ha : a ∈ all)
    (w : String) : all.find? (fun b => (words b).contains w) = some a ↔ w ∈ words a := by
  constructor
  · intro h
    simpa using List.find?_some h
  · exact hfound a ha w

end Prompt

/-! ## Verbs -/

namespace Prompt.Verb

/-- The characters are a word for the verb, in any case of its letters. -/
def IsCalled (verb : Verb) (cs : List Char) : Prop := ∃ word ∈ verb.words, InAnyCase word cs

theorem mem_all (verb : Verb) : verb ∈ all := by cases verb <;> decide

theorem plain_of_mem_words {verb : Verb} {word : String} (h : word ∈ verb.words) : Plain word := by
  have hall : ∀ v ∈ all, ∀ w ∈ v.words, Plain w := by decide
  exact hall verb (mem_all verb) word h

theorem IsCalled.isWord {verb : Verb} {cs : List Char} (h : verb.IsCalled cs) : IsWord cs := by
  obtain ⟨word, hword, hcase⟩ := h
  exact hcase.isWord (plain_of_mem_words hword)

/-- A verb is found exactly under the words that it is called by. -/
theorem ofWord?_eq_some_iff {verb : Verb} {cs : List Char} : ofWord? cs = some verb ↔ verb.IsCalled cs := by
  have hfound : ∀ v ∈ all, ∀ w ∈ v.words, all.find? (·.words.contains w) = some v := by decide
  rw [ofWord?, find?_contains_iff hfound (mem_all verb)]
  constructor
  · intro h
    exact ⟨_, h, (foldCase_eq_iff (plain_of_mem_words h)).1 rfl⟩
  · rintro ⟨word, hword, hcase⟩
    rwa [(foldCase_eq_iff (plain_of_mem_words hword)).2 hcase]

end Prompt.Verb

/-! ## Dimensions -/

namespace Dimension

/-- The characters are a name of the dimension, in any case of its letters. -/
def IsCalled (d : Dimension) (cs : List Char) : Prop := ∃ name ∈ d.names, InAnyCase name cs

theorem plain_of_mem_names {d : Dimension} {name : String} (h : name ∈ d.names) : Plain name := by
  have hall : ∀ d ∈ all, ∀ w ∈ d.names, Plain w := by decide
  exact hall d (mem_all d) name h

theorem IsCalled.isWord {d : Dimension} {cs : List Char} (h : d.IsCalled cs) : IsWord cs := by
  obtain ⟨name, hname, hcase⟩ := h
  exact hcase.isWord (plain_of_mem_names hname)

end Dimension

/-- A dimension is found exactly under the words that it is called by. -/
theorem Prompt.dimension?_eq_some_iff {d : Dimension} {cs : List Char} : dimension? cs = some d ↔ d.IsCalled cs := by
  have hfound : ∀ d ∈ Dimension.all, ∀ w ∈ d.names, Dimension.all.find? (·.names.contains w) = some d := by decide
  rw [dimension?, find?_contains_iff hfound (Dimension.mem_all d)]
  constructor
  · intro h
    exact ⟨_, h, (foldCase_eq_iff (Dimension.plain_of_mem_names h)).1 rfl⟩
  · rintro ⟨name, hname, hcase⟩
    rwa [(foldCase_eq_iff (Dimension.plain_of_mem_names hname)).2 hcase]

end AckDesk
