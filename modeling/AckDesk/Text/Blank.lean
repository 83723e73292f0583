import AckDesk.Text.CodeRanges

/-!
# Blank characters

The blanks are the characters of the property White_Space. Trimming takes them off both ends and nothing else, and a
text is split at its first blank, which belongs to neither part.

* **Trimming** leaves no blank at either end (`head?_trimChars`, `getLast?_trimChars`, `trimmed_trim`) and leaves alone
  a text that has none there (`trimChars_of_ends`). It leaves nothing of a text of blanks, and of no other
  (`isBlankText_iff`).
* **Splitting** loses the one blank only (`splitAtBlank_eq_some`), and fails exactly on a text without blanks
  (`splitAtBlank_eq_none_iff`).
-/

namespace AckDesk.Text

/-- The characters of the property White_Space. -/
def blanks : CodeRanges := ⟨[
  (0x9, 0xD), (0x20, 0x20), (0x85, 0x85), (0xA0, 0xA0), (0x1680, 0x1680), (0x2000, 0x200A), (0x2028, 0x2029),
  (0x202F, 0x202F), (0x205F, 0x205F), (0x3000, 0x3000)]⟩

/-- Spaces, tabs, line ends and the other characters of White_Space. -/
def isBlank (c : Char) : Bool := blanks.contains c

/-! ## Trimming -/

def trimStart (cs : List Char) : List Char := cs.dropWhile isBlank

def trimEnd (cs : List Char) : List Char := (cs.reverse.dropWhile isBlank).reverse

/-- The characters without the blanks at either end. -/
def trimChars (cs : List Char) : List Char := trimEnd (trimStart cs)

def trim (s : String) : String := .ofList (trimChars s.toList)

/-- The text has no character, or blanks only. -/
def isBlankText (s : String) : Bool := s.toList.all isBlank

theorem toList_trim (s : String) : (trim s).toList = trimChars s.toList := String.toList_ofList

/-- What is left starts with a character that is not dropped. -/
theorem head?_dropWhile_not {p : Char → Bool} {cs : List Char} {c : Char} (h : (cs.dropWhile p).head? = some c) :
    p c = false := by
  induction cs with
  | nil => simp at h
  | cons d cs ih =>
    by_cases hd : p d = true
    · exact ih (by simpa [List.dropWhile_cons, hd] using h)
    · simp only [List.dropWhile_cons, hd] at h
      simp only [Bool.false_eq_true, if_false, List.head?_cons, Option.some.injEq] at h
      subst h
      simpa using hd

/-- A text that starts with no blank stays. -/
theorem trimStart_of_head {cs : List Char} (h : ∀ c, cs.head? = some c → isBlank c = false) : trimStart cs = cs := by
  cases cs with
  | nil => rfl
  | cons c cs => simp [trimStart, h c rfl]

/-- A text that ends with no blank stays. -/
theorem trimEnd_of_last {cs : List Char} (h : ∀ c, cs.getLast? = some c → isBlank c = false) : trimEnd cs = cs := by
  have hr : trimStart cs.reverse = cs.reverse := trimStart_of_head (by simpa using h)
  unfold trimStart at hr
  simp [trimEnd, hr]

/-- A text with no blank at either end stays. -/
theorem trimChars_of_ends {cs : List Char} (hh : ∀ c, cs.head? = some c → isBlank c = false)
    (hl : ∀ c, cs.getLast? = some c → isBlank c = false) : trimChars cs = cs := by
  rw [trimChars, trimStart_of_head hh, trimEnd_of_last hl]

theorem getLast?_trimEnd {cs : List Char} {c : Char} (h : (trimEnd cs).getLast? = some c) : isBlank c = false := by
  have hr : (cs.reverse.dropWhile isBlank).head? = some c := by simpa [trimEnd] using h
  exact head?_dropWhile_not hr

/-- A trimmed text ends with no blank. -/
theorem getLast?_trimChars {cs : List Char} {c : Char} (h : (trimChars cs).getLast? = some c) : isBlank c = false :=
  getLast?_trimEnd h

/-- Trimming the end keeps a prefix. -/
theorem trimEnd_append (cs : List Char) : ∃ t, cs = trimEnd cs ++ t ∧ ∀ c ∈ t, isBlank c = true := by
  refine ⟨(cs.reverse.takeWhile isBlank).reverse, ?_, ?_⟩
  · rw [trimEnd, ← List.reverse_append, List.takeWhile_append_dropWhile, List.reverse_reverse]
  · intro c hc
    exact List.all_eq_true.1 List.all_takeWhile c (List.mem_reverse.1 hc)

/-- A trimmed text starts with no blank: trimming the end leaves the first character, unless it takes the whole
text. -/
theorem head?_trimChars {cs : List Char} {c : Char} (h : (trimChars cs).head? = some c) : isBlank c = false := by
  obtain ⟨t, ht, -⟩ := trimEnd_append (trimStart cs)
  have hs : (cs.dropWhile isBlank).head? = some c := by
    rw [show cs.dropWhile isBlank = trimStart cs from rfl, ht, List.head?_append]
    simp only [trimChars] at h
    simp [h]
  exact head?_dropWhile_not hs

/-- A trimmed text stays when it is trimmed again. -/
theorem trimChars_trimChars (cs : List Char) : trimChars (trimChars cs) = trimChars cs :=
  trimChars_of_ends (fun _ => head?_trimChars) (fun _ => getLast?_trimChars)

/-- Trimming the start leaves nothing exactly of a blank text. -/
theorem trimStart_eq_nil_iff {cs : List Char} : trimStart cs = [] ↔ ∀ c ∈ cs, isBlank c = true := by
  induction cs with
  | nil => simp [trimStart]
  | cons c cs ih =>
    rw [trimStart] at ih ⊢
    by_cases h : isBlank c = true <;> simp [h, ih]

/-- A text is trimmed to nothing exactly when it is blank. -/
theorem trimChars_eq_nil_iff {cs : List Char} : trimChars cs = [] ↔ ∀ c ∈ cs, isBlank c = true := by
  constructor
  · intro h
    obtain ⟨t, ht, hblank⟩ := trimEnd_append (trimStart cs)
    rw [show trimEnd (trimStart cs) = [] from h, List.nil_append] at ht
    cases hs : trimStart cs with
    | nil => exact trimStart_eq_nil_iff.1 hs
    | cons c rest =>
      -- the front is trimmed first, so its head is no blank and stays
      have hc : isBlank c = false := head?_dropWhile_not (show (trimStart cs).head? = some c by rw [hs]; rfl)
      have hc' : isBlank c = true := hblank c (by rw [← ht, hs]; exact List.mem_cons_self)
      exact absurd hc' (by simp [hc])
  · intro h
    rw [trimChars, trimStart_eq_nil_iff.2 h]
    rfl

/-- A text is blank if trimming leaves nothing. -/
theorem isBlankText_iff {s : String} : isBlankText s = true ↔ trim s = "" := by
  rw [isBlankText, List.all_eq_true, ← trimChars_eq_nil_iff, ← toList_trim, String.toList_eq_nil_iff]

/-- A text with something in it and no blank at either end. -/
structure Trimmed (s : String) : Prop where
  ne_empty : s ≠ ""
  head : ∀ c, s.toList.head? = some c → isBlank c = false
  last : ∀ c, s.toList.getLast? = some c → isBlank c = false

/-- What trimming leaves, if it leaves anything. -/
theorem trimmed_trim {s : String} (h : trim s ≠ "") : Trimmed (trim s) := by
  refine ⟨h, fun c hc => ?_, fun c hc => ?_⟩
  · rw [toList_trim] at hc
    exact head?_trimChars hc
  · rw [toList_trim] at hc
    exact getLast?_trimChars hc

/-! ## Splitting at the first blank -/

/-- What stands before and after the first blank, if there is one. -/
def splitAtBlank : List Char → Option (List Char × List Char)
  | [] => none
  | c :: cs => if isBlank c then some ([], cs) else (splitAtBlank cs).map fun p => (c :: p.1, p.2)

/-- A text with no blank is a single word. -/
theorem splitAtBlank_eq_none_iff {cs : List Char} : splitAtBlank cs = none ↔ ∀ c ∈ cs, isBlank c = false := by
  induction cs with
  | nil => simp [splitAtBlank]
  | cons c cs ih => by_cases h : isBlank c = true <;> simp [splitAtBlank, h, ih]

/-- The split is at the first blank, which belongs to neither part. -/
theorem splitAtBlank_eq_some {cs a b : List Char} (h : splitAtBlank cs = some (a, b)) :
    ∃ d, isBlank d = true ∧ cs = a ++ d :: b ∧ ∀ c ∈ a, isBlank c = false := by
  induction cs generalizing a with
  | nil => simp [splitAtBlank] at h
  | cons c cs ih =>
    by_cases hc : isBlank c = true
    · simp only [splitAtBlank, hc, if_true, Option.some.injEq, Prod.mk.injEq] at h
      obtain ⟨rfl, rfl⟩ := h
      exact ⟨c, hc, rfl, by simp⟩
    · simp only [splitAtBlank, hc, Bool.false_eq_true, if_false, Option.map_eq_some_iff] at h
      obtain ⟨⟨x, y⟩, hxy, hab⟩ := h
      simp only [Prod.mk.injEq] at hab
      obtain ⟨rfl, rfl⟩ := hab
      obtain ⟨d, hd, rfl, hx⟩ := ih hxy
      refine ⟨d, hd, rfl, fun e he => ?_⟩
      rcases List.mem_cons.1 he with rfl | he
      · simpa using hc
      · exact hx e he

/-- A word and a blank in front of anything are split there. -/
theorem splitAtBlank_append {a b : List Char} {d : Char} (ha : ∀ c ∈ a, isBlank c = false) (hd : isBlank d = true) :
    splitAtBlank (a ++ d :: b) = some (a, b) := by
  induction a with
  | nil => simp [splitAtBlank, hd]
  | cons c a ih =>
    simp only [List.mem_cons, forall_eq_or_imp] at ha
    simp [splitAtBlank, ha.1, ih ha.2]

end AckDesk.Text
