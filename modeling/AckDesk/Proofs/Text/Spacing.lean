import AckDesk.Text.Blank

/-!
# Blanks around a text

A text is tight if no blank stands at either end of it. Blanks around a tight text are trimmed, and nothing else is
(`trimChars_padded`, `exists_padding`). A word with a tight text behind it may be spaced in many ways (`Spaced`): with
blanks in front of both, between them and behind them. Only the word and the text are left of that by trimming and
splitting (`Spaced.trimChars_eq`, `splitAtBlank_spaced`).
-/

namespace AckDesk.Text

/-- Blanks and nothing else. -/
def Blanks (cs : List Char) : Prop := ∀ c ∈ cs, isBlank c = true

instance (cs : List Char) : Decidable (Blanks cs) := List.decidableBAll (fun c => isBlank c = true) cs

/-- No blank stands at either end. -/
structure Tight (cs : List Char) : Prop where
  head : ∀ c, cs.head? = some c → isBlank c = false
  last : ∀ c, cs.getLast? = some c → isBlank c = false

/-- Characters without a blank, and at least one. -/
structure IsWord (w : List Char) : Prop where
  ne_nil : w ≠ []
  no_blank : ∀ c ∈ w, isBlank c = false

theorem blanks_nil : Blanks [] := by simp [Blanks]

theorem tight_nil : Tight [] := ⟨by simp, by simp⟩

theorem tight_iff {cs : List Char} :
    Tight cs ↔ cs.head?.all (!isBlank ·) = true ∧ cs.getLast?.all (!isBlank ·) = true := by
  constructor
  · rintro ⟨hhead, hlast⟩
    exact ⟨Option.all_eq_true _ _ |>.2 fun c hc => by simp [hhead c hc],
      Option.all_eq_true _ _ |>.2 fun c hc => by simp [hlast c hc]⟩
  · rintro ⟨hhead, hlast⟩
    exact ⟨fun c hc => by simpa [hc] using hhead, fun c hc => by simpa [hc] using hlast⟩

instance (cs : List Char) : Decidable (Tight cs) := decidable_of_iff _ tight_iff.symm

/-- A trimmed text is tight. -/
theorem tight_trimChars (cs : List Char) : Tight (trimChars cs) :=
  ⟨fun _ => head?_trimChars, fun _ => getLast?_trimChars⟩

theorem Tight.trimChars_eq {cs : List Char} (h : Tight cs) : trimChars cs = cs := trimChars_of_ends h.head h.last

theorem Trimmed.tight {s : String} (h : Trimmed s) : Tight s.toList := ⟨h.head, h.last⟩

/-- A trimmed text is one that is tight and not empty. -/
theorem trimmed_iff {s : String} : Trimmed s ↔ s ≠ "" ∧ Tight s.toList :=
  ⟨fun h => ⟨h.ne_empty, h.tight⟩, fun h => ⟨h.1, h.2.head, h.2.last⟩⟩

instance (s : String) : Decidable (Trimmed s) := decidable_of_iff _ trimmed_iff.symm

theorem Trimmed.trim_eq {s : String} (h : Trimmed s) : trim s = s := by
  rw [trim, h.tight.trimChars_eq, String.ofList_toList]

theorem Trimmed.toList_ne_nil {s : String} (h : Trimmed s) : s.toList ≠ [] := by
  intro he
  exact h.ne_empty (String.toList_eq_nil_iff.1 he)

theorem Tight.trimmed {cs : List Char} (h : Tight cs) (hne : cs ≠ []) : Trimmed (.ofList cs) := by
  refine trimmed_iff.2 ⟨?_, ?_⟩
  · intro he
    apply hne
    rw [← String.toList_ofList (l := cs), he, String.toList_empty]
  · rw [String.toList_ofList]
    exact h

/-- Digits are no blanks. -/
theorem isBlank_of_isDigit {c : Char} (h : c.isDigit = true) : isBlank c = false := by
  have hrange : 48 ≤ c.toNat ∧ c.toNat ≤ 57 := by
    simpa [Char.isDigit, UInt32.le_iff_toNat_le] using h
  apply Bool.eq_false_iff.2
  intro hb
  obtain ⟨b, hmem, hlow, hhigh⟩ := CodeRanges.contains_iff.1 hb
  simp only [blanks, List.mem_cons, List.not_mem_nil, or_false] at hmem
  rcases hmem with rfl | rfl | rfl | rfl | rfl | rfl | rfl | rfl | rfl | rfl <;> omega

/-- Blanks behind a tight text are none. -/
theorem Tight.eq_nil_of_blanks {cs b : List Char} (h : Tight (cs ++ b)) (hb : Blanks b) : b = [] := by
  rcases List.eq_nil_or_concat b with rfl | ⟨front, c, rfl⟩
  · rfl
  · have hblank : isBlank c = true := hb c (by simp)
    have hlast : isBlank c = false := h.last c (by simp)
    rw [hblank] at hlast
    cases hlast

/-! ## Trimming -/

theorem trimStart_blanks_append {a : List Char} (ha : Blanks a) (cs : List Char) : trimStart (a ++ cs) = trimStart cs :=
  List.dropWhile_append_of_pos ha

theorem trimEnd_append_blanks {b : List Char} (hb : Blanks b) (cs : List Char) : trimEnd (cs ++ b) = trimEnd cs := by
  have hr : ∀ c ∈ b.reverse, isBlank c = true := by
    intro c hc
    exact hb c (List.mem_reverse.1 hc)
  rw [trimEnd, List.reverse_append, List.dropWhile_append_of_pos hr, trimEnd]

/-- Blanks around a tight text are trimmed. -/
theorem trimChars_padded {a cs b : List Char} (ha : Blanks a) (h : Tight cs) (hb : Blanks b) :
    trimChars (a ++ cs ++ b) = cs := by
  rw [List.append_assoc, trimChars, trimStart_blanks_append ha]
  cases cs with
  | nil =>
    rw [List.nil_append, trimStart_eq_nil_iff.2 hb]
    rfl
  | cons c cs =>
    have hhead : trimStart (c :: cs ++ b) = c :: cs ++ b := by
      apply trimStart_of_head
      intro d hd
      exact h.head d (by simpa using hd)
    rw [hhead, trimEnd_append_blanks hb, trimEnd_of_last h.last]

/-- Nothing but blanks around a text is trimmed. -/
theorem exists_padding (cs : List Char) : ∃ a b, Blanks a ∧ Blanks b ∧ cs = a ++ trimChars cs ++ b := by
  obtain ⟨b, hb, hblank⟩ := trimEnd_append (trimStart cs)
  refine ⟨cs.takeWhile isBlank, b, ?_, hblank, ?_⟩
  · exact List.all_eq_true.1 List.all_takeWhile
  · rw [List.append_assoc, trimChars, ← hb, trimStart, List.takeWhile_append_dropWhile]

/-! ## A word and a text behind it -/

/-- The characters are a word and a text behind it, with blanks around and between them. -/
def Spaced (word text cs : List Char) : Prop :=
  ∃ before gap after, Blanks before ∧ Blanks gap ∧ Blanks after ∧ (text ≠ [] → gap ≠ []) ∧
    cs = before ++ (word ++ gap ++ text) ++ after

/-- One blank between a word and a text is enough. -/
theorem spaced_blank {word text cs : List Char} (h : cs = word ++ [' '] ++ text) : Spaced word text cs :=
  ⟨[], [' '], [], blanks_nil, by decide, blanks_nil, fun _ => List.cons_ne_nil _ _, by simp [h]⟩

/-- What stands between the ends of two texts without blanks there. -/
theorem tight_append {a b : List Char} (gap : List Char) (ha : a ≠ []) (hb : b ≠ [])
    (hhead : ∀ c, a.head? = some c → isBlank c = false) (hlast : ∀ c, b.getLast? = some c → isBlank c = false) :
    Tight (a ++ gap ++ b) := by
  constructor
  · intro c hc
    obtain ⟨d, as, rfl⟩ := List.exists_cons_of_ne_nil ha
    exact hhead c (by simpa using hc)
  · intro c hc
    obtain ⟨bs, d, rfl⟩ := (List.eq_nil_or_concat b).resolve_left hb
    exact hlast c (by simpa using hc)

theorem IsWord.tight {w : List Char} (h : IsWord w) : Tight w :=
  ⟨fun c hc => h.no_blank c (List.mem_of_mem_head? hc), fun c hc => h.no_blank c (List.mem_of_getLast? hc)⟩

variable {word text cs : List Char}

/-- Trimming leaves the word and, if there is a text, the blanks between them. -/
theorem Spaced.trimChars_eq (h : Spaced word text cs) (hw : IsWord word) (ht : Tight text) :
    (text = [] ∧ trimChars cs = word) ∨
      ∃ c gap, isBlank c = true ∧ Blanks gap ∧ trimChars cs = word ++ c :: gap ++ text := by
  obtain ⟨before, gap, after, hbefore, hgap, hafter, hapart, rfl⟩ := h
  by_cases he : text = []
  · subst he
    refine .inl ⟨rfl, ?_⟩
    have hbehind : Blanks (gap ++ after) := by
      intro c hc
      exact (List.mem_append.1 hc).elim (hgap c) (hafter c)
    have hall : before ++ (word ++ gap ++ []) ++ after = before ++ word ++ (gap ++ after) := by simp
    rw [hall]
    exact trimChars_padded hbefore hw.tight hbehind
  · obtain ⟨c, gap, rfl⟩ := List.exists_cons_of_ne_nil (hapart he)
    refine .inr ⟨c, gap, hgap c (by simp), fun d hd => hgap d (by simp [hd]), ?_⟩
    exact trimChars_padded hbefore (tight_append _ hw.ne_nil he hw.tight.head ht.last) hafter

/-- Splitting at the first blank takes the word off. -/
theorem splitAtBlank_spaced {c : Char} {gap : List Char} (hw : IsWord word) (hc : isBlank c = true) :
    splitAtBlank (word ++ c :: gap ++ text) = some (word, gap ++ text) := by
  rw [List.append_assoc, List.cons_append]
  exact splitAtBlank_append hw.no_blank hc

/-- The text behind the word, blanks apart. -/
theorem trimChars_gap_append {gap : List Char} (hg : Blanks gap) (ht : Tight text) :
    trimChars (gap ++ text) = text := by
  simpa using trimChars_padded hg ht blanks_nil

end AckDesk.Text
