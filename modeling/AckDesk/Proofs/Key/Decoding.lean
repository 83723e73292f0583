import AckDesk.Key
import AckDesk.Proofs.Text.Spacing

/-!
# Which key a reply carries

Blanks around the body of a reply do not count. If what is left begins with a double quote and ends with another one, it
is in quotes (`IsQuoted`), and the key is what stands between them (`ofReply?_of_quoted`); if not, all that is left is
the key (`ofReply?_of_not_quoted`). So **every body has its key**, and it has none exactly if nothing is left, or nothing
but a pair of quotes (`decodes`). The keys that may be sent as plain text, with any blanks around them, are those that
have no blank at either end and are not in quotes (`arrives_plain_iff`).
-/

namespace AckDesk

open Text

namespace Key

/-- The text begins with a double quote and ends with another one. -/
def IsQuoted (s : String) : Prop := ∃ t, s = "\"" ++ t ++ "\""

theorem toList_quoted (t : String) : ("\"" ++ t ++ "\"").toList = '"' :: t.toList ++ ['"'] := by
  simp

/-- A text is quoted exactly when something can be taken from its quotes. -/
theorem isQuoted_iff {s : String} : IsQuoted s ↔ (insideQuotes? s.toList).isSome = true := by
  rw [Option.isSome_iff_exists]
  constructor
  · rintro ⟨t, rfl⟩
    exact ⟨t.toList, by rw [toList_quoted, insideQuotes?_quoted]⟩
  · rintro ⟨cs, h⟩
    refine ⟨.ofList cs, ?_⟩
    rw [← String.toList_inj, toList_quoted, String.toList_ofList]
    exact insideQuotes?_eq_some h

instance (s : String) : Decidable (IsQuoted s) := decidable_of_iff _ isQuoted_iff.symm

/-- Texts that are the same in quotes are the same. -/
theorem quoted_inj {s t : String} (h : "\"" ++ s ++ "\"" = "\"" ++ t ++ "\"") : s = t := by
  have hlist := congrArg String.toList h
  rw [toList_quoted, toList_quoted] at hlist
  exact String.toList_inj.1 (by simpa using hlist)

/-! ## Pairs of quotes -/

variable {body t : String}

/-- What stands between a pair of quotes is the key. -/
theorem ofReply?_of_quoted (h : trim body = "\"" ++ t ++ "\"") :
    ofReply? body = if t = "" then none else some ⟨t⟩ := by
  unfold ofReply?
  dsimp only
  rw [← toList_trim, h, toList_quoted, insideQuotes?_quoted, Option.getD_some, String.ofList_toList]
  simp only [String.toList_eq_nil_iff]

/-- Without a pair of quotes everything but the blanks around it is the key. -/
theorem ofReply?_of_not_quoted (h : ¬IsQuoted (trim body)) :
    ofReply? body = if trim body = "" then none else some ⟨trim body⟩ := by
  have hnone : insideQuotes? (trim body).toList = none := by
    rw [isQuoted_iff, Option.not_isSome_iff_eq_none] at h
    exact h
  unfold ofReply?
  dsimp only
  rw [← toList_trim, hnone, Option.getD_none, String.ofList_toList]
  simp only [String.toList_eq_nil_iff]

/-- No key is found exactly in a blank body and in one with an empty quoted text. -/
theorem ofReply?_eq_none_iff : ofReply? body = none ↔ trim body = "" ∨ trim body = "\"\"" := by
  by_cases h : IsQuoted (trim body)
  · obtain ⟨t, ht⟩ := h
    have hne : trim body ≠ "" := by simp [ht]
    have hempty : trim body = "\"\"" ↔ t = "" := by
      rw [ht]
      exact ⟨fun he => quoted_inj (t := "") he, fun he => by rw [he]; rfl⟩
    simp [ofReply?_of_quoted ht, hne, hempty]
  · have hne : trim body ≠ "\"\"" := by
      intro he
      exact h ⟨"", he⟩
    simp [ofReply?_of_not_quoted h, hne]

/-- A key is the text between the quotes, or the whole of a body that is not quoted. -/
theorem ofReply?_eq_some_iff {k : Key} : ofReply? body = some k ↔
    k.text ≠ "" ∧ (trim body = "\"" ++ k.text ++ "\"" ∨ trim body = k.text ∧ ¬IsQuoted k.text) := by
  constructor
  · intro h
    by_cases hq : IsQuoted (trim body)
    · obtain ⟨t, ht⟩ := hq
      rw [ofReply?_of_quoted ht] at h
      split at h
      · cases h
      · rename_i hne
        obtain rfl := Option.some.inj h
        exact ⟨hne, .inl ht⟩
    · rw [ofReply?_of_not_quoted hq] at h
      split at h
      · cases h
      · rename_i hne
        obtain rfl := Option.some.inj h
        exact ⟨hne, .inr ⟨rfl, hq⟩⟩
  · rintro ⟨hne, h | ⟨h, hq⟩⟩
    · rw [ofReply?_of_quoted h, if_neg hne]
    · rw [ofReply?_of_not_quoted (h ▸ hq), h, if_neg hne]

/-! ## Blanks around a key -/

/-- Blanks around a text count for nothing that is no blank. -/
theorem countP_padded {p : Char → Bool} (hp : ∀ c, isBlank c = true → p c = false) {a b : List Char} (ha : Blanks a)
    (hb : Blanks b) (cs : List Char) : (a ++ cs ++ b).countP p = cs.countP p := by
  have hnone : ∀ ds : List Char, Blanks ds → ds.countP p = 0 := by
    intro ds hds
    rw [List.countP_eq_zero]
    intro c hc
    simp [hp c (hds c hc)]
  rw [List.countP_append, List.countP_append, hnone a ha, hnone b hb, Nat.zero_add, Nat.add_zero]

/-- Trimming removes blanks only, so that other characters keep their number. -/
theorem countP_trim {p : Char → Bool} (hp : ∀ c, isBlank c = true → p c = false) (s : String) :
    s.toList.countP p = (trim s).toList.countP p := by
  obtain ⟨a, b, ha, hb, hs⟩ := exists_padding s.toList
  rw [toList_trim]
  exact (congrArg (List.countP p) hs).trans (countP_padded hp ha hb _)

/-- One quote in a body makes no pair. -/
theorem not_isQuoted_of_count (h : body.toList.count '"' = 1) : ¬IsQuoted (trim body) ∧ trim body ≠ "" := by
  have hblank : ∀ c, isBlank c = true → (c == '"') = false := by
    intro c hc
    rw [beq_eq_false_iff_ne]
    rintro rfl
    exact absurd hc (by decide)
  rw [List.count, countP_trim hblank] at h
  constructor
  · rintro ⟨t, ht⟩
    rw [ht, toList_quoted] at h
    simp at h
  · intro he
    rw [he] at h
    simp at h

/-- The body of a reply that carries a key as plain text, between blanks. -/
def plainReply (k : String) (a b : List Char) : String := .ofList (a ++ k.toList ++ b)

/-- A key arrives as plain text if it neither begins nor ends with a blank and has no pair of quotes, and only then. -/
theorem arrives_plain_iff {k : String} {a b : List Char} (ha : Blanks a) (hb : Blanks b) :
    ofReply? (plainReply k a b) = some ⟨k⟩ ↔ Trimmed k ∧ ¬IsQuoted k := by
  rw [ofReply?_eq_some_iff]
  constructor
  · rintro ⟨hne, h | ⟨h, hq⟩⟩
    · -- the quotes would be two more characters that are no blanks
      have hcount := countP_trim (p := (!isBlank ·)) (by simp) (plainReply k a b)
      rw [h, plainReply, String.toList_ofList, countP_padded (by simp) ha hb, toList_quoted] at hcount
      have hquote : isBlank '"' = false := by decide
      simp [List.countP_append, hquote] at hcount
      omega
    · refine ⟨?_, hq⟩
      have htight := tight_trimChars (plainReply k a b).toList
      rw [← toList_trim, h] at htight
      exact trimmed_iff.2 ⟨hne, htight⟩
  · rintro ⟨hk, hq⟩
    refine ⟨hk.ne_empty, .inr ⟨?_, hq⟩⟩
    rw [← String.toList_inj, toList_trim, plainReply, String.toList_ofList]
    exact trimChars_padded ha hk.tight hb

/-! ## Every body -/

/-- What key a body carries. -/
structure Decodes (body : String) : Prop where
  /-- Blanks are taken off both ends, and nothing else is. -/
  trimmed : Tight (trim body).toList ∧ ∃ a b, Blanks a ∧ Blanks b ∧ body = .ofList (a ++ (trim body).toList ++ b)
  /-- There is no key if nothing is left, or a pair of quotes with nothing in it, and only then. -/
  none_iff : ofReply? body = none ↔ trim body = "" ∨ trim body = "\"\""
  /-- The key is what is left, with a pair of quotes taken off if there is one. -/
  some_iff : ∀ k, ofReply? body = some k ↔
    k.text ≠ "" ∧ (trim body = "\"" ++ k.text ++ "\"" ∨ trim body = k.text ∧ ¬IsQuoted k.text)
  ne_empty : ∀ k, ofReply? body = some k → k.text ≠ ""
  /-- A key in plain text arrives as it is exactly if nothing of it is taken off. -/
  plain : ∀ k a b, Blanks a → Blanks b → body = plainReply k a b →
    (ofReply? body = some ⟨k⟩ ↔ Trimmed k ∧ ¬IsQuoted k)
  /-- A quote that stands alone is the key. -/
  lone : trim body = "\"" → ofReply? body = some ⟨"\""⟩
  /-- One quote among other characters is part of the key, also at an end of it. -/
  single : body.toList.count '"' = 1 → ofReply? body = some ⟨trim body⟩

/-- **Every body** carries the key that is left of it without the blanks and one pair of quotes around it, if anything is
left. -/
theorem decodes (body : String) : Decodes body where
  trimmed := by
    refine ⟨toList_trim body ▸ tight_trimChars body.toList, ?_⟩
    obtain ⟨a, b, ha, hb, h⟩ := exists_padding body.toList
    refine ⟨a, b, ha, hb, ?_⟩
    rw [toList_trim, ← h, String.ofList_toList]
  none_iff := ofReply?_eq_none_iff
  some_iff := fun _ => ofReply?_eq_some_iff
  ne_empty := fun _ h => (ofReply?_eq_some_iff.1 h).1
  plain := by
    rintro k a b ha hb rfl
    exact arrives_plain_iff ha hb
  lone := by
    intro h
    exact ofReply?_eq_some_iff.2 ⟨by decide, .inr ⟨h, by decide⟩⟩
  single := by
    intro h
    obtain ⟨hq, hne⟩ := not_isQuoted_of_count h
    exact ofReply?_eq_some_iff.2 ⟨hne, .inr ⟨rfl, hq⟩⟩

/-- Blanks inside the quotes stay. -/
example : ofReply? "\u3000\" k42 \"\n" = some ⟨" k42 "⟩ := by decide

end Key

end AckDesk
