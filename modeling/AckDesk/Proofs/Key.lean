import AckDesk.Key
import AckDesk.Proofs.Json.Printing
import AckDesk.Proofs.Json.Strings
import AckDesk.Proofs.Text.Spacing

/-!
# Keys in replies

A backend that sends a key as a JSON string escapes quotes, backslashes and control characters, and the reader of
replies takes off the quotes and nothing more. So a key arrives as it is written between the quotes, blanks around them
apart (`ofReply?_quoted`). It arrives as it is if nothing in it is escaped, and only then (`arrives_quoted`); no two
keys arrive as one.
-/

namespace AckDesk

open Text

/-! ## What is escaped -/

namespace Json

/-- A character stands for itself in a string, neither escaped nor the end of it. -/
def IsPlain (c : Char) : Prop := c ≠ '"' ∧ c ≠ '\\' ∧ ' ' ≤ c

/-- A plain character is printed as it is. -/
theorem escapeChar_of_isPlain {c : Char} (h : IsPlain c) : escapeChar c = [c] := by
  obtain ⟨hquote, hslash, hspace⟩ := h
  have hcontrol : ∀ d : Char, d < ' ' → c ≠ d := by
    rintro d hd rfl
    exact Char.not_lt.2 hspace hd
  unfold escapeChar
  rw [if_neg hquote, if_neg hslash, if_neg (hcontrol _ (by decide)), if_neg (hcontrol _ (by decide)),
    if_neg (hcontrol _ (by decide)), if_neg (hcontrol _ (by decide)), if_neg (hcontrol _ (by decide)),
    if_neg (Char.not_lt.2 hspace)]

/-- An escape is a backslash and something behind it. -/
theorem escapeChar_of_not_isPlain {c : Char} (h : ¬IsPlain c) : ∃ d ds, escapeChar c = '\\' :: d :: ds := by
  unfold escapeChar
  iterate 7
    split
    · exact ⟨_, _, rfl⟩
  split
  · exact ⟨_, _, rfl⟩
  · rename_i hspace
    exact absurd ⟨‹_›, ‹_›, Char.not_lt.1 hspace⟩ h

/-- No character is printed as nothing. -/
theorem length_escapeChar (c : Char) : 0 < (escapeChar c).length := by
  by_cases h : IsPlain c
  · rw [escapeChar_of_isPlain h]
    exact Nat.one_pos
  · obtain ⟨d, ds, hd⟩ := escapeChar_of_not_isPlain h
    rw [hd]
    exact Nat.succ_pos _

/-- Escaping does not make a text shorter. -/
theorem length_le_flatMap_escapeChar (cs : List Char) : cs.length ≤ (cs.flatMap escapeChar).length := by
  induction cs with
  | nil => exact Nat.zero_le _
  | cons c cs ih =>
    have hc := length_escapeChar c
    rw [List.flatMap_cons, List.length_append, List.length_cons]
    omega

/-- A text stays as it is if nothing in it is escaped, and only then. -/
theorem flatMap_escapeChar_eq_iff {cs : List Char} : cs.flatMap escapeChar = cs ↔ ∀ c ∈ cs, IsPlain c := by
  induction cs with
  | nil => simp
  | cons c cs ih =>
    rw [List.flatMap_cons, List.forall_mem_cons, ← ih]
    by_cases h : IsPlain c
    · rw [escapeChar_of_isPlain h, List.singleton_append, List.cons_inj_right]
      exact ⟨fun hcs => ⟨h, hcs⟩, fun hcs => hcs.2⟩
    · -- an escape is longer than what it stands for, and nothing gets shorter
      obtain ⟨d, ds, hd⟩ := escapeChar_of_not_isPlain h
      refine iff_of_false ?_ fun hcs => h hcs.1
      intro he
      have hlength := congrArg List.length he
      have hle := length_le_flatMap_escapeChar cs
      rw [hd, List.length_append, List.length_cons, List.length_cons, List.length_cons] at hlength
      omega

/-- The text is what a reader of the string gets, so no two texts are written alike. -/
theorem flatMap_escapeChar_inj {cs ds : List Char} (h : cs.flatMap escapeChar = ds.flatMap escapeChar) : cs = ds := by
  have hds := spells_flatMap ds []
  rw [← h] at hds
  obtain ⟨p, hp⟩ := (spells_flatMap cs []).stringBody_eq {}
  obtain ⟨q, hq⟩ := hds.stringBody_eq {}
  rw [hp] at hq
  exact (Prod.mk.inj (Except.ok.inj hq)).1

end Json

/-! ## Replies -/

namespace Key

/-- A printed string has no blank at either end, as its quotes stand there. -/
theorem tight_printString (k : String) : Tight (Json.printString k) := by
  have hquote : isBlank '"' = false := by decide
  refine ⟨?_, ?_⟩
  · intro c hc
    rw [← Option.some.inj hc]
    exact hquote
  · intro c hc
    rw [Json.printString, List.getLast?_append] at hc
    rw [← Option.some.inj hc]
    exact hquote

/-- The body of a reply that carries a key as a JSON string, between blanks. -/
def quotedReply (k : String) (a b : List Char) : String := .ofList (a ++ Json.printString k ++ b)

variable {a b : List Char}

/-- A key in quotes arrives as it is written between them. -/
theorem ofReply?_quoted {k : String} (hk : k ≠ "") (ha : Blanks a) (hb : Blanks b) :
    ofReply? (quotedReply k a b) = some ⟨.ofList (k.toList.flatMap Json.escapeChar)⟩ := by
  have hne : k.toList.flatMap Json.escapeChar ≠ [] := by
    intro he
    have hle := Json.length_le_flatMap_escapeChar k.toList
    rw [he] at hle
    exact hk (String.toList_eq_nil_iff.1 (List.eq_nil_of_length_eq_zero (Nat.le_zero.1 hle)))
  unfold ofReply?
  dsimp only
  rw [quotedReply, String.toList_ofList, trimChars_padded ha (tight_printString k) hb, Json.printString,
    insideQuotes?_quoted]
  exact if_neg hne

/-- A quoted empty text is no key. -/
theorem ofReply?_quoted_empty (ha : Blanks a) (hb : Blanks b) : ofReply? (quotedReply "" a b) = none := by
  unfold ofReply?
  dsimp only
  rw [quotedReply, String.toList_ofList, trimChars_padded ha (tight_printString "") hb]
  rfl

/-- What becomes of a key that is sent in quotes, with blanks around them. -/
structure Arrives (k : String) (a b : List Char) : Prop where
  /-- It is what stands between the quotes. -/
  written : ofReply? (quotedReply k a b) = some ⟨.ofList (k.toList.flatMap Json.escapeChar)⟩
  /-- It is the key that was sent exactly if no character of it is escaped. -/
  same : ofReply? (quotedReply k a b) = some ⟨k⟩ ↔ ∀ c ∈ k.toList, c ≠ '"' ∧ c ≠ '\\' ∧ ' ' ≤ c
  /-- It is what becomes of no other key. -/
  distinct : ∀ j, ofReply? (quotedReply j a b) = ofReply? (quotedReply k a b) → j = k

/-- **Keys in quotes**: a key that is sent as a JSON string arrives as it is written there. -/
theorem arrives_quoted {k : String} (hk : k ≠ "") (ha : Blanks a) (hb : Blanks b) : Arrives k a b := by
  have hread := ofReply?_quoted hk ha hb
  refine ⟨hread, ?_, ?_⟩
  · rw [hread, Option.some.injEq, Key.mk.injEq, ← String.toList_inj, String.toList_ofList]
    exact Json.flatMap_escapeChar_eq_iff
  · intro j hj
    rw [hread] at hj
    -- the empty key is no key when it arrives
    by_cases he : j = ""
    · rw [he, ofReply?_quoted_empty ha hb] at hj
      cases hj
    · rw [ofReply?_quoted he ha hb, Option.some.injEq, Key.mk.injEq, String.ofList_inj] at hj
      exact String.toList_inj.1 (Json.flatMap_escapeChar_inj hj)

/-- A key with a quote in it arrives with the backslash that stands in front of the quote. -/
theorem arrives_quoted_quote :
    Arrives "a\"b" [] ['\n'] ∧ quotedReply "a\"b" [] ['\n'] = "\"a\\\"b\"\n" ∧
    ofReply? "\"a\\\"b\"\n" = some ⟨"a\\\"b"⟩ ∧ ofReply? "\"a\\\"b\"\n" ≠ some ⟨"a\"b"⟩ := by
  have h : Arrives "a\"b" [] ['\n'] := arrives_quoted (by decide) (by decide) (by decide)
  refine ⟨h, by decide, h.written, ?_⟩
  intro he
  exact (h.same.1 he '"' (by decide)).1 rfl

/-- What a backend is wont to send arrives as it is. -/
example : ofReply? " \"ack-1\"\r\n" = some ⟨"ack-1"⟩ := by decide

end Key

end AckDesk
