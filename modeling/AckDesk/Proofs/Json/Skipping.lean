import AckDesk.Json.Skip
import AckDesk.Proofs.Json.Strings

/-!
# Values that are passed over

Whatever value the grammar has is passed over as a whole, to any depth (`Written.skipValue_eq`). A number ends where
something stands that cannot go on with it, so what follows the value has to be `Apart` from it.

The brackets that are open are kept on a stack: `proceed` is what happens behind a token, and a part of the grammar
leads from the front of its text to `proceed` behind it (`Part.Skipped`). The induction is on how the part is
written, for every stack at once.
-/

namespace AckDesk.Json

/-! ## Numbers -/

/-- The text goes on with nothing that could belong to a number. -/
def Apart (l : List Char) : Prop := ∀ c ∈ l.head?, c ∈ [' ', '\n', '\t', '\r', ',', ']', '\x7d']

theorem apart_comma (l : List Char) : Apart (',' :: l) := by simp [Apart]

/-- A closing bracket ends a number. -/
theorem apart_close (b : Bracket) (l : List Char) : Apart (b.close :: l) := by cases b <;> simp [Apart, Bracket.close]

/-- Spaces end a number, if what follows them does. -/
theorem Spaces.apart {l rest : List Char} (h : Spaces l rest) (hr : Apart rest) : Apart l := by
  have hall : ∀ c ∈ [' ', '\n', '\t', '\r'], c ∈ [' ', '\n', '\t', '\r', ',', ']', '\x7d'] := by simp
  cases h with
  | none => exact hr
  | cons hc _ => exact fun c h => hall c (Option.some.inj h ▸ hc)

theorem Follows.apart {ms : List (Option String × Tree)} {l rest : List Char} (h : Follows ms l rest)
    (hr : Apart rest) : Apart l := by
  cases h with
  | done => exact hr
  | more _ => exact apart_comma _

/-- The text does not go on with a digit. -/
def NoDigit (l : List Char) : Prop := ∀ c ∈ l.head?, c.isDigit = false

/-- What ends a number is no digit. -/
theorem Apart.noDigit {l : List Char} (h : Apart l) : NoDigit l := by
  have hall : ∀ c ∈ [' ', '\n', '\t', '\r', ',', ']', '\x7d'], c.isDigit = false := by simp
  exact fun c hc => hall c (h c hc)

section

variable {l m rest : List Char}

theorem NoDigit.dropWhile_eq (h : NoDigit l) : l.dropWhile Char.isDigit = l := by
  cases l with
  | nil => rfl
  | cons c l => simp [h c rfl]

/-- All digits of a number are dropped, and nothing behind them. -/
theorem Digits.dropWhile_eq (h : Digits l m) (hm : NoDigit m) : l.dropWhile Char.isDigit = m := by
  induction h with
  | last hd => rw [List.dropWhile_cons_of_pos hd, hm.dropWhile_eq]
  | cons hd _ ih => rw [List.dropWhile_cons_of_pos hd, ih hm]

theorem Digits.exists_cons (h : Digits l m) : ∃ d k, l = d :: k ∧ d.isDigit := by
  cases h with
  | last hd => exact ⟨_, _, rfl, hd⟩
  | cons hd _ => exact ⟨_, _, rfl, hd⟩

theorem skipDigits_eq (h : l.dropWhile Char.isDigit = m) (p : Position) : ∃ q, skipDigits ⟨l, p⟩ = ⟨m, q⟩ :=
  ⟨_, by simp only [skipDigits, h]; rfl⟩

theorem takeDigit_cons {d : Char} (hd : d.isDigit) (p : Position) :
    takeDigit ⟨d :: l, p⟩ = .ok (d, ⟨l, p.after d⟩) := by
  simp [takeDigit, hd, Input.advance]

theorem Exponent.noDigit (h : Exponent l rest) (hr : Apart rest) : NoDigit l := by
  have hall : ∀ e ∈ ['e', 'E'], e.isDigit = false := by simp
  cases h with
  | none => exact hr.noDigit
  | bare he _ => exact fun c hc => by obtain rfl := Option.some.inj hc; exact hall _ he
  | signed he _ _ => exact fun c hc => by obtain rfl := Option.some.inj hc; exact hall _ he

theorem Fraction.noDigit (h : Fraction l rest) (hr : Apart rest) : NoDigit l := by
  cases h with
  | none h => exact h.noDigit hr
  | point _ _ => exact fun c hc => by obtain rfl := Option.some.inj hc; decide

/-- The digits of an exponent, behind its sign. -/
theorem Digits.takeDigit_eq (h : Digits l rest) (hr : NoDigit rest) (p : Position) :
    ∃ q, (takeDigit ⟨l, p⟩).map (fun x => skipDigits x.2) = .ok ⟨rest, q⟩ := by
  obtain ⟨d, k, rfl, hd⟩ := h.exists_cons
  have hk := h.dropWhile_eq hr
  rw [List.dropWhile_cons_of_pos hd] at hk
  obtain ⟨q, hq⟩ := skipDigits_eq hk (p.after d)
  exact ⟨q, by rw [takeDigit_cons hd, ← hq]; rfl⟩

/-- The skipped exponent is that of the grammar. -/
theorem Exponent.skipExponent?_eq (h : Exponent l rest) (hr : Apart rest) (p : Position) :
    ∃ q, skipExponent? ⟨l, p⟩ = .ok ⟨rest, q⟩ := by
  cases h with
  | none =>
    refine ⟨p, ?_⟩
    have he : ∀ c ∈ ['e', 'E'], c ∉ [' ', '\n', '\t', '\r', ',', ']', '\x7d'] := by simp
    unfold skipExponent?
    split
    · rename_i hl
      exact absurd (hr 'e' (by rw [show l = _ from hl]; rfl)) (he 'e' (by decide))
    · rename_i hl
      exact absurd (hr 'E' (by rw [show l = _ from hl]; rfl)) (he 'E' (by decide))
    · rfl
  | @bare e l _ he h =>
    obtain ⟨q, hq⟩ := h.takeDigit_eq hr.noDigit (p.after e)
    obtain ⟨d, k, rfl, hd⟩ := h.exists_cons
    refine ⟨q, ?_⟩
    have hsign : skipExponent ⟨d :: k, p.after e⟩ = .ok ⟨rest, q⟩ := by
      rw [← hq, skipExponent]
      split
      · rename_i hl
        exact absurd hd (by rw [show d = '+' from (List.cons.inj hl).1]; decide)
      · rename_i hl
        exact absurd hd (by rw [show d = '-' from (List.cons.inj hl).1]; decide)
      · rfl
    simp only [List.mem_cons, List.not_mem_nil, or_false] at he
    rcases he with rfl | rfl <;> exact hsign
  | @signed e s l _ he hs h =>
    obtain ⟨q, hq⟩ := h.takeDigit_eq hr.noDigit ((p.after e).after s)
    refine ⟨q, ?_⟩
    simp only [List.mem_cons, List.not_mem_nil, or_false] at he hs
    rcases he with rfl | rfl <;> rcases hs with rfl | rfl <;> exact hq

/-- The skipped fraction is that of the grammar, with the exponent behind it. -/
theorem Fraction.skipFraction?_eq (h : Fraction l rest) (hr : Apart rest) (p : Position) :
    ∃ q, skipFraction? ⟨l, p⟩ = .ok ⟨rest, q⟩ := by
  cases h with
  | none h =>
    obtain ⟨q, hq⟩ := h.skipExponent?_eq hr p
    refine ⟨q, ?_⟩
    unfold skipFraction?
    split
    · rename_i hl
      cases h with
      | none => exact absurd (hr '.' (by rw [show l = _ from hl]; rfl)) (by decide)
      | bare he _ => exact absurd he (by rw [(List.cons.inj hl).1]; decide)
      | signed he _ _ => exact absurd he (by rw [(List.cons.inj hl).1]; decide)
    · exact hq
  | @point l m _ h he =>
    obtain ⟨d, k, rfl, hd⟩ := h.exists_cons
    obtain ⟨p', hp'⟩ := skipDigits_eq (h.dropWhile_eq (he.noDigit hr)) (p.after '.')
    obtain ⟨q, hq⟩ := he.skipExponent?_eq hr p'
    refine ⟨q, ?_⟩
    simp only [skipFraction?, List.head?_cons, Option.any_some, hd, if_true, Input.advance, hp', hq]

/-- The skipped number is that of the grammar. -/
theorem Unsigned.skipNumeral_eq (h : Unsigned l rest) (hr : Apart rest) (p : Position) :
    ∃ q, skipNumeral ⟨l, p⟩ = .ok ⟨rest, q⟩ := by
  cases h with
  | @zero k _ h =>
    obtain ⟨q, hq⟩ := h.skipFraction?_eq hr (p.after '0')
    refine ⟨q, ?_⟩
    have hk : k.head?.any Char.isDigit = false := by
      have hn := h.noDigit hr
      cases k with
      | nil => rfl
      | cons c k => exact hn c rfl
    simp only [skipNumeral, takeDigit_cons (show '0'.isDigit = true by decide), hk, hq]
    simp
  | @digit d k _ hd h₀ h =>
    obtain ⟨p', hp'⟩ := skipDigits_eq (h.noDigit hr).dropWhile_eq (p.after d)
    obtain ⟨q, hq⟩ := h.skipFraction?_eq hr p'
    exact ⟨q, by simp only [skipNumeral, takeDigit_cons hd, if_pos h₀, hp', hq]⟩
  | @digits d k m _ hd h₀ hm h =>
    obtain ⟨p', hp'⟩ := skipDigits_eq (hm.dropWhile_eq (h.noDigit hr)) (p.after d)
    obtain ⟨q, hq⟩ := h.skipFraction?_eq hr p'
    exact ⟨q, by simp only [skipNumeral, takeDigit_cons hd, if_pos h₀, hp', hq]⟩

theorem skipToken_digit {d : Char} (hd : d.isDigit) (p : Position) :
    skipToken ⟨d :: l, p⟩ = (skipNumeral ⟨d :: l, p⟩).map ((none, ·)) := by
  unfold skipToken
  split <;> simp_all

/-- A number of the grammar is passed over, with its sign. -/
theorem Number.skipToken_eq (h : Number l rest) (hr : Apart rest) (p : Position) :
    ∃ q, skipToken ⟨l, p⟩ = .ok (none, ⟨rest, q⟩) := by
  cases h with
  | positive h =>
    obtain ⟨q, hq⟩ := h.skipNumeral_eq hr p
    obtain ⟨d, k, rfl, hd⟩ := h.exists_cons
    exact ⟨q, by rw [skipToken_digit hd, hq]; rfl⟩
  | @negative k _ h =>
    obtain ⟨q, hq⟩ := h.skipNumeral_eq hr (p.after '-')
    exact ⟨q, by simp only [skipToken, Input.advance, hq]; rfl⟩

end

/-! ## What happens behind a token -/

/-- Passes over what is left in a bracket, from the front of an element or of a member on. -/
def within (b : Bracket) (bs : List Bracket) (i : Input) : Except Error Input :=
  match b with
  | .list => skipUntilClosed (.list :: bs) i
  | .object => skipKey i >>= skipUntilClosed (.object :: bs)

/-- Passes over what is left behind a token: closing brackets, and then what is left in the open ones. -/
def proceed (afterValue : Bool) (opened : List Bracket) (i : Input) : Except Error Input :=
  match closeBrackets afterValue i opened with
  | .error e => .error e
  | .ok ([], j) => .ok j
  | .ok (b :: bs, j) => within b bs j

/-- The skipping loop, as a bind: a token, and what it leads to. -/
theorem skipUntilClosed_eq (opened : List Bracket) (i : Input) :
    skipUntilClosed opened i = skipToken i.skipSpaces >>= fun x => proceed x.1.isNone (x.1.toList ++ opened) x.2 := by
  rw [skipUntilClosed, skipStep]
  cases skipToken i.skipSpaces with
  | error e => rfl
  | ok x =>
    obtain ⟨b, j⟩ := x
    simp only [bind, Except.bind, proceed]
    cases closeBrackets b.isNone j (b.toList ++ opened) with
    | error e => rfl
    | ok y =>
      obtain ⟨_ | ⟨_ | _, bs⟩, k⟩ := y
      · rfl
      · rfl
      · simp only [within, bind, Except.bind]
        cases skipKey k <;> rfl

section

variable {l rest : List Char} {b : Bracket} {bs : List Bracket}

theorem skipUntilClosed_congr {i j : Input} (h : i.skipSpaces = j.skipSpaces) :
    skipUntilClosed bs i = skipUntilClosed bs j := by
  rw [skipUntilClosed_eq, h, ← skipUntilClosed_eq]

theorem within_congr {i j : Input} (h : i.skipSpaces = j.skipSpaces) : within b bs i = within b bs j := by
  cases b with
  | list => exact skipUntilClosed_congr h
  | object => simp only [within, skipKey, h]

theorem proceed_congr {afterValue : Bool} {i j : Input} (h : i.skipSpaces = j.skipSpaces) :
    proceed afterValue (b :: bs) i = proceed afterValue (b :: bs) j := by
  simp only [proceed, closeBrackets, h]

theorem isSpace_close (b : Bracket) : Input.isSpace b.close = false := by cases b <;> rfl

theorem proceed_nil (afterValue : Bool) (i : Input) : proceed afterValue [] i = .ok i := rfl

/-- A closing bracket ends a value of the bracket around it. -/
theorem proceed_close (b : Bracket) (bs : List Bracket) (h : Spaces l (b.close :: rest)) (afterValue : Bool)
    (p : Position) : ∃ q, proceed afterValue (b :: bs) ⟨l, p⟩ = proceed true bs ⟨rest, q⟩ := by
  obtain ⟨q, hq⟩ := h.skipSpaces_cons (isSpace_close b) p
  exact ⟨q.after b.close, by simp only [proceed, closeBrackets, hq, if_true, Input.advance]⟩

/-- A comma leads to the next element or member. -/
theorem proceed_comma (b : Bracket) (bs : List Bracket) (h : Spaces l (',' :: rest)) (p : Position) :
    ∃ q, proceed true (b :: bs) ⟨l, p⟩ = within b bs ⟨rest, q⟩ := by
  obtain ⟨q, hq⟩ := h.skipSpaces_cons rfl p
  have hb : ',' ≠ b.close := by cases b <;> decide
  exact ⟨q.after ',', by simp [proceed, closeBrackets, hq, hb, Input.advance]⟩

/-- An opening bracket that is not closed at once leads to the first element or member. -/
theorem proceed_open {c : Char} (b : Bracket) (bs : List Bracket) (h : Spaces l (c :: rest))
    (hc : Input.isSpace c = false) (hb : c ≠ b.close) (p : Position) :
    proceed false (b :: bs) ⟨l, p⟩ = within b bs ⟨l, p⟩ := by
  obtain ⟨q, hq⟩ := h.skipSpaces_cons hc p
  rw [within_congr (skipSpaces_skipSpaces _).symm, hq]
  simp [proceed, closeBrackets, hq, hb]

/-! ## Names -/

/-- A colon is found after spaces. -/
theorem takeColon_eq {m : List Char} (h : Spaces l (':' :: m)) (p : Position) : ∃ q, takeColon ⟨l, p⟩ = .ok ⟨m, q⟩ := by
  obtain ⟨q, hq⟩ := h.skipSpaces_cons rfl p
  exact ⟨q.after ':', by simp [takeColon, hq, Input.advance]⟩

/-- A name and its colon are passed over. -/
theorem skipKey_eq {name : Option String} {m k n : List Char} (hl : Spaces l m) (hm : Quoted name m k)
    (hk : Spaces k (':' :: n)) (p : Position) : ∃ q, skipKey ⟨l, p⟩ = .ok ⟨n, q⟩ := by
  obtain ⟨b, rfl, hb⟩ := hm.exists_body
  obtain ⟨p₁, h₁⟩ := hl.skipSpaces_cons rfl p
  obtain ⟨p₂, h₂⟩ := hb.skipString_eq (p₁.after '"')
  obtain ⟨q, hq⟩ := takeColon_eq hk p₂
  exact ⟨q, by simp only [skipKey, h₁, if_true, h₂]; exact hq⟩

/-! ## Rows -/

/-- Within a bracket the text is passed over up to the rest. -/
def Passes (b : Bracket) (l rest : List Char) : Prop :=
  ∀ bs p, ∃ q, within b bs ⟨l, p⟩ = proceed true (b :: bs) ⟨rest, q⟩

/-- A row goes on behind a comma. -/
theorem Passes.comma {m : List Char} (h : Passes b l (',' :: m)) (hm : Passes b m rest) : Passes b l rest := by
  intro bs p
  obtain ⟨p₁, h₁⟩ := h bs p
  obtain ⟨p₂, h₂⟩ := proceed_comma b bs (.none (l := ',' :: m)) p₁
  obtain ⟨q, hq⟩ := hm bs p₂
  exact ⟨q, by rw [h₁, h₂, hq]⟩

/-- A row ends at the closing bracket. -/
theorem Passes.close {c : Char} {k : List Char} (h : Passes b l (b.close :: rest)) (hl : Spaces l (c :: k))
    (hc : Input.isSpace c = false) (hb : c ≠ b.close) (bs : List Bracket) (p : Position) :
    ∃ q, proceed false (b :: bs) ⟨l, p⟩ = proceed true bs ⟨rest, q⟩ := by
  obtain ⟨p₁, h₁⟩ := h bs p
  obtain ⟨q, hq⟩ := proceed_close b bs (.none (l := b.close :: rest)) true p₁
  exact ⟨q, by rw [proceed_open b bs hl hc hb, h₁, hq]⟩

/-! ## Whole values -/

/-- What is written is passed over, up to what follows it, whatever brackets are open around it. -/
def Part.Skipped (l rest : List Char) : Part → Prop
  | .value _ => ∀ bs p, ∃ q, skipUntilClosed bs ⟨l, p⟩ = proceed true bs ⟨rest, q⟩
  | .element _ => ∀ b bs p, ∃ q, skipUntilClosed (b :: bs) ⟨l, p⟩ = proceed true (b :: bs) ⟨rest, q⟩
  | .elements _ => Passes .list l rest
  | .member _ | .members _ => Passes .object l rest

/-- A value that opens no bracket is one token. -/
theorem skipped_token {t : Tree} (h : Written (.value t) l rest)
    (ht : ∀ p, ∃ q, skipToken ⟨l, p⟩ = .ok (none, ⟨rest, q⟩)) : (Part.value t).Skipped l rest := by
  intro bs p
  obtain ⟨c, k, rfl, hc⟩ := h.value_head
  obtain ⟨q, hq⟩ := ht p
  exact ⟨q, by rw [skipUntilClosed_eq, skipSpaces_of_not_isSpace hc.1, hq]; rfl⟩

/-- A bracket is passed over if what stands in it is. -/
theorem skipped_bracket {t : Tree} {o : Char} (ho : ∀ p, skipToken ⟨o :: l, p⟩ = .ok (some b, ⟨l, p.after o⟩))
    (hs : Input.isSpace o = false) (h : ∀ bs p, ∃ q, proceed false (b :: bs) ⟨l, p⟩ = proceed true bs ⟨rest, q⟩) :
    (Part.value t).Skipped (o :: l) rest := by
  intro bs p
  obtain ⟨q, hq⟩ := h bs (p.after o)
  exact ⟨q, by rw [skipUntilClosed_eq, skipSpaces_of_not_isSpace hs, ho, ← hq]; rfl⟩

/-- Every part of the grammar is passed over. The induction is on how it is written. -/
theorem Written.skipped {part : Part} (h : Written part l rest) (hr : Apart rest) : part.Skipped l rest := by
  induction h with
  | null => exact skipped_token .null fun p => ⟨_, rfl⟩
  | isTrue => exact skipped_token .isTrue fun p => ⟨_, rfl⟩
  | isFalse => exact skipped_token .isFalse fun p => ⟨_, rfl⟩
  | number h => exact skipped_token (.number h) (h.skipToken_eq hr)
  | string h =>
    obtain ⟨k, rfl, hb⟩ := h.exists_body
    refine skipped_token (.string h) fun p => ?_
    obtain ⟨q, hq⟩ := hb.skipString_eq (p.after '"')
    exact ⟨q, by simp only [skipToken, hq]; rfl⟩
  | emptyList h => exact skipped_bracket (fun p => rfl) rfl fun bs p => proceed_close .list bs h false p
  | emptyObject h => exact skipped_bracket (fun p => rfl) rfl fun bs p => proceed_close .object bs h false p
  | @list ts l rest h ih =>
    obtain ⟨c, k, hc, hfirst⟩ := h.elements_head
    have hpass : Passes .list l (']' :: rest) := ih (apart_close .list rest)
    exact skipped_bracket (fun p => rfl) rfl (hpass.close hc hfirst.1 hfirst.2)
  | @object ms l rest h ih =>
    obtain ⟨k, hk⟩ := h.members_head
    have hpass : Passes .object l ('\x7d' :: rest) := ih (apart_close .object rest)
    exact skipped_bracket (fun p => rfl) rfl (hpass.close hk rfl (by decide))
  | element hl _ hk ih =>
    intro b bs p
    obtain ⟨p₁, h₁⟩ := hl.skipSpaces_eq p
    obtain ⟨p₂, h₂⟩ := ih (hk.apart hr) (b :: bs) p₁
    obtain ⟨q, hq⟩ := hk.skipSpaces_eq p₂
    exact ⟨q, by rw [skipUntilClosed_congr h₁, h₂, proceed_congr hq]⟩
  | lastElement _ ih => exact ih hr .list
  | elements _ _ ih ihs => exact Passes.comma (ih (apart_comma _) .list) (ihs hr)
  | member hl hm hk _ ih =>
    intro bs p
    obtain ⟨p₁, h₁⟩ := skipKey_eq hl hm hk p
    obtain ⟨q, hq⟩ := ih hr .object bs p₁
    exact ⟨q, by rw [within, h₁, ← hq]; rfl⟩
  | lastMember _ ih => exact ih hr
  | members _ _ ih ihs => exact Passes.comma (ih (apart_comma _)) (ihs hr)

/-- A value is passed over as a whole, whatever it is. -/
theorem Written.skipValue_eq {t : Tree} {m : List Char} (hl : Spaces l m) (h : Written (.value t) m rest)
    (hr : Apart rest) (p : Position) : ∃ q, skipValue ⟨l, p⟩ = .ok ⟨rest, q⟩ := by
  obtain ⟨p₁, h₁⟩ := hl.skipSpaces_eq p
  obtain ⟨q, hq⟩ := h.skipped hr [] p₁
  exact ⟨q, by rw [skipValue, skipUntilClosed_congr h₁, hq, proceed_nil]⟩

end

end AckDesk.Json
