import AckDesk.Json.Reader
import AckDesk.Proofs.Json.Skipping
import Mathlib.Data.List.Forall2

/-!
# Values that are read

What a reader makes of a value in the grammar, wherever the value stands and however it is laid out.

- `r.Reads t a`: from every text of `t` the reader takes `t` and gives `a`.
- `r.Exact`: if the reader takes something from the front of a value, it takes the value and no more.

Both are carried from the readers of strings and booleans to those of null, of lists and of functions of a value, and
what is read in front of a text that says `t` is what the whole text is read as (`Reads.whole_eq`).
-/

namespace AckDesk.Json

/-! ## Values by their first characters -/

section

variable {t : Tree} {l rest : List Char}

/-- A value that begins with a quote is a string. -/
theorem Written.body_of_quote (h : Written (.value t) ('"' :: l) rest) : Body l rest := by
  cases h with
  | number h => exact absurd h.head (by decide)
  | string h =>
    obtain ⟨k, hk, hb⟩ := h.exists_body
    obtain ⟨-, rfl⟩ := List.cons.inj hk
    exact hb

/-- A value that begins with this letter can only be null. -/
theorem Written.eq_null_of_head (h : Written (.value t) ('n' :: l) rest) :
    t = .null ∧ l = 'u' :: 'l' :: 'l' :: rest := by
  cases h with
  | null => exact ⟨rfl, rfl⟩
  | number h => exact absurd h.head (by decide)
  | string h =>
    obtain ⟨k, hk, -⟩ := h.exists_body
    exact absurd (List.cons.inj hk).1 (by decide)

/-- A value that begins with a bracket is a list, empty or not. -/
theorem Written.elements_of_bracket (h : Written (.value t) ('[' :: l) rest) :
    Spaces l (']' :: rest) ∨ ∃ ts, Written (.elements ts) l (']' :: rest) := by
  cases h with
  | emptyList h => exact .inl h
  | list h => exact .inr ⟨_, h⟩
  | number h => exact absurd h.head (by decide)
  | string h =>
    obtain ⟨k, hk, -⟩ := h.exists_body
    exact absurd (List.cons.inj hk).1 (by decide)

end

namespace Reader

variable {α β : Type}

/-- From every text of `t` the reader takes `t` and gives `a`. -/
def Reads (r : Reader α) (t : Tree) (a : α) : Prop :=
  ∀ ⦃l m rest : List Char⦄, Spaces l m → Written (.value t) m rest → ∀ p, ∃ q, r.read ⟨l, p⟩ = .ok (a, ⟨rest, q⟩)

/-- What the reader takes from the front of a value is the value. -/
def Exact (r : Reader α) : Prop :=
  ∀ ⦃t : Tree⦄ ⦃l m rest : List Char⦄, Spaces l m → Written (.value t) m rest →
    ∀ ⦃p a j⦄, r.read ⟨l, p⟩ = .ok (a, j) → j.rest = rest

/-- What a mapped reader reads comes from the reader. -/
theorem map_read_eq_ok {r : Reader α} {f : α → β} {i j : Input} {b : β} (h : (r.map f).read i = .ok (b, j)) :
    ∃ a, r.read i = .ok (a, j) ∧ b = f a := by
  cases hr : r.read i with
  | error e => simp [map, hr, Except.map] at h
  | ok x =>
    simp only [map, hr, Except.map, Except.ok.injEq, Prod.mk.injEq] at h
    exact ⟨x.1, by rw [← h.2], h.1.symm⟩

theorem Reads.map {r : Reader α} {t : Tree} {a : α} (h : r.Reads t a) (f : α → β) : (r.map f).Reads t (f a) := by
  intro l m rest hl ht p
  obtain ⟨q, hq⟩ := h hl ht p
  exact ⟨q, by simp only [Reader.map, hq, Except.map]⟩

theorem Exact.map {r : Reader α} (h : r.Exact) (f : α → β) : (r.map f).Exact := by
  intro t l m rest hl ht p b j hb
  obtain ⟨a, ha, -⟩ := map_read_eq_ok hb
  exact h hl ht ha

/-! ## Strings and booleans -/

/-- A string is read as its text. -/
theorem reads_string (s : String) : string.Reads (.string (some s)) s := by
  intro l m rest hl ht p
  obtain ⟨k, rfl, hk⟩ : ∃ k, m = '"' :: k ∧ Spells s.toList k rest := by
    cases ht with
    | string h =>
      cases h with
      | whole h => exact ⟨_, rfl, by simpa using h⟩
  obtain ⟨p', hp'⟩ := hl.skipSpaces_cons rfl p
  obtain ⟨q, hq⟩ := hk.stringBody_eq (p'.after '"')
  exact ⟨q, by simp [string, readString, hp', hq, Except.map]⟩

/-- The reader of strings takes the whole string, where it accepts it. -/
theorem exact_string : string.Exact := by
  intro t l m rest hl ht p s j h
  obtain ⟨c, k, rfl, hc⟩ := ht.value_head
  obtain ⟨q, hq⟩ := hl.skipSpaces_cons hc.1 p
  simp only [string, readString, hq] at h
  split at h
  · simp [Input.fail] at h
  · rename_i k' hk
    obtain ⟨rfl, rfl⟩ := List.cons.inj hk
    cases hb : stringBody none (q.after '"') k with
    | error e => simp [hb, Except.map] at h
    | ok x =>
      simp only [hb, Except.map, Except.ok.injEq, Prod.mk.injEq] at h
      rw [← h.2]
      exact (ht.body_of_quote.spells_of_stringBody hb).2
  · exact absurd h unexpected_ne_ok

/-- A boolean is read. -/
theorem reads_bool (b : Bool) : bool.Reads (.bool b) b := by
  intro l m rest hl ht p
  cases ht with
  | isTrue =>
    obtain ⟨q, hq⟩ := hl.skipSpaces_cons rfl p
    exact ⟨_, by simp only [bool, readBool, hq]; rfl⟩
  | isFalse =>
    obtain ⟨q, hq⟩ := hl.skipSpaces_cons rfl p
    exact ⟨_, by simp only [bool, readBool, hq]; rfl⟩

/-! ## Null -/

/-- Null is read as the absence of a value. -/
theorem reads_null (r : Reader α) : r.nullable.Reads .null none := by
  intro l m rest hl ht p
  cases ht with
  | null =>
    obtain ⟨q, hq⟩ := hl.skipSpaces_cons rfl p
    exact ⟨_, by simp only [nullable, readNullable, hq]; rfl⟩

/-- In front of anything but null the reader of a value is asked. -/
theorem readNullable_of_ne {r : Reader α} {c : Char} {k : List Char} {i : Input} {q : Position} (hc : c ≠ 'n')
    (hi : i.skipSpaces = ⟨c :: k, q⟩) : r.nullable.read i = (r.map some).read ⟨c :: k, q⟩ := by
  simp [nullable, readNullable, hi, hc, map]

/-- A value that may be null is read as its reader reads it. -/
theorem Reads.nullable {r : Reader α} {t : Tree} {a : α} (h : r.Reads t a) (ht : t ≠ .null) :
    r.nullable.Reads t (some a) := by
  intro l m rest hl hm p
  obtain ⟨c, k, rfl, hc⟩ := hm.value_head
  obtain ⟨q, hq⟩ := hl.skipSpaces_cons hc.1 p
  have hn : c ≠ 'n' := by
    rintro rfl
    exact ht hm.eq_null_of_head.1
  rw [readNullable_of_ne hn hq]
  exact h.map some .none hm q

/-- The choice of null leaves a reader exact. -/
theorem Exact.nullable {r : Reader α} (h : r.Exact) : r.nullable.Exact := by
  intro t l m rest hl hm p a j hr
  obtain ⟨c, k, rfl, hc⟩ := hm.value_head
  obtain ⟨q, hq⟩ := hl.skipSpaces_cons hc.1 p
  by_cases hn : c = 'n'
  · subst hn
    obtain ⟨rfl, rfl⟩ := hm.eq_null_of_head
    obtain ⟨q', hq'⟩ := reads_null r hl hm p
    rw [hq'] at hr
    simp only [Except.ok.injEq, Prod.mk.injEq] at hr
    rw [← hr.2]
  · rw [readNullable_of_ne hn hq] at hr
    exact h.map some .none hm hr

/-! ## Lists -/

section

variable {l m k rest : List Char} {c : Char}

/-- At the first character of a value there is an element. -/
theorem nextElement_first (hl : Spaces l (c :: m)) (hc : IsFirst c) (p : Position) :
    ∃ q, nextElement true ⟨l, p⟩ = .ok (true, ⟨c :: m, q⟩) := by
  obtain ⟨q, hq⟩ := hl.skipSpaces_cons hc.1 p
  exact ⟨q, by simp [nextElement, hq, hc.2]⟩

/-- At the closing bracket there is no further element. -/
theorem nextElement_close (hl : Spaces l (']' :: rest)) (isFirst : Bool) (p : Position) :
    ∃ q, nextElement isFirst ⟨l, p⟩ = .ok (false, ⟨']' :: rest, q⟩) := by
  obtain ⟨q, hq⟩ := hl.skipSpaces_cons rfl p
  exact ⟨q, by simp only [nextElement, hq]⟩

/-- Behind a comma the next element is looked for as the first one is. -/
theorem nextElement_comma (hl : Spaces l (',' :: m)) (hm : Spaces m (c :: k)) (hc : IsFirst c) (p : Position) :
    ∃ q, nextElement false ⟨l, p⟩ = nextElement true ⟨m, q⟩ := by
  obtain ⟨q, hq⟩ := hl.skipSpaces_cons rfl p
  obtain ⟨q', hq'⟩ := hm.skipSpaces_cons hc.1 (q.after ',')
  exact ⟨q.after ',', by simp [nextElement, hq, Input.advance, hq', hc.2]⟩

end

/-- The reader of elements, as a bind: the form in which it is computed below. -/
theorem readElements_eq (r : Reader α) (isFirst : Bool) (i : Input) :
    readElements r isFirst i = nextElement isFirst i >>= fun x =>
      if x.1 then r.read x.2 >>= fun y => (readElements r false y.2).map fun z => (y.1 :: z.1, z.2)
      else .ok ([], x.2.advance) := by
  rw [readElements]
  split
  · simp_all [bind, Except.bind]
  · simp_all [bind, Except.bind]
  · split <;> simp_all [bind, Except.bind]

section

variable {r : Reader α} {t : Tree} {ts : List Tree} {l k rest : List Char}

theorem readElements_close (hl : Spaces l (']' :: rest)) (isFirst : Bool) (p : Position) :
    ∃ q, readElements r isFirst ⟨l, p⟩ = .ok ([], ⟨rest, q⟩) := by
  obtain ⟨q, hq⟩ := nextElement_close hl isFirst p
  exact ⟨q.after ']', by rw [readElements_eq, hq]; rfl⟩

/-- A comma that elements follow is passed over. -/
theorem readElements_comma (hl : Spaces l (',' :: k)) (hk : Written (.elements ts) k rest) (p : Position) :
    ∃ q, readElements r false ⟨l, p⟩ = readElements r true ⟨k, q⟩ := by
  obtain ⟨c, m, hm, hc⟩ := hk.elements_head
  obtain ⟨q, hq⟩ := nextElement_comma hl hm hc p
  exact ⟨q, by rw [readElements_eq, hq, ← readElements_eq]⟩

/-- The first of the elements that are left is read, and then the others. -/
theorem readElements_element (ht : Written (.element t) l rest) (p : Position) :
    ∃ m k q, Written (.value t) m k ∧ Spaces k rest ∧ readElements r true ⟨l, p⟩ =
      r.read ⟨m, q⟩ >>= fun y => (readElements r false y.2).map fun z => (y.1 :: z.1, z.2) := by
  cases ht with
  | element hl hm hk =>
    obtain ⟨c, m', rfl, hc⟩ := hm.value_head
    obtain ⟨q, hq⟩ := nextElement_first hl hc p
    exact ⟨_, _, q, hm, hk, by rw [readElements_eq, hq]; rfl⟩

theorem Reads.element {a : α} (h : r.Reads t a) (ht : Written (.element t) l rest) (p : Position) :
    ∃ k q, Spaces k rest ∧ readElements r true ⟨l, p⟩ =
      (readElements r false ⟨k, q⟩).map fun z => (a :: z.1, z.2) := by
  obtain ⟨m, k, p', hm, hk, hp'⟩ := readElements_element (r := r) ht p
  obtain ⟨q, hq⟩ := h .none hm p'
  exact ⟨k, q, hk, by rw [hp', hq]; rfl⟩

/-- Elements are read one by one, up to the closing bracket. -/
theorem Reads.elements {as : List α} (h : List.Forall₂ r.Reads ts as) (ht : Written (.elements ts) l (']' :: rest))
    (p : Position) : ∃ q, readElements r true ⟨l, p⟩ = .ok (as, ⟨rest, q⟩) := by
  induction h generalizing l p with
  | nil => cases ht
  | cons ha _ ih =>
    cases ht with
    | lastElement ht =>
      obtain ⟨k, p', hk, hp'⟩ := ha.element ht p
      obtain ⟨q, hq⟩ := readElements_close (r := r) hk false p'
      cases ‹List.Forall₂ r.Reads [] _›
      exact ⟨q, by rw [hp', hq]; rfl⟩
    | elements ht hs =>
      obtain ⟨k, p', hk, hp'⟩ := ha.element ht p
      obtain ⟨p'', hp''⟩ := readElements_comma (r := r) hk hs p'
      obtain ⟨q, hq⟩ := ih hs p''
      exact ⟨q, by rw [hp', hp'', hq]; rfl⟩

/-- A list is read if its elements are. -/
theorem Reads.list {as : List α} (h : List.Forall₂ r.Reads ts as) : r.list.Reads (.list ts) as := by
  intro l m rest hl ht p
  cases ht with
  | emptyList hm =>
    obtain ⟨p', hp'⟩ := hl.skipSpaces_cons rfl p
    obtain ⟨q, hq⟩ := readElements_close (r := r) hm true (p'.after '[')
    cases h
    exact ⟨q, by simp only [Reader.list, readList, hp', Input.advance, hq]⟩
  | list hm =>
    obtain ⟨p', hp'⟩ := hl.skipSpaces_cons rfl p
    obtain ⟨q, hq⟩ := Reads.elements h hm (p'.after '[')
    exact ⟨q, by simp only [Reader.list, readList, hp', Input.advance, hq]⟩

theorem Exact.element (hr : r.Exact) (ht : Written (.element t) l rest) {p : Position} {as : List α} {j : Input}
    (h : readElements r true ⟨l, p⟩ = .ok (as, j)) :
    ∃ k q bs, Spaces k rest ∧ readElements r false ⟨k, q⟩ = .ok (bs, j) := by
  obtain ⟨m, k, p', hm, hk, hp'⟩ := readElements_element (r := r) ht p
  rw [hp'] at h
  cases hx : r.read ⟨m, p'⟩ with
  | error e => simp [hx, bind, Except.bind] at h
  | ok x =>
    obtain ⟨a, i, q⟩ := x
    obtain rfl : i = k := hr .none hm hx
    cases hy : readElements r false ⟨i, q⟩ with
    | error e => simp [hx, hy, bind, Except.bind, Except.map] at h
    | ok y =>
      simp only [hx, hy, bind, Except.bind, Except.map, Except.ok.injEq, Prod.mk.injEq] at h
      exact ⟨i, q, y.1, hk, by rw [hy, ← h.2]⟩

theorem Exact.elements (hr : r.Exact) (ht : Written (.elements ts) l (']' :: rest)) {p : Position} {as : List α}
    {j : Input} (h : readElements r true ⟨l, p⟩ = .ok (as, j)) : j.rest = rest := by
  induction ts generalizing l p as with
  | nil => cases ht
  | cons t ts ih =>
    cases ht with
    | lastElement ht =>
      obtain ⟨k, p', bs, hk, hb⟩ := hr.element ht h
      obtain ⟨q, hq⟩ := readElements_close (r := r) hk false p'
      rw [hq] at hb
      simp only [Except.ok.injEq, Prod.mk.injEq] at hb
      rw [← hb.2]
    | elements ht hs =>
      obtain ⟨k, p', bs, hk, hb⟩ := hr.element ht h
      obtain ⟨q, hq⟩ := readElements_comma (r := r) hk hs p'
      exact ih hs (hq ▸ hb)

/-- A reader of lists is exact if that of the elements is. -/
theorem Exact.list (hr : r.Exact) : r.list.Exact := by
  intro t l m rest hl ht p as j h
  obtain ⟨c, k, rfl, hc⟩ := ht.value_head
  obtain ⟨q, hq⟩ := hl.skipSpaces_cons hc.1 p
  simp only [Reader.list, readList, hq] at h
  split at h
  · simp [Input.fail] at h
  · rename_i k' hk
    obtain ⟨rfl, rfl⟩ := List.cons.inj hk
    rcases ht.elements_of_bracket with hm | ⟨ts, hm⟩
    · obtain ⟨q', hq'⟩ := readElements_close (r := r) hm true (q.after '[')
      simp only [Input.advance, hq', Except.ok.injEq, Prod.mk.injEq] at h
      rw [← h.2]
    · exact hr.elements hm h
  · exact absurd h unexpected_ne_ok

end

/-! ## Whole texts -/

/-- A text is read if its tree is: nothing but spaces stands behind the value. -/
theorem Reads.whole_eq {r : Reader α} {t : Tree} {a : α} {text : String} (h : r.Reads t a) (ht : IsText t text) :
    r.whole text = .ok a := by
  cases ht with
  | element hl hm hk =>
    obtain ⟨q, hq⟩ := h hl hm {}
    obtain ⟨q', hq'⟩ := hk.skipSpaces_eq q
    have hrest : (Input.mk [] q').skipSpaces.rest = [] := rfl
    simp only [whole, Input.ofText, hq, hq', hrest, if_true]

end Reader

end AckDesk.Json
