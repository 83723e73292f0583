import AckDesk.Json.Shape
import AckDesk.Proofs.Json.Reading
import Mathlib.Data.List.Nodup

/-!
# Shapes as they are read

What the reader of a shape makes of an object and of a list of values.

- `s.Builds seen a ms b`: member by member, `ms` turn `a` into `b`, where `seen` have been there already. An object
  of such members is read as `b` (`Builds.reads_object`); members of other names stand where they like.
- `s.Lists ms ts a b`: value by value, `ts` turn `a` into `b`. Such a list is read as `b` (`Lists.reads_list`).
- Whatever object is read has each member of the shape at most once and every required one (`admits_of_whole`).
-/

namespace AckDesk.Json

namespace Shape

variable {α : Type} {s : Shape α}

/-- The member that is found for a name is one of the shape's and has that name. -/
theorem name_of_member? {m : Member α} {name : String} (h : s.member? name = some m) :
    m ∈ s.members ∧ m.name = name := by
  refine ⟨List.mem_of_find?_eq_some h, ?_⟩
  simpa using List.find?_some h

/-! ## Keys -/

section

variable {l m k rest : List Char}

/-- At the closing brace there is no further name. -/
theorem nextKey_close (hl : Spaces l ('\x7d' :: rest)) (isFirst : Bool) (p : Position) :
    ∃ q, nextKey isFirst ⟨l, p⟩ = .ok (none, ⟨'\x7d' :: rest, q⟩) := by
  obtain ⟨q, hq⟩ := hl.skipSpaces_cons rfl p
  exact ⟨q, by simp [nextKey, hq]⟩

/-- The first name is the string in front. -/
theorem nextKey_first (hl : Spaces l ('"' :: m)) (p : Position) :
    ∃ q, nextKey true ⟨l, p⟩ = (stringBody none q m).map fun x => (some (String.ofList x.1), x.2) := by
  obtain ⟨q, hq⟩ := hl.skipSpaces_cons rfl p
  exact ⟨q.after '"', by simp [nextKey, hq]⟩

/-- Behind a comma the next name is looked for as the first one is. -/
theorem nextKey_comma (hl : Spaces l (',' :: m)) (hm : Spaces m ('"' :: k)) (p : Position) :
    ∃ q, nextKey false ⟨l, p⟩ = nextKey true ⟨m, q⟩ := by
  obtain ⟨q, hq⟩ := hl.skipSpaces_cons rfl p
  obtain ⟨q', hq'⟩ := hm.skipSpaces_cons rfl (q.after ',')
  exact ⟨q.after ',', by simp [nextKey, hq, Input.advance, hq']⟩

/-- At a name the name is found. -/
theorem nextKey_some {key : String} (hl : Spaces l m) (hm : Quoted (some key) m k) (p : Position) :
    ∃ q, nextKey true ⟨l, p⟩ = .ok (some key, ⟨k, q⟩) := by
  cases hm with
  | whole h =>
    obtain ⟨p', hp'⟩ := nextKey_first hl p
    obtain ⟨q, hq⟩ := h.stringBody_eq p'
    exact ⟨q, by rw [hp', hq]; rfl⟩

/-- A name that is read is the one that is written. -/
theorem nextKey_exact {name key : Option String} {j : Input} (hl : Spaces l m) (hm : Quoted name m k) {p : Position}
    (h : nextKey true ⟨l, p⟩ = .ok (key, j)) : key = name ∧ key.isSome ∧ j.rest = k := by
  obtain ⟨b, rfl, hb⟩ := hm.exists_body
  obtain ⟨p', hp'⟩ := nextKey_first hl p
  cases hx : stringBody none p' b with
  | error e => simp [hp', hx, Except.map] at h
  | ok x =>
    obtain ⟨hs, hj⟩ := hb.spells_of_stringBody hx
    simp only [hp', hx, Except.map, Except.ok.injEq, Prod.mk.injEq] at h
    obtain ⟨rfl, rfl⟩ := h
    refine ⟨?_, rfl, hj⟩
    cases hm with
    | whole h =>
      obtain ⟨q, hq⟩ := h.stringBody_eq p'
      rw [hq] at hx
      obtain rfl := Except.ok.inj hx
      rfl
    | broken _ hn => exact absurd hs (hn _)

end

/-! ## Members -/

/-- The reader of members, as a bind: the form in which it is computed below. -/
theorem readMembers_eq (s : Shape α) (isFirst : Bool) (seen : List String) (a : α) (i : Input) :
    s.readMembers isFirst seen a i = nextKey isFirst i >>= fun x =>
      match x.1 with
      | none =>
        match s.missing? seen with
        | some m => .error ⟨.missingField m.name, endOfObject x.2⟩
        | none => .ok (a, x.2.advance)
      | some key => s.readMember seen a key x.2 >>= fun y => s.readMembers false y.1.1 y.1.2 y.2 := by
  rw [readMembers]
  split
  · simp_all [bind, Except.bind]
  · rename_i h
    rw [h]
    rfl
  · split <;> simp_all [bind, Except.bind]

section

variable {seen : List String} {a : α} {ms : List (Option String × Tree)} {l k rest : List Char}

/-- Where the object ends, what is built is given if no required member is missing. -/
theorem readMembers_close (hl : Spaces l ('\x7d' :: rest)) (hs : s.missing? seen = none) (isFirst : Bool)
    (p : Position) : ∃ q, s.readMembers isFirst seen a ⟨l, p⟩ = .ok (a, ⟨rest, q⟩) := by
  obtain ⟨q, hq⟩ := nextKey_close hl isFirst p
  exact ⟨q.after '\x7d', by rw [readMembers_eq, hq]; simp only [bind, Except.bind, hs]; rfl⟩

/-- An object that is read to its end misses no required member. -/
theorem missing?_of_readMembers {x : α × Input} {isFirst : Bool} {p : Position} (hl : Spaces l ('\x7d' :: rest))
    (h : s.readMembers isFirst seen a ⟨l, p⟩ = .ok x) : s.missing? seen = none := by
  obtain ⟨q, hq⟩ := nextKey_close hl isFirst p
  rw [readMembers_eq, hq] at h
  cases hm : s.missing? seen with
  | none => rfl
  | some m => simp [bind, Except.bind, hm] at h

/-- A comma that members follow is passed over. -/
theorem readMembers_comma (hl : Spaces l (',' :: k)) (hk : Written (.members ms) k rest) (p : Position) :
    ∃ q, s.readMembers false seen a ⟨l, p⟩ = s.readMembers true seen a ⟨k, q⟩ := by
  obtain ⟨m, hm⟩ := hk.members_head
  obtain ⟨q, hq⟩ := nextKey_comma hl hm p
  exact ⟨q, by rw [readMembers_eq, hq, ← readMembers_eq]⟩

end

/-! ## Objects -/

/-- Member by member, `ms` turn `a` into `b`, where the names `seen` have been there already. -/
inductive Builds (s : Shape α) : List String → α → List (Option String × Tree) → α → Prop
  | nil {seen : List String} {a : α} (h : s.missing? seen = none) : Builds s seen a [] a
  | known {seen : List String} {a b : α} {name : String} {t : Tree} {ms : List (Option String × Tree)} {m : Member α}
      {f : α → α} (hm : s.member? name = some m) (hn : name ∉ seen) (hr : m.reader.Reads t f)
      (h : Builds s (name :: seen) (f a) ms b) : Builds s seen a ((some name, t) :: ms) b
  | other {seen : List String} {a b : α} {name : String} {t : Tree} {ms : List (Option String × Tree)}
      (hm : s.member? name = none) (h : Builds s seen a ms b) : Builds s seen a ((some name, t) :: ms) b

section

variable {seen : List String} {a b : α} {name : String} {t : Tree} {ms : List (Option String × Tree)}
  {l k rest : List Char}

/-- A member of the shape is read. -/
theorem readMembers_known {m : Member α} {f : α → α} (hm : s.member? name = some m) (hn : name ∉ seen)
    (hr : m.reader.Reads t f) (h : Written (.member (some name, t)) l rest) (p : Position) :
    ∃ k q, Spaces k rest ∧
      s.readMembers true seen a ⟨l, p⟩ = s.readMembers false (name :: seen) (f a) ⟨k, q⟩ := by
  cases h with
  | member hl hq hk ht =>
    cases ht with
    | element hn' ht hk' =>
      obtain ⟨p₁, h₁⟩ := nextKey_some hl hq p
      obtain ⟨p₂, h₂⟩ := takeColon_eq hk p₁
      obtain ⟨q, h₃⟩ := hr hn' ht p₂
      refine ⟨_, q, hk', ?_⟩
      rw [readMembers_eq, h₁]
      simp [bind, Except.bind, readMember, hm, hn, h₂, h₃, Except.map]

/-- A member of another name is passed over. -/
theorem readMembers_other (hm : s.member? name = none) (h : Written (.member (some name, t)) l rest)
    (hrest : Apart rest) (p : Position) :
    ∃ k q, Spaces k rest ∧ s.readMembers true seen a ⟨l, p⟩ = s.readMembers false seen a ⟨k, q⟩ := by
  cases h with
  | member hl hq hk ht =>
    cases ht with
    | element hn' ht hk' =>
      obtain ⟨p₁, h₁⟩ := nextKey_some hl hq p
      obtain ⟨p₂, h₂⟩ := takeColon_eq hk p₁
      obtain ⟨q, h₃⟩ := ht.skipValue_eq hn' (hk'.apart hrest) p₂
      refine ⟨_, q, hk', ?_⟩
      rw [readMembers_eq, h₁]
      simp [bind, Except.bind, readMember, hm, h₂, h₃, Except.map]

/-- What follows a member is read if the members in it are read from their own front. -/
theorem Builds.readMembers_follows (h : s.Builds seen a ms b)
    (hms : ∀ {l p}, Written (.members ms) l ('\x7d' :: rest) →
      ∃ q, s.readMembers true seen a ⟨l, p⟩ = .ok (b, ⟨rest, q⟩))
    (hl : Spaces l k) (hk : Follows ms k ('\x7d' :: rest)) (p : Position) :
    ∃ q, s.readMembers false seen a ⟨l, p⟩ = .ok (b, ⟨rest, q⟩) := by
  cases hk with
  | done =>
    cases h with
    | nil hs => exact readMembers_close hl hs false p
  | more hw =>
    obtain ⟨p', hp'⟩ := readMembers_comma hl hw p
    obtain ⟨q, hq⟩ := hms (p := p') hw
    exact ⟨q, by rw [hp', hq]⟩

/-- Members that build a value are read as that value, up to the closing brace. -/
theorem Builds.readMembers_eq (h : s.Builds seen a ms b) {p : Position}
    (ht : Written (.members ms) l ('\x7d' :: rest)) :
    ∃ q, s.readMembers true seen a ⟨l, p⟩ = .ok (b, ⟨rest, q⟩) := by
  induction h generalizing l p with
  | nil _ => cases ht
  | known hm hn hr h ih =>
    obtain ⟨k, hk, hms⟩ := ht.members_cons
    obtain ⟨l', p', hl', hp'⟩ := readMembers_known hm hn hr hk p
    rw [hp']
    exact h.readMembers_follows ih hl' hms p'
  | other hm h ih =>
    obtain ⟨k, hk, hms⟩ := ht.members_cons
    obtain ⟨l', p', hl', hp'⟩ := readMembers_other hm hk (hms.apart (apart_close .object _)) p
    rw [hp']
    exact h.readMembers_follows ih hl' hms p'

/-- An object whose members build `b` is read as `b`. -/
theorem Builds.reads_object (h : s.Builds [] s.blank ms b) : s.reader.Reads (.object ms) b := by
  intro l m rest hl ht p
  cases ht with
  | emptyObject hm =>
    obtain ⟨p', hp'⟩ := hl.skipSpaces_cons rfl p
    cases h with
    | nil hs =>
      obtain ⟨q, hq⟩ := readMembers_close (s := s) (a := s.blank) hm hs true (p'.after '\x7b')
      exact ⟨q, by simp only [reader, read, hp', Input.advance, hq]⟩
  | object hm =>
    obtain ⟨p', hp'⟩ := hl.skipSpaces_cons rfl p
    obtain ⟨q, hq⟩ := h.readMembers_eq (p := p'.after '\x7b') hm
    exact ⟨q, by simp only [reader, read, hp', Input.advance, hq]⟩

end

/-! ## Objects that are refused -/

/-- With the names `seen` before it, the object has each member of the shape at most once, and the required ones. -/
structure Admits (s : Shape α) (seen : List String) (ms : List (Option String × Tree)) : Prop where
  once : ∀ m ∈ s.members, seen.count m.name + (ms.map Prod.fst).count (some m.name) ≤ 1
  required : ∀ m ∈ s.members, m.isRequired → m.name ∈ seen ∨ some m.name ∈ ms.map Prod.fst

/-- Where no member is missing, every required one was seen. -/
theorem mem_of_missing? {seen : List String} {m : Member α} (h : s.missing? seen = none) (hm : m ∈ s.members)
    (hr : m.isRequired) : m.name ∈ seen := by
  have := List.find?_eq_none.1 h m hm
  simpa [hr] using this

section

variable {seen : List String} {a : α} {x : α × Input} {name : Option String} {t : Tree}
  {ms : List (Option String × Tree)} {l k rest : List Char}

/-- Reading goes on only behind a name without half a surrogate pair in it. -/
theorem exists_key_of_readMembers (ht : Written (.member (name, t)) l rest) {p : Position}
    (h : s.readMembers true seen a ⟨l, p⟩ = .ok x) : ∃ key, name = some key := by
  cases ht with
  | member hl hq _ _ =>
    rw [readMembers_eq] at h
    cases hkey : nextKey true ⟨l, p⟩ with
    | error e => simp [hkey, bind, Except.bind] at h
    | ok y =>
      obtain ⟨rfl, hsome, -⟩ := nextKey_exact hl hq hkey
      exact Option.isSome_iff_exists.1 hsome

/-- Reading goes on only behind a member of the shape that has not been there before. -/
theorem readMembers_member {key : String} {m : Member α} (hm : s.member? key = some m) (hs : m.reader.Exact)
    (ht : Written (.member (some key, t)) l rest) {p : Position} (h : s.readMembers true seen a ⟨l, p⟩ = .ok x) :
    key ∉ seen ∧ ∃ k q b, Spaces k rest ∧ s.readMembers false (key :: seen) b ⟨k, q⟩ = .ok x := by
  cases ht with
  | @member _ _ _ _ _ n _ hl hq hk ht =>
    cases ht with
    | element hn ht hk' =>
      obtain ⟨p₁, h₁⟩ := nextKey_some hl hq p
      obtain ⟨p₂, h₂⟩ := takeColon_eq hk p₁
      rw [readMembers_eq, h₁] at h
      by_cases hseen : key ∈ seen
      · simp [bind, Except.bind, readMember, hm, hseen] at h
      · refine ⟨hseen, ?_⟩
        cases hx : m.reader.read ⟨n, p₂⟩ with
        | error e => simp [bind, Except.bind, readMember, hm, hseen, h₂, hx, Except.map] at h
        | ok y =>
          obtain ⟨f, k, q⟩ := y
          obtain rfl : k = _ := hs hn ht hx
          simp only [bind, Except.bind, readMember, hm, List.contains_eq_mem, hseen, h₂, hx, Except.map] at h
          exact ⟨k, q, f a, hk', by simpa using h⟩

/-- Whatever object is read is one that the shape admits. -/
theorem admits_of_readMembers (hs : ∀ m ∈ s.members, m.reader.Exact) (hseen : seen.Nodup)
    (ht : Written (.members ms) l ('\x7d' :: rest)) {p : Position} (h : s.readMembers true seen a ⟨l, p⟩ = .ok x) :
    s.Admits seen ms := by
  induction ms generalizing seen a l p with
  | nil => cases ht
  | cons m ms ih =>
    obtain ⟨name, t⟩ := m
    obtain ⟨k, hk, hms⟩ := ht.members_cons
    obtain ⟨key, rfl⟩ := exists_key_of_readMembers hk h
    -- behind the member either the object ends, or the others are read with the names that have been there by then
    have hrest {seen' : List String} {b : α} {k' : List Char} {q : Position} (hn : seen'.Nodup) (hk' : Spaces k' k)
        (h : s.readMembers false seen' b ⟨k', q⟩ = .ok x) : s.Admits seen' ms := by
      cases hms with
      | done =>
        have hmissing := missing?_of_readMembers hk' h
        refine ⟨fun m _ => ?_, fun m hm hr => .inl (mem_of_missing? hmissing hm hr)⟩
        simpa using List.nodup_iff_count_le_one.1 hn m.name
      | more hw =>
        obtain ⟨q', hq'⟩ := readMembers_comma hk' hw q
        exact ih hn hw (hq' ▸ h)
    cases hm : s.member? key with
    | none =>
      obtain ⟨k', q, hk', hq⟩ := readMembers_other hm hk (hms.apart (apart_close .object _)) p
      obtain ⟨honce, hreq⟩ := hrest hseen hk' (hq ▸ h)
      have hne : ∀ m ∈ s.members, m.name ≠ key := by simpa [member?] using hm
      refine ⟨fun m hm => ?_, fun m hm hr => ?_⟩
      · have := honce m hm
        simpa [List.count_cons, (hne m hm).symm] using this
      · exact (hreq m hm hr).imp_right fun h => List.mem_cons_of_mem _ h
    | some m =>
      obtain ⟨hkey, k', q, b, hk', hq⟩ := readMembers_member hm (hs m (name_of_member? hm).1) hk h
      obtain ⟨honce, hreq⟩ := hrest (List.nodup_cons.2 ⟨hkey, hseen⟩) hk' hq
      refine ⟨fun m hm => ?_, fun m hm hr => ?_⟩
      · have := honce m hm
        simp only [List.map_cons, List.count_cons, beq_iff_eq, Option.some.injEq] at this ⊢
        omega
      · rcases hreq m hm hr with h | h
        · rcases List.mem_cons.1 h with h | h
          · exact .inr (by simp [h])
          · exact .inl h
        · exact .inr (List.mem_cons_of_mem _ h)

/-- A text of an object that is read is that of an object the shape admits. -/
theorem admits_of_whole {b : α} {text : String} (hs : ∀ m ∈ s.members, m.reader.Exact) (ht : IsText (.object ms) text)
    (h : s.reader.whole text = .ok b) : s.Admits [] ms := by
  cases ht with
  | element hl hm _ =>
    cases hr : s.read (.ofText text) with
    | error e => simp [Reader.whole, reader, hr] at h
    | ok x =>
      cases hm with
      | emptyObject hm =>
        obtain ⟨p, hp⟩ := hl.skipSpaces_cons rfl {}
        simp only [read, Input.ofText, hp, Input.advance] at hr
        have hmissing := missing?_of_readMembers hm hr
        exact ⟨by simp, fun m hm hreq => .inl (mem_of_missing? hmissing hm hreq)⟩
      | object hm =>
        obtain ⟨p, hp⟩ := hl.skipSpaces_cons rfl {}
        simp only [read, Input.ofText, hp, Input.advance] at hr
        exact admits_of_readMembers hs List.nodup_nil hm hr

end

/-! ## Lists of values -/

/-- Value by value, in the order of the members, `ts` turn `a` into `b`. -/
inductive Lists : List (Member α) → List Tree → α → α → Prop
  | nil {a : α} : Lists [] [] a a
  | cons {a b : α} {m : Member α} {ms : List (Member α)} {t : Tree} {ts : List Tree} {f : α → α}
      (hr : m.reader.Reads t f) (h : Lists ms ts (f a) b) : Lists (m :: ms) (t :: ts) a b

/-- The end of a list is found after spaces. -/
theorem endOfList_eq {l rest : List Char} (hl : Spaces l (']' :: rest)) (p : Position) :
    ∃ q, endOfList ⟨l, p⟩ = .ok ⟨rest, q⟩ := by
  obtain ⟨q, hq⟩ := hl.skipSpaces_cons rfl p
  exact ⟨q.after ']', by simp only [endOfList, hq]; rfl⟩

/-- The values that are left are read, wherever the first of them is looked for. -/
theorem Lists.readValues_eq {ms : List (Member α)} {ts : List Tree} {a b : α} {l rest : List Char}
    (h : Lists ms ts a b) (ht : Written (.elements ts) l (']' :: rest)) {index : Nat} {i : Input} {p : Position}
    (hi : Reader.nextElement (index = 0) i = Reader.nextElement true ⟨l, p⟩) :
    ∃ q, s.readValues index a i ms = .ok (b, ⟨rest, q⟩) := by
  induction h generalizing l index i p with
  | nil => cases ht
  | @cons a b m ms t ts f hr h ih =>
    have hfirst {k : List Char} (ht : Written (.element t) l k) : ∃ l' q, Spaces l' k ∧
        s.readValues index a i (m :: ms) = s.readValues (index + 1) (f a) ⟨l', q⟩ ms := by
      cases ht with
      | element hl hm hk =>
        obtain ⟨c, m', rfl, hc⟩ := hm.value_head
        obtain ⟨p', hp'⟩ := Reader.nextElement_first hl hc p
        obtain ⟨q, hq⟩ := hr .none hm p'
        exact ⟨_, q, hk, by rw [readValues, hi, hp']; simp only [hq]⟩
    cases ht with
    | lastElement ht =>
      obtain ⟨l', p', hl', hp'⟩ := hfirst ht
      cases h with
      | nil =>
        obtain ⟨q, hq⟩ := endOfList_eq hl' p'
        exact ⟨q, by rw [hp', readValues, hq]; rfl⟩
    | elements ht hs =>
      obtain ⟨l', p', hl', hp'⟩ := hfirst ht
      obtain ⟨c, k, hk, hc⟩ := hs.elements_head
      obtain ⟨q', hq'⟩ := Reader.nextElement_comma hl' hk hc p'
      rw [hp']
      exact ih hs hq'

/-- A list of the members' values is read as what they make of the blank value. -/
theorem Lists.reads_list {ts : List Tree} {b : α} (h : Lists s.members ts s.blank b) :
    s.reader.Reads (.list ts) b := by
  intro l m rest hl ht p
  obtain ⟨k, hk⟩ : ∃ k, m = '[' :: k := by cases ht <;> exact ⟨_, rfl⟩
  subst hk
  obtain ⟨p', hp'⟩ := hl.skipSpaces_cons rfl p
  have hread : s.reader.read ⟨l, p⟩ = s.readValues 0 s.blank ⟨k, p'.after '['⟩ s.members := by
    simp only [reader, read, hp']
    rfl
  rw [hread]
  cases ht with
  | emptyList hm =>
    generalize s.members = ms at h ⊢
    cases h with
    | nil =>
      obtain ⟨q, hq⟩ := endOfList_eq hm (p'.after '[')
      exact ⟨q, by rw [readValues, hq]; rfl⟩
  | list hm => exact h.readValues_eq hm rfl

end Shape

end AckDesk.Json
