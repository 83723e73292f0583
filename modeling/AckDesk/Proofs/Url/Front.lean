import AckDesk.Proofs.Url.Joining
import Mathlib.Data.List.TakeWhile

/-!
# The front of a text

Of a text that writes a URL, tabs and line ends are left out, and controls and blanks around it. Scheme, authority and
path are read from the front of the rest, which its first question mark or number sign ends (`parse_eq`), so texts with
one front differ in the query and the fragment only.
-/

namespace AckDesk.Url

/-! ## Cutting a text in front of its end -/

section

variable {q : Char → Bool} {xs ys : List Char}

theorem takeWhile_append_of_head (h : ∀ c ∈ ys.head?, q c = false) : (xs ++ ys).takeWhile q = xs.takeWhile q := by
  have hys : ys.takeWhile q = [] := by
    cases ys with
    | nil => rfl
    | cons y ys => exact List.takeWhile_cons_of_neg (by simp [h y rfl])
  rw [List.takeWhile_append, hys, List.append_nil]
  split
  · rename_i hlen
    exact ((List.takeWhile_prefix q).eq_of_length hlen).symm
  · rfl

theorem dropWhile_append_of_head (h : ∀ c ∈ ys.head?, q c = false) :
    (xs ++ ys).dropWhile q = xs.dropWhile q ++ ys := by
  have hys : ys.dropWhile q = ys := by
    cases ys with
    | nil => rfl
    | cons y ys => exact List.dropWhile_cons_of_neg (by simp [h y rfl])
  rw [List.dropWhile_append]
  split
  · rename_i hnil
    rw [hys, List.isEmpty_iff.1 hnil, List.nil_append]
  · rfl

end

variable {cs ds : List Char} {c : Char}

/-- What follows the characters of a scheme belongs to the rest of the text. -/
theorem cutScheme?_append (h : ∀ c ∈ ds.head?, (c.isAlphanum || ['+', '-', '.'].contains c) = false ∧ c ≠ ':') :
    cutScheme? (cs ++ ds) = (cutScheme? cs).map fun x => (x.1, x.2 ++ ds) := by
  have hhead : ∀ c ∈ ds.head?, (fun c : Char => c.isAlphanum || ['+', '-', '.'].contains c) c = false :=
    fun c hc => (h c hc).1
  unfold cutScheme?
  dsimp only
  rw [takeWhile_append_of_head hhead, dropWhile_append_of_head hhead]
  cases cs.takeWhile fun c => c.isAlphanum || ['+', '-', '.'].contains c with
  | nil => rfl
  | cons c scheme =>
    cases cs.dropWhile fun c => c.isAlphanum || ['+', '-', '.'].contains c with
    | nil =>
      cases ds with
      | nil => rfl
      | cons d ds =>
        have hd : d ≠ ':' := (h d rfl).2
        simp [hd]
    | cons d rest =>
      by_cases hd : d = ':'
      · subst hd
        cases hc : c.isAlpha <;> simp [hc]
      · simp [hd]

/-- The rest of a text is the end of it. -/
theorem suffix_of_cutScheme? {scheme rest : List Char} (h : cutScheme? cs = some (scheme, rest)) : rest <:+ cs := by
  unfold cutScheme? at h
  dsimp only at h
  split at h
  · rename_i hrest
    split at h
    · obtain ⟨-, rfl⟩ := Prod.mk.inj (Option.some.inj h)
      exact (List.suffix_cons ':' _).trans (hrest ▸ List.dropWhile_suffix _)
    · cases h
  · cases h

/-! ## Marks -/

/-- A question mark or a number sign. -/
def isMark (c : Char) : Bool := c == '?' || c == '#'

theorem isMark_cases (h : isMark c = true) : c = '?' ∨ c = '#' :=
  (Bool.or_eq_true_iff.1 h).imp beq_iff_eq.1 beq_iff_eq.1

/-- What is read of a text. -/
def readable (cs : List Char) : List Char := kept (trimControls cs)

/-- The part of a text that is read up to its first mark. -/
def front (cs : List Char) : List Char := (readable cs).takeWhile (!isMark ·)

/-- The scheme, the authority and the path that the front of a text writes, when a mark follows it or not. -/
def readFront (cs : List Char) (isEnd : Bool) : Except Fault (List Char × Option Authority × Path) :=
  match cutScheme? cs with
  | none => .error .relative
  | some (scheme, rest) => do
    let (authority, path) ← readBody scheme rest isEnd
    .ok (scheme, authority, path)

/-- Behind the front of a text there is nothing, or a mark. -/
theorem readable_eq (cs : List Char) : ∃ ds, readable cs = front cs ++ ds ∧ (∀ d ∈ ds.head?, isMark d = true) ∧
    (readable cs).all (!isMark ·) = ds.isEmpty := by
  refine ⟨(readable cs).dropWhile (!isMark ·), List.takeWhile_append_dropWhile.symm, ?_, ?_⟩
  · intro d hd
    rw [← List.find?_eq_head?_dropWhile_not] at hd
    exact List.find?_some hd
  · rw [Bool.eq_iff_iff, List.isEmpty_iff, List.dropWhile_eq_nil_iff, List.all_eq_true]

theorem not_isMark_of_mem_front (hc : c ∈ front cs) : isMark c = false := by
  simpa using List.mem_takeWhile_imp hc

/-- Cutting at both marks leaves what stands in front of the first of them. -/
theorem cut_cut (hcs : ∀ c ∈ cs, isMark c = false) (hds : ∀ d ∈ ds.head?, isMark d = true) :
    (cut (· == '?') (cut (· == '#') (cs ++ ds)).1).1 = cs ∧
    ((cut (· == '?') (cut (· == '#') (cs ++ ds)).1).2.isNone && (cut (· == '#') (cs ++ ds)).2.isNone) = ds.isEmpty := by
  have hq : ∀ c ∈ cs, (!(c == '?')) = true := fun c hc => by simpa using (Bool.or_eq_false_iff.1 (hcs c hc)).1
  have hn : ∀ c ∈ cs, (!(c == '#')) = true := fun c hc => by simpa using (Bool.or_eq_false_iff.1 (hcs c hc)).2
  unfold cut
  dsimp only
  rw [List.takeWhile_append_of_pos hn, List.takeWhile_append_of_pos hq, List.dropWhile_append_of_pos hn,
    List.dropWhile_append_of_pos hq]
  cases ds with
  | nil => simp
  | cons d ds =>
    rcases isMark_cases (hds d rfl) with rfl | rfl <;> simp

/-- **Scheme, authority and path are read from the front** of a text. -/
theorem parse_eq (text : String) : ∃ query fragment, parse text =
    (readFront (front text.toList) ((readable text.toList).all (!isMark ·))).map
      fun (scheme, authority, path) => { scheme, authority, path, query, fragment } := by
  obtain ⟨ds, heq, hds, hall⟩ := readable_eq text.toList
  have hscheme : cutScheme? (readable text.toList) =
      (cutScheme? (front text.toList)).map fun x => (x.1, x.2 ++ ds) := by
    rw [heq]
    refine cutScheme?_append fun d hd => ?_
    rcases isMark_cases (hds d hd) with rfl | rfl <;> decide
  rw [hall]
  unfold parse readFront
  dsimp only
  rw [show (trimControls text.toList).filter (!isDropped ·) = readable text.toList from rfl, hscheme]
  cases hfront : cutScheme? (front text.toList) with
  | none => exact ⟨none, none, rfl⟩
  | some x =>
    obtain ⟨scheme, rest⟩ := x
    have hrest : ∀ c ∈ rest, isMark c = false :=
      fun c hc => not_isMark_of_mem_front ((suffix_of_cutScheme? hfront).subset hc)
    obtain ⟨hbody, hend⟩ := cut_cut hrest hds
    refine ⟨(cut (· == '?') (cut (· == '#') (rest ++ ds)).1).2.map (escape (notInQuery (isSpecial scheme))),
      (cut (· == '#') (rest ++ ds)).2.map (escape notInFragment), ?_⟩
    dsimp only [Option.map_some]
    rw [hbody, hend]
    cases readBody scheme rest ds.isEmpty <;> rfl

theorem readFront_of_parse {text : String} {u : Url} (h : parse text = .ok u) :
    readFront (front text.toList) ((readable text.toList).all (!isMark ·)) = .ok (u.scheme, u.authority, u.path) := by
  obtain ⟨query, fragment, heq⟩ := parse_eq text
  rw [h] at heq
  cases hread : readFront (front text.toList) ((readable text.toList).all (!isMark ·)) with
  | error f =>
    rw [hread] at heq
    cases heq
  | ok x =>
    rw [hread] at heq
    rw [Except.ok.inj heq]

/-- Texts with one front, and with or without a mark behind it, write the same path. -/
theorem exists_of_parse {text text' : String} {u : Url} (h : parse text = .ok u)
    (hfront : front text.toList = front text'.toList)
    (hend : (readable text.toList).all (!isMark ·) = (readable text'.toList).all (!isMark ·)) :
    ∃ v, parse text' = .ok v ∧ v.path = u.path := by
  have hread := readFront_of_parse h
  rw [hfront, hend] at hread
  obtain ⟨query, fragment, heq⟩ := parse_eq text'
  rw [hread] at heq
  exact ⟨_, heq, rfl⟩

/-! ## Marks in a text -/

theorem trimControls_append_cons (hc : ¬c ≤ ' ') (cs ds : List Char) :
    trimControls (cs ++ c :: ds) = cs.dropWhile (· ≤ ' ') ++ c :: (ds.reverse.dropWhile (· ≤ ' ')).reverse := by
  have hhead : ∀ xs : List Char, ∀ d ∈ (c :: xs).head?, decide (d ≤ ' ') = false := by
    rintro xs d hd
    obtain rfl := Option.some.inj hd
    exact decide_eq_false hc
  unfold trimControls
  rw [dropWhile_append_of_head (hhead ds), List.reverse_append, List.reverse_cons, List.append_assoc,
    List.singleton_append, dropWhile_append_of_head (hhead _)]
  simp

/-- The front of a text depends on what stands before its first mark, which it has. -/
theorem front_append_cons (hcs : ∀ d ∈ cs, isMark d = false) (hc : isMark c = true) (ds : List Char) :
    front (cs ++ c :: ds) = kept (cs.dropWhile (· ≤ ' ')) ∧
    (readable (cs ++ c :: ds)).all (!isMark ·) = false := by
  have hmark : ¬c ≤ ' ' ∧ isDropped c = false := by
    rcases isMark_cases hc with rfl | rfl <;> decide
  have hfront : ∀ d ∈ kept (cs.dropWhile (· ≤ ' ')), (!isMark d) = true := by
    intro d hd
    rw [hcs d ((List.dropWhile_sublist _).subset (List.mem_of_mem_filter hd))]
    rfl
  have hreadable : readable (cs ++ c :: ds) =
      kept (cs.dropWhile (· ≤ ' ')) ++ c :: kept (ds.reverse.dropWhile (· ≤ ' ')).reverse := by
    rw [readable, trimControls_append_cons hmark.1, kept, List.filter_append,
      List.filter_cons_of_pos (by simp [hmark.2])]
    rfl
  rw [front, hreadable]
  constructor
  · rw [List.takeWhile_append_of_pos hfront, List.takeWhile_cons_of_neg (by simp [hc]), List.append_nil]
  · simp [hc]

theorem mem_of_mem_readable (h : c ∈ readable cs) : c ∈ cs := by
  have htrimmed : c ∈ trimControls cs := List.mem_of_mem_filter h
  unfold trimControls at htrimmed
  have hback := (List.dropWhile_sublist _).subset (List.mem_reverse.1 htrimmed)
  exact (List.dropWhile_sublist _).subset (List.mem_reverse.1 hback)

/-- A text without marks is read to its end. -/
theorem front_of_not_isMark (hcs : ∀ d ∈ cs, isMark d = false) :
    front cs = readable cs ∧ (readable cs).all (!isMark ·) = true := by
  have hreadable : ∀ d ∈ readable cs, (!isMark d) = true := by
    intro d hd
    rw [hcs d (mem_of_mem_readable hd)]
    rfl
  exact ⟨List.takeWhile_eq_self_iff.2 hreadable, List.all_eq_true.2 hreadable⟩

end AckDesk.Url
