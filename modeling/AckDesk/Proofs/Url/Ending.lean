import AckDesk.Proofs.Url.Front
import Mathlib.Tactic.MkIffOfInductiveProp

/-!
# Texts that end in segments

Segments are put at the end of a text, each behind a slash. Where a path is read from the text, plain segments end it,
whatever stands in front of them (`suffix_ofText`). What is read from the text depends on its scheme, and on what is
between that and the segments (`endsIn_readBody_iff`): behind nothing but slashes the first of them is taken for a host,
and behind the scheme of a mail, say, a text without a slash in front has no segments at all.
-/

namespace AckDesk.Url

/-! ## Plain segments -/

/-- A segment that is written as it is, wherever it stands, and stands for no folder and no drive. -/
@[mk_iff]
structure IsPlain (s : List Char) : Prop where
  ne_nil : s ≠ []
  escaped : escape notInPath s = s
  no_slash : s.any (isSlash true) = false
  not_dot : Segments.isDot s = false
  not_dots : Segments.isDoubleDot s = false
  not_drive : Segments.isDrive s = false

instance (s : List Char) : Decidable (IsPlain s) := decidable_of_iff' _ (isPlain_iff s)

/-- Plain segments, and not none. -/
structure IsTrail (as : Segments) : Prop where
  ne_nil : as ≠ []
  plain : ∀ a ∈ as, IsPlain a

theorem IsTrail.cons {a : List Char} {as : Segments} (has : IsTrail as) (ha : IsPlain a) : IsTrail (a :: as) :=
  ⟨List.cons_ne_nil a as, List.forall_mem_cons.2 ⟨ha, has.plain⟩⟩

namespace Segments

variable {isFile special : Bool} {as ss ps : Segments}

/-- A plain segment is added as it is. -/
theorem add_of_isPlain {s : List Char} (h : IsPlain s) (isLast : Bool) : add isFile ss s isLast = ss ++ [s] := by
  simp [add, h.not_dot, h.not_dots, h.not_drive]

theorem addAll_cons {s : List Char} {ts : List (List Char)} (h : ts ≠ []) :
    addAll isFile ss (s :: ts) = addAll isFile (ss.add isFile s false) ts := by
  cases ts with
  | nil => exact absurd rfl h
  | cons t ts => rfl

/-- Plain segments are put behind those that are there. -/
theorem addAll_of_isPlain (has : ∀ a ∈ as, IsPlain a) : addAll isFile ss as = ss ++ as := by
  induction as generalizing ss with
  | nil => exact (List.append_nil ss).symm
  | cons a as ih =>
    obtain ⟨ha, has⟩ := List.forall_mem_cons.1 has
    by_cases hnil : as = []
    · subst hnil
      exact add_of_isPlain ha true
    · rw [addAll_cons hnil, add_of_isPlain ha, ih has, List.append_assoc, List.singleton_append]

/-- Plain segments come last, whatever is in front of them. -/
theorem addAll_append (has : IsTrail as) : as <:+ addAll isFile ss (ps ++ as) := by
  induction ps generalizing ss with
  | nil => exact ⟨ss, (addAll_of_isPlain has.plain).symm⟩
  | cons p ps ih =>
    rw [List.cons_append, addAll_cons (List.append_ne_nil_of_right_ne_nil ps has.ne_nil)]
    exact ih

/-- A trail at the end of segments stays there when empty ones are dropped from the front. -/
theorem suffix_dropEmptyFront (has : IsTrail as) (h : as <:+ ss) :
    as <:+ ss.dropEmptyFront := by
  induction ss with
  | nil => exact absurd (List.suffix_nil.1 h) has.ne_nil
  | cons s ss ih =>
    unfold dropEmptyFront
    split
    · rename_i t ts heq
      obtain ⟨rfl, rfl⟩ := List.cons.inj heq
      rcases List.suffix_cons_iff.1 h with rfl | h
      · exact absurd rfl (has.plain [] List.mem_cons_self).ne_nil
      · exact ih h
    · exact h

theorem dropEmptyFront_of_isPlain (has : ∀ a ∈ as, IsPlain a) : as.dropEmptyFront = as := by
  unfold dropEmptyFront
  split
  · exact absurd rfl (has [] List.mem_cons_self).ne_nil
  · rfl

end Segments

/-! ## Paths that end in segments -/

section

variable {special isFile : Bool} {as : Segments} {xs cs : List Char}

theorem IsPlain.not_isSlash {s : List Char} (h : IsPlain s) : ∀ c ∈ s, isSlash special c = false := by
  intro c hc
  have hboth : isSlash true c = false := by simpa using List.any_eq_false.1 h.no_slash c hc
  cases special with
  | true => exact hboth
  | false => simpa [isSlash] using (Bool.or_eq_false_iff.1 hboth).1

/-- The parts of the text between its slashes end in the segments. -/
def PartsEndIn (special : Bool) (as : Segments) (cs : List Char) : Prop :=
  ∃ ps, Text.pieces (isSlash special) cs = ps ++ as

/-- The pieces of a text that ends in a path are the path's segments, behind those of the front. -/
theorem pieces_append_text (has : ∀ a ∈ as, IsPlain a) :
    Text.pieces (isSlash special) (xs ++ as.text) = Text.pieces (isSlash special) xs ++ as := by
  induction as generalizing xs with
  | nil => rw [Segments.text, List.flatMap_nil, List.append_nil, List.append_nil]
  | cons a as ih =>
    obtain ⟨ha, has⟩ := List.forall_mem_cons.1 has
    have htext : Segments.text (a :: as) = '/' :: (a ++ Segments.text as) := rfl
    rw [htext, Text.pieces_append_cons (by simp [isSlash]), ih has, Text.pieces_of_not_mark ha.not_isSlash]
    rfl

theorem partsEndIn_append_text (xs : List Char) (has : IsTrail as) : PartsEndIn special as (xs ++ as.text) :=
  ⟨_, pieces_append_text has.plain⟩

/-- Without its first slash, the text of the segments still ends in them. -/
theorem pieces_drop_text (has : IsTrail as) : Text.pieces (isSlash special) (as.text.drop 1) = as := by
  cases as with
  | nil => exact absurd rfl has.ne_nil
  | cons a as =>
    obtain ⟨ha, has⟩ := List.forall_mem_cons.1 has.plain
    have hdrop : (Segments.text (a :: as)).drop 1 = a ++ Segments.text as := rfl
    rw [hdrop, pieces_append_text has, Text.pieces_of_not_mark ha.not_isSlash, List.singleton_append]

theorem partsEndIn_drop (xs : List Char) (has : IsTrail as) :
    PartsEndIn special as ((xs ++ as.text).drop 1) := by
  cases xs with
  | nil => exact ⟨[], pieces_drop_text has⟩
  | cons x xs => exact partsEndIn_append_text xs has

theorem map_escape_of_isPlain (has : ∀ a ∈ as, IsPlain a) : as.map (escape notInPath) = as := by
  rw [List.map_congr_left fun a ha => (has a ha).escaped, List.map_id']

theorem ofText_eq_addAll : Segments.ofText special isFile cs =
    let ss := Segments.addAll isFile [] ((Text.pieces (isSlash special) cs).map (escape notInPath))
    if isFile then ss.dropEmptyFront else ss := rfl

/-- A path ends in the plain segments in which its text ends. -/
theorem suffix_ofText (has : IsTrail as) (h : PartsEndIn special as cs) :
    as <:+ Segments.ofText special isFile cs := by
  obtain ⟨ps, hps⟩ := h
  have hadded : as <:+ Segments.addAll isFile [] ((Text.pieces (isSlash special) cs).map (escape notInPath)) := by
    rw [hps, List.map_append, map_escape_of_isPlain has.plain]
    exact Segments.addAll_append has
  rw [ofText_eq_addAll]
  dsimp only
  split
  · exact Segments.suffix_dropEmptyFront has hadded
  · exact hadded

/-- A text of plain segments alone is the path of these segments. -/
theorem ofText_eq (has : ∀ a ∈ as, IsPlain a) (h : Text.pieces (isSlash special) cs = as) :
    Segments.ofText special isFile cs = as := by
  rw [ofText_eq_addAll, h, map_escape_of_isPlain has, Segments.addAll_of_isPlain has, List.nil_append]
  dsimp only
  rw [Segments.dropEmptyFront_of_isPlain has, ite_self]

/-- The slash in front of the first segment of a file makes no segment. -/
theorem ofText_text (has : IsTrail as) : Segments.ofText special true as.text = as := by
  have hpieces : Text.pieces (isSlash special) ([] ++ as.text) = [[]] ++ as := pieces_append_text has.plain
  have hadd : Segments.addAll true [] ([] :: as) = [] :: as := by
    rw [Segments.addAll_cons has.ne_nil, Segments.addAll_of_isPlain has.plain]
    rfl
  rw [List.nil_append, List.singleton_append] at hpieces
  rw [ofText_eq_addAll, hpieces, List.map_cons, map_escape_of_isPlain has.plain]
  show (Segments.addAll true [] ([] :: as)).dropEmptyFront = as
  rw [hadd]
  cases as with
  | nil => exact absurd rfl has.ne_nil
  | cons a as => exact Segments.dropEmptyFront_of_isPlain has.plain

end

/-! ## Texts of segments -/

theorem eq_of_mem_head?_text {as : Segments} {c : Char} (h : c ∈ as.text.head?) : c = '/' := by
  cases as with
  | nil => cases h
  | cons a as => exact (Option.some.inj h).symm

theorem text_ne_nil {as : Segments} (h : as ≠ []) : as.text ≠ [] := by
  cases as with
  | nil => contradiction
  | cons a as => exact List.cons_ne_nil _ _

theorem dropWhile_append_text {special : Bool} {xs : List Char} (as : Segments) :
    (xs ++ as.text).dropWhile (!isSlash special ·) = xs.dropWhile (!isSlash special ·) ++ as.text :=
  dropWhile_append_of_head fun c hc => by simp [isSlash, eq_of_mem_head?_text hc]

theorem takeWhile_append_text {special : Bool} {xs : List Char} (as : Segments) :
    (xs ++ as.text).takeWhile (!isSlash special ·) = xs.takeWhile (!isSlash special ·) :=
  takeWhile_append_of_head fun c hc => by simp [isSlash, eq_of_mem_head?_text hc]

/-! ## Reading a text that ends in segments -/

/-- The path ends in the segments. -/
def Path.EndsIn (p : Path) (as : Segments) : Prop :=
  match p with
  | .segments ss => as <:+ ss
  | .plain _ => False

instance (p : Path) (as : Segments) : Decidable (p.EndsIn as) :=
  match p with
  | .segments ss => inferInstanceAs (Decidable (as <:+ ss))
  | .plain _ => inferInstanceAs (Decidable False)

/-- A segment that is read as the name of a host. -/
@[mk_iff]
structure IsName (a : List Char) : Prop where
  whole : cutUserinfo a = (none, a)
  noPort : cutPort false a = (a, none)

instance (a : List Char) : Decidable (IsName a) := decidable_of_iff' _ (isName_iff a)

section

variable {isEnd : Bool} {scheme a xs : List Char} {as : Segments} {p : Path}

/-- A path behind an authority ends in the segments in which the text ends. -/
theorem endsIn_of_readHierarchy {au : Authority} (has : IsTrail as)
    (h : readHierarchy scheme (xs ++ as.text) isEnd = .ok (au, p)) : p.EndsIn as := by
  unfold readHierarchy at h
  simp only [dropWhile_append_text as] at h
  obtain ⟨⟨b, more⟩, -, h⟩ := exists_of_bind_eq_ok h
  simp only [← List.append_assoc, List.append_eq_nil_iff, text_ne_nil has.ne_nil, and_false, false_and, if_false] at h
  obtain ⟨-, rfl⟩ := Prod.mk.inj (Except.ok.inj h)
  exact suffix_ofText has (partsEndIn_drop _ has)

/-- Nothing is left behind a name that is read as an authority. -/
theorem eq_nil_of_readAuthority {au : Authority} {more : List Char} (ha : IsName a) (hne : a ≠ [])
    (h : readAuthority scheme a isEnd = .ok (au, more)) : more = [] := by
  unfold readAuthority at h
  rw [ha.whole] at h
  dsimp -zeta only at h
  rw [ha.noPort] at h
  simp only [reduceCtorEq, hne, false_and, and_false, if_false] at h
  split at h
  all_goals
    obtain ⟨host, -, h⟩ := exists_of_bind_eq_ok h
    obtain ⟨⟨port, rest⟩, hport, h⟩ := exists_of_bind_eq_ok h
    obtain ⟨-, rfl⟩ := Prod.mk.inj (Except.ok.inj hport)
    exact (Prod.mk.inj (Except.ok.inj h)).2.symm

theorem takeWhile_of_isPlain {special : Bool} (ha : IsPlain a) : a.takeWhile (!isSlash special ·) = a :=
  List.takeWhile_eq_self_iff.2 fun c hc => by simp [ha.not_isSlash c hc]

theorem dropWhile_of_isPlain {special : Bool} (ha : IsPlain a) : a.dropWhile (!isSlash special ·) = [] :=
  List.dropWhile_eq_nil_iff.2 fun c hc => by simp [ha.not_isSlash c hc]

/-- Where nothing is in front of the first segment, it is the host. -/
theorem eq_of_readHierarchy {au : Authority} (ha : IsPlain a) (hname : IsName a) (has : IsTrail as)
    (h : readHierarchy scheme (a ++ as.text) isEnd = .ok (au, p)) : p = .segments as := by
  unfold readHierarchy at h
  simp only [dropWhile_append_text as, takeWhile_append_text as, takeWhile_of_isPlain ha, dropWhile_of_isPlain ha,
    List.nil_append] at h
  obtain ⟨⟨b, more⟩, hread, h⟩ := exists_of_bind_eq_ok h
  obtain rfl := eq_nil_of_readAuthority hname ha.ne_nil hread
  simp only [if_true, List.nil_append, text_ne_nil has.ne_nil, false_and, if_false] at h
  obtain ⟨-, rfl⟩ := Prod.mk.inj (Except.ok.inj h)
  rw [ofText_eq has.plain (pieces_drop_text has)]

/-- The path of a file behind two slashes ends in the segments in which the text ends. -/
theorem endsIn_of_readFile_slashes {au : Authority} {x y : Char} (hx : isSlash true x = true)
    (hy : isSlash true y = true) (has : IsTrail as)
    (h : readFile (x :: y :: (xs ++ as.text)) = .ok (au, p)) : p.EndsIn as := by
  unfold readFile at h
  simp only [hx, hy, Bool.and_self, if_true, dropWhile_append_text as] at h
  split at h
  · obtain ⟨-, rfl⟩ := Prod.mk.inj (Except.ok.inj h)
    exact suffix_ofText has (partsEndIn_append_text _ has)
  · split at h
    · obtain ⟨-, rfl⟩ := Prod.mk.inj (Except.ok.inj h)
      exact suffix_ofText has (partsEndIn_append_text _ has)
    · obtain ⟨host, -, h⟩ := exists_of_bind_eq_ok h
      split at h
      · obtain ⟨-, rfl⟩ := Prod.mk.inj (Except.ok.inj h)
        exact suffix_ofText has (partsEndIn_append_text _ has)
      · obtain ⟨-, rfl⟩ := Prod.mk.inj (Except.ok.inj h)
        exact suffix_ofText has (partsEndIn_drop _ has)

/-- So does the path of a file without these, which the whole text is, or all of it but the first slash. -/
theorem endsIn_of_readFile_path {au : Authority} {x y : Char} {zs : List Char} (hcs : xs ++ as.text = x :: y :: zs)
    (hslash : (isSlash true x && isSlash true y) = false) (has : IsTrail as)
    (h : readFile (xs ++ as.text) = .ok (au, p)) : p.EndsIn as := by
  have hdrop : (xs ++ as.text).drop 1 = y :: zs := by rw [hcs, List.drop_one, List.tail_cons]
  unfold readFile at h
  rw [hcs] at h
  simp only [hslash, Bool.false_eq_true, if_false] at h
  split at h
  · obtain ⟨-, rfl⟩ := Prod.mk.inj (Except.ok.inj h)
    exact suffix_ofText has (hdrop ▸ partsEndIn_drop xs has)
  · obtain ⟨-, rfl⟩ := Prod.mk.inj (Except.ok.inj h)
    exact suffix_ofText has (hcs ▸ partsEndIn_append_text xs has)

/-- The path of a file ends in the segments in which the text ends, unless a single slash is in front of them. -/
theorem endsIn_of_readFile {au : Authority} (ha : IsPlain a) (has : IsTrail as)
    (hxs : ∀ x, xs = [x] → isSlash true x = false) (h : readFile (xs ++ Segments.text (a :: as)) = .ok (au, p)) :
    p.EndsIn (a :: as) := by
  have hall : IsTrail (a :: as) := has.cons ha
  match xs with
  | [] =>
    obtain ⟨c, cs, rfl⟩ := List.exists_cons_of_ne_nil ha.ne_nil
    have hc : isSlash true c = false := ha.not_isSlash c List.mem_cons_self
    exact endsIn_of_readFile_path (x := '/') (y := c) rfl (by rw [hc, Bool.and_false]) hall h
  | [x] =>
    have hx : isSlash true x = false := hxs x rfl
    exact endsIn_of_readFile_path (x := x) (y := '/') rfl (by rw [hx, Bool.false_and]) hall h
  | x :: y :: xs =>
    cases hslash : isSlash true x && isSlash true y with
    | true =>
      obtain ⟨hx, hy⟩ := Bool.and_eq_true_iff.1 hslash
      exact endsIn_of_readFile_slashes hx hy hall h
    | false => exact endsIn_of_readFile_path (x := x) (y := y) rfl hslash hall h

/-- Behind a single slash the first segment is the host of the file. -/
theorem eq_of_readFile {au : Authority} {x : Char} (hx : isSlash true x = true) (ha : IsPlain a) (has : IsTrail as)
    (h : readFile (x :: Segments.text (a :: as)) = .ok (au, p)) : p = .segments as := by
  have hcs : x :: Segments.text (a :: as) = x :: '/' :: (a ++ as.text) := rfl
  have hslash : isSlash true '/' = true := rfl
  rw [hcs] at h
  unfold readFile at h
  simp only [hx, hslash, Bool.and_self, if_true, dropWhile_append_text as, takeWhile_append_text as,
    takeWhile_of_isPlain ha, dropWhile_of_isPlain ha, List.nil_append, ha.not_drive, Bool.false_eq_true, if_false,
    ha.ne_nil] at h
  obtain ⟨host, -, h⟩ := exists_of_bind_eq_ok h
  -- behind the machine itself the path keeps its first slash
  split at h
  · obtain ⟨-, rfl⟩ := Prod.mk.inj (Except.ok.inj h)
    rw [ofText_text has]
  · obtain ⟨-, rfl⟩ := Prod.mk.inj (Except.ok.inj h)
    rw [ofText_eq has.plain (pieces_drop_text has)]

/-- Between a scheme and segments there is what leaves them segments: a host behind the slashes of an authority, or a
path with a slash in front. A single slash makes an authority together with that of the first segment. -/
def hasRoom (scheme cs : List Char) : Bool :=
  if scheme = fileScheme then cs.length ≠ 1 || cs.any (!isSlash true ·)
  else if isSpecial scheme then cs.any (!isSlash true ·)
  else
    match cs with
    | [] => true
    | ['/'] => false
    | c :: _ => c == '/'

/-- Segments do not end in more than themselves. -/
theorem not_endsIn_tail : ¬Path.EndsIn (.segments as) (a :: as) := by
  intro h
  have hlen : (a :: as).length ≤ as.length := List.IsSuffix.length_le h
  rw [List.length_cons] at hlen
  omega

section

variable {cs : List Char} {c : Char} (hfile : scheme ≠ fileScheme) (hspecial : isSpecial scheme = false)

include hfile hspecial

/-- Behind the colon of a scheme that is not a usual one, two slashes start an authority. -/
theorem exists_readHierarchy {au : Option Authority} (h : readBody scheme ('/' :: '/' :: cs) isEnd = .ok (au, p)) :
    ∃ b, readHierarchy scheme cs isEnd = .ok (b, p) := by
  unfold readBody at h
  rw [if_neg hfile, if_neg (by simp [hspecial])] at h
  obtain ⟨⟨b, q⟩, hread, hq⟩ := exists_of_bind_eq_ok h
  obtain ⟨-, rfl⟩ := Prod.mk.inj (Except.ok.inj hq)
  exact ⟨b, hread⟩

/-- One slash starts a path. -/
theorem readBody_of_slash (hc : c ≠ '/') :
    readBody scheme ('/' :: c :: cs) isEnd = .ok (none, .segments (Segments.ofText false false (c :: cs))) := by
  unfold readBody
  rw [if_neg hfile, if_neg (by simp [hspecial])]
  split
  · rename_i heq
    exact absurd (List.cons.inj (List.cons.inj heq).2).1 hc
  · rename_i heq
    rw [(List.cons.inj heq).2]
  · rename_i hnone
    exact absurd rfl (hnone _)

/-- Any other text is a path that has no segments. -/
theorem readBody_of_not_slash (hc : c ≠ '/') :
    readBody scheme (c :: cs) isEnd = .ok (none, .plain (escape notPlain (c :: cs))) := by
  unfold readBody
  rw [if_neg hfile, if_neg (by simp [hspecial])]
  split
  · rename_i heq
    exact absurd (List.cons.inj heq).1 hc
  · rename_i heq
    exact absurd (List.cons.inj heq).1 hc
  · rfl

end

section

variable (ha : IsPlain a) (hname : IsName a) (has : IsTrail as)

include ha has

/-- A file's path ends in the segments, unless one slash alone stands in front of them: then the first one is the
host. -/
theorem endsIn_readFile_iff {au : Authority} (h : readFile (xs ++ Segments.text (a :: as)) = .ok (au, p)) :
    p.EndsIn (a :: as) ↔ (xs.length ≠ 1 || xs.any (!isSlash true ·)) = true := by
  by_cases hx : ∃ x, xs = [x] ∧ isSlash true x = true
  · obtain ⟨x, rfl, hx⟩ := hx
    obtain rfl := eq_of_readFile hx ha has h
    exact iff_of_false not_endsIn_tail (by simp [hx])
  · have hxs : ∀ x, xs = [x] → isSlash true x = false := fun x h => by simpa using not_and.1 (not_exists.1 hx x) h
    refine iff_of_true (endsIn_of_readFile ha has hxs h) ?_
    match xs with
    | [] => rfl
    | [x] => simp [hxs x rfl]
    | x :: y :: xs => simp

include hname

/-- Behind slashes alone the first segment is the host. -/
theorem endsIn_readHierarchy_iff {au : Authority}
    (h : readHierarchy scheme ((xs ++ Segments.text (a :: as)).dropWhile (isSlash true)) isEnd = .ok (au, p)) :
    p.EndsIn (a :: as) ↔ xs.any (!isSlash true ·) = true := by
  rw [List.dropWhile_append] at h
  by_cases hxs : xs.dropWhile (isSlash true) = []
  · have hdrop : (Segments.text (a :: as)).dropWhile (isSlash true) = a ++ as.text := by
      obtain ⟨c, cs, rfl⟩ := List.exists_cons_of_ne_nil ha.ne_nil
      have hc : isSlash true c = false := ha.not_isSlash c List.mem_cons_self
      show (c :: (cs ++ as.text)).dropWhile (isSlash true) = _
      exact List.dropWhile_cons_of_neg (by simp [hc])
    rw [if_pos (by simp [hxs]), hdrop] at h
    obtain rfl := eq_of_readHierarchy ha hname has h
    exact iff_of_false not_endsIn_tail (by simpa using List.dropWhile_eq_nil_iff.1 hxs)
  · rw [if_neg (by simpa using hxs)] at h
    refine iff_of_true (endsIn_of_readHierarchy (has.cons ha) h) ?_
    simpa using mt List.dropWhile_eq_nil_iff.2 hxs

/-- Under a scheme that is not a usual one it matters how many slashes there are at the start of the text, that of the
first segment included. -/
theorem endsIn_readBody_iff_of_not_special {au : Option Authority} (hfile : scheme ≠ fileScheme)
    (hspecial : isSpecial scheme = false)
    (h : readBody scheme (xs ++ Segments.text (a :: as)) isEnd = .ok (au, p)) :
    p.EndsIn (a :: as) ↔ hasRoom scheme xs = true := by
  have hall : IsTrail (a :: as) := has.cons ha
  unfold hasRoom
  rw [if_neg hfile, if_neg (by simp [hspecial])]
  match xs with
  | [] =>
    obtain ⟨c, cs, rfl⟩ := List.exists_cons_of_ne_nil ha.ne_nil
    have hc : c ≠ '/' := by
      rintro rfl
      have hslash : isSlash true '/' = false := ha.not_isSlash '/' List.mem_cons_self
      cases hslash
    have hread : readBody scheme ('/' :: c :: (cs ++ as.text)) isEnd = .ok (au, p) := h
    rw [readBody_of_slash hfile hspecial hc] at hread
    obtain ⟨-, rfl⟩ := Prod.mk.inj (Except.ok.inj hread)
    exact iff_of_true (suffix_ofText hall (partsEndIn_drop [] hall)) rfl
  | x :: xs =>
    by_cases hx : x = '/'
    · subst hx
      match xs with
      | [] =>
        obtain ⟨b, hread⟩ := exists_readHierarchy hfile hspecial h
        obtain rfl := eq_of_readHierarchy ha hname has hread
        exact iff_of_false not_endsIn_tail (by decide)
      | y :: xs =>
        refine iff_of_true ?_ rfl
        by_cases hy : y = '/'
        · subst hy
          obtain ⟨b, hread⟩ := exists_readHierarchy hfile hspecial h
          exact endsIn_of_readHierarchy hall hread
        · have hread := (readBody_of_slash hfile hspecial hy).symm.trans h
          obtain ⟨-, rfl⟩ := Prod.mk.inj (Except.ok.inj hread)
          exact suffix_ofText hall (partsEndIn_append_text (y :: xs) hall)
    · have hread := (readBody_of_not_slash hfile hspecial hx).symm.trans h
      obtain ⟨-, rfl⟩ := Prod.mk.inj (Except.ok.inj hread)
      refine iff_of_false id ?_
      split
      · contradiction
      · rename_i heq
        exact absurd (List.cons.inj heq).1 hx
      · rename_i heq
        rw [← (List.cons.inj heq).1]
        simpa using hx

/-- **A path ends in the segments in which the text ends** exactly if there is room for them. -/
theorem endsIn_readBody_iff {au : Option Authority}
    (h : readBody scheme (xs ++ Segments.text (a :: as)) isEnd = .ok (au, p)) :
    p.EndsIn (a :: as) ↔ hasRoom scheme xs = true := by
  by_cases hfile : scheme = fileScheme
  · unfold readBody at h
    rw [if_pos hfile] at h
    obtain ⟨⟨b, q⟩, hread, h⟩ := exists_of_bind_eq_ok h
    obtain ⟨-, rfl⟩ := Prod.mk.inj (Except.ok.inj h)
    unfold hasRoom
    rw [if_pos hfile]
    exact endsIn_readFile_iff ha has hread
  · cases hspecial : isSpecial scheme with
    | false => exact endsIn_readBody_iff_of_not_special ha hname has hfile hspecial h
    | true =>
      unfold readBody at h
      rw [if_neg hfile, if_pos hspecial] at h
      obtain ⟨⟨b, q⟩, hread, h⟩ := exists_of_bind_eq_ok h
      obtain ⟨-, rfl⟩ := Prod.mk.inj (Except.ok.inj h)
      unfold hasRoom
      rw [if_neg hfile, if_pos hspecial]
      exact endsIn_readHierarchy_iff ha hname has hread

end

end

end AckDesk.Url
