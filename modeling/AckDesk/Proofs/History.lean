import Mathlib.Data.List.Basic

/-!
# Points of a history

A history is a list of what happened, the latest at the end. What is said of some point of a history is proved by adding
one event to it: a point of the longer history is the new event, or a point of before (`append_cons_eq_concat_iff`).
`Since P Q` says that `P` held at some point and `Q` at all points after it (`since_concat`).
-/

namespace AckDesk

variable {α : Type} {before after xs : List α} {x y : α}

/-- A point of a history with one more event is that event, or a point of the history. -/
theorem append_cons_eq_concat_iff : before ++ y :: after = xs ++ [x] ↔
    (before = xs ∧ y = x ∧ after = []) ∨ ∃ rest, after = rest ++ [x] ∧ before ++ y :: rest = xs := by
  constructor
  · intro h
    rcases List.eq_nil_or_concat after with rfl | ⟨rest, z, rfl⟩
    · obtain ⟨hxs, hx⟩ := List.append_inj' h rfl
      exact .inl ⟨hxs, List.singleton_inj.1 hx, rfl⟩
    · rw [List.concat_eq_append, ← List.cons_append, ← List.append_assoc] at h
      obtain ⟨hxs, hx⟩ := List.append_inj' h rfl
      exact .inr ⟨rest, by rw [List.concat_eq_append, hx], hxs⟩
  · rintro (⟨rfl, rfl, rfl⟩ | ⟨rest, rfl, rfl⟩)
    · rfl
    · rw [List.append_assoc, List.cons_append]

/-- At one event of the run the first relation held, of the events before it and the event, and at all events since
then the second. -/
def Since (P Q : List α → α → Prop) (es : List α) : Prop :=
  ∃ before e after, es = before ++ e :: after ∧ P before e ∧
    ∀ front x rest, after = front ++ x :: rest → Q (before ++ e :: front) x

variable {P Q : List α → α → Prop} {es : List α}

theorem not_since_nil : ¬Since P Q [] := by
  rintro ⟨before, e, after, h, -⟩
  cases before <;> cases h

/-- It was the last event, or some event before it and the second relation holds of the last. -/
theorem since_concat : Since P Q (es ++ [x]) ↔ P es x ∨ (Since P Q es ∧ Q es x) := by
  constructor
  · rintro ⟨before, e, after, h, hP, hQ⟩
    rcases append_cons_eq_concat_iff.1 h.symm with ⟨rfl, rfl, rfl⟩ | ⟨after, rfl, rfl⟩
    · exact .inl hP
    · refine .inr ⟨⟨before, e, after, rfl, hP, ?_⟩, hQ after _ [] rfl⟩
      rintro front z rest rfl
      exact hQ front z (rest ++ [x]) (by simp)
  · rintro (hP | ⟨⟨before, e, after, rfl, hP, hQ⟩, hx⟩)
    · refine ⟨es, x, [], rfl, hP, ?_⟩
      intro front y rest h
      cases front <;> cases h
    · refine ⟨before, e, after ++ [x], by simp, hP, ?_⟩
      intro front y rest h
      rcases append_cons_eq_concat_iff.1 h.symm with ⟨rfl, rfl, -⟩ | ⟨rest, -, hafter⟩
      · exact hx
      · exact hQ front y rest hafter.symm

end AckDesk
