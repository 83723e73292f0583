import AckDesk.Proofs.Desk.Outcomes
import AckDesk.Proofs.History
import Mathlib.Data.List.Induction

/-!
# Desks with calls in flight

A **flight** is a desk with the calls that it asked for and that have not settled. A user's event moves it, and so
does the settlement of a call in flight, whichever it is and whatever the backend answered; what is refused, or
settles no call in flight, changes nothing. The runs of a flight are the lists of such moves, so each call settles at
most once, at any later time and in any order.

`run_induction` is the rule for what every run keeps; `met_concat` and `throughout_concat` are those for what happened at
some point of a run, and at all of them.
-/

namespace AckDesk

/-- A desk, and the calls that it asked for and that have not settled. -/
structure Flight where
  desk : Desk
  calls : List Call

/-- What moves a flight. -/
inductive Move where
  | event (e : Event)
  | settle (s : Settlement)

namespace Flight

/-- The flight of the desk over a page, before its first move. -/
def start (p : Page) (o : Options) : Flight := ⟨p.desk o, []⟩

/-- The flight after a move. -/
def step (f : Flight) : Move → Flight
  | .event e =>
    match f.desk.handle e with
    | .ok (k, c) => ⟨k, f.calls ++ c.toList⟩
    | .error _ => f
  | .settle s => if s.call ∈ f.calls then ⟨(f.desk.settle s).1, f.calls.erase s.call⟩ else f

/-- The flight after some moves. -/
def run (f : Flight) (ms : List Move) : Flight := ms.foldl step f

theorem run_append (f : Flight) (ms ns : List Move) : f.run (ms ++ ns) = (f.run ms).run ns := List.foldl_append

theorem run_concat (f : Flight) (ms : List Move) (m : Move) : f.run (ms ++ [m]) = (f.run ms).step m := run_append ..

/-! ## What every run keeps -/

/-- A move changes nothing, or is an event that is not refused, or settles a call in flight. -/
theorem step_cases (f : Flight) (m : Move) : (f.step m = f ∧ ∀ s, m = .settle s → s.call ∉ f.calls) ∨
    (∃ e k c, m = .event e ∧ f.desk.handle e = .ok (k, c) ∧ f.step m = ⟨k, f.calls ++ c.toList⟩) ∨
    ∃ s, m = .settle s ∧ s.call ∈ f.calls ∧ f.step m = ⟨(f.desk.settle s).1, f.calls.erase s.call⟩ := by
  cases m with
  | event e =>
    cases h : f.desk.handle e with
    | error _ => exact .inl ⟨by simp [step, h], fun s hs => by cases hs⟩
    | ok p => exact .inr (.inl ⟨e, p.1, p.2, rfl, h, by simp [step, h]⟩)
  | settle s =>
    by_cases h : s.call ∈ f.calls
    · exact .inr (.inr ⟨s, rfl, h, by simp [step, h]⟩)
    · exact .inl ⟨by simp [step, h], fun t ht => by cases ht; exact h⟩

/-- What holds at first, and is kept by every event that is not refused and by every settlement of a call in flight,
holds after every run. -/
theorem run_induction {P : Flight → Prop} {f : Flight} (first : P f)
    (event : ∀ {g : Flight} {e k c}, P g → g.desk.Handled e k c → P ⟨k, g.calls ++ c.toList⟩)
    (settle : ∀ {g : Flight} {s}, P g → s.call ∈ g.calls → P ⟨(g.desk.settle s).1, g.calls.erase s.call⟩)
    (ms : List Move) : P (f.run ms) := by
  induction ms using List.reverseRecOn with
  | nil => exact first
  | append_singleton ms m ih =>
    rw [run_concat]
    rcases step_cases (f.run ms) m with ⟨h, -⟩ | ⟨e, k, c, -, hh, h⟩ | ⟨s, -, hs, h⟩
    · rw [h]; exact ih
    · rw [h]; exact event ih (Desk.handled_of_handle hh)
    · rw [h]; exact settle ih hs

/-! ## What happened in a run -/

/-- At some point of the run, the relation held of the flight and its next move. -/
def Met (f : Flight) (ms : List Move) (P : Flight → Move → Prop) : Prop :=
  ∃ before m after, ms = before ++ m :: after ∧ P (f.run before) m

theorem not_met_nil (f : Flight) (P : Flight → Move → Prop) : ¬f.Met [] P := by
  rintro ⟨before, m, after, h, -⟩
  cases before <;> cases h

/-- A run meets what its first move meets, and what the rest meets. -/
theorem met_cons {f : Flight} {m : Move} {ms : List Move} {P : Flight → Move → Prop} :
    f.Met (m :: ms) P ↔ P f m ∨ (f.step m).Met ms P := by
  constructor
  · rintro ⟨before, n, after, h, hP⟩
    cases before with
    | nil => cases h; exact .inl hP
    | cons b before => cases h; exact .inr ⟨before, n, after, rfl, hP⟩
  · rintro (hP | ⟨before, n, after, rfl, hP⟩)
    · exact ⟨[], m, ms, rfl, hP⟩
    · exact ⟨m :: before, n, after, rfl, hP⟩

/-- A run met what it had met before its last move, and what the last move meets. -/
theorem met_concat {f : Flight} {ms : List Move} {m : Move} {P : Flight → Move → Prop} :
    f.Met (ms ++ [m]) P ↔ f.Met ms P ∨ P (f.run ms) m := by
  constructor
  · rintro ⟨before, n, after, h, hP⟩
    rcases append_cons_eq_concat_iff.1 h.symm with ⟨rfl, rfl, -⟩ | ⟨after, -, rfl⟩
    · exact .inr hP
    · exact .inl ⟨before, n, after, rfl, hP⟩
  · rintro (⟨before, n, after, rfl, hP⟩ | hP)
    · exact ⟨before, n, after ++ [m], by simp, hP⟩
    · exact ⟨ms, m, [], rfl, hP⟩

/-- At every point of the run, the relation holds of the flight and its next move. -/
def Throughout (f : Flight) (ms : List Move) (P : Flight → Move → Prop) : Prop :=
  ∀ before m after, ms = before ++ m :: after → P (f.run before) m

theorem throughout_nil (f : Flight) (P : Flight → Move → Prop) : f.Throughout [] P := by
  intro before m after h
  cases before <;> cases h

/-- A relation holds throughout a run if it held before the last move, and of the last move. -/
theorem throughout_concat {f : Flight} {ms : List Move} {m : Move} {P : Flight → Move → Prop} :
    f.Throughout (ms ++ [m]) P ↔ f.Throughout ms P ∧ P (f.run ms) m := by
  have hmet := @met_concat f ms m fun g n => ¬P g n
  simpa only [Met, Throughout, not_or, not_exists, not_and, not_not] using not_congr hmet

end Flight

end AckDesk
