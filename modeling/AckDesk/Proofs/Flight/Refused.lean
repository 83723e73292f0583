import AckDesk.Proofs.Desk.InPlace
import AckDesk.Proofs.Flight.Sound

/-!
# Why events are refused

There are five reasons to refuse an event, and `HasReason` says when there is one of them. They are ranked: a desk that
may only be read comes first, then the editor that is not open, the entry that is not there, the entry that is busy, and
the test name that is missing (`Refusal.rank`).

An event is refused exactly if there is a reason, and for the first one (`handle_eq_error`). A refused event leaves
everything as it was, also where it is handled step by step (`refuses_run`).
-/

namespace AckDesk

/-- The event is for the open editor. -/
@[simp] def Event.isForEditor : Event → Bool
  | .chipBox .. | .chipRemoveClicked .. | .noteChanged _ | .saveClicked => true
  | _ => false

/-- The event is for an entry that must be at rest. -/
@[simp] def Event.needsRest : Event → Bool
  | .deleteClicked _ | .saveClicked => true
  | _ => false

/-- The place of a reason in the order in which reasons count. -/
@[simp] def Refusal.rank : Refusal → Nat
  | .readOnly _ => 0
  | .noOpenEditor => 1
  | .unknownEntry _ => 2
  | .entryBusy .. => 3
  | .emptyTestName => 4

namespace Desk

variable {k : Desk} {e : Event} {i : EntryId} {r : Refusal}

/-- The entry that an event is for. -/
@[simp] def subject? (k : Desk) : Event → Option EntryId
  | .cardClicked i | .deleteClicked i => some i
  | .saveClicked => k.modal.editor.map (·.entry)
  | _ => none

/-- There is this reason to refuse the event. -/
def HasReason (k : Desk) (e : Event) : Refusal → Prop
  | .readOnly attempted =>
    k.access = .readOnly ∧ (∀ i, e ≠ .cardClicked i) ∧ e ≠ .closeClicked ∧ e ≠ .noticesDismissed ∧
      attempted = e.describe
  | .noOpenEditor => e.isForEditor = true ∧ k.modal.isOpen = false
  | .unknownEntry i => k.subject? e = some i ∧ ∀ x ∈ k.entries, x.id ≠ i
  | .entryBusy i st =>
    e.needsRest = true ∧ k.subject? e = some i ∧ st ≠ .clean ∧ ∃ x ∈ k.entries, x.id = i ∧ x.state = st
  | .emptyTestName => e = .addFromSearchClicked ∧ Text.trim k.search.query = ""

/-- It is the first reason that there is. -/
structure FirstReason (k : Desk) (e : Event) (r : Refusal) : Prop where
  reason : k.HasReason e r
  first : ∀ q, k.HasReason e q → r.rank ≤ q.rank

/-! ## Reasons of the parts of the handler -/

theorem map_eq_error {ε α β : Type} {x : Except ε α} {f : α → β} {r : ε} : x.map f = .error r ↔ x = .error r := by
  cases x <;> simp [Except.map]

theorem quietly_eq_error {x : Except Refusal Desk} : quietly x = .error r ↔ x = .error r := map_eq_error

theorem idleEntry_eq_error (hn : k.ids.Nodup) : k.idleEntry i = .error r ↔
    (r = .unknownEntry i ∧ ∀ x ∈ k.entries, x.id ≠ i) ∨
      ∃ x ∈ k.entries, x.id = i ∧ x.state ≠ .clean ∧ r = .entryBusy i x.state := by
  unfold idleEntry
  cases he : k.entry? i with
  | none =>
    have hnone := entry?_eq_none.1 he
    refine ⟨fun h => .inl ⟨(Except.error.inj h).symm, hnone⟩, ?_⟩
    rintro (⟨rfl, -⟩ | ⟨x, hx, hi, -⟩)
    · rfl
    · exact absurd hi (hnone x hx)
  | some d =>
    obtain ⟨hd, hdi⟩ := mem_of_lookup he
    by_cases hs : d.state = .clean
    · simp only [hs, if_true]
      refine ⟨fun h => (by cases h), ?_⟩
      rintro (⟨-, h⟩ | ⟨x, hx, hi, hxs, -⟩)
      · exact absurd hdi (h d hd)
      · rw [eq_of_lookup hn he hx hi] at hxs
        exact absurd hs hxs
    · simp only [hs, if_false]
      refine ⟨fun h => .inr ⟨d, hd, hdi, hs, (Except.error.inj h).symm⟩, ?_⟩
      rintro (⟨-, h⟩ | ⟨x, hx, hi, -, rfl⟩)
      · exact absurd hdi (h d hd)
      · rw [eq_of_lookup hn he hx hi]

theorem edit_eq_error {f : Editor → Editor} : k.edit f = .error r ↔ r = .noOpenEditor ∧ k.modal.isOpen = false := by
  unfold edit
  cases k.modal.isOpen <;> simp [eq_comm]

theorem openEntry_eq_error : k.openEntry i = .error r ↔ r = .unknownEntry i ∧ ∀ x ∈ k.entries, x.id ≠ i := by
  unfold openEntry
  cases he : k.entry? i with
  | none => exact ⟨fun h => ⟨(Except.error.inj h).symm, entry?_eq_none.1 he⟩, fun h => h.1 ▸ rfl⟩
  | some d =>
    obtain ⟨hd, hdi⟩ := mem_of_lookup he
    have hthere : ¬∀ x ∈ k.entries, x.id ≠ i := fun h => h d hd hdi
    by_cases hs : d.state = .pendingDelete <;> simp [hs, hthere]

theorem addDraft_eq_error : k.addDraft = .error r ↔ r = .emptyTestName ∧ Text.trim k.search.query = "" := by
  unfold addDraft
  by_cases ht : Text.trim k.search.query = "" <;> simp [ht, eq_comm]

/-! ## The first reason -/

/-- An event for an entry that must be at rest is refused exactly if the entry is not there or not at rest. -/
theorem idleEntry_eq_error_iff_hasReason (hn : k.ids.Nodup) (he : e.needsRest = true) (hi : k.subject? e = some i) :
    k.idleEntry i = .error r ↔ k.HasReason e r ∧ r.rank ≠ 0 := by
  rw [idleEntry_eq_error hn]
  constructor
  · rintro (⟨rfl, hnone⟩ | ⟨x, hx, hxi, hs, rfl⟩)
    · exact ⟨⟨hi, hnone⟩, by simp⟩
    · exact ⟨⟨he, hi, hs, x, hx, hxi, rfl⟩, by simp⟩
  · rintro ⟨hr, hrank⟩
    cases r with
    | readOnly attempted => exact absurd rfl hrank
    | noOpenEditor =>
      -- what is for the editor and for an entry at rest is a save, and its entry is that of the open editor
      obtain ⟨hed, hm⟩ := hr
      cases e with
      | saveClicked =>
        obtain ⟨ed, hopen, -⟩ := Option.map_eq_some_iff.1 hi
        simp [Modal.isOpen, hopen] at hm
      | deleteClicked j => cases hed
      | _ => cases he
    | unknownEntry j =>
      obtain ⟨hj, hnone⟩ := hr
      cases hi.symm.trans hj
      exact .inl ⟨rfl, hnone⟩
    | entryBusy j st =>
      obtain ⟨-, hj, hs, x, hx, hxi, rfl⟩ := hr
      cases hi.symm.trans hj
      exact .inr ⟨x, hx, hxi, hs, rfl⟩
    | emptyTestName =>
      obtain ⟨rfl, -⟩ := hr
      cases he

/-- An event that changes the open editor is refused exactly if there is none. -/
theorem edit_eq_error_iff_hasReason {f g : Editor → Editor} (he : e.revision = some g) :
    k.edit f = .error r ↔ k.HasReason e r ∧ r.rank ≠ 0 := by
  rw [edit_eq_error]
  cases e <;> cases he <;> cases r <;> simp [HasReason]

/-- An event that is allowed is refused exactly if there is a reason other than the access. -/
theorem apply_eq_error (hn : k.ids.Nodup) : k.apply e = .error r ↔ k.HasReason e r ∧ r.rank ≠ 0 := by
  cases e with
  | searchTextChanged text => cases r <;> simp [apply, quietly, Except.map, HasReason]
  | suggestionPicked testName => cases r <;> simp [apply, quietly, Except.map, HasReason]
  | closeClicked => cases r <;> simp [apply, quietly, Except.map, HasReason]
  | noticesDismissed => cases r <;> simp [apply, quietly, Except.map, HasReason]
  | addFromSearchClicked =>
    rw [apply, quietly_eq_error, addDraft_eq_error]
    cases r <;> simp [HasReason]
  | cardClicked j =>
    rw [apply, quietly_eq_error, openEntry_eq_error]
    cases r with
    | unknownEntry l =>
      refine ⟨?_, ?_⟩
      · rintro ⟨h, hnone⟩
        cases h
        exact ⟨⟨rfl, hnone⟩, by simp⟩
      · rintro ⟨⟨h, hnone⟩, -⟩
        cases h
        exact ⟨rfl, hnone⟩
    | _ => simp [HasReason]
  | chipBox d b => exact quietly_eq_error.trans (edit_eq_error_iff_hasReason rfl)
  | chipRemoveClicked d v => exact quietly_eq_error.trans (edit_eq_error_iff_hasReason rfl)
  | noteChanged text => exact quietly_eq_error.trans (edit_eq_error_iff_hasReason rfl)
  | deleteClicked j => exact map_eq_error.trans (idleEntry_eq_error_iff_hasReason hn rfl rfl)
  | saveClicked =>
    unfold apply startSave
    cases hed : k.modal.editor with
    | none => cases r <;> simp [HasReason, Modal.isOpen, hed]
    | some ed => exact map_eq_error.trans (idleEntry_eq_error_iff_hasReason hn rfl (by simp [hed]))

/-- **The reason of a refusal** is the first that there is, and there is none for what is not refused. -/
theorem handle_eq_error (hn : k.ids.Nodup) : k.handle e = .error r ↔ k.FirstReason e r := by
  have hread : k.HasReason e (.readOnly e.describe) ↔ (e.isMutation && !k.access.canEdit) = true := by
    cases e <;> cases ha : k.access <;> simp [HasReason, Event.isMutation, Access.canEdit, ha]
  unfold handle
  by_cases hb : (e.isMutation && !k.access.canEdit) = true
  · rw [if_pos hb]
    constructor
    · rintro ⟨⟩
      exact ⟨hread.2 hb, fun q _ => Nat.zero_le _⟩
    · intro h
      have hzero := h.first _ (hread.2 hb)
      cases r with
      | readOnly attempted => rw [h.reason.2.2.2.2]
      | _ => simp at hzero
  · rw [if_neg hb]
    -- without the reason of the access there is one reason at most
    have hrank : ∀ {q}, k.HasReason e q → q.rank ≠ 0 := by
      intro q hq
      cases q with
      | readOnly attempted =>
        obtain ⟨ha, hc, hx, hd, rfl⟩ := hq
        exact absurd (hread.1 ⟨ha, hc, hx, hd, rfl⟩) hb
      | _ => simp
    constructor
    · intro h
      refine ⟨((apply_eq_error hn).1 h).1, fun q hq => ?_⟩
      have hq' := (apply_eq_error hn).2 ⟨hq, hrank hq⟩
      cases h.symm.trans hq'
      exact Nat.le_refl _
    · intro h
      exact (apply_eq_error hn).2 ⟨h.reason, hrank h.reason⟩

end Desk

namespace Flight

variable {f : Flight}

/-- What happens to a flight with an event that may be refused. -/
structure Refuses (f : Flight) (e : Event) : Prop where
  /-- Done in place, the event comes to what the handler says. -/
  inPlace : (Work.attempt e).on f.desk = Work.after f.desk (f.desk.handle e)
  /-- Work that is refused leaves the whole desk as it was. -/
  atomic : ∀ r k, (Work.attempt e).on f.desk = (.error r, k) → k = f.desk
  /-- Work is refused exactly if there is a reason, and for the first one. -/
  reason : ∀ r, (∃ k, (Work.attempt e).on f.desk = (.error r, k)) ↔ f.desk.FirstReason e r
  /-- A refused event asks for no call. -/
  unmoved : ∀ r, f.desk.FirstReason e r → f.step (.event e) = f

theorem Sound.refuses (h : f.Sound) (e : Event) : f.Refuses e := by
  have hhandle : ∀ {r}, f.desk.handle e = .error r ↔ f.desk.FirstReason e r :=
    Desk.handle_eq_error h.numbered.nodup
  refine ⟨Work.on_attempt f.desk e, fun r k hk => ?_, fun r => ⟨?_, fun hr => ?_⟩, fun r hr => ?_⟩
  · exact (Work.on_attempt_eq_error.1 hk).2
  · rintro ⟨k, hk⟩
    exact hhandle.1 (Work.on_attempt_eq_error.1 hk).1
  · exact ⟨f.desk, Work.on_attempt_eq_error.2 ⟨hhandle.2 hr, rfl⟩⟩
  · simp [step, hhandle.2 hr]

/-- **Refused events**: after every run, an event is refused exactly if there is a reason, for the first one, and
leaves everything as it was. -/
theorem refuses_run (p : Page) (o : Options) (ms : List Move) (e : Event) : ((start p o).run ms).Refuses e :=
  (sound_run p o ms).refuses e

end Flight

end AckDesk
