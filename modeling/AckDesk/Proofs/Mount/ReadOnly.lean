import AckDesk.Backend.Store
import AckDesk.Proofs.Flight.Refused
import AckDesk.Proofs.Mount.Run
import AckDesk.Proofs.View.ReadOnly

/-!
# Mounts that may only be read

A desk on a read-only page starts without hidden entries and without notices (`Shown`). The events that it does not
refuse open and close the editor and take no notice down, and the draft that they would discard does not exist, so
nothing but the modal region changes (`Shown.handled`). No call is asked for, hence no call ever moves, and the backend
is changed by nothing but what is done to it from outside (`Reading`).

The user is not offered anything else either: what the view lets the user do is harmless in every state
(`readOnly_run`).
-/

namespace AckDesk

namespace Desk

variable {k k' : Desk} {e : Event} {c : Option Call}

/-- A desk that may only be read, and shows all its entries and no notice. -/
structure Shown (k : Desk) : Prop where
  access : k.access = .readOnly
  visible : ∀ e ∈ k.entries, e.visible = true
  notices : k.notices.queue = []

theorem shown_page {p : Page} (hp : p.readOnly = true) (o : Options) : (p.desk o).Shown where
  access := by
    show Access.ofReadOnly p.readOnly = .readOnly
    rw [hp]
    rfl
  visible := fun _ he => (mem_page he).2.1
  notices := rfl

/-- Where no entry is hidden there is no draft to discard. -/
theorem discardOpenDraft_of_visible (h : ∀ e ∈ k.entries, e.visible = true) : k.discardOpenDraft = k := by
  unfold discardOpenDraft
  cases k.modal.editor with
  | none => rfl
  | some ed =>
    have hkeep : k.entries.filter (fun e => !(e.id == ed.entry && e.isHiddenDraft && e.state == .clean)) =
        k.entries := by
      refine List.filter_eq_self.2 fun e he => ?_
      simp [Entry.isHiddenDraft, h e he]
    simp only [hkeep]

/-- Opening an entry changes the modal region only, although it would discard a draft. -/
theorem Shown.openEntry (h : k.Shown) {i : EntryId} (ho : k.openEntry i = .ok k') :
    ∃ m, k' = { k with modal := m } := by
  unfold Desk.openEntry at ho
  split at ho
  · cases ho
  · rw [discardOpenDraft_of_visible h.visible, ite_self] at ho
    split at ho
    · cases ho
      exact ⟨k.modal, rfl⟩
    · cases ho
      exact ⟨_, rfl⟩

/-- So does closing the editor. -/
theorem Shown.closeEditor (h : k.Shown) : k.closeEditor = { k with modal := k.modal.close } := by
  unfold Desk.closeEditor
  rw [discardOpenDraft_of_visible h.visible]

/-- There is no notice to take down. -/
theorem Shown.clear (h : k.Shown) : k.notices.clear = k.notices := by
  unfold NoticeBoard.clear
  rw [← h.notices]

/-- What a desk that may only be read does with an event changes the modal region only, and asks for no call. -/
theorem Shown.handled (h : k.Shown) (hh : k.handle e = .ok (k', c)) : c = none ∧ ∃ m, k' = { k with modal := m } := by
  have hedit : k.access.canEdit = false := by rw [h.access]; rfl
  unfold handle at hh
  split at hh
  · cases hh
  · rename_i hm
    cases e with
    | cardClicked i =>
      obtain ⟨ho, rfl⟩ := quietly_eq_ok hh
      exact ⟨rfl, h.openEntry ho⟩
    | closeClicked =>
      obtain ⟨ho, rfl⟩ := quietly_eq_ok hh
      cases ho
      exact ⟨rfl, k.modal.close, h.closeEditor⟩
    | noticesDismissed =>
      obtain ⟨ho, rfl⟩ := quietly_eq_ok hh
      cases ho
      exact ⟨rfl, k.modal, by rw [h.clear]⟩
    | _ => simp [Event.isMutation, hedit] at hm

/-- Another editor, or none, leaves all entries shown. -/
theorem Shown.withModal (h : k.Shown) (m : Modal) : Shown { k with modal := m } := ⟨h.access, h.visible, h.notices⟩

/-- An event is refused for the access exactly if it does more than look. -/
theorem handle_eq_readOnly (hn : k.ids.Nodup) (ha : k.access = .readOnly) :
    (∃ attempted, k.handle e = .error (.readOnly attempted)) ↔
      (∀ i, e ≠ .cardClicked i) ∧ e ≠ .closeClicked ∧ e ≠ .noticesDismissed := by
  simp only [handle_eq_error hn]
  constructor
  · rintro ⟨attempted, hr⟩
    obtain ⟨-, hcard, hclose, hnotices, -⟩ := hr.reason
    exact ⟨hcard, hclose, hnotices⟩
  · rintro ⟨hcard, hclose, hnotices⟩
    exact ⟨e.describe, ⟨ha, hcard, hclose, hnotices, rfl⟩, fun q _ => Nat.zero_le _⟩

end Desk

namespace Mount

variable {σ ω : Type}

/-- The backend after all that was done to it from outside. -/
def outside (turn : ω → σ → σ) (b : σ) (as : List (Act ω)) : σ :=
  as.foldl (fun b a => match a with | .turn w => turn w b | _ => b) b

/-- The mount is as it started, but for the modal region, and over another backend. -/
structure Reading (m₀ : Mount σ) (b : σ) (m : Mount σ) : Prop where
  desk : ∃ r, m.desk = { m₀.desk with modal := r }
  backend : m.backend = b
  started : m.started = []
  arrived : m.arrived = []
  settled : m.settled = []
  inFlight : m.inFlight = 0

/-- What a user gets to do with a mount that may only be read. -/
structure ReadOnly (m₀ : Mount σ) (b : σ) (m : Mount σ) : Prop where
  entries : m.desk.entries = m₀.desk.entries
  search : m.desk.search = m₀.desk.search
  notices : m.desk.notices = m₀.desk.notices
  /-- No call waits to be sent, to be carried out or to be settled. -/
  calls : m.calls = []
  inFlight : m.inFlight = 0
  /-- Nothing reached the backend. -/
  backend : m.backend = b
  /-- No event asks for a call. -/
  quiet : ∀ e k c, m.desk.handle e = .ok (k, c) → c = none
  refused : ∀ e, (∃ attempted, m.desk.handle e = .error (.readOnly attempted)) ↔
    (∀ i, e ≠ .cardClicked i) ∧ e ≠ .closeClicked ∧ e ≠ .noticesDismissed
  /-- Nothing in the view changes acknowledgments, hidden nodes included. -/
  affordances : ∀ a ∈ m.desk.view.affordances, a.isMutation = false
  textEntries : ∀ n ∈ m.desk.view.textEntries, n.face.disabled = true

theorem Reading.shown {m₀ m : Mount σ} {b : σ} (h : Reading m₀ b m) (h₀ : m₀.desk.Shown) : m.desk.Shown := by
  obtain ⟨r, hr⟩ := h.desk
  rw [hr]
  exact h₀.withModal r

section

variable [Backend σ] (turn : ω → σ → σ) {m₀ m : Mount σ} {b : σ}

/-- One act on a mount that may only be read. -/
theorem Reading.act (h : Reading m₀ b m) (h₀ : m₀.desk.Shown) (a : Act ω) :
    Reading m₀ (outside turn b [a]) (m.act turn a) := by
  cases a with
  | event e =>
    rcases event_eq turn m e with ha | ⟨k, c, hk, ha⟩
    · rw [ha]
      exact h
    · obtain ⟨rfl, r, rfl⟩ := (h.shown h₀).handled hk
      obtain ⟨r₀, hr₀⟩ := h.desk
      rw [ha]
      exact ⟨⟨r, by rw [hr₀]⟩, h.backend, by simp [h.started], h.arrived, h.settled, by simp [h.inFlight]⟩
  | arrive n =>
    rcases arrive_eq turn m n with ha | ⟨c, cs, hp, -⟩
    · rw [ha]
      exact h
    · rw [h.started] at hp
      exact absurd hp.eq_nil (List.cons_ne_nil _ _)
  | complete n =>
    rcases complete_eq turn m n with ha | ⟨c, f, cs, hp, -⟩
    · rw [ha]
      exact h
    · rw [h.arrived] at hp
      exact absurd hp.eq_nil (List.cons_ne_nil _ _)
  | apply n =>
    rcases apply_eq turn m n with ha | ⟨s, ss, hp, -⟩
    · rw [ha]
      exact h
    · rw [h.settled] at hp
      exact absurd hp.eq_nil (List.cons_ne_nil _ _)
  | turn w => exact ⟨h.desk, congrArg (turn w) h.backend, h.started, h.arrived, h.settled, h.inFlight⟩

/-- A read-only mount is only read, over any run. -/
theorem reading_run {p : Page} (hp : p.readOnly = true) (o : Options) (b : σ) (as : List (Act ω)) :
    Reading (start p o b) (outside turn b as) ((start p o b).run turn as) := by
  induction as using List.reverseRecOn with
  | nil => exact ⟨⟨_, rfl⟩, rfl, rfl, rfl, rfl, rfl⟩
  | append_singleton as a ih =>
    have hout : outside turn b (as ++ [a]) = outside turn (outside turn b as) [a] := List.foldl_append
    rw [run_concat, hout]
    exact ih.act turn (Desk.shown_page hp o) a

/-- **Read-only mounts**: on a read-only page no run changes anything but the modal region, asks for a call or offers
the user to change anything, over every backend. -/
theorem readOnly_run {p : Page} (hp : p.readOnly = true) (o : Options) (b : σ) (as : List (Act ω)) :
    ReadOnly (start p o b) (outside turn b as) ((start p o b).run turn as) := by
  have h := reading_run turn hp o b as
  have hs := h.shown (Desk.shown_page hp o)
  have hn := (sound_flight_run turn p o b as).numbered.nodup
  obtain ⟨r, hr⟩ := h.desk
  exact {
    entries := by rw [hr]
    search := by rw [hr]
    notices := by rw [hr]
    calls := by rw [calls, h.started, h.arrived, h.settled]; rfl
    inFlight := h.inFlight
    backend := h.backend
    quiet := fun e k c hk => (hs.handled hk).1
    refused := fun e => Desk.handle_eq_readOnly hn hs.access
    affordances := fun a ha => Desk.isMutation_of_mem_affordances hs.access ha
    textEntries := fun n hn => Desk.disabled_of_mem_textEntries hs.access hn }

end

open Backend (Store)

/-- A page with one stored card that may only be read. -/
def cardToRead : Page := { records := [⟨some ⟨"k1"⟩, "boot", ⟨["main"], [], []⟩, some "flaky"⟩], readOnly := true }

/-- The card is opened, a change is attempted, and all calls that there are would be carried out. -/
def lookAndTry : List (Act Unit) :=
  [.event (.cardClicked ⟨1⟩), .event (.noteChanged "fixed"), .event .saveClicked, .arrive 0, .complete 0, .apply 0]

/-- The editor is open on the card, and the store has no request. -/
theorem readOnly_lookAndTry :
    cardToRead.readOnly = true ∧
    ReadOnly (start cardToRead {} ({} : Store)) {}
      ((start cardToRead {} ({} : Store)).run (fun _ s => s) lookAndTry) ∧
    (((start cardToRead {} ({} : Store)).run (fun _ s => s) lookAndTry).desk.modal.editor.map (·.note)) =
      some "flaky" := by
  have hp : cardToRead.readOnly = true := rfl
  exact ⟨hp, readOnly_run (fun _ s => s) hp {} ({} : Store) lookAndTry, by decide +kernel⟩

end Mount

end AckDesk
