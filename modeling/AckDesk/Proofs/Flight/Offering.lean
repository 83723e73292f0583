import AckDesk.Proofs.Flight.Refused
import AckDesk.Proofs.View.Offers

/-!
# What the view offers is understood

Activating what the view offers, hidden nodes included, is an event of which the desk can make sense: the desk allows
it, the editor that it is for is open, and the entry that it names is there (`offers_run`). The view, the events and the
handler each say for themselves what only a user who may edit can do, and they agree (`isMutation_toEvent`,
`isMutation_iff_hasReason`).
-/

namespace AckDesk

/-- An affordance is a mutation exactly if its event is. -/
theorem Affordance.isMutation_toEvent (a : Affordance) (text : String) : (a.toEvent text).isMutation = a.isMutation := by
  cases a <;> rfl

/-- To a user who may only read, exactly the mutations are refused for the access. -/
theorem Desk.isMutation_iff_hasReason {k : Desk} (ha : k.access = .readOnly) (e : Event) :
    k.HasReason e (.readOnly e.describe) ↔ e.isMutation = true := by
  cases e <;> simp [HasReason, Event.isMutation, ha]

namespace Desk

variable {k : Desk} {a : Affordance} {i : EntryId}

theorem mem_searchOffers (h : a ∈ k.searchOffers) :
    a = .searchField ∨ (∃ name, a = .pickSuggestion name) ∨ a = .addFromSearch := by
  unfold searchOffers at h
  cases hk : k.access with
  | readOnly => simp [hk] at h
  | writable =>
    simp only [hk, Access.whenWritable_writable, Option.getD_some, List.cons_append, List.mem_cons, List.mem_append,
      List.mem_map, List.not_mem_nil, or_false] at h
    rcases h with rfl | ⟨name, -, rfl⟩ | rfl
    · exact .inl rfl
    · exact .inr (.inl ⟨name, rfl⟩)
    · exact .inr (.inr rfl)

theorem mem_cardOffers (h : a ∈ k.cardOffers) : ∃ e ∈ k.entries, a = .openEntry e.id ∨ a = .deleteEntry e.id := by
  obtain ⟨e, he, h⟩ := List.mem_flatMap.1 h
  refine ⟨e, he, ?_⟩
  rcases List.mem_cons.1 h with rfl | h
  · exact .inl rfl
  · cases hk : k.access with
    | readOnly => simp [hk] at h
    | writable => exact .inr (by simpa [hk] using h)

theorem mem_notices_offers {b : NoticeBoard} (h : a ∈ b.offers) : a = .dismissNotices := by
  unfold NoticeBoard.offers at h
  split at h
  · cases h
  · exact List.mem_singleton.1 h

/-- What is offered for the editor is offered by an open one. -/
theorem isOpen_of_mem_modalOffers (h : a ∈ k.modalOffers) : k.modal.isOpen = true := by
  obtain ⟨ed, hed, -⟩ := List.mem_flatMap.1 h
  rw [Modal.isOpen, Option.mem_toList.1 hed]
  rfl

/-- No control of an editor opens or deletes an entry. -/
theorem ne_of_mem_modalOffers (h : a ∈ k.modalOffers) : a ≠ .openEntry i ∧ a ≠ .deleteEntry i := by
  obtain ⟨ed, -, h⟩ := List.mem_flatMap.1 h
  unfold Editor.offers Editor.chipOffers at h
  cases hk : k.access <;> simp only [hk, List.mem_append, List.mem_flatMap, List.mem_map, List.mem_cons,
    List.not_mem_nil, or_false] at h
  · rcases h with ⟨d, -, ⟨v, -, rfl⟩ | rfl | rfl⟩ | rfl | rfl | rfl <;> exact ⟨nofun, nofun⟩
  · rw [h]
    exact ⟨nofun, nofun⟩

/-- What is for the editor is offered only while the editor is open. -/
theorem isOpen_of_mem_affordances (h : a ∈ k.view.affordances) {text : String}
    (he : (a.toEvent text).isForEditor = true) : k.modal.isOpen = true := by
  rw [affordances_view, List.mem_append, List.mem_append, List.mem_append] at h
  rcases h with h | h | h | h
  · rcases mem_searchOffers h with rfl | ⟨name, rfl⟩ | rfl <;> cases he
  · obtain ⟨e, -, rfl | rfl⟩ := mem_cardOffers h <;> cases he
  · rw [mem_notices_offers h] at he
    cases he
  · exact isOpen_of_mem_modalOffers h

/-- An entry that is offered is there. -/
theorem exists_entry_of_mem_affordances (h : a ∈ k.view.affordances) (hi : a = .openEntry i ∨ a = .deleteEntry i) :
    ∃ e ∈ k.entries, e.id = i := by
  rw [affordances_view, List.mem_append, List.mem_append, List.mem_append] at h
  rcases h with h | h | h | h
  · rcases mem_searchOffers h with rfl | ⟨name, rfl⟩ | rfl <;> rcases hi with hi | hi <;> cases hi
  · obtain ⟨e, he, ha⟩ := mem_cardOffers h
    refine ⟨e, he, ?_⟩
    rcases ha with rfl | rfl <;> rcases hi with hi | hi <;> cases hi <;> rfl
  · rw [mem_notices_offers h] at hi
    rcases hi with hi | hi <;> cases hi
  · exact absurd hi (not_or.2 (ne_of_mem_modalOffers h))

end Desk

/-- A desk understands what its view offers. -/
structure Desk.Understands (k : Desk) : Prop where
  allowed : ∀ a ∈ k.view.affordances, ∀ text attempted, k.handle (a.toEvent text) ≠ .error (.readOnly attempted)
  opened : ∀ a ∈ k.view.affordances, ∀ text, k.handle (a.toEvent text) ≠ .error .noOpenEditor
  known : ∀ a ∈ k.view.affordances, (∃ i, a = .openEntry i ∨ a = .deleteEntry i) →
    ∀ text i, k.handle (a.toEvent text) ≠ .error (.unknownEntry i)
  /-- Whatever is offered elsewhere, a desk that may only be read refuses the mutations, and nothing else, for this
  reason. -/
  gate : k.access = .readOnly → ∀ (a : Affordance) (text : String),
    (∃ attempted, k.handle (a.toEvent text) = .error (.readOnly attempted)) ↔ a.isMutation = true

theorem Desk.understands {k : Desk} (hn : k.ids.Nodup) : k.Understands where
  allowed := by
    intro a ha text attempted h
    obtain ⟨hk, hr⟩ := ((handle_eq_error hn).1 h).reason
    have hm := isMutation_of_mem_affordances hk ha
    rw [← a.isMutation_toEvent text] at hm
    obtain ⟨hcard, hclose, hnotices, rfl⟩ := hr
    have := (isMutation_iff_hasReason hk (a.toEvent text)).1 ⟨hk, hcard, hclose, hnotices, rfl⟩
    rw [hm] at this
    cases this
  opened := by
    intro a ha text h
    obtain ⟨he, hclosed⟩ := ((handle_eq_error hn).1 h).reason
    rw [isOpen_of_mem_affordances ha he] at hclosed
    cases hclosed
  known := by
    rintro a ha ⟨i, hi⟩ text j h
    obtain ⟨hj, hnone⟩ := ((handle_eq_error hn).1 h).reason
    obtain ⟨e, he, rfl⟩ := exists_entry_of_mem_affordances ha hi
    have hij : e.id = j := by rcases hi with rfl | rfl <;> exact Option.some.inj hj
    exact hnone e he hij
  gate := by
    intro hk a text
    rw [← a.isMutation_toEvent text, ← isMutation_iff_hasReason hk]
    constructor
    · rintro ⟨attempted, h⟩
      have hr := ((handle_eq_error hn).1 h).reason
      obtain ⟨-, -, -, -, rfl⟩ := id hr
      exact hr
    · intro hr
      exact ⟨_, (handle_eq_error hn).2 ⟨hr, fun q _ => Nat.zero_le _⟩⟩

/-- **What the view offers is understood**: in every state that a run comes to, for whatever access. -/
theorem Flight.understands_run (p : Page) (o : Options) (ms : List Move) : ((start p o).run ms).desk.Understands :=
  Desk.understands (sound_run p o ms).numbered.nodup

end AckDesk
