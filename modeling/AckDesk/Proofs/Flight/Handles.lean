import AckDesk.Proofs.Flight.Stray

/-!
# Numbers are given once

The numbers of entries and of openings are handles by which calls in flight name what they are for. In every run, also
one with settlements that are repeated or for entries that are not there, no two entries have one number, a number that
left the list does not come back, and every opening of the editor has a number of its own (`handles_run`).

This follows from what is new at a desk (`Leads`): the openings of a run are those with the numbers between the counters
before and after it (`mem_openings`). A host that keeps the numbers in words of 64 bits can tell them apart as long as
it has words for all of them.
-/

namespace AckDesk

/-- The number of an entry in a word of 64 bits. -/
def EntryId.word (i : EntryId) : UInt64 := .ofNat i.number

/-- The number of an opening in a word of 64 bits. -/
def Session.word (s : Session) : UInt64 := .ofNat s.number

/-- Numbers for which there are words are told apart by them. -/
theorem eq_of_word_eq {a b n : Nat} (hn : n < UInt64.size) (ha : a ≤ n) (hb : b ≤ n)
    (h : UInt64.ofNat a = UInt64.ofNat b) : a = b := by
  have hab := congrArg UInt64.toNat h
  rwa [UInt64.toNat_ofNat_of_lt' (Nat.lt_of_le_of_lt ha hn), UInt64.toNat_ofNat_of_lt' (Nat.lt_of_le_of_lt hb hn)]
    at hab

namespace Desk

variable {k k' : Desk} {m : Move} {t : Session}

/-! ## Openings of the editor -/

/-- The move opens the editor: on a card that is there and is not being deleted, or on a new draft. -/
def opensEditor (k : Desk) : Move → Bool
  | .event (.cardClicked i) => k.entry? i |>.any (·.state != .pendingDelete)
  | .event .addFromSearchClicked => (k.handle .addFromSearchClicked).isOk
  | _ => false

/-- The number of the editor that the move opens, if it opens one. -/
def opening? (k : Desk) (m : Move) : Option Session :=
  if k.opensEditor m then (k.after m).modal.editor.map (·.session) else none

/-- The numbers of the editors that a run opens, in their order. -/
def openings (k : Desk) : List Move → List Session
  | [] => []
  | m :: ms => (k.opening? m).toList ++ (k.after m).openings ms

theorem modal_of_addDraft (h : k.addDraft = .ok k') : ∃ i r, k'.modal = k.modal.openOn i r := by
  unfold addDraft at h
  dsimp only at h
  split at h
  · cases h
  · cases h
    exact ⟨k.nextId, .draft (Text.trim k.search.query), by simp [nextId]⟩

/-- A move that opens the editor gives it the next number. -/
theorem modal_after_of_opens (h : k.opensEditor m = true) : ∃ i r, (k.after m).modal = k.modal.openOn i r := by
  unfold opensEditor at h
  split at h
  · rename_i i
    cases he : k.entry? i with
    | none => rw [he] at h; cases h
    | some e =>
      have hs : e.state ≠ .pendingDelete := by simpa [he] using h
      obtain ⟨k', hh, hm, -⟩ := handle_cardClicked he hs
      exact ⟨i, e.record, by simpa [after, hh] using hm⟩
  · cases hh : k.handle .addFromSearchClicked with
    | error r => rw [hh] at h; cases h
    | ok q =>
      have hadd : quietly k.addDraft = .ok q := by
        unfold handle at hh
        split at hh
        · cases hh
        · exact hh
      obtain ⟨i, r, hm⟩ := modal_of_addDraft (quietly_eq_ok hadd).1
      exact ⟨i, r, by simpa [after, hh] using hm⟩
  · cases h

/-- What an event does to the region: it keeps what it shows, or the event opens the editor. -/
theorem Handled.keeps_or_opens {e : Event} {c : Option Call} (hh : Handled k e k' c) :
    k.modal.Keeps k'.modal ∨ e = .addFromSearchClicked ∨
      ∃ i x, e = .cardClicked i ∧ k.entry? i = some x ∧ x.state ≠ .pendingDelete := by
  cases hh with
  | aside _ hk => exact .inl (hk.modal ▸ k.modal.keeps_refl)
  | edited hr hk => exact .inl (hk.modal ▸ k.modal.keeps_modifyEditor (Event.continues_revision hr))
  | opened he hs _ => exact .inr (.inr ⟨_, _, rfl, he, hs⟩)
  | added _ _ _ => exact .inr (.inl rfl)
  | closed hk => exact .inl (hk.modal ▸ k.modal.keeps_close)
  | saved _ _ _ hk => exact .inl (hk.modal ▸ k.modal.keeps_modifyEditor Editor.continues_saving)
  | dropped _ _ _ hk => exact .inl (hk.modal ▸ k.modal.keeps_closeIfOn _)
  | deleted _ _ _ hk => exact .inl (hk.modal ▸ k.modal.keeps_refl)

/-- Other moves give no number to an opening. -/
theorem lastSession_after_of_not_opens (h : k.opensEditor m = false) :
    (k.after m).modal.lastSession = k.modal.lastSession := by
  rcases after_cases k m with hm | ⟨e, k', c, rfl, hh, hm⟩ | ⟨s, -, hs⟩ | ⟨s, -, hm⟩
  · rw [hm]
  · rw [hm]
    rcases (handled_of_handle hh).keeps_or_opens with hk | rfl | ⟨i, x, rfl, hx, hs⟩
    · exact hk.lastSession
    · simp [opensEditor, hh, Except.isOk, Except.toBool] at h
    · simp [opensEditor, hx, hs] at h
  · exact hs.lastSession_eq
  · rw [hm]
    exact (k.modal.keeps_leave s).lastSession

/-- The openings of a run have the numbers that were given in it. -/
theorem mem_openings (k : Desk) (ms : List Move) : t ∈ k.openings ms ↔
    k.modal.lastSession < t.number ∧ t.number ≤ (k.run ms).modal.lastSession := by
  induction ms generalizing k with
  | nil =>
    refine iff_of_false List.not_mem_nil fun h => ?_
    exact Nat.not_lt.2 h.2 h.1
  | cons m ms ih =>
    have hle := (leads_run (k.after m) ms).lastSession_le
    rw [openings, List.mem_append, ih, show k.run (m :: ms) = (k.after m).run ms from rfl]
    cases hm : k.opensEditor m with
    | false =>
      rw [lastSession_after_of_not_opens hm]
      simp [opening?, hm]
    | true =>
      obtain ⟨i, r, ho⟩ := modal_after_of_opens hm
      have hopening : k.opening? m = some k.modal.nextSession := by simp [opening?, hm, ho, Editor.ofRecord]
      have hnext : t ∈ (k.opening? m).toList ↔ t.number = k.modal.lastSession + 1 := by
        rw [hopening, Option.toList_some, List.mem_singleton]
        exact ⟨fun h => h ▸ rfl, fun h => by cases t; cases h; rfl⟩
      rw [hnext]
      rw [ho, Modal.lastSession_openOn] at hle ⊢
      omega

/-! ## Handles -/

/-- Numbers are given once in a run of a desk, to entries and to openings. -/
structure Handles (k : Desk) (ms : List Move) : Prop where
  /-- Entries have numbers of their own. -/
  distinct : (k.run ms).ids.Nodup
  /-- None is above the number that was given last. -/
  counted : ∀ i ∈ (k.run ms).ids, i.number ≤ (k.run ms).lastId
  /-- A number that left the list does not come into it again. -/
  gone : ∀ as bs cs i, ms = as ++ bs ++ cs → i ∈ (k.run as).ids → i ∉ (k.run (as ++ bs)).ids → i ∉ (k.run ms).ids
  /-- Every move that opens the editor shows an opening with a number that none had before. -/
  opened : ∀ as m bs, ms = as ++ m :: bs → (k.run as).opensEditor m = true →
    ∃ t, (k.run (as ++ [m])).modal.isShowing t = true ∧ t ∉ k.openings as
  /-- Nothing else is ever shown. -/
  shown : ∀ t, (k.run ms).modal.isShowing t = true → t ∈ k.openings ms
  /-- An opening that was closed or replaced is not shown again. -/
  closed : ∀ as bs cs t, ms = as ++ bs ++ cs → (k.run as).modal.isShowing t = true →
    (k.run (as ++ bs)).modal.isShowing t = false → (k.run ms).modal.isShowing t = false
  /-- Words of 64 bits tell all entries of the run apart, if fewer than `2 ^ 64` numbers were given. -/
  entryWords : (k.run ms).lastId < UInt64.size → ∀ as bs cs ds i j, ms = as ++ bs → ms = cs ++ ds →
    i ∈ (k.run as).ids → j ∈ (k.run cs).ids → i.word = j.word → i = j
  /-- They tell all openings of the run apart, if fewer than `2 ^ 64` numbers were given. -/
  sessionWords : (k.run ms).modal.lastSession < UInt64.size → ∀ s ∈ k.openings ms, ∀ t ∈ k.openings ms,
    s.word = t.word → s = t

/-- Where numbers are in order and no editor is open, numbers are given once. -/
theorem Numbered.handles (h : Numbered k) (hc : k.modal.editor = none) (ms : List Move) : Handles k ms where
  distinct := (h.run ms).nodup
  counted := (h.run ms).number_le
  gone := by
    rintro as bs cs i rfl hi hg
    rw [run_append]
    refine (leads_run _ cs).not_mem_ids (Nat.le_trans ((h.run as).number_le i hi) ?_) hg
    rw [run_append]
    exact (leads_run _ bs).lastId_le
  opened := by
    rintro as m bs rfl ho
    obtain ⟨i, r, hmodal⟩ := modal_after_of_opens ho
    refine ⟨(k.run as).modal.nextSession, ?_, fun ht => ?_⟩
    · rw [run_concat, hmodal]
      exact Modal.isShowing_iff.2 ⟨_, rfl, rfl⟩
    · exact Nat.not_succ_le_self _ ((mem_openings k as).1 ht).2
  shown := by
    intro t ht
    obtain ⟨ed, hed, rfl⟩ := Modal.isShowing_iff.1 ht
    refine (mem_openings k ms).2 ⟨?_, (h.run ms).session_le ed hed⟩
    rcases (leads_run k ms).showing _ ht with hs | hs
    · simp [Modal.isShowing, hc] at hs
    · exact hs
  closed := by
    rintro as bs cs t rfl ht hg
    obtain ⟨ed, hed, rfl⟩ := Modal.isShowing_iff.1 ht
    rw [run_append]
    refine (leads_run _ cs).not_showing (Nat.le_trans ((h.run as).session_le ed hed) ?_) hg
    rw [run_append]
    exact (leads_run _ bs).lastSession_le
  entryWords := by
    intro hlt as bs cs ds i j has hcs hi hj hw
    have le : ∀ ns ns' x, ms = ns ++ ns' → x ∈ (k.run ns).ids → x.number ≤ (k.run ms).lastId := by
      rintro ns ns' x rfl hx
      rw [run_append]
      exact Nat.le_trans ((h.run ns).number_le x hx) (leads_run _ ns').lastId_le
    have hnumber := eq_of_word_eq hlt (le as bs i has hi) (le cs ds j hcs hj) hw
    cases i; cases j; cases hnumber; rfl
  sessionWords := by
    intro hlt s hs t ht hw
    have hnumber := eq_of_word_eq hlt ((mem_openings k ms).1 hs).2 ((mem_openings k ms).1 ht).2 hw
    cases s; cases t; cases hnumber; rfl

/-- **Handles**: in every run of the desk over a page, whatever is settled in it and however often, numbers are given
once. -/
theorem handles_run (p : Page) (o : Options) (ms : List Move) : Handles (p.desk o) ms :=
  (numbered_page p o).handles rfl ms

end Desk

end AckDesk
