import AckDesk.Proofs.Desk.Turnover
import AckDesk.Proofs.Flight.Sound

/-!
# How cards come and go

An entry that a move brings into the list is a new draft or came for a save that succeeded (`Sound.origin`). So a card
that is visible and has no key is one that the page had from the start (`record_mem_page_run`).

A visible card leaves the list by a delete that succeeded, or by a save that succeeded and put the new card in its
place (`departs_run`). A card of the page that has no key is nothing the backend knows: it goes when the user deletes
it, without a call, and when its save fails (`departs_without_key`).
-/

namespace AckDesk.Flight

variable {f : Flight} {m : Move} {e x : Entry} {p : Page}

/-- How an entry comes that the list did not have before the move. -/
inductive Arrives (f : Flight) (x : Entry) : Move → Prop
  | drafted {t : String} (ht : t = Text.trim f.desk.search.query) (hn : t ≠ "")
      (hx : x = ⟨f.desk.nextId, .draft t, .clean, false⟩) : Arrives f x (.event .addFromSearchClicked)
  | saved {i : EntryId} {t : Session} {r : Record} {key : Key} (hc : .save i t r ∈ f.calls)
      (hx : x = ⟨f.desk.nextId, r.withKey key, .clean, true⟩) : Arrives f x (.settle (.save i t r (.ok key)))

/-- An entry of the list was there before the last move, or came with it. -/
theorem Sound.origin (h : f.Sound) (hx : x ∈ (f.step m).desk.entries) : f.desk.Shows x ∨ Arrives f x m := by
  rcases step_cases f m with ⟨hm, -⟩ | ⟨ev, k, c, rfl, hh, hm⟩ | ⟨s, rfl, hs, hm⟩
  · rw [hm] at hx
    exact .inl (Desk.shows_of_mem hx)
  · rw [hm] at hx
    rcases (Desk.handled_of_handle hh).origin hx with hx | ⟨t, ht, hn, rfl, he⟩
    · exact .inl hx
    · exact .inr (.drafted ht hn he)
  · rw [hm] at hx
    rcases (h.settled hs).origin hx with hx | ⟨i, t, r, key, rfl, he⟩
    · exact .inl hx
    · exact .inr (.saved hs he)

/-- A settlement in flight is applied. -/
theorem step_settle {s : Settlement} (hs : s.call ∈ f.calls) :
    f.step (.settle s) = ⟨(f.desk.settle s).1, f.calls.erase s.call⟩ := by
  simp [step, hs]

/-- A save that succeeds puts a visible card, under a new number, where the entry stood. -/
theorem Sound.entries_step_saved (h : f.Sound) {t : Session} {r : Record} (hc : .save e.id t r ∈ f.calls) (key : Key)
    {above below : List Entry} (hb : f.desk.entries = above ++ e :: below) :
    (f.step (.settle (.save e.id t r (.ok key)))).desk.entries =
      above ++ ⟨f.desk.nextId, r.withKey key, .clean, true⟩ :: below := by
  rw [step_settle (s := .save e.id t r (.ok key)) hc, (h.settled (s := .save e.id t r (.ok key)) hc).has_saved.entries,
    Desk.entries_replaceSaved h.numbered.nodup hb]

/-- A visible card without a key was given with the page. -/
theorem record_mem_page_run (p : Page) (o : Options) (ms : List Move) :
    ∀ e ∈ ((start p o).run ms).desk.entries, e.visible = true → e.record.key = none → e.record ∈ p.records := by
  induction ms using List.reverseRecOn with
  | nil =>
    intro e he _ _
    exact (Desk.mem_page he).2.2
  | append_singleton ms m ih =>
    intro e he hv hk
    rw [run_concat] at he
    rcases (sound_run p o ms).origin he with ⟨d, hd, -, hr, hvd⟩ | ⟨-, -, rfl⟩ | ⟨-, rfl⟩
    · rw [← hr]
      exact ih d hd (hvd.trans hv) (hr ▸ hk)
    · cases hv
    · cases hk

/-- How a visible card leaves the list, at a desk over the page `p`. -/
inductive Departs (p : Page) (f : Flight) (e : Entry) : Move → Prop
  /-- Its delete was in flight and succeeded. -/
  | deleted {key : Key} (hc : .delete e.id key ∈ f.calls) : Departs p f e (.settle (.delete e.id key (.ok ())))
  /-- Its save was in flight and succeeded, and a visible card under a new number stands in its place. -/
  | replaced {t : Session} {r : Record} {key : Key} {above below : List Entry} (hc : .save e.id t r ∈ f.calls)
      (hn : f.desk.nextId ∉ f.desk.ids) (hb : f.desk.entries = above ++ e :: below)
      (ha : (f.step (.settle (.save e.id t r (.ok key)))).desk.entries =
        above ++ ⟨f.desk.nextId, r.withKey key, .clean, true⟩ :: below) :
      Departs p f e (.settle (.save e.id t r (.ok key)))
  /-- The page gave it without a key, and the user deletes it. -/
  | dropped {k : Desk} (hr : e.record ∈ p.records) (hk : e.record.key = none)
      (hh : f.desk.handle (.deleteClicked e.id) = .ok (k, none)) : Departs p f e (.event (.deleteClicked e.id))
  /-- The page gave it without a key, and its save was in flight and failed. -/
  | failed {t : Session} {r : Record} {x : Backend.Failure} (hr : e.record ∈ p.records) (hk : e.record.key = none)
      (hc : .save e.id t r ∈ f.calls) : Departs p f e (.settle (.save e.id t r (.error x)))

/-- A card that goes with a move departs in one of the four ways. -/
theorem Sound.departs (h : f.Sound) (he : e ∈ f.desk.entries) (hv : e.visible = true)
    (hp : e.record.key = none → e.record ∈ p.records) (hg : e.id ∉ (f.step m).desk.ids) : Departs p f e m := by
  have hn := h.numbered.nodup
  rcases step_cases f m with ⟨hm, -⟩ | ⟨ev, k, c, rfl, hh, hm⟩ | ⟨s, rfl, hs, hm⟩
  · rw [hm] at hg
    exact absurd (Desk.shows_of_mem he).mem_ids hg
  · rw [hm] at hg
    obtain ⟨rfl, hk, rfl⟩ := (Desk.handled_of_handle hh).gone hn he hv hg
    exact .dropped (hp hk) hk hh
  · have hst := h.settled hs
    rw [hm] at hg
    cases hst.gone hn he hg with
    | deleted key => exact .deleted hs
    | saved t r key =>
      obtain ⟨above, below, hb⟩ := List.append_of_mem he
      exact .replaced hs (h.numbered.nextId_not_mem_ids) hb (h.entries_step_saved hs key hb)
    | discarded t r x hk => exact .failed (hp hk) hk hs

/-- A card that departs is gone. -/
theorem Departs.gone (h : f.Sound) (he : e ∈ f.desk.entries) (hd : Departs p f e m) :
    e.id ∉ (f.step m).desk.ids := by
  have hn := h.numbered.nodup
  have settled : ∀ s : Settlement, s.call ∈ f.calls → Desk.Removes s e → e.id ∉ (f.step (.settle s)).desk.ids := by
    intro s hs hr
    rw [step_settle hs]
    exact (h.settled hs).not_mem_ids hn he (h.numbered.ne_nextId he) hr
  cases hd with
  | @deleted key hc => exact settled (.delete e.id key (.ok ())) hc (.deleted key)
  | @replaced t r key _ _ hc => exact settled (.save e.id t r (.ok key)) hc (.saved t r key)
  | @failed t r x _ hk hc => exact settled (.save e.id t r (.error x)) hc (.discarded t r x hk)
  | @dropped k _ hk hh =>
    have hm : f.step (.event (.deleteClicked e.id)) = ⟨k, f.calls⟩ := by simp [step, hh]
    rw [hm]
    exact Desk.ids_of_dropped hh ((Desk.entry?_eq_some hn).2 ⟨he, rfl⟩) hk

/-- **How cards go**: a card that is visible after a run is gone after one more move exactly if it departs with it. -/
theorem departs_run (p : Page) (o : Options) (ms : List Move) (m : Move) {e : Entry}
    (he : e ∈ ((start p o).run ms).desk.visibleEntries) :
    e.id ∉ ((start p o).run (ms ++ [m])).desk.ids ↔ Departs p ((start p o).run ms) e m := by
  obtain ⟨hmem, hv⟩ := List.mem_filter.1 he
  have hf := sound_run p o ms
  rw [run_concat]
  exact ⟨hf.departs hmem hv (record_mem_page_run p o ms e hmem hv), fun hd => hd.gone hf hmem⟩

/-- A page with two stored cards. -/
def twoCards : Page where
  records := [⟨some ⟨"k1"⟩, "boot", ⟨[], [], []⟩, none⟩, ⟨some ⟨"k2"⟩, "net", ⟨[], [], []⟩, none⟩]
  readOnly := false

/-- The delete of the first card and the save of the second are in flight. -/
def bothUnderWay : List Move := [.event (.deleteClicked ⟨1⟩), .event (.cardClicked ⟨2⟩), .event .saveClicked]

/-- The save of the second card succeeds. -/
def secondSaved : Move := .settle (.save ⟨2⟩ ⟨1⟩ ⟨some ⟨"k2"⟩, "net", ⟨[], [], []⟩, some ""⟩ (.ok ⟨"k2"⟩))

theorem departs_secondSaved : ∃ e ∈ ((start twoCards {}).run bothUnderWay).desk.visibleEntries,
    e.id ∉ ((start twoCards {}).run (bothUnderWay ++ [secondSaved])).desk.ids ∧
    Departs twoCards ((start twoCards {}).run bothUnderWay) e secondSaved := by
  have hgone : ∃ e ∈ ((start twoCards {}).run bothUnderWay).desk.visibleEntries,
      e.id ∉ ((start twoCards {}).run (bothUnderWay ++ [secondSaved])).desk.ids := by decide +kernel
  obtain ⟨e, he, hg⟩ := hgone
  exact ⟨e, he, hg, (departs_run twoCards {} bothUnderWay secondSaved he).1 hg⟩

/-- A page with one card that has no key. -/
def unsavedCard : Page := { records := [.draft "boot"], readOnly := false }

/-- The card is opened and its save is in flight. -/
def firstSave : List Move := [.event (.cardClicked ⟨1⟩), .event .saveClicked]

/-- The save of the card fails. -/
def firstSaveFails : Move := .settle (.save ⟨1⟩ ⟨1⟩ ⟨none, "boot", ⟨[], [], []⟩, some ""⟩ (.error .transport))

/-- A visible card without a key goes by an event of the user, and by a call that failed. -/
theorem departs_without_key :
    (∃ e ∈ (start unsavedCard {}).desk.visibleEntries,
      e.id ∉ ((start unsavedCard {}).run [.event (.deleteClicked e.id)]).desk.ids) ∧
    ∃ e ∈ ((start unsavedCard {}).run firstSave).desk.visibleEntries,
      e.id ∉ ((start unsavedCard {}).run (firstSave ++ [firstSaveFails])).desk.ids := by
  decide +kernel

end AckDesk.Flight
