import AckDesk.Proofs.Desk.Listing
import AckDesk.Proofs.Flight.Lifecycle
import AckDesk.Proofs.Flight.Stray

/-!
# Changes of the listing are reported

Of all that happens in a flight over stored cards only settlements change the listing, and they say how (`Reported`,
`reports_run`). A first save puts the new card in where its draft stood, a later save puts it in the place of the old
card, and a delete takes one card off; nothing else changes.

The visible entries of such a flight are those with a key (`keyed_run`), so a draft is hidden until a save shows it, and
the entry of a delete in flight is a card that is seen.
-/

namespace AckDesk

/-- Only the settlement of a call for an entry that is not there is ignored. -/
theorem Settlement.change_ne_ignored (s : Settlement) (n : EntryId) (e : Entry) (i : EntryId) :
    s.change n e ≠ .ignored i := by
  unfold change
  split <;> try split
  all_goals exact nofun

namespace Desk

variable {k k' : Desk}

/-- The second desk lists what the first does, changed as the settlement reports. -/
def Reports (k : Desk) (s : Settlement) (k' : Desk) : Change → Prop
  | .inserted new key => ∃ i t r above draft below, s = .save i t r (.ok key) ∧ new ∉ k.ids ∧
      draft.id = i ∧ draft.visible = false ∧ k.entries = above ++ draft :: below ∧
      k'.entries = above ++ ⟨new, r.withKey key, .clean, true⟩ :: below ∧
      k.listing = listed above ++ listed below ∧ k'.listing = listed above ++ (new, r.withKey key) :: listed below
  | .replaced old new key => ∃ t r q above below, s = .save old t r (.ok key) ∧ new ∉ k.ids ∧
      k.listing = above ++ (old, q) :: below ∧ k'.listing = above ++ (new, r.withKey key) :: below
  | .removed i key => ∃ q above below, s = .delete i key (.ok ()) ∧
      k.listing = above ++ (i, q) :: below ∧ k'.listing = above ++ below
  | .reverted _ _ | .discarded _ _ | .ignored _ => k'.listing = k.listing

theorem Keyed.visible (h : Keyed k) {e : Entry} (he : e ∈ k.entries) (hk : e.record.key ≠ none) : e.visible = true :=
  Bool.not_eq_false _ ▸ fun hv => hk ((h e he).1 hv)

/-- A save that succeeds shows its draft, or puts the new card in the place of the old one. -/
theorem Settled.reports_saved {i : EntryId} {t : Session} {r : Record} {key : Key} {ch : Change}
    (hs : Settled k (.save i t r (.ok key)) k' ch) (hn : Numbered k) (hkey : Keyed k) {e : Entry}
    (he : k.entry? i = some e) : Reports k (.save i t r (.ok key)) k' ch := by
  obtain ⟨hmem, rfl⟩ := mem_of_lookup he
  obtain ⟨above, below, hb⟩ := List.append_of_mem hmem
  have hentries : k'.entries = above ++ ⟨k.nextId, r.withKey key, .clean, true⟩ :: below :=
    hs.has_saved.entries.trans (entries_replaceSaved hn.nodup hb r key)
  have hlisting : k'.listing = listed above ++ (k.nextId, r.withKey key) :: listed below := by
    rw [listing_eq_listed, hentries, listed_append, listed_cons_of_visible rfl]
  rw [hs.change_eq he]
  cases hd : e.record.key with
  | none =>
    have hv := (hkey e hmem).2 hd
    have hch : (Settlement.save e.id t r (.ok key)).change k.nextId e = .inserted k.nextId key := by
      simp [Settlement.change, Record.isDraft, hd]
    rw [hch]
    refine ⟨e.id, t, r, above, e, below, rfl, hn.nextId_not_mem_ids, rfl, hv, hb, hentries, ?_, hlisting⟩
    rw [listing_eq_listed, hb, listed_append, listed_cons_of_hidden hv]
  | some key' =>
    have hv := hkey.visible hmem (by simp [hd])
    have hch : (Settlement.save e.id t r (.ok key)).change k.nextId e = .replaced e.id k.nextId key := by
      simp [Settlement.change, Record.isDraft, hd]
    rw [hch]
    refine ⟨t, r, e.record, listed above, listed below, rfl, hn.nextId_not_mem_ids, ?_, hlisting⟩
    rw [listing_eq_listed, hb, listed_append, listed_cons_of_visible hv]

/-- A settlement of a call that fits its entry changes the listing as it reports. -/
theorem Settled.reports {s : Settlement} {ch : Change} (hs : Settled k s k' ch) (hn : Numbered k) (hkey : Keyed k)
    (hfit : ∀ e, k.entry? s.call.entry = some e → s.call.Fits e) : Reports k s k' ch := by
  cases hs with
  | saved he hk => exact Settled.reports_saved (.saved he hk) hn hkey he
  | discarded he hnone hk =>
    show k'.listing = k.listing
    rw [listing_eq_listed, hk.entries]
    exact hkey.listed_removeEntry hn.nodup he hnone
  | @removed i key e k' he hk =>
    have hstored : e.record.key = some key := (hfit e he).2
    obtain ⟨hmem, rfl⟩ := mem_of_lookup he
    obtain ⟨above, below, hb⟩ := List.append_of_mem hmem
    have hv := hkey.visible hmem (by simp [hstored])
    refine ⟨e.record, listed above, listed below, rfl, ?_, ?_⟩
    · rw [listing_eq_listed, hb, listed_append, listed_cons_of_visible hv]
    · rw [listing_eq_listed, hk.entries, entries_removeEntry hn.nodup hb, listed_append]
  | reverted _ _ hk =>
    show k'.listing = k.listing
    rw [listing_eq_listed, hk.entries]
    exact listed_modifyState k _ _
  | restored _ hk =>
    show k'.listing = k.listing
    rw [listing_eq_listed, hk.entries]
    exact listed_modifyState k _ _

end Desk

namespace Flight

variable {f : Flight}

/-- In a flight over stored cards the visible entries are those with a key. -/
theorem keyed_run (p : Page) (o : Options) (hp : ∀ r ∈ p.records, r.key ≠ none) (ms : List Move) :
    ((start p o).run ms).desk.Keyed := by
  refine fun e he => ⟨(sound_run p o ms).drafts.no_key e he, fun hk => Bool.eq_false_iff.2 fun hv => ?_⟩
  exact hp e.record (record_mem_page_run p o ms e he hv hk) hk

/-- The listing changes as reported. -/
structure Reported (f : Flight) : Prop where
  /-- Cards have numbers of their own. -/
  distinct : (f.desk.listing.map (·.1)).Nodup
  /-- No event changes the listing, whether it is refused or not. -/
  event : ∀ e, (f.step (.event e)).desk.listing = f.desk.listing
  /-- The settlement of a call in flight changes it as it reports. -/
  settled : ∀ s, s.call ∈ f.calls → f.desk.Reports s (f.step (.settle s)).desk (f.desk.settle s).2
  /-- A settlement that is ignored does not change it. -/
  ignored : ∀ s i, (f.desk.settle s).2 = .ignored i → (f.desk.settle s).1.listing = f.desk.listing

/-- What is sound and keyed changes as reported. -/
theorem Sound.reported (h : f.Sound) (hkey : f.desk.Keyed) : Reported f where
  distinct := Desk.nodup_listing h.numbered.nodup
  event := by
    intro e
    rcases step_cases f (.event e) with ⟨hm, -⟩ | ⟨ev, k, c, -, hh, hm⟩ | ⟨s, hs, -⟩
    · rw [hm]
    · rw [hm]
      exact (Desk.handled_of_handle hh).listing_eq h.numbered.nodup hkey
    · cases hs
  settled := by
    intro s hs
    rw [step_settle hs]
    refine (h.settled hs).reports h.numbered hkey fun e he => ?_
    obtain ⟨d, hd, hf⟩ := h.exists_entry hs
    exact Option.some.inj (hd.symm.trans he) ▸ hf
  ignored := by
    intro s i hch
    cases he : f.desk.entry? s.call.entry with
    | none => rw [Desk.settle_of_unknown he]; rfl
    | some e => exact absurd ((Desk.settled_settle he).change_eq he ▸ hch) (s.change_ne_ignored _ e i)

/-- **Reports**: in every run over a page of stored cards, the listing changes as reported and in no other way. -/
theorem reports_run (p : Page) (o : Options) (hp : ∀ r ∈ p.records, r.key ≠ none) (ms : List Move) :
    Reported ((start p o).run ms) :=
  (sound_run p o ms).reported (keyed_run p o hp ms)

theorem reports_bothUnderWay : (∀ r ∈ twoCards.records, r.key ≠ none) ∧
    Reported ((start twoCards {}).run bothUnderWay) := by
  have hp : ∀ r ∈ twoCards.records, r.key ≠ none := by decide
  exact ⟨hp, reports_run twoCards {} hp bothUnderWay⟩

end Flight

end AckDesk
