import AckDesk.Proofs.Desk.Turnover

/-!
# What the list shows

The listing of a desk are the numbers and records of its visible entries, from the top. Hidden drafts come and go
between them unseen, and so do the states in which entries wait.

As long as the visible entries are those with a key (`Keyed`), no event changes the listing (`Handled.listing_eq`), as
only a draft can be deleted without a call.
-/

namespace AckDesk.Desk

variable {k k' : Desk} {i : EntryId} {e : Entry}

/-- What is seen of some entries: numbers and records of the visible ones. -/
def listed (es : List Entry) : List (EntryId × Record) := (es.filter (·.visible)).map fun e => (e.id, e.record)

/-- What is seen of a desk's list, from the top. -/
def listing (k : Desk) : List (EntryId × Record) := k.visibleEntries.map fun e => (e.id, e.record)

theorem listing_eq_listed (k : Desk) : k.listing = listed k.entries := rfl

theorem listed_append (es fs : List Entry) : listed (es ++ fs) = listed es ++ listed fs := by simp [listed]

theorem listed_cons_of_visible (h : e.visible = true) (es : List Entry) :
    listed (e :: es) = (e.id, e.record) :: listed es := by
  simp [listed, h]

theorem listed_cons_of_hidden (h : e.visible = false) (es : List Entry) : listed (e :: es) = listed es := by
  simp [listed, h]

/-- Cards have numbers of their own. -/
theorem nodup_listing (hn : k.ids.Nodup) : (k.listing.map (·.1)).Nodup := by
  have hs : (k.listing.map (·.1)).Sublist k.ids := by
    rw [listing, List.map_map]
    exact List.filter_sublist.map _
  exact hs.nodup hn

/-! ## Changes that are not seen -/

/-- Taking off what is hidden is not seen. -/
theorem listed_filter {p : Entry → Bool} {es : List Entry} (h : ∀ e ∈ es, e.visible = true → p e = true) :
    listed (es.filter p) = listed es := by
  have hboth : (es.filter p).filter (·.visible) = es.filter (·.visible) := by
    rw [List.filter_filter]
    refine List.filter_congr fun e he => ?_
    cases hv : e.visible with
    | false => rfl
    | true => rw [h e he hv]; rfl
  rw [listed, hboth, listed]

theorem listed_discardOpenDraft (k : Desk) : listed k.discardOpenDraft.entries = k.listing := by
  unfold discardOpenDraft
  cases k.modal.editor with
  | none => rfl
  | some ed =>
    refine listed_filter fun e _ hv => ?_
    simp [Entry.isHiddenDraft, hv]

theorem listed_removeEntry_of_hidden (h : ∀ e ∈ k.entries, e.id = i → e.visible = false) :
    listed (k.removeEntry i).entries = k.listing := by
  refine listed_filter fun e he hv => bne_iff_ne.2 fun hi => ?_
  rw [h e he hi] at hv
  cases hv

/-- A change of state is not seen. -/
theorem listed_modifyState (k : Desk) (i : EntryId) (st : EntryState) :
    listed (k.modifyEntry i fun e => { e with state := st }).entries = k.listing := by
  have hone : ∀ e : Entry, listed [if e.id = i then { e with state := st } else e] = listed [e] := by
    intro e
    split <;> cases hv : e.visible <;> simp [listed, hv]
  show listed (k.entries.map fun e => if e.id = i then { e with state := st } else e) = listed k.entries
  induction k.entries with
  | nil => rfl
  | cons e es ih =>
    rw [List.map_cons, ← List.singleton_append, listed_append, hone, ih, ← listed_append, List.singleton_append]

/-! ## Events -/

/-- The visible entries are those with a key. -/
def Keyed (k : Desk) : Prop := ∀ e ∈ k.entries, e.visible = false ↔ e.record.key = none

/-- A keyless entry can be taken off unseen. -/
theorem Keyed.listed_removeEntry (h : Keyed k) (hn : k.ids.Nodup) (he : k.entry? i = some e)
    (hk : e.record.key = none) : listed (k.removeEntry i).entries = k.listing := by
  refine listed_removeEntry_of_hidden fun x hx hi => ?_
  obtain rfl := eq_of_lookup hn he hx hi
  exact (h x hx).2 hk

/-- No event changes the listing. -/
theorem Handled.listing_eq {ev : Event} {c : Option Call} (hh : Handled k ev k' c) (hn : k.ids.Nodup)
    (hkey : Keyed k) : k'.listing = k.listing := by
  rw [listing_eq_listed k']
  cases hh with
  | aside _ hk => rw [hk.entries]; rfl
  | edited _ hk => rw [hk.entries]; rfl
  | opened _ _ hk =>
    rw [hk.entries]
    split
    · rfl
    · exact listed_discardOpenDraft k
  | added _ _ hk =>
    rw [hk.entries, listed_cons_of_hidden rfl]
    exact listed_discardOpenDraft k
  | closed hk => rw [hk.entries]; exact listed_discardOpenDraft k
  | saved _ _ _ hk => rw [hk.entries]; exact listed_modifyState k _ _
  | dropped he _ hnone hk => rw [hk.entries]; exact hkey.listed_removeEntry hn he hnone
  | deleted _ _ _ hk => rw [hk.entries]; exact listed_modifyState k _ _

end AckDesk.Desk
