import AckDesk.Proofs.Backend.Shelf
import AckDesk.Proofs.Desk.Backed
import AckDesk.Proofs.Editor
import AckDesk.Proofs.Mount.Run

/-!
# A desk that agrees with its store

A desk agrees with a store when the store has what `Backed` says of the entries, and nothing else, whether the
answers of the store were applied or still wait. Events keep this (`Agrees.handled`), a settlement that is applied was
agreed on before (`Agrees.settled`), and a call that is carried out keeps it too (`Agrees.carriedOut`), since what an
editor sends is in canonical form already. So a desk over a store that was created with the records of its page agrees
with it after every run (`agrees_run`).
-/

namespace AckDesk

open Backend (Store Failure)
open Backend.Store (Ascending madeKey Seed)

/-- The store has what the entries and the settlements that wait say, and nothing else. -/
structure Agrees (k : Desk) (ss : List Settlement) (b : Store) : Prop where
  ascending : Ascending b.shelf
  mem_shelf : ∀ p, p ∈ b.shelf ↔ ∃ e ∈ k.entries, Backed ss e p.1 p.2
  distinct : ∀ d ∈ k.entries, ∀ e ∈ k.entries, ∀ key q r, Backed ss d key q → Backed ss e key r → d = e
  made : ∀ p ∈ b.shelf, ∀ n, p.1 = madeKey n → n ≤ b.lastKey
  keyed : ∀ e ∈ k.entries, e.visible = true → e.record.key ≠ none

namespace Agrees

variable {k k' : Desk} {ss ts : List Settlement} {b b' : Store}

/-! ## What keeps an agreement -/

/-- Only the shelf of the store and its last key matter. -/
theorem of_shelf (h : Agrees k ss b) (hs : b'.shelf = b.shelf) (hl : b'.lastKey = b.lastKey) : Agrees k ss b' :=
  ⟨hs ▸ h.ascending, hs ▸ h.mem_shelf, h.distinct, hs ▸ hl ▸ h.made, h.keyed⟩

/-- The order of the settlements does not matter, nor do failures among them. -/
theorem of_backed (h : Agrees k ss b) (ht : ∀ e key r, Backed ts e key r ↔ Backed ss e key r) : Agrees k ts b := by
  refine ⟨h.ascending, fun p => ?_, fun d hd e he key q r hq hr => ?_, h.made, h.keyed⟩
  · simp only [ht]
    exact h.mem_shelf p
  · exact h.distinct d hd e he key q r ((ht ..).1 hq) ((ht ..).1 hr)

/-- Entries change, with their numbers changed by `φ`, and the store has for them what it had before. -/
theorem of_entries (h : Agrees k ss b) (hn : k'.ids.Nodup) (φ : EntryId → EntryId)
    (back : ∀ e ∈ k'.entries, ∀ key r, Backed ts e key r → ∃ d ∈ k.entries, e.id = φ d.id ∧ Backed ss d key r)
    (there : ∀ d ∈ k.entries, ∀ key r, Backed ss d key r → ∃ e ∈ k'.entries, Backed ts e key r)
    (keyed : ∀ e ∈ k'.entries, e.visible = true → e.record.key ≠ none) : Agrees k' ts b := by
  refine ⟨h.ascending, fun p => ?_, fun d hd e he key q r hq hr => ?_, h.made, keyed⟩
  · rw [h.mem_shelf]
    constructor
    · rintro ⟨d, hd, hp⟩
      exact there d hd _ _ hp
    · rintro ⟨e, he, hp⟩
      obtain ⟨d, hd, -, hp⟩ := back e he _ _ hp
      exact ⟨d, hd, hp⟩
  · obtain ⟨d', hd', hdi, hq⟩ := back d hd key q hq
    obtain ⟨e', he', hei, hr⟩ := back e he key r hr
    obtain rfl := h.distinct d' hd' e' he' key q r hq hr
    exact Desk.eq_of_id_eq hn hd he (hdi.trans hei.symm)

/-- Entries come and go for which the store has nothing, and the others keep their numbers and records. -/
theorem of_same (h : Agrees k ss b) (hn : k'.ids.Nodup)
    (old : ∀ e ∈ k'.entries, (∃ d ∈ k.entries, d.id = e.id ∧ d.record = e.record ∧ d.visible = e.visible) ∨
      e.visible = false ∧ ∀ key r, ¬Backed ss e key r)
    (kept : ∀ d ∈ k.entries, (∃ e ∈ k'.entries, d.id = e.id ∧ d.record = e.record) ∨ ∀ key r, ¬Backed ss d key r) :
    Agrees k' ss b := by
  refine h.of_entries hn id (fun e he key r hr => ?_) (fun d hd key r hr => ?_) fun e he hv => ?_
  · rcases old e he with ⟨d, hd, hi, hrec, -⟩ | ⟨-, hb⟩
    · exact ⟨d, hd, hi.symm, hr.of_entry hi.symm hrec.symm⟩
    · exact absurd hr (hb key r)
  · rcases kept d hd with ⟨e, he, hi, hrec⟩ | hb
    · exact ⟨e, he, hr.of_entry hi hrec⟩
    · exact absurd hr (hb key r)
  · rcases old e he with ⟨d, hd, -, hrec, hvd⟩ | ⟨hf, -⟩
    · exact hrec ▸ h.keyed d hd (hvd.trans hv)
    · rw [hv] at hf
      cases hf

/-- The state of an entry does not matter. -/
theorem of_modifyState (h : Agrees k ss b) (hn : k'.ids.Nodup) {i : EntryId} {st : EntryState}
    (hk : k'.entries = (k.modifyEntry i fun e => { e with state := st }).entries) : Agrees k' ss b := by
  refine h.of_same hn (fun e he => ?_) fun d hd => ?_
  · obtain ⟨d, hd, hi, hr, hv, -⟩ := Desk.mem_of_mem_modifyState (hk ▸ he)
    exact .inl ⟨d, hd, hi, hr, hv⟩
  · rw [hk]
    by_cases hi : d.id = i
    · exact .inl ⟨{ d with state := st }, Desk.mem_modifyEntry.2 (.inr ⟨d, hd, hi, rfl⟩), rfl, rfl⟩
    · exact .inl ⟨d, Desk.mem_modifyEntry.2 (.inl ⟨hd, hi⟩), rfl, rfl⟩

/-- Entries go for which the store has nothing. -/
theorem of_subset (h : Agrees k ss b) (hn : k'.ids.Nodup) (hk : ∀ e ∈ k'.entries, e ∈ k.entries)
    (hg : ∀ d ∈ k.entries, d ∈ k'.entries ∨ ∀ key r, ¬Backed ss d key r) : Agrees k' ss b :=
  h.of_same hn (fun e he => .inl ⟨e, hk e he, rfl, rfl, rfl⟩)
    fun d hd => (hg d hd).imp_left fun hd => ⟨d, hd, rfl, rfl⟩

/-- An entry that nothing backs may leave the list. -/
theorem of_removeEntry (h : Agrees k ss b) (hn' : k'.ids.Nodup) {e : Entry} (he : e ∈ k.entries)
    (hb : ∀ key r, ¬Backed ss e key r) (hn : k.ids.Nodup) (hk : k'.entries = (k.removeEntry e.id).entries) :
    Agrees k' ss b := by
  refine h.of_subset hn' (fun x hx => (Desk.mem_removeEntry.1 (hk ▸ hx)).1) fun d hd => ?_
  by_cases hi : d.id = e.id
  · exact .inr (Desk.eq_of_id_eq hn hd he hi ▸ hb)
  · exact .inl (hk ▸ Desk.mem_removeEntry.2 ⟨hd, hi⟩)

/-! ## Events and settlements -/

variable {cs : List Call}

/-- The store has nothing for an entry at rest without a key. -/
theorem not_backed (hf : Flight.Sound ⟨k, cs⟩) (hss : ∀ s ∈ ss, s.call ∈ cs) {e : Entry} (he : e ∈ k.entries)
    (hs : e.state = .clean) (hk : e.record.key = none) {key : Key} {r : Record} : ¬Backed ss e key r := by
  have hne : ∀ t ∈ ss, t.call.entry ≠ e.id := fun t ht hi => (hf.fits (hss t ht) he hi).waits hs
  exact not_backed_of_ne hne hk

/-- Discarding the open draft keeps the agreement, as the store has nothing for a draft at rest. -/
theorem discardOpenDraft (h : Agrees k ss b) (hf : Flight.Sound ⟨k, cs⟩) (hss : ∀ s ∈ ss, s.call ∈ cs) :
    Agrees k.discardOpenDraft ss b := by
  refine h.of_subset ((Desk.ids_discardOpenDraft_sublist k).nodup hf.numbered.nodup)
    (fun e he => (Desk.mem_discardOpenDraft.1 he).1) fun d hd => ?_
  by_cases hg : k.modal.isOn d.id = true ∧ d.isHiddenDraft = true ∧ d.state = .clean
  · refine .inr fun key r => not_backed hf hss hd hg.2.2 ?_
    have := hg.2.1
    simp only [Entry.isHiddenDraft, Record.isDraft, Bool.and_eq_true, Option.isNone_iff_eq_none] at this
    exact this.1
  · exact .inl (Desk.mem_discardOpenDraft.2 ⟨hd, hg⟩)

/-- Events keep the agreement. -/
theorem handled (h : Agrees k ss b) (hf : Flight.Sound ⟨k, cs⟩) (hss : ∀ s ∈ ss, s.call ∈ cs) {e : Event}
    {c : Option Call} (hh : k.Handled e k' c) : Agrees k' ss b := by
  have hn : k'.ids.Nodup := (hf.numbered.handled hh).nodup
  have same : k'.entries = k.entries → Agrees k' ss b := fun hk =>
    h.of_subset hn (fun e he => hk ▸ he) fun d hd => .inl (hk ▸ hd)
  have discarded : k'.entries = k.discardOpenDraft.entries → Agrees k' ss b := fun hk =>
    (h.discardOpenDraft hf hss).of_subset hn (fun e he => hk ▸ he) fun d hd => .inl (hk ▸ hd)
  cases hh with
  | aside _ hk => exact same hk.entries
  | edited _ hk => exact same hk.entries
  | opened _ _ hk =>
    have := hk.entries
    split at this
    · exact same this
    · exact discarded this
  | @added t k' _ _ hk =>
    refine (h.discardOpenDraft hf hss).of_same hn (fun e he => ?_) fun d hd => ?_
    · rw [hk.entries] at he
      rcases List.mem_cons.1 he with rfl | he
      · have hne : ∀ s ∈ ss, s.call.entry ≠ k.nextId := fun s hs => hf.entry_ne_nextId (hss s hs)
        exact .inr ⟨rfl, fun key r => not_backed_of_ne hne rfl⟩
      · exact .inl ⟨e, he, rfl, rfl, rfl⟩
    · exact .inl ⟨d, hk.entries ▸ List.mem_cons_of_mem _ hd, rfl, rfl⟩
  | closed hk => exact discarded hk.entries
  | saved _ _ _ hk => exact h.of_modifyState hn hk.entries
  | @dropped i e k' he hs hkey hk =>
    obtain ⟨hmem, rfl⟩ := Desk.mem_of_lookup he
    exact h.of_removeEntry hn hmem (fun key r => not_backed hf hss hmem hs hkey) hf.numbered.nodup hk.entries
  | deleted _ _ _ hk => exact h.of_modifyState hn hk.entries

/-- A settlement that is applied was agreed on before. -/
theorem settled {s : Settlement} {ch : Change} (h : Agrees k (s :: ss) b) (hf : Flight.Sound ⟨k, cs⟩)
    (hc : s.call ∈ cs) (hss : ∀ t ∈ ss, t.call ∈ cs) (hone : ∀ t ∈ ss, t.call.entry ≠ s.call.entry)
    (hs : k.Settled s k' ch) : Agrees k' ss b := by
  have hn : k'.ids.Nodup := (hf.numbered.settled hs).nodup
  cases hs with
  | @saved i s r key e k' he hk =>
    obtain ⟨hmem, rfl⟩ := Desk.mem_of_lookup he
    -- no settlement waits for the new number either
    have hnext : ∀ t ∈ ss, t.call.entry ≠ k.nextId := fun t ht => hf.entry_ne_nextId (hss t ht)
    refine h.of_entries hn (fun j => if j = e.id then k.nextId else j) (fun x hx q r' hb => ?_)
      (fun d hd q r' hb => ?_) fun x hx hv => ?_
    · rw [hk.entries] at hx
      rcases Desk.mem_replaceSaved.1 hx with ⟨hx, hxi⟩ | ⟨-, rfl⟩
      · exact ⟨x, hx, by simp [hxi], (backed_cons_of_ne (Ne.symm hxi)).2 hb⟩
      · obtain ⟨hq, rfl⟩ := (backed_iff_of_ne hnext).1 hb
        cases hq
        exact ⟨e, hmem, by simp, (backed_cons_saved hone).2 ⟨rfl, rfl⟩⟩
    · by_cases hdi : d.id = e.id
      · obtain rfl := Desk.eq_of_id_eq hf.numbered.nodup hd hmem hdi
        obtain ⟨rfl, rfl⟩ := (backed_cons_saved hone).1 hb
        refine ⟨⟨k.nextId, r.withKey q, .clean, true⟩, ?_, (backed_iff_of_ne hnext).2 ⟨rfl, rfl⟩⟩
        rw [hk.entries]
        exact Desk.mem_replaceSaved.2 (.inr ⟨⟨d, hd, rfl⟩, rfl⟩)
      · refine ⟨d, ?_, (backed_cons_of_ne (Ne.symm hdi)).1 hb⟩
        rw [hk.entries]
        exact Desk.mem_replaceSaved.2 (.inl ⟨hd, hdi⟩)
    · rw [hk.entries] at hx
      rcases Desk.mem_replaceSaved.1 hx with ⟨hx, -⟩ | ⟨-, rfl⟩
      · exact h.keyed x hx hv
      · exact Option.some_ne_none key
  | @discarded i s r f e k' he hkey hk =>
    obtain ⟨hmem, rfl⟩ := Desk.mem_of_lookup he
    have hfail : Settlement.Failed (.save e.id s r (.error f)) := ⟨f, rfl⟩
    have h' : Agrees k ss b := h.of_backed fun _ _ _ => (backed_cons_of_failed hfail).symm
    exact h'.of_removeEntry hn hmem (fun key r => not_backed_of_ne hone hkey) hf.numbered.nodup hk.entries
  | @reverted i s r f e k' he hkey hk =>
    have hfail : Settlement.Failed (.save i s r (.error f)) := ⟨f, rfl⟩
    have h' : Agrees k ss b := h.of_backed fun _ _ _ => (backed_cons_of_failed hfail).symm
    exact h'.of_modifyState hn hk.entries
  | @removed i key e k' he hk =>
    obtain ⟨hmem, rfl⟩ := Desk.mem_of_lookup he
    have other : ∀ x : Entry, x.id ≠ e.id → ∀ q r, Backed (.delete e.id key (.ok ()) :: ss) x q r ↔ Backed ss x q r :=
      fun x hx _ _ => backed_cons_of_ne (Ne.symm hx)
    have hx' : ∀ x ∈ k'.entries, x ∈ k.entries ∧ x.id ≠ e.id := fun x hx => Desk.mem_removeEntry.1 (hk.entries ▸ hx)
    refine h.of_entries hn id (fun x hx q r hb => ?_) (fun d hd q r hb => ?_) fun x hx => h.keyed x (hx' x hx).1
    · exact ⟨x, (hx' x hx).1, rfl, (other x (hx' x hx).2 q r).2 hb⟩
    · by_cases hdi : d.id = e.id
      · obtain rfl := Desk.eq_of_id_eq hf.numbered.nodup hd hmem hdi
        exact absurd hb (not_backed_cons_deleted hone)
      · exact ⟨d, hk.entries ▸ Desk.mem_removeEntry.2 ⟨hd, hdi⟩, (other d hdi q r).1 hb⟩
  | @restored i key f e k' he hk =>
    have hfail : Settlement.Failed (.delete i key (.error f)) := ⟨f, rfl⟩
    have h' : Agrees k ss b := h.of_backed fun _ _ _ => (backed_cons_of_failed hfail).symm
    exact h'.of_modifyState hn hk.entries

/-! ## Calls that are carried out -/

/-- A record is put on the shelf for an entry that waits for its save. -/
theorem put (h : Agrees k ss b) (hn : k.ids.Nodup) {e : Entry} (he : e ∈ k.entries)
    (hone : ∀ t ∈ ss, t.call.entry ≠ e.id) (s : Session) {r : Record} (hr : r.key = e.record.key) :
    Agrees k (.save e.id s r (.ok (b.keyFor r)) :: ss) (b.put r).1 := by
  have own : ∀ key q, Backed ss e key q → key = b.keyFor r := fun key q hb => by
    simp [Store.keyFor, hr, ((backed_iff_of_ne hone).1 hb).1]
  -- the key is new, or it is the entry's
  have fresh : ∀ d ∈ k.entries, ∀ q, Backed ss d (b.keyFor r) q → d = e := by
    intro d hd q hb
    cases hk : r.key with
    | none =>
      have hle := h.made (b.keyFor r, q) ((h.mem_shelf _).2 ⟨d, hd, hb⟩) (b.lastKey + 1) (by simp [Store.keyFor, hk])
      exact absurd hle (Nat.not_succ_le_self _)
    | some key =>
      have hkey : b.keyFor r = key := by simp [Store.keyFor, hk]
      have hbe : Backed ss e key e.record := (backed_iff_of_ne hone).2 ⟨hr ▸ hk, rfl⟩
      exact h.distinct d hd e he key q e.record (hkey ▸ hb) hbe
  have other : ∀ d ∈ k.entries, d ≠ e → ∀ key q,
      Backed (.save e.id s r (.ok (b.keyFor r)) :: ss) d key q ↔ Backed ss d key q :=
    fun d hd hde _ _ => backed_cons_of_ne fun hi => hde (Desk.eq_of_id_eq hn hd he hi.symm)
  refine ⟨?_, fun p => ?_, fun d hd d' hd' key q q' hq hq' => ?_, fun p hp n hpn => ?_, h.keyed⟩
  · rw [Store.shelf_put]
    exact Store.ascending_putIn h.ascending
  · rw [Store.shelf_put, Store.mem_putIn h.ascending, h.mem_shelf]
    constructor
    · rintro (rfl | ⟨⟨d, hd, hb⟩, hpk⟩)
      · exact ⟨e, he, (backed_cons_saved hone).2 ⟨rfl, rfl⟩⟩
      · refine ⟨d, hd, (other d hd ?_ _ _).2 hb⟩
        rintro rfl
        exact hpk (own _ _ hb)
    · rintro ⟨d, hd, hb⟩
      by_cases hde : d = e
      · subst hde
        obtain ⟨h1, h2⟩ := (backed_cons_saved hone).1 hb
        exact .inl (Prod.ext h1 h2)
      · have hb := (other d hd hde _ _).1 hb
        exact .inr ⟨⟨d, hd, hb⟩, fun hpk => hde (fresh d hd p.2 (hpk ▸ hb))⟩
  · by_cases hde : d = e <;> by_cases hde' : d' = e
    · exact hde.trans hde'.symm
    · subst hde
      obtain ⟨rfl, -⟩ := (backed_cons_saved hone).1 hq
      exact (fresh d' hd' q' ((other d' hd' hde' _ _).1 hq')).symm
    · subst hde'
      obtain ⟨rfl, -⟩ := (backed_cons_saved hone).1 hq'
      exact fresh d hd q ((other d hd hde _ _).1 hq)
    · exact h.distinct d hd d' hd' key q q' ((other d hd hde _ _).1 hq) ((other d' hd' hde' _ _).1 hq')
  · have mono : b.lastKey ≤ (b.put r).1.lastKey := by
      rw [Store.lastKey_put]
      split <;> omega
    rw [Store.shelf_put, Store.mem_putIn h.ascending] at hp
    rcases hp with rfl | ⟨hp, -⟩
    · cases hk : r.key with
      | none =>
        have : madeKey (b.lastKey + 1) = madeKey n := by simpa [Store.keyFor, hk] using hpn
        rw [← Store.madeKey_inj this, Store.lastKey_put, if_pos hk]
      | some key =>
        have hbe : Backed ss e key e.record := (backed_iff_of_ne hone).2 ⟨hr ▸ hk, rfl⟩
        have hmem : (key, e.record) ∈ b.shelf := (h.mem_shelf _).2 ⟨e, he, hbe⟩
        exact (h.made _ hmem n (by simpa [Store.keyFor, hk] using hpn)).trans mono
    · exact (h.made p hp n hpn).trans mono

/-- A record is taken off the shelf for an entry that waits for its delete. -/
theorem take (h : Agrees k ss b) (hn : k.ids.Nodup) {e : Entry} (he : e ∈ k.entries)
    (hone : ∀ t ∈ ss, t.call.entry ≠ e.id) {key : Key} (hk : e.record.key = some key) (hb' : b'.lastKey = b.lastKey)
    (hs : b'.shelf = b.shelf.filter (·.1 != key)) : Agrees k (.delete e.id key (.ok ()) :: ss) b' := by
  have hbe : Backed ss e key e.record := (backed_iff_of_ne hone).2 ⟨hk, rfl⟩
  have keep : ∀ d ∈ k.entries, ∀ q r,
      Backed (.delete e.id key (.ok ()) :: ss) d q r ↔ Backed ss d q r ∧ q ≠ key := by
    intro d hd q r
    by_cases hde : d = e
    · subst hde
      refine iff_of_false (not_backed_cons_deleted hone) fun hb => hb.2 ?_
      exact Option.some.inj (((backed_iff_of_ne hone).1 hb.1).1.symm.trans hk)
    · rw [backed_cons_of_ne fun hi => hde (Desk.eq_of_id_eq hn hd he hi.symm)]
      refine (and_iff_left_of_imp fun hb => ?_).symm
      rintro rfl
      exact hde (h.distinct d hd e he q r e.record hb hbe)
  refine ⟨?_, fun p => ?_, fun d hd d' hd' q r r' hr hr' => ?_, fun p hp n hpn => ?_, h.keyed⟩
  · rw [hs]
    exact h.ascending.sublist List.filter_sublist
  · rw [hs, List.mem_filter, h.mem_shelf, bne_iff_ne]
    constructor
    · rintro ⟨⟨d, hd, hb⟩, hpk⟩
      exact ⟨d, hd, (keep d hd _ _).2 ⟨hb, hpk⟩⟩
    · rintro ⟨d, hd, hb⟩
      obtain ⟨hb, hpk⟩ := (keep d hd _ _).1 hb
      exact ⟨⟨d, hd, hb⟩, hpk⟩
  · exact h.distinct d hd d' hd' q r r' ((keep d hd _ _).1 hr).1 ((keep d' hd' _ _).1 hr').1
  · rw [hb']
    exact h.made p (List.mem_filter.1 (hs ▸ hp)).1 n hpn

/-- A call that is carried out keeps the agreement. -/
theorem carriedOut (h : Agrees k ss b) (hn : k.ids.Nodup) {e : Entry} (he : e ∈ k.entries) {c : Call}
    (hone : ∀ t ∈ ss, t.call.entry ≠ c.entry) (hi : c.entry = e.id) (hfit : c.Fits e)
    (hcan : ∀ i s r, c = .save i s r → r.canonical = r) (f : Option Failure) :
    Agrees k ((Mount.carryOut b c f).2 :: ss) (Mount.carryOut b c f).1 := by
  have failed : ∀ t : Settlement, t.Failed → Agrees k (t :: ss) b := fun t ht =>
    h.of_backed fun _ _ _ => backed_cons_of_failed ht
  rw [hi] at hone
  cases c with
  | save i s r =>
    obtain rfl : i = e.id := hi
    cases f with
    | some f => exact failed _ ⟨f, rfl⟩
    | none =>
      have hput := h.put hn he hone s hfit.2.1
      have hdone : Mount.carryOut b (.save e.id s r) none =
          ((b.put r.canonical).1, .save e.id s r (.ok (b.put r.canonical).2)) := rfl
      rw [hdone, hcan _ _ _ rfl, Store.put_snd]
      exact hput
  | delete i key =>
    obtain rfl : i = e.id := hi
    cases f with
    | some f => exact failed _ ⟨f, rfl⟩
    | none =>
      have hdone : Mount.carryOut b (.delete e.id key) none =
          ((b.delete key).1, .delete e.id key (b.delete key).2) := rfl
      rw [hdone]
      unfold Store.delete
      split
      · exact h.take hn he hone hfit.2 rfl rfl
      · exact failed _ ⟨_, rfl⟩

end Agrees

/-! ## Runs -/

/-- A call in flight saves a record in canonical form. -/
theorem Flight.canonical_run (p : Page) (o : Options) (ms : List Move) :
    ∀ i s r, .save i s r ∈ ((start p o).run ms).calls → r.canonical = r := by
  refine run_induction (f := start p o) (P := fun f => ∀ i s r, .save i s r ∈ f.calls → r.canonical = r)
    (fun i s r hc => (List.not_mem_nil hc).elim) (fun ih hh i s r hc => ?_) (fun ih _ i s r hc => ?_) ms
  · rcases List.mem_append.1 hc with hc | hc
    · exact ih i s r hc
    · cases hh with
      | saved => cases List.mem_singleton.1 hc; exact Editor.canonical_request _
      | deleted => cases List.mem_singleton.1 hc
      | _ => cases hc
  · exact ih i s r (List.mem_of_mem_erase hc)

namespace Mount

/-- The ways to change a store from outside. -/
inductive Switch where
  | failNext (count : Nat)
  | setOffline (offline : Bool)

/-- The store after a change from outside. -/
def Switch.turn : Switch → Store → Store
  | .failNext count, b => b.failNext count
  | .setOffline offline, b => b.setOffline offline

/-- A page and a backend that hold the same records agree before anything happened. -/
theorem agrees_start {p : Page} (o : Options) (h : Seed p.records) :
    Agrees (p.desk o) [] (.ofRecords p.records) := by
  have hrec : (p.desk o).entries.map (·.record) = p.records := Desk.map_record_entriesFrom p.records 0
  have hkeys : ((p.desk o).entries.map (·.record.key)).Nodup := by
    have := h.distinct
    rw [← hrec, List.map_map] at this
    exact this
  have backed : ∀ (e : Entry) key r, Backed [] e key r ↔ e.record.key = some key ∧ r = e.record :=
    fun e key r => backed_iff_of_ne fun _ ht => (List.not_mem_nil ht).elim
  refine ⟨Store.ascending_ofRecords _, fun q => ?_, fun d hd e he key r r' hr hr' => ?_, fun q hq n hn => ?_,
    fun e he _ => h.keyed _ (Desk.mem_page he).2.2⟩
  · rw [Store.mem_shelf_ofRecords h]
    simp only [backed]
    constructor
    · rintro ⟨hq, hk⟩
      obtain ⟨e, he, hr⟩ := List.mem_map.1 (hrec ▸ hq)
      exact ⟨e, he, hr ▸ hk, hr.symm⟩
    · rintro ⟨e, he, hk, hr⟩
      exact ⟨hr ▸ (Desk.mem_page he).2.2, hr ▸ hk⟩
  · exact List.inj_on_of_nodup_map hkeys hd he (((backed d key r).1 hr).1.trans ((backed e key r').1 hr').1.symm)
  · obtain ⟨hq, hk⟩ := (Store.mem_shelf_ofRecords h).1 hq
    exact absurd (hn ▸ hk) (h.unmade _ hq n)

/-- What happens to a mounted desk keeps its agreement with the store. -/
theorem agrees_act {m : Mount Store} (h : Agrees m.desk m.settled m.backend) (hf : m.flight.Sound)
    (hcan : ∀ i s r, .save i s r ∈ m.calls → r.canonical = r) (a : Act Switch) :
    Agrees (m.act Switch.turn a).desk (m.act Switch.turn a).settled (m.act Switch.turn a).backend := by
  have hss : ∀ s ∈ m.settled, s.call ∈ m.calls := fun s hs => call_mem_calls hs
  -- of the calls at the backend and the settlements, no two are for one entry
  have once : ((m.arrived.map (·.1) ++ m.settled.map (·.call)).map Call.entry).Nodup :=
    ((List.sublist_append_right m.started _).map _).nodup hf.matched.once
  rw [List.map_append, List.nodup_append] at once
  obtain ⟨-, honce, hdisj⟩ := once
  cases a with
  | event e =>
    rcases event_eq Switch.turn m e with ha | ⟨k, c, hk, ha⟩
    · rw [ha]; exact h
    · rw [ha]; exact h.handled hf hss (Desk.handled_of_handle hk)
  | arrive n =>
    rcases arrive_eq Switch.turn m n with ha | ⟨c, cs, -, ha⟩
    · rw [ha]; exact h
    · rw [ha]; exact h.of_shelf (Store.shelf_receive ..) (Store.lastKey_receive ..)
  | complete n =>
    rcases complete_eq Switch.turn m n with ha | ⟨c, f, cs, hp, ha⟩
    · rw [ha]; exact h
    · have harr : c ∈ m.arrived.map (·.1) := List.mem_map.2 ⟨(c, f), hp.mem_iff.1 List.mem_cons_self, rfl⟩
      have hc : c ∈ m.calls := by
        simp only [calls, List.mem_append]
        exact .inr (.inl harr)
      obtain ⟨e, he, hi, hfit⟩ := hf.matched.fits c hc
      have hone : ∀ t ∈ m.settled, t.call.entry ≠ c.entry := fun t ht hte =>
        hdisj _ (List.mem_map_of_mem harr) _ (List.mem_map_of_mem (List.mem_map_of_mem ht)) hte.symm
      have hdone := h.carriedOut hf.numbered.nodup he hone hi.symm hfit (fun i s r hcr => hcan i s r (hcr ▸ hc)) f
      rw [ha]
      exact hdone.of_backed fun _ _ _ => backed_congr fun s => (List.perm_append_singleton _ m.settled).mem_iff
  | apply n =>
    rcases apply_eq Switch.turn m n with ha | ⟨s, ss, hp, ha⟩
    · rw [ha]; exact h
    · have hs : s.call ∈ m.calls := hss s (hp.mem_iff.1 List.mem_cons_self)
      have hone : ∀ t ∈ ss, t.call.entry ≠ s.call.entry := by
        have hn : (((s :: ss).map (·.call)).map Call.entry).Nodup := ((hp.map _).map _).nodup_iff.2 honce
        intro t ht hte
        simp only [List.map_cons, List.nodup_cons, List.map_map] at hn
        exact hn.1 (List.mem_map.2 ⟨t, ht, hte⟩)
      have h' : Agrees m.desk (s :: ss) m.backend := h.of_backed fun _ _ _ => backed_congr fun _ => hp.mem_iff
      rw [ha]
      exact h'.settled hf hs (fun t ht => hss t (hp.mem_iff.1 (List.mem_cons_of_mem s ht))) hone (hf.settled hs)
  | turn w =>
    cases w with
    | failNext count => exact h.of_shelf rfl rfl
    | setOffline offline => exact h.of_shelf rfl rfl

/-- Every run keeps a desk and its store in agreement. -/
theorem agrees_run {p : Page} (o : Options) (h : Seed p.records) (as : List (Act Switch)) :
    let m := (start p o (Store.ofRecords p.records)).run Switch.turn as
    Agrees m.desk m.settled m.backend := by
  induction as using List.reverseRecOn with
  | nil => exact agrees_start o h
  | append_singleton as a ih =>
    rw [run_concat]
    obtain ⟨ms, hm⟩ := exists_flight Switch.turn p o (Store.ofRecords p.records) as
    refine agrees_act ih (sound_flight_run Switch.turn p o _ as) (fun i s r hc => ?_) a
    exact Flight.canonical_run p o ms i s r (hm.calls.mem_iff.2 hc)

end Mount

end AckDesk
