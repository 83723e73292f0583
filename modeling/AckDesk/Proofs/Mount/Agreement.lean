import AckDesk.Proofs.Mount.Agrees

/-!
# A desk and its store at rest

Where no call is in flight, the records that the user sees, in the order of their keys, are the records of the store,
and the list holds besides them at most one hidden draft (`agreement_run`). Before that, the store has every record
that is shown under a key and at rest, and what a saved card shows is what the store put under its key.
-/

namespace AckDesk

open Backend (Store)
open Backend.Store (Seed)

/-- The text of the key, or the empty text where there is none. -/
def Record.keyText (r : Record) : String := (r.key.map (·.text)).getD ""

/-- Records in the order of their keys. -/
def byKey (rs : List Record) : List Record := rs.mergeSort fun a b => decide (a.keyText ≤ b.keyText)

/-- The entry that came for a save, and the key under which it was saved. -/
def Change.card? : Change → Option (EntryId × Key)
  | .inserted i key => some (i, key)
  | .replaced _ i key => some (i, key)
  | _ => none

/-- The records by key ascend by their keys. -/
theorem pairwise_byKey (rs : List Record) : (byKey rs).Pairwise fun a b => a.keyText ≤ b.keyText := by
  have trans (a b c : Record) (hab : decide (a.keyText ≤ b.keyText) = true)
      (hbc : decide (b.keyText ≤ c.keyText) = true) : decide (a.keyText ≤ c.keyText) = true := by
    simp only [decide_eq_true_eq] at *
    exact String.le_trans hab hbc
  have total (a b : Record) : (decide (a.keyText ≤ b.keyText) || decide (b.keyText ≤ a.keyText)) = true := by
    simp only [Bool.or_eq_true, decide_eq_true_eq]
    exact String.le_total ..
  exact (List.pairwise_mergeSort trans total rs).imp fun hab => by simpa using hab

/-- Records in the order of their keys, each key once, are what sorting gives. -/
theorem byKey_eq_of_perm {rs ts : List Record} (hp : rs.Perm ts)
    (ht : ts.Pairwise fun a b => a.keyText < b.keyText) : byKey rs = ts := by
  have hle : ts.Pairwise fun a b => a.keyText ≤ b.keyText :=
    ht.imp fun hab => String.not_lt.1 fun hba => String.lt_irrefl _ (String.lt_trans hab hba)
  have hn : (ts.map Record.keyText).Nodup := by
    refine List.Pairwise.map _ (fun a b hab he => ?_) ht
    rw [he] at hab
    exact String.lt_irrefl _ hab
  have hperm : (byKey rs).Perm ts := (List.mergeSort_perm rs _).trans hp
  refine hperm.eq_of_pairwise (fun a b ha hb hab hba => ?_) (pairwise_byKey rs) hle
  exact List.inj_on_of_nodup_map hn (hperm.mem_iff.1 ha) hb (String.le_antisymm hab hba)

namespace Agrees

variable {k : Desk} {ss : List Settlement} {b : Store}

/-- The records of the store have the keys under which they are stored. -/
theorem key_of_mem_shelf (h : Agrees k ss b) {p : Key × Record} (hp : p ∈ b.shelf) : p.2.key = some p.1 := by
  obtain ⟨e, -, hb⟩ := (h.mem_shelf p).1 hp
  exact hb.key_eq

/-- The records of the store ascend strictly by their keys, as the keys of its shelf do. -/
theorem pairwise_records (h : Agrees k ss b) : b.records.Pairwise fun a b => a.keyText < b.keyText := by
  refine List.pairwise_map.2 (h.ascending.imp_of_mem fun {p q} hp hq hpq => ?_)
  simp only [Record.keyText, h.key_of_mem_shelf hp, h.key_of_mem_shelf hq, Option.map_some, Option.getD_some]
  exact hpq

/-- The store has what an entry at rest shows under a key. -/
theorem mem_shelf_of_clean (h : Agrees k ss b) {cs : List Call} (hf : Flight.Sound ⟨k, cs⟩)
    (hss : ∀ s ∈ ss, s.call ∈ cs) {e : Entry} (he : e ∈ k.entries) (hs : e.state = .clean) {key : Key}
    (hk : e.record.key = some key) : (key, e.record) ∈ b.shelf := by
  have hne : ∀ t ∈ ss, t.call.entry ≠ e.id := fun t ht hi => (hf.fits (hss t ht) he hi).waits hs
  exact (h.mem_shelf _).2 ⟨e, he, (backed_iff_of_ne hne).2 ⟨hk, rfl⟩⟩

/-- Where nothing waits, the visible entries show the records of the store. -/
theorem perm_records (h : Agrees k [] b) (hn : k.ids.Nodup) (hd : k.Drafts) :
    (k.visibleEntries.map (·.record)).Perm b.records := by
  have backed : ∀ (e : Entry) key r, Backed [] e key r ↔ e.record.key = some key ∧ r = e.record :=
    fun e key r => backed_iff_of_ne fun _ ht => (List.not_mem_nil ht).elim
  have hvis : (k.visibleEntries.map (·.record)).Nodup := by
    refine List.Nodup.map_on (fun d hd e he hde => ?_) (hn.of_map.filter _)
    obtain ⟨hd, hv⟩ := List.mem_filter.1 hd
    obtain ⟨he, -⟩ := List.mem_filter.1 he
    obtain ⟨key, hk⟩ := Option.ne_none_iff_exists'.1 (h.keyed d hd hv)
    exact h.distinct d hd e he key _ _ ((backed ..).2 ⟨hk, rfl⟩) ((backed ..).2 ⟨hde ▸ hk, rfl⟩)
  have hrec : b.records.Nodup := h.pairwise_records.imp fun {r t} hrt he => by
    rw [he] at hrt
    exact String.lt_irrefl _ hrt
  refine (List.perm_ext_iff_of_nodup hvis hrec).2 fun r => ?_
  simp only [Desk.visibleEntries, Store.records, List.mem_map, List.mem_filter, h.mem_shelf, backed]
  constructor
  · rintro ⟨e, ⟨he, hv⟩, rfl⟩
    obtain ⟨key, hk⟩ := Option.ne_none_iff_exists'.1 (h.keyed e he hv)
    exact ⟨(key, e.record), ⟨e, he, hk, rfl⟩, rfl⟩
  · rintro ⟨p, ⟨e, he, hk, hr⟩, rfl⟩
    refine ⟨e, ⟨he, ?_⟩, hr.symm⟩
    -- an entry with a key is not hidden
    by_contra hv
    rw [hd.no_key e he (by simpa using hv)] at hk
    cases hk

end Agrees

/-- What came for a save is the record that was sent, under the key that came back. -/
theorem Desk.Settled.card {k k' : Desk} {s : Settlement} {ch : Change} {i : EntryId} {key : Key}
    (hs : k.Settled s k' ch) (hch : ch.card? = some (i, key)) :
    ∃ j t r, s = .save j t r (.ok key) ∧ ⟨i, r.withKey key, .clean, true⟩ ∈ k'.entries := by
  cases hs with
  | @saved j t r key' e k' he hk =>
    have hcard : some (k.nextId, key') = some (i, key) := by
      rw [← hch]
      split <;> rfl
    cases hcard
    obtain ⟨hmem, hi⟩ := Desk.mem_of_lookup he
    exact ⟨j, t, r, rfl, hk.entries ▸ Desk.mem_replaceSaved.2 (.inr ⟨⟨e, hmem, hi⟩, rfl⟩)⟩
  | discarded => cases hch
  | reverted => cases hch
  | removed => cases hch
  | restored => cases hch

/-- At rest the list holds at most one hidden entry, and that has no key. -/
theorem Desk.Drafts.hidden {k : Desk} (h : k.Drafts) (hn : k.ids.Nodup) (hs : ∀ e ∈ k.entries, e.state = .clean) :
    k.entries.filter (!·.visible) = [] ∨ ∃ d, k.entries.filter (!·.visible) = [d] ∧ d.record.key = none := by
  have hle := h.clean_le_one hn
  have hrest : k.entries.filter (fun e => !e.visible && e.state == .clean) = k.entries.filter (!·.visible) :=
    List.filter_congr fun e he => by simp [hs e he]
  rw [hrest] at hle
  rcases Nat.le_one_iff_eq_zero_or_eq_one.1 hle with h0 | h1
  · exact .inl (List.eq_nil_of_length_eq_zero h0)
  · obtain ⟨d, hd⟩ := List.length_eq_one_iff.1 h1
    obtain ⟨hmem, hv⟩ := List.mem_filter.1 (hd ▸ List.mem_singleton_self d : d ∈ k.entries.filter (!·.visible))
    exact .inr ⟨d, hd, h.no_key d hmem (by simpa using hv)⟩

namespace Mount

/-- The desk of a mount agrees with its store. -/
structure InAgreement (m : Mount Store) : Prop where
  /-- Where no call is in flight, the user sees the records of the store. -/
  rest : m.calls = [] → byKey (m.desk.visibleEntries.map (·.record)) = m.backend.records
  /-- The list holds besides them at most one hidden draft. -/
  hidden : m.calls = [] → m.desk.entries.filter (!·.visible) = [] ∨
    ∃ d, m.desk.entries.filter (!·.visible) = [d] ∧ d.record.key = none
  /-- At any time, the store has what an entry at rest shows under a key. -/
  clean : ∀ e ∈ m.desk.entries, e.state = .clean → ∀ key, e.record.key = some key → (key, e.record) ∈ m.backend.shelf
  /-- A save that is applied leaves a visible card with the canonical record that the store has under its key. -/
  saved : ∀ n m' ch i key, m.applyNth? n = some (m', ch) → ch.card? = some (i, key) → ∃ e, m'.desk.entry? i = some e ∧
    e.visible = true ∧ e.record.canonical = e.record ∧ e.record.key = some key ∧ (key, e.record) ∈ m'.backend.shelf

/-- A mount that is sound and agrees with its store before and after every settlement that is applied. -/
theorem InAgreement.of_agrees {m : Mount Store} (h : Agrees m.desk m.settled m.backend) (hf : m.flight.Sound)
    (hcan : ∀ i s r, .save i s r ∈ m.calls → r.canonical = r)
    (hnext : ∀ n m' ch, m.applyNth? n = some (m', ch) → Agrees m'.desk m'.settled m'.backend ∧ m'.flight.Sound) :
    m.InAgreement := by
  refine ⟨fun hc => ?_, fun hc => ?_, fun e he hs key hk => ?_, fun n m' ch i key happ hch => ?_⟩
  · have hnone : m.settled = [] := by simp_all [calls]
    rw [hnone] at h
    exact byKey_eq_of_perm (h.perm_records hf.numbered.nodup hf.drafts) h.pairwise_records
  · refine hf.drafts.hidden hf.numbered.nodup fun e he => ?_
    by_contra hs
    obtain ⟨c, hmem, -⟩ := hf.matched.called e he hs
    exact List.ne_nil_of_mem hmem hc
  · exact h.mem_shelf_of_clean hf (fun _ => call_mem_calls) he hs hk
  · obtain ⟨h', hf'⟩ := hnext n m' ch happ
    obtain ⟨s, ss, hp, hd, -⟩ := applyNth?_eq_some happ
    have hs : s.call ∈ m.calls := call_mem_calls (hp.mem_iff.1 List.mem_cons_self)
    have ht := hf.settled hs
    rw [show m.flight.desk = m.desk from rfl, ← hd] at ht
    obtain ⟨j, t, r, rfl, he⟩ := ht.card hch
    refine ⟨_, (Desk.entry?_eq_some hf'.numbered.nodup).2 ⟨he, rfl⟩, rfl, ?_, rfl,
      h'.mem_shelf_of_clean hf' (fun _ => call_mem_calls) he rfl rfl⟩
    rw [Record.canonical_withKey, hcan j t r hs]

/-- **At rest**: after every run over a store that was created with the records of the page, through failures of the
store and with any number of calls outstanding, the desk agrees with the store. -/
theorem agreement_run {p : Page} (o : Options) (h : Seed p.records) (as : List (Act Switch)) :
    ((start p o (Store.ofRecords p.records)).run Switch.turn as).InAgreement := by
  have hcan : ∀ i s r, .save i s r ∈ ((start p o (Store.ofRecords p.records)).run Switch.turn as).calls →
      r.canonical = r := by
    obtain ⟨ms, hm⟩ := exists_flight Switch.turn p o (Store.ofRecords p.records) as
    exact fun i s r hc => Flight.canonical_run p o ms i s r (hm.calls.mem_iff.2 hc)
  refine .of_agrees (agrees_run o h as) (sound_flight_run Switch.turn p o _ as) hcan fun n m' ch happ => ?_
  -- what is applied is the last act of a run
  have hm' : (start p o (Store.ofRecords p.records)).run Switch.turn (as ++ [.apply n]) = m' := by
    rw [run_concat]
    simp [act, happ]
  rw [← hm']
  exact ⟨agrees_run o h _, sound_flight_run Switch.turn p o _ _⟩

/-- A stored card is edited and saved while the store fails once, and a draft is saved after it. -/
theorem agreement_two_saves :
    let r : Record := ⟨some ⟨"b-1"⟩, "boot", ⟨[], [], []⟩, none⟩
    Seed [r] ∧ ((start { records := [r], readOnly := false } {} (Store.ofRecords [r])).run Switch.turn [
      .event (.cardClicked ⟨1⟩), .event (.noteChanged "flaky"), .turn (.failNext 1), .event .saveClicked,
      .event (.searchTextChanged "net"), .event .addFromSearchClicked, .event .saveClicked, .arrive 1, .arrive 0,
      .complete 1, .complete 0, .apply 1, .apply 0]).InAgreement := by
  intro r
  have h : Seed [r] := by
    refine ⟨by simp [r], by simp, fun q hq n he => ?_⟩
    obtain rfl := List.mem_singleton.1 hq
    have ht : "b-1" = "ack-" ++ n.repr := congrArg Key.text (Option.some.inj he)
    simpa using congrArg (·.toList.head?) ht
  exact ⟨h, agreement_run (p := { records := [r], readOnly := false }) {} h _⟩

end Mount

end AckDesk
