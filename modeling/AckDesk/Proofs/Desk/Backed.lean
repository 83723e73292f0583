import AckDesk.Proofs.Desk.Outcomes

/-!
# What the backend has for an entry

A settlement that has not reached the desk may say something else than the list. `Backed` says which record the
backend has for an entry, and under which key: the one that was saved, if a save for the entry waits to be applied,
and else the one that the entry shows, unless it was deleted. A failure that waits makes no difference
(`backed_cons_of_failed`), nor does a settlement for another entry (`backed_cons_of_ne`).
-/

namespace AckDesk

/-- The backend answered with a failure. -/
def Settlement.Failed : Settlement → Prop
  | .save _ _ _ result => ∃ f, result = .error f
  | .delete _ _ result => ∃ f, result = .error f

/-- The backend has the record under the key for the entry, when the settlements wait to be applied. -/
inductive Backed (ss : List Settlement) (e : Entry) (key : Key) : Record → Prop
  | stored (hk : e.record.key = some key) (hf : ∀ s ∈ ss, s.call.entry = e.id → s.Failed) : Backed ss e key e.record
  | saved {s : Session} {r : Record} (hs : .save e.id s r (.ok key) ∈ ss) : Backed ss e key (r.withKey key)

variable {ss ts : List Settlement} {s : Settlement} {d e : Entry} {key : Key} {r : Record}

/-- A record that backs an entry carries the key that it is stored under. -/
theorem Backed.key_eq (h : Backed ss e key r) : r.key = some key := by
  cases h with
  | stored hk => exact hk
  | saved => rfl

/-- Only the number and the record of the entry matter. -/
theorem Backed.of_entry (h : Backed ss d key r) (hi : d.id = e.id) (hr : d.record = e.record) :
    Backed ss e key r := by
  cases h with
  | stored hk hf => exact hr ▸ .stored (hr ▸ hk) (hi ▸ hf)
  | saved hs => exact .saved (hi ▸ hs)

/-- What backs an entry depends on the settlements only through which there are, not on their order. -/
theorem backed_congr (h : ∀ s, s ∈ ss ↔ s ∈ ts) : Backed ss e key r ↔ Backed ts e key r := by
  constructor
  · rintro (⟨hk, hf⟩ | hs)
    · exact .stored hk fun s hs => hf s ((h s).2 hs)
    · exact .saved ((h _).1 hs)
  · rintro (⟨hk, hf⟩ | hs)
    · exact .stored hk fun s hs => hf s ((h s).1 hs)
    · exact .saved ((h _).2 hs)

/-- A settlement about another entry changes nothing for this one. -/
theorem backed_cons_of_ne (h : s.call.entry ≠ e.id) : Backed (s :: ss) e key r ↔ Backed ss e key r := by
  constructor
  · rintro (⟨hk, hf⟩ | hs)
    · exact .stored hk fun t ht => hf t (List.mem_cons_of_mem s ht)
    · rcases List.mem_cons.1 hs with rfl | hs
      · exact absurd rfl h
      · exact .saved hs
  · rintro (⟨hk, hf⟩ | hs)
    · refine .stored hk fun t ht hi => ?_
      rcases List.mem_cons.1 ht with rfl | ht
      · exact absurd hi h
      · exact hf t ht hi
    · exact .saved (List.mem_cons_of_mem s hs)

/-- A failed settlement changes nothing at the backend. -/
theorem backed_cons_of_failed (h : s.Failed) : Backed (s :: ss) e key r ↔ Backed ss e key r := by
  constructor
  · rintro (⟨hk, hf⟩ | hs)
    · exact .stored hk fun t ht => hf t (List.mem_cons_of_mem s ht)
    · rcases List.mem_cons.1 hs with rfl | hs
      · obtain ⟨f, hf⟩ := h
        cases hf
      · exact .saved hs
  · rintro (⟨hk, hf⟩ | hs)
    · refine .stored hk fun t ht hi => ?_
      rcases List.mem_cons.1 ht with rfl | ht
      · exact h
      · exact hf t ht hi
    · exact .saved (List.mem_cons_of_mem s hs)

/-! ## Entries for which nothing waits, or one settlement -/

section

variable (hss : ∀ t ∈ ss, t.call.entry ≠ e.id)

include hss

/-- Where nothing waits, the backend has what the entry shows. -/
theorem backed_iff_of_ne : Backed ss e key r ↔ e.record.key = some key ∧ r = e.record := by
  constructor
  · rintro (⟨hk, -⟩ | hs)
    · exact ⟨hk, rfl⟩
    · exact absurd rfl (hss _ hs)
  · rintro ⟨hk, rfl⟩
    exact .stored hk fun t ht hi => absurd hi (hss t ht)

/-- Where nothing waits, an entry without a key is backed by nothing. -/
theorem not_backed_of_ne (hk : e.record.key = none) : ¬Backed ss e key r := by
  rw [backed_iff_of_ne hss, hk]
  exact fun h => Option.some_ne_none key h.1.symm

/-- Where one save was carried out, it has the record that was saved. -/
theorem backed_cons_saved {t : Session} {q : Record} {k : Key} :
    Backed (.save e.id t q (.ok k) :: ss) e key r ↔ key = k ∧ r = q.withKey k := by
  constructor
  · rintro (⟨-, hf⟩ | hs)
    · obtain ⟨f, hf⟩ := hf _ List.mem_cons_self rfl
      cases hf
    · rcases List.mem_cons.1 hs with hs | hs
      · cases hs
        exact ⟨rfl, rfl⟩
      · exact absurd rfl (hss _ hs)
  · rintro ⟨rfl, rfl⟩
    exact .saved List.mem_cons_self

/-- Where the delete was carried out, it has nothing. -/
theorem not_backed_cons_deleted {k : Key} : ¬Backed (.delete e.id k (.ok ()) :: ss) e key r := by
  rintro (⟨-, hf⟩ | hs)
  · obtain ⟨f, hf⟩ := hf _ List.mem_cons_self rfl
    cases hf
  · rcases List.mem_cons.1 hs with hs | hs
    · cases hs
    · exact absurd rfl (hss _ hs)

end

end AckDesk
