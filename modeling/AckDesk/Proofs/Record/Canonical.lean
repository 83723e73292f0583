import AckDesk.Proofs.Page.RoundTrip

/-!
# The canonical form of a record

Two records **agree** (`Agrees`) if they differ at most in the order and the repeats of the values of a dimension. A
record is a **normal form** of another one (`NormalForm`) if it agrees with it and its values ascend strictly in every
dimension. The canonical form is one (`normalForm_canonical`), and there is no other (`NormalForm.eq_canonical`). So
records that agree have one canonical form and are stored as one text, and no others are (`canonical_decides`).
-/

namespace AckDesk.Record

variable {c r s : Record}

/-- The records differ at most in the order and the repeats of the values of a dimension. -/
structure Agrees (r s : Record) : Prop where
  key : r.key = s.key
  testName : r.testName = s.testName
  note : r.note = s.note
  values : ∀ d v, v ∈ r.scope.get d ↔ v ∈ s.scope.get d

theorem Agrees.symm (h : r.Agrees s) : s.Agrees r :=
  ⟨h.key.symm, h.testName.symm, h.note.symm, fun d v => (h.values d v).symm⟩

theorem Agrees.trans (h : c.Agrees r) (h' : r.Agrees s) : c.Agrees s :=
  ⟨h.key.trans h'.key, h.testName.trans h'.testName, h.note.trans h'.note,
    fun d v => (h.values d v).trans (h'.values d v)⟩

/-- The record agrees with `r`, and its values ascend strictly in every dimension. -/
structure NormalForm (c r : Record) : Prop extends Agrees c r where
  ascending : ∀ d, (c.scope.get d).Pairwise (· < ·)

/-- A record and its canonical form have the same key and note, and the same values in each dimension. -/
theorem agrees_canonical (r : Record) : r.canonical.Agrees r where
  key := rfl
  testName := rfl
  note := rfl
  values d v := by rw [get_scope_canonical, mem_canonicalValues]

theorem normalForm_canonical (r : Record) : r.canonical.NormalForm r where
  toAgrees := r.agrees_canonical
  ascending d := by
    rw [get_scope_canonical]
    exact pairwise_canonicalValues _

/-- A record has one normal form: strictly ascending values are given by which they are. -/
theorem NormalForm.eq_canonical (h : c.NormalForm r) : c = r.canonical := by
  have hscope : c.scope = r.canonical.scope := Scoped.ext_get fun d =>
    eq_of_pairwise_lt (h.ascending d) (r.normalForm_canonical.ascending d) fun v =>
      (h.values d v).trans (r.agrees_canonical.values d v).symm
  calc c = ⟨c.key, c.testName, c.scope, c.note⟩ := rfl
    _ = r.canonical := by rw [h.key, h.testName, hscope, h.note]; rfl

/-- Two records have one canonical form exactly when they agree. -/
theorem canonical_eq_canonical_iff : r.canonical = s.canonical ↔ r.Agrees s := by
  constructor
  · intro h
    exact r.agrees_canonical.symm.trans (h ▸ s.agrees_canonical)
  · intro h
    exact NormalForm.eq_canonical ⟨r.agrees_canonical.trans h, r.normalForm_canonical.ascending⟩

/-- A text is written of one record only, which is read from it. -/
theorem eq_of_text_eq (h : r.toJson.text = s.toJson.text) : r = s :=
  Except.ok.inj (r.ofJson_toJson.symm.trans (h ▸ s.ofJson_toJson))

/-- **The canonical form decides whether records agree**: it agrees with its record, its values ascend strictly, a
second time nothing changes, and it is the same record, and is written as the same text, exactly for records that
agree. -/
theorem canonical_decides (r s : Record) :
    r.canonical.NormalForm r ∧ r.canonical.canonical = r.canonical ∧ (r.canonical = s.canonical ↔ r.Agrees s) ∧
      (r.canonical.toJson.text = s.canonical.toJson.text ↔ r.Agrees s) := by
  refine ⟨r.normalForm_canonical, r.canonical_canonical, canonical_eq_canonical_iff, ?_⟩
  rw [← canonical_eq_canonical_iff]
  exact ⟨eq_of_text_eq, fun h => by rw [h]⟩

/-- Another order and repeats do not tell records apart. -/
example : (⟨none, "boot", ⟨["main", "beta", "main"], [], []⟩, none⟩ : Record).canonical =
    (⟨none, "boot", ⟨["beta", "main"], [], []⟩, none⟩ : Record).canonical := by cbv

end AckDesk.Record
