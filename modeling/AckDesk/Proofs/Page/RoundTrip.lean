import AckDesk.Page.Basic
import AckDesk.Proofs.Record.Tolerance

/-!
# Records and pages that are written and read again

The text that a record or a page is written as is read as that record or page, so that two of them are never written
as one text (`text_roundTrip`).
-/

namespace AckDesk

open Json (Reader Value)

namespace Record

theorem tree_optional (o : Option String) : (Value.optional o).tree = optionalTree o := by cases o <;> rfl

theorem tree_strings (ss : List String) : (Value.strings ss).tree = textsTree ss := by
  rw [Value.strings, Value.tree, Value.treeItems_eq_map, List.map_map]
  rfl

theorem tree_toJson (r : Record) : r.toJson.tree = .object (r.members.map fun m => (some m.1, m.2)) := by
  simp only [toJson, Value.tree, Value.treeMembers, tree_optional, tree_strings]
  rfl

/-- The members of the record, each once and in their order, describe it. -/
theorem describes_members (r : Record) : r.Describes (r.members.map fun m => (some m.1, m.2)) where
  each m hm := by
    obtain ⟨⟨name, t⟩, ht, rfl⟩ := List.mem_map.1 hm
    exact .inl ⟨name, t, ht, rfl, .inl rfl⟩
  once name _ := by
    have hnodup : (memberNames.map some).Nodup := by decide
    exact List.nodup_iff_count_le_one.1 hnodup _
  complete m hm := .inl (List.mem_map.2 ⟨_, List.mem_map_of_mem hm, rfl⟩)

/-- The tree of a printed record is read as the record. -/
theorem reads_tree_toJson (r : Record) : shape.reader.Reads r.toJson.tree r := by
  rw [tree_toJson]
  exact r.describes_members.reads

/-- A printed record is read back. -/
theorem ofJson_toJson (r : Record) : ofJson r.toJson.text = .ok r := r.reads_tree_toJson.whole_eq (Value.isText_text _)

end Record

namespace Page

/-- The trees of printed records are read as the records. -/
theorem reads_records (rs : List Record) :
    Record.shape.reader.list.Reads (Value.list (rs.map Record.toJson)).tree rs := by
  rw [Value.tree, Value.treeItems_eq_map]
  refine Reader.Reads.list ?_
  induction rs with
  | nil => exact .nil
  | cons r rs ih => exact .cons r.reads_tree_toJson ih

/-- The tree of a printed page is read as the page. -/
theorem reads_tree_toJson (p : Page) : shape.reader.Reads p.toJson.tree p := by
  have hnames := (Record.reads_texts p.testNames).map fun ns (q : Page) => { q with testNames := ns }
  have hrecords := (reads_records p.records).map fun rs (q : Page) => { q with records := rs }
  have haccess := (Reader.reads_bool p.readOnly).map fun b (q : Page) => { q with readOnly := b }
  rw [← Record.tree_strings] at hnames
  have hb : shape.Builds [] shape.blank (Value.treeMembers [("allTestNames", .strings p.testNames),
      ("existingAcknowledgments", .list (p.records.map Record.toJson)), ("readOnly", .bool p.readOnly)]) p :=
    .known rfl (by simp) hnames (.known rfl (by simp) hrecords (.known rfl (by simp) haccess (.nil rfl)))
  exact hb.reads_object

/-- A printed page is read back. -/
theorem ofJson_toJson (p : Page) : ofJson p.toJson.text = .ok p := p.reads_tree_toJson.whole_eq (Value.isText_text _)

end Page

/-- Every record and every page is read again from the text it is written as; so no two are written as one text. -/
theorem text_roundTrip :
    (∀ r : Record, Record.ofJson r.toJson.text = .ok r) ∧ (∀ p : Page, Page.ofJson p.toJson.text = .ok p) ∧
      (∀ r s : Record, r.toJson.text = s.toJson.text → r = s) ∧
      ∀ p q : Page, p.toJson.text = q.toJson.text → p = q := by
  refine ⟨Record.ofJson_toJson, Page.ofJson_toJson, fun r s h => ?_, fun p q h => ?_⟩
  · have hs := s.ofJson_toJson
    rw [← h, r.ofJson_toJson] at hs
    exact Except.ok.inj hs
  · have hq := q.ofJson_toJson
    rw [← h, p.ofJson_toJson] at hq
    exact Except.ok.inj hq

end AckDesk
