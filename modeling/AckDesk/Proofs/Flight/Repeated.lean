import AckDesk.Proofs.Flight.Lifecycle
import AckDesk.Proofs.Flight.Stray

/-!
# A success counts once

The settlement of a call that succeeded is **spent** once it is applied: its entry is gone, and if it was a save, so is
the opening that sent it (`Sound.spent`). As numbers are not given twice, it stays spent at every later desk
(`Spent.of_leads`), and a desk where it is spent ignores it (`Spent.ignores`). Applied again at any later time
it therefore changes nothing (`repeated_run`).
-/

namespace AckDesk

def Settlement.isSuccess : Settlement → Bool
  | .save _ _ _ (.ok _) => true
  | .delete _ _ (.ok _) => true
  | _ => false

theorem Modal.isShowing_closeIfShowing (m : Modal) (t : Session) : (m.closeIfShowing t).isShowing t = false := by
  refine Bool.eq_false_iff.2 fun h => ?_
  obtain ⟨ed, hed, ht⟩ := isShowing_iff.1 h
  exact (editor_closeIfShowing.1 hed).2 ht

namespace Desk

variable {k k' : Desk} {s : Settlement}

/-- A success takes its entry off the list. -/
theorem removes_of_isSuccess (h : s.isSuccess = true) {e : Entry} (he : s.call.entry = e.id) : Removes s e := by
  cases s with
  | save i t r result =>
    obtain rfl : i = e.id := he
    cases result with
    | ok key => exact .saved t r key
    | error x => cases h
  | delete i key result =>
    obtain rfl : i = e.id := he
    cases result with
    | ok _ => exact .deleted key
    | error x => cases h

/-- The entry of the settlement was there and is gone, and so is the opening that sent it. -/
structure Spent (k : Desk) (s : Settlement) : Prop where
  given : s.call.entry.number ≤ k.lastId
  gone : s.call.entry ∉ k.ids
  left : ∀ i t r result, s = .save i t r result → t.number ≤ k.modal.lastSession ∧ k.modal.isShowing t = false

/-- What is spent stays so. -/
theorem Spent.of_leads (h : Spent k s) (hl : Leads k k') : Spent k' s where
  given := Nat.le_trans h.given hl.lastId_le
  gone := hl.not_mem_ids h.given h.gone
  left := by
    intro i t r result hs
    obtain ⟨hle, hg⟩ := h.left i t r result hs
    exact ⟨Nat.le_trans hle hl.lastSession_le, hl.not_showing hle hg⟩

/-- The settlement is ignored at the desk, and changes nothing of it. -/
def Ignores (k : Desk) (s : Settlement) : Prop := k.settle s = (k, .ignored s.call.entry)

/-- What is spent is ignored. -/
theorem Spent.ignores (h : Spent k s) : Ignores k s := by
  have hleave : k.modal.leave s = k.modal := by
    cases s with
    | save i t r result => simp [Modal.leave, Modal.closeIfShowing, (h.left i t r result rfl).2]
    | delete i key result => rfl
  rw [Ignores, settle_of_unknown (entry?_eq_none_iff_ids.2 h.gone), hleave]

end Desk

namespace Flight

variable {f : Flight} {s : Settlement}

/-- A success in flight is spent once it is applied. -/
theorem Sound.spent (h : f.Sound) (hs : s.call ∈ f.calls) (hok : s.isSuccess = true) :
    Desk.Spent (f.desk.settle s).1 s where
  given := by
    obtain ⟨e, he, -⟩ := h.exists_entry hs
    exact Nat.le_trans (h.numbered.number_le _ (Desk.mem_ids_of_lookup he)) (h.settled hs).lastId_le
  gone := by
    obtain ⟨e, he, -⟩ := h.exists_entry hs
    obtain ⟨hmem, hi⟩ := Desk.mem_of_lookup he
    rw [← hi]
    exact (h.settled hs).not_mem_ids h.numbered.nodup hmem (h.numbered.ne_nextId hmem)
      (Desk.removes_of_isSuccess hok hi.symm)
  left := by
    rintro i t r result rfl
    refine ⟨?_, Modal.isShowing_closeIfShowing _ t⟩
    rw [(h.settled hs).lastSession_eq]
    exact h.seated.session_le i t r hs

/-- **Repeated settlements**: once a call has settled with success in a run, the same settlement is ignored and changes
nothing, after whatever else happens in the run, and whatever else is settled after it. -/
theorem repeated_run (p : Page) (o : Options) (ms : List Move) {s : Settlement}
    (hs : s.call ∈ ((start p o).run ms).calls) (hok : s.isSuccess = true) :
    (∀ ns, ((start p o).run (ms ++ .settle s :: ns)).desk.Ignores s) ∧
    ∀ ns, (((start p o).run (ms ++ [.settle s])).desk.run ns).Ignores s := by
  have hspent := (sound_run p o ms).spent hs hok
  have hlater : ∀ ns, (((start p o).run (ms ++ [.settle s])).desk.run ns).Ignores s := by
    intro ns
    rw [run_concat, step_settle hs]
    exact (hspent.of_leads (Desk.leads_run _ ns)).ignores
  refine ⟨fun ns => ?_, hlater⟩
  obtain ⟨ns', hns⟩ := ((start p o).run (ms ++ [.settle s])).exists_desk_run ns
  rw [List.append_cons, run_append, hns]
  exact hlater ns'

/-- The settlement of the save of the second card. -/
def secondSave : Settlement := .save ⟨2⟩ ⟨1⟩ ⟨some ⟨"k2"⟩, "net", ⟨[], [], []⟩, some ""⟩ (.ok ⟨"k2"⟩)

theorem repeated_secondSave : secondSave.call ∈ ((start twoCards {}).run bothUnderWay).calls ∧
    secondSave.isSuccess = true ∧
    ((start twoCards {}).run (bothUnderWay ++ .settle secondSave :: [.event (.cardClicked ⟨3⟩)])).desk.Ignores
      secondSave := by
  have hs : secondSave.call ∈ ((start twoCards {}).run bothUnderWay).calls := by decide +kernel
  exact ⟨hs, rfl, (repeated_run twoCards {} bothUnderWay hs rfl).1 [.event (.cardClicked ⟨3⟩)]⟩

end Flight

end AckDesk
