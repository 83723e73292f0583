import AckDesk.Proofs.Desk.Settling

/-!
# The notice board apart

How failures are reported decides nothing but what stands on the notice board. A desk with another board and other
options (`Desk.withBoard`) takes the same events, refuses the same ones for the same reasons, asks for the same calls,
and is changed by a settlement in the same way (`handle_withBoard`, `settle_withBoard`). The board itself is cleared by
a dismissal and left alone by all other events (`notices_handle`), and a failure is reported on it (`notices_report`).
-/

namespace AckDesk

open Backend (Failure)

/-- The kind of notice that tells of the failure of a call. -/
def Call.noticeKind : Call → NoticeKind
  | .save .. => .saveFailed
  | .delete .. => .deleteFailed

def Settlement.failure? : Settlement → Option Failure
  | .save _ _ _ (.error f) | .delete _ _ (.error f) => some f
  | _ => none

/-- What an event does to the board. -/
def Event.onBoard (b : NoticeBoard) : Event → NoticeBoard
  | .noticesDismissed => b.clear
  | _ => b

/-- The board with a notice, if the options ask for notices. -/
def NoticeBoard.told (b : NoticeBoard) (o : Options) (n : Notice) : NoticeBoard :=
  match o.feedback with
  | .silent => b
  | .notice => b.push n

namespace Desk

/-- The desk with other options and another board. -/
def withBoard (k : Desk) (o : Options) (b : NoticeBoard) : Desk := { k with options := o, notices := b }

theorem withBoard_self (k : Desk) : k.withBoard k.options k.notices = k := rfl

/-! ## Events -/

theorem discardOpenDraft_withBoard (k : Desk) (o : Options) (b : NoticeBoard) :
    (k.withBoard o b).discardOpenDraft = k.discardOpenDraft.withBoard o b := by
  have hmodal : (k.withBoard o b).modal = k.modal := rfl
  unfold discardOpenDraft
  rw [hmodal]
  cases k.modal.editor <;> rfl

/-- Opening an entry neither reads nor changes the board. -/
theorem openEntry_withBoard (k : Desk) (o : Options) (b : NoticeBoard) (i : EntryId) :
    (k.withBoard o b).openEntry i = (k.openEntry i).map (·.withBoard o b) := by
  have he : Desk.entry? (k.withBoard o b) i = k.entry? i := rfl
  unfold openEntry
  rw [he]
  cases k.entry? i with
  | none => rfl
  | some e =>
    dsimp only
    split
    · rfl
    · rw [discardOpenDraft_withBoard]
      show Except.ok _ = Except.ok _
      cases ho : k.modal.isOn i <;> simp [withBoard, ho]

/-- Adding a draft neither reads nor changes the board. -/
theorem addDraft_withBoard (k : Desk) (o : Options) (b : NoticeBoard) :
    (k.withBoard o b).addDraft = k.addDraft.map (·.withBoard o b) := by
  have hsearch : (k.withBoard o b).search = k.search := rfl
  simp only [addDraft, hsearch, discardOpenDraft_withBoard]
  split <;> rfl

/-- An edit neither reads nor changes the board. -/
theorem edit_withBoard (k : Desk) (o : Options) (b : NoticeBoard) (f : Editor → Editor) :
    (k.withBoard o b).edit f = (k.edit f).map (·.withBoard o b) := by
  unfold edit
  show (if k.modal.isOpen then _ else _) = _
  cases k.modal.isOpen <;> rfl

theorem idleEntry_withBoard (k : Desk) (o : Options) (b : NoticeBoard) (i : EntryId) :
    (k.withBoard o b).idleEntry i = k.idleEntry i := rfl

/-- The start of a save neither reads nor changes the board, and sends the same call. -/
theorem startSave_withBoard (k : Desk) (o : Options) (b : NoticeBoard) :
    (k.withBoard o b).startSave = k.startSave.map fun p => (p.1.withBoard o b, p.2) := by
  have hmodal : (k.withBoard o b).modal = k.modal := rfl
  unfold startSave
  rw [hmodal]
  cases k.modal.editor with
  | none => rfl
  | some ed =>
    simp only [idleEntry_withBoard]
    cases k.idleEntry ed.entry <;> rfl

theorem startDelete_withBoard (k : Desk) (o : Options) (b : NoticeBoard) (i : EntryId) :
    (k.withBoard o b).startDelete i = (k.startDelete i).map fun p => (p.1.withBoard o b, p.2) := by
  unfold startDelete
  rw [idleEntry_withBoard]
  cases k.idleEntry i with
  | error _ => rfl
  | ok e =>
    show Except.ok _ = Except.ok _
    cases hk : e.record.key <;> simp only [hk] <;> rfl

theorem quietly_map (x : Except Refusal Desk) (g : Desk → Desk) :
    quietly (x.map g) = (quietly x).map fun p => (g p.1, p.2) := by
  cases x <;> rfl

/-- An event does the same at a desk with other options and another board. -/
theorem handle_withBoard (k : Desk) (o : Options) (b : NoticeBoard) (e : Event) :
    (k.withBoard o b).handle e = (k.handle e).map fun p => (p.1.withBoard o (e.onBoard b), p.2) := by
  unfold handle
  show (if e.isMutation && !k.access.canEdit then _ else _) = _
  split
  · rfl
  · cases e with
    | searchTextChanged text => rfl
    | suggestionPicked testName => rfl
    | addFromSearchClicked => exact (congrArg quietly (addDraft_withBoard k o b)).trans (quietly_map _ _)
    | cardClicked i => exact (congrArg quietly (openEntry_withBoard k o b i)).trans (quietly_map _ _)
    | deleteClicked i => exact startDelete_withBoard k o b i
    | chipBox d e => exact (congrArg quietly (edit_withBoard k o b _)).trans (quietly_map _ _)
    | chipRemoveClicked d v => exact (congrArg quietly (edit_withBoard k o b _)).trans (quietly_map _ _)
    | noteChanged text => exact (congrArg quietly (edit_withBoard k o b _)).trans (quietly_map _ _)
    | saveClicked => exact startSave_withBoard k o b
    | closeClicked =>
      show quietly (.ok (k.withBoard o b).closeEditor) = _
      unfold closeEditor
      rw [discardOpenDraft_withBoard]
      rfl
    | noticesDismissed => rfl

/-- An event leaves the options, and does to the board what it does to any. -/
theorem notices_handle {k k' : Desk} {e : Event} {c : Option Call} (h : k.handle e = .ok (k', c)) :
    k'.options = k.options ∧ k'.notices = e.onBoard k.notices := by
  have hk : k' = k'.withBoard k.options (e.onBoard k.notices) := by
    have hw := k.handle_withBoard k.options k.notices e
    rw [withBoard_self, h] at hw
    exact (Prod.mk.inj (Except.ok.inj hw)).1
  exact ⟨by rw [hk]; rfl, by rw [hk]; rfl⟩

/-! ## Settlements -/

theorem report_withBoard (k : Desk) (o : Options) (b : NoticeBoard) (kind : NoticeKind) (testName : String)
    (f : Failure) : (k.withBoard o b).report kind testName f = k.withBoard o (b.told o ⟨kind, testName, f.message⟩) := by
  unfold report NoticeBoard.told
  show (match o.feedback with | .silent => _ | .notice => _) = _
  cases o.feedback <;> rfl

theorem notices_report (k : Desk) (kind : NoticeKind) (testName : String) (f : Failure) :
    (k.report kind testName f).notices = k.notices.told k.options ⟨kind, testName, f.message⟩ :=
  congrArg notices (report_withBoard k k.options k.notices kind testName f)

/-- A settlement does the same at a desk with other options and another board. -/
theorem settle_withBoard (k : Desk) (o : Options) (b : NoticeBoard) (s : Settlement) :
    ∃ b', (k.withBoard o b).settle s = ((k.settle s).1.withBoard o b', (k.settle s).2) := by
  cases s with
  | save i t r result =>
    have he : Desk.entry? (k.withBoard o b) i = k.entry? i := rfl
    cases hk : k.entry? i with
    | none => exact ⟨b, by simp only [settle, settleSave, he, hk]; rfl⟩
    | some e =>
      cases result with
      | ok key => exact ⟨b, by simp only [settle, settleSave, he, hk]; rfl⟩
      | error f =>
        obtain ⟨q, hq⟩ := k.report_eq .saveFailed r.testName f
        refine ⟨b.told o ⟨.saveFailed, r.testName, f.message⟩, ?_⟩
        simp only [settle, settleSave, he, hk, report_withBoard, hq]
        cases e.record.isDraft <;> rfl
  | delete i key result =>
    have he : Desk.entry? (k.withBoard o b) i = k.entry? i := rfl
    cases hk : k.entry? i with
    | none => exact ⟨b, by simp only [settle, settleDelete, he, hk]⟩
    | some e =>
      cases result with
      | ok _ => exact ⟨b, by simp only [settle, settleDelete, he, hk]; rfl⟩
      | error f =>
        obtain ⟨q, hq⟩ := k.report_eq .deleteFailed e.record.testName f
        refine ⟨b.told o ⟨.deleteFailed, e.record.testName, f.message⟩, ?_⟩
        simp only [settle, settleDelete, he, hk, report_withBoard, hq]
        rfl

end Desk

end AckDesk
