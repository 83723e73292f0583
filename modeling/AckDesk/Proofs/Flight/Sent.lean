import AckDesk.Proofs.Editor
import AckDesk.Proofs.Flight.Closing

/-!
# What a save sends

An editor is filled from the entry that it is opened on, and no settlement changes what it holds. So what a save sends
in a field that the user left alone is what the entry had when the editor was opened; this is what the entry has at
the time of the save, unless another opening's save of the entry succeeded in between, which turns the editor to the new
card and leaves its contents (`sent_run`). That save would be undone (`sent_noteSavedMeanwhile`).
-/

namespace AckDesk.Flight

/-- The move is the opening `s` of the editor, on an entry of the list. -/
def opens (s : Session) (e : Entry) (f : Flight) (m : Move) : Prop :=
  s = f.desk.modal.nextSession ∧ e ∈ (f.step m).desk.entries ∧
    (f.step m).desk.modal.editor = some (.ofRecord e.id s e.record)

/-- The move is an event of some kind, and the opening `s` handles it. -/
def handles (s : Session) (kind : Event → Prop) (f : Flight) (m : Move) : Prop :=
  ∃ e k c, m = .event e ∧ f.desk.handle e = .ok (k, c) ∧ f.desk.modal.isShowing s = true ∧ kind e

/-- The opening `s` handles a change of the dimension. -/
def changes (s : Session) (d : Dimension) : Flight → Move → Prop := handles s fun e => e.dimension? = some d

/-- The opening `s` handles a change of the note. -/
def writes (s : Session) : Flight → Move → Prop := handles s fun e => e.isNote = true

/-- While the opening `s` is shown, a save in flight for its entry succeeds. -/
def replaces (s : Session) (f : Flight) (m : Move) : Prop :=
  ∃ ed t, f.desk.modal.editor = some ed ∧ ed.session = s ∧ m = .settle t ∧ t.call ∈ f.calls ∧ Desk.Replaces t ed

/-- The settlement of a save that succeeded replaces the entry of the opening `s`. This stays open, holds what it held,
and is on the card that stands in the place of the entry, under the key of this card. -/
def turns (s : Session) (f : Flight) (m : Move) : Prop :=
  ∃ ed d t, m = .settle t ∧ Desk.Replaces t ed ∧ ed.session = s ∧ (f.step m).desk.modal.editor = some d ∧
    Desk.Remains f.desk t (f.step m).desk ed d

/-- The editor holds what the entry `e` had when it was opened, in every field that was not changed since, and its
entry shows the same record still, if it was not replaced. -/
structure Seeded (f : Flight) (ms : List Move) (ed : Editor) (e : Entry) : Prop where
  opened : f.Met ms (opens ed.session e)
  chips : ∀ d, ¬f.Met ms (changes ed.session d) → ∀ v, v ∈ (ed.chips.get d).values ↔ v ∈ e.record.scope.get d
  note : ¬f.Met ms (writes ed.session) → ed.note = e.record.noteText
  record : ¬f.Met ms (replaces ed.session) →
    ∀ x ∈ (f.run ms).desk.entries, x.id = ed.entry → x.record = e.record
  /-- Whatever replaced the entry turned the editor. -/
  turned : f.Throughout ms fun g m => replaces ed.session g m → turns ed.session g m

variable {f : Flight} {ms : List Move} {m : Move} {d ed : Editor} {e : Entry}

/-- A move that leaves the editor open, and changes only the fields of which it is a change. -/
theorem Seeded.step (h : Seeded f ms d e) (hs : ed.session = d.session)
    (hchips : ∀ x, ¬changes d.session x (f.run ms) m → ed.chips.get x = d.chips.get x)
    (hnote : ¬writes d.session (f.run ms) m → ed.note = d.note)
    (hrec : ¬replaces d.session (f.run ms) m → ed.entry = d.entry ∧ ∀ x ∈ (f.run (ms ++ [m])).desk.entries,
      x.id = ed.entry → ∃ y ∈ (f.run ms).desk.entries, y.id = x.id ∧ y.record = x.record)
    (hturn : replaces d.session (f.run ms) m → turns d.session (f.run ms) m) : Seeded f (ms ++ [m]) ed e := by
  refine ⟨met_concat.2 (.inl (hs ▸ h.opened)), fun x hx v => ?_, fun hw => ?_, fun hr x hx hxi => ?_,
    hs ▸ throughout_concat.2 ⟨h.turned, hturn⟩⟩
  · rw [met_concat, not_or, hs] at hx
    rw [hchips x hx.2, h.chips x hx.1]
  · rw [met_concat, not_or, hs] at hw
    rw [hnote hw.2, h.note hw.1]
  · rw [met_concat, not_or, hs] at hr
    obtain ⟨hentry, hold⟩ := hrec hr.2
    obtain ⟨y, hy, hyi, hyr⟩ := hold x hx hxi
    exact hyr ▸ h.record hr.1 y hy (hyi.trans (hxi.trans hentry))

/-- An opening whose entry is replaced has a number from then on. -/
theorem session_le_of_replaces (p : Page) (o : Options) {s : Session} {before : List Move}
    (h : replaces s ((start p o).run before) m) (after : List Move) :
    s.number ≤ ((start p o).run (before ++ after)).desk.modal.lastSession := by
  obtain ⟨ed, -, hed, rfl, -⟩ := h
  rw [run_append]
  exact (sound_run p o before).session_le_run hed after

/-- An editor that was just opened. -/
theorem seeded_ofRecord (p : Page) (o : Options) (he : e ∈ ((start p o).run (ms ++ [m])).desk.entries)
    (hed : ((start p o).run (ms ++ [m])).desk.modal.editor =
      some (.ofRecord e.id ((start p o).run ms).desk.modal.nextSession e.record)) :
    Seeded (start p o) (ms ++ [m]) (.ofRecord e.id ((start p o).run ms).desk.modal.nextSession e.record) e := by
  have hn := (sound_run p o (ms ++ [m])).numbered.nodup
  refine ⟨met_concat.2 (.inr ⟨rfl, run_concat _ ms m ▸ he, run_concat _ ms m ▸ hed⟩), fun x _ v => ?_, fun _ => rfl,
    fun _ x hx hxi => by rw [Desk.eq_of_id_eq hn hx he hxi], throughout_concat.2 ⟨?_, fun hr => ?_⟩⟩
  · rw [Editor.ofRecord, Scoped.get_map, ChipSet.mem_ofStored]
  · rintro before m' after rfl hr
    exact absurd (session_le_of_replaces p o hr (m' :: after)) (Nat.not_succ_le_self _)
  · have hle := session_le_of_replaces p o hr []
    rw [List.append_nil] at hle
    exact absurd hle (Nat.not_succ_le_self _)

/-- Every editor that is open after a run was opened in it on an entry of the list. -/
theorem seeded_run (p : Page) (o : Options) (ms : List Move) (ed : Editor)
    (hed : ((start p o).run ms).desk.modal.editor = some ed) : ∃ e, Seeded (start p o) ms ed e := by
  induction ms using List.reverseRecOn generalizing ed with
  | nil => cases hed
  | append_singleton ms m ih =>
    have hf := sound_run p o ms
    have hm' := run_concat (start p o) ms m
    rcases step_cases ((start p o).run ms) m with ⟨hm, hidle⟩ | ⟨e, k, c, rfl, hh, hm⟩ | ⟨s, rfl, hs, hm⟩
    · rw [hm', hm] at hed
      obtain ⟨e, h⟩ := ih ed hed
      refine ⟨e, h.step rfl (fun _ _ => rfl) (fun _ => rfl) (fun _ => ⟨rfl, fun x hx _ => ⟨x, ?_, rfl, rfl⟩⟩) ?_⟩
      · rwa [hm', hm] at hx
      · rintro ⟨_, s, -, -, rfl, hs, -⟩
        exact absurd hs (hidle s rfl)
    · have hed' := hed
      rw [hm', hm] at hed'
      rcases (Desk.handled_of_handle hh).editor hed' with ⟨e₀, he₀, rfl⟩ | ⟨d, hd⟩
      · exact ⟨e₀, seeded_ofRecord p o (by rw [hm', hm]; exact he₀) hed⟩
      · obtain ⟨e₀, h⟩ := ih d hd.editor
        have shown : ((start p o).run ms).desk.modal.isShowing d.session = true :=
          Modal.isShowing_iff.2 ⟨d, hd.editor, rfl⟩
        refine ⟨e₀, h.step hd.session (fun x hx => ?_) (fun hw => ?_) (fun _ => ⟨hd.entry, fun x hx _ => ?_⟩) ?_⟩
        · exact hd.chips x fun he => hx ⟨e, k, c, rfl, hh, shown, he⟩
        · refine hd.note ?_
          by_contra hn
          exact hw ⟨e, k, c, rfl, hh, shown, by simpa using hn⟩
        · rw [hm', hm] at hx
          exact hd.record x hx
        · rintro ⟨_, _, -, -, h, -⟩
          cases h
    · have hed' := hed
      rw [hm', hm] at hed'
      obtain ⟨d, hd⟩ := (hf.settled hs).editor hf.numbered hed'
      obtain ⟨d', hd'⟩ := (hf.settled hs).remains hf.numbered.nodup hed'
      cases hd.editor.symm.trans hd'.editor
      obtain ⟨e₀, h⟩ := ih d hd.editor
      refine ⟨e₀, h.step hd.session (fun x _ => by rw [hd.chips]) (fun _ => hd.note) (fun hr => ?_) ?_⟩
      · obtain ⟨hentry, hrec⟩ := hd.record fun hrep => hr ⟨d, s, hd.editor, rfl, rfl, hs, hrep⟩
        refine ⟨hentry, fun x hx => hrec x ?_⟩
        rwa [hm', hm] at hx
      · -- the editor that is open afterwards is the one that is turned
        rintro ⟨x, t, hx, -, h, -, hrep⟩
        cases h
        cases hd.editor.symm.trans hx
        exact ⟨d, ed, s, rfl, hrep, rfl, hm ▸ hed', hm ▸ hd'⟩

/-- A save that is not refused sends what the open editor holds. -/
theorem saveClicked_eq_ok {k k' : Desk} {c : Option Call} (h : k.handle .saveClicked = .ok (k', c)) :
    ∃ ed e, k.modal.editor = some ed ∧ k.entry? ed.entry = some e ∧
      c = some (.save ed.entry ed.session ed.request) := by
  unfold Desk.handle at h
  split at h
  · cases h
  · change k.startSave = _ at h
    unfold Desk.startSave at h
    cases hed : k.modal.editor with
    | none => rw [hed] at h; cases h
    | some ed =>
      rw [hed] at h
      obtain ⟨e, he, h⟩ := Desk.map_eq_ok h
      cases h
      exact ⟨ed, e, rfl, (Desk.idleEntry_eq_ok he).1, rfl⟩

/-- The record `r` that the opening `s` sends has what the entry `e₀` had when it was opened, in every field that it
did not change, and the entry `e` that is saved shows the same record still, if it was not replaced. Where it was, the
opening was turned to the card in its place. -/
structure Sends (f : Flight) (ms : List Move) (s : Session) (r : Record) (e₀ e : Entry) : Prop where
  opened : f.Met ms (opens s e₀)
  values : ∀ d, ¬f.Met ms (changes s d) → ∀ v, v ∈ r.scope.get d ↔ v ∈ e₀.record.scope.get d
  note : ¬f.Met ms (writes s) → r.note = some e₀.record.noteText
  current : ¬f.Met ms (replaces s) → e.record = e₀.record
  turned : f.Throughout ms fun g m => replaces s g m → turns s g m

/-- **What a save sends**: whenever a save is not refused, after any run, it sends what the entry had when the editor
was opened on it, in every field that the user left alone; and that is what the entry has, if no save of it succeeded
while the editor was open. A save that did turned the editor to the new card, and left what the editor holds. -/
theorem sent_run (p : Page) (o : Options) (ms : List Move) {k : Desk} {c : Option Call}
    (h : ((start p o).run ms).desk.handle .saveClicked = .ok (k, c)) :
    ∃ i s r e₀ e, c = some (.save i s r) ∧ Desk.entry? ((start p o).run ms).desk i = some e ∧
      Sends (start p o) ms s r e₀ e := by
  obtain ⟨ed, e, hed, he, rfl⟩ := saveClicked_eq_ok h
  obtain ⟨e₀, hs⟩ := seeded_run p o ms ed hed
  obtain ⟨hmem, hi⟩ := Desk.mem_of_lookup he
  refine ⟨ed.entry, ed.session, ed.request, e₀, e, rfl, he, hs.opened, fun d hd v => ?_, fun hw => ?_,
    fun hr => hs.record hr e hmem hi, hs.turned⟩
  · rw [← hs.chips d hd v, Editor.request, Scoped.get_map, ChipSet.mem_sorted]
  · rw [Editor.request, hs.note hw]

/-- A card is opened and its note is changed. -/
def noteChanged : List Move := [.event (.cardClicked ⟨1⟩), .event (.noteChanged "new")]

/-- A page with one card, that has a branch, a device and a note. -/
def cardWithValues : Page where
  records := [⟨some ⟨"k1"⟩, "boot", ⟨["main"], ["x1"], []⟩, some "old"⟩]
  readOnly := false

theorem sent_noteChanged : ∃ k e₀ e,
    ((start cardWithValues {}).run noteChanged).desk.handle .saveClicked =
      .ok (k, some (.save ⟨1⟩ ⟨1⟩ ⟨some ⟨"k1"⟩, "boot", ⟨["main"], ["x1"], []⟩, some "new"⟩)) ∧
    Desk.entry? ((start cardWithValues {}).run noteChanged).desk ⟨1⟩ = some e ∧
    Sends (start cardWithValues {}) noteChanged ⟨1⟩
      ⟨some ⟨"k1"⟩, "boot", ⟨["main"], ["x1"], []⟩, some "new"⟩ e₀ e := by
  have hsent : (((start cardWithValues {}).run noteChanged).desk.handle .saveClicked).toOption.map (·.2) =
      some (some (.save ⟨1⟩ ⟨1⟩ ⟨some ⟨"k1"⟩, "boot", ⟨["main"], ["x1"], []⟩, some "new"⟩)) := by
    decide +kernel
  cases h : ((start cardWithValues {}).run noteChanged).desk.handle .saveClicked with
  | error _ => rw [h] at hsent; cases hsent
  | ok q =>
    obtain ⟨k, c⟩ := q
    obtain ⟨i, s, r, e₀, e, hc, he, hsends⟩ := sent_run cardWithValues {} noteChanged h
    rw [h] at hsent
    cases hsent
    cases hc
    exact ⟨k, e₀, e, rfl, he, hsends⟩

/-- A page with one card, that has a note. -/
def cardWithNote : Page := { records := [⟨some ⟨"k1"⟩, "boot", ⟨[], [], []⟩, some "old"⟩], readOnly := false }

/-- The changed note is saved, the card is opened again, and then the save succeeds. -/
def noteSavedMeanwhile : List Move := noteChanged ++ [
  .event .saveClicked, .event (.cardClicked ⟨1⟩),
  .settle (.save ⟨1⟩ ⟨1⟩ ⟨some ⟨"k1"⟩, "boot", ⟨[], [], []⟩, some "new"⟩ (.ok ⟨"k1"⟩))]

/-- The save that succeeded is undone by one whose user did not touch the note. -/
theorem sent_noteSavedMeanwhile : ∃ k r e,
    ((start cardWithNote {}).run noteSavedMeanwhile).desk.handle .saveClicked = .ok (k, some (.save ⟨2⟩ ⟨2⟩ r)) ∧
    Desk.entry? ((start cardWithNote {}).run noteSavedMeanwhile).desk ⟨2⟩ = some e ∧
    ¬(start cardWithNote {}).Met noteSavedMeanwhile (writes ⟨2⟩) ∧ r.note ≠ some e.record.noteText := by
  have hsent : (((start cardWithNote {}).run noteSavedMeanwhile).desk.handle .saveClicked).toOption.map (·.2) =
      some (some (.save ⟨2⟩ ⟨2⟩ ⟨some ⟨"k1"⟩, "boot", ⟨[], [], []⟩, some "old"⟩)) := by decide +kernel
  obtain ⟨e, he, hnew⟩ : ∃ e, Desk.entry? ((start cardWithNote {}).run noteSavedMeanwhile).desk ⟨2⟩ = some e ∧
      e.record.noteText = "new" :=
    ⟨⟨⟨2⟩, ⟨some ⟨"k1"⟩, "boot", ⟨[], [], []⟩, some "new"⟩, .clean, true⟩, by decide +kernel, rfl⟩
  cases h : ((start cardWithNote {}).run noteSavedMeanwhile).desk.handle .saveClicked with
  | error _ => rw [h] at hsent; cases hsent
  | ok q =>
    rw [h] at hsent
    obtain ⟨k, c⟩ := q
    cases hsent
    refine ⟨k, _, e, rfl, he, fun hw => ?_, by rw [hnew]; decide⟩
    simp only [noteSavedMeanwhile, noteChanged, List.cons_append, List.nil_append, met_cons] at hw
    rcases hw with ⟨_, _, _, hm, -, -, hn⟩ | ⟨_, _, _, -, -, hshown, -⟩ | ⟨_, _, _, hm, -, -, hn⟩ |
      ⟨_, _, _, hm, -, -, hn⟩ | ⟨_, _, _, hm, -⟩ | hw
    · cases hm; cases hn
    · -- the note was changed in the opening before
      exact absurd hshown (by decide +kernel)
    · cases hm; cases hn
    · cases hm; cases hn
    · cases hm
    · exact not_met_nil _ _ hw

end AckDesk.Flight
