import AckDesk.Proofs.Desk.Board
import AckDesk.Proofs.Flight.Sound
import Mathlib.Data.List.Forall2

/-!
# What the notices tell

A desk that gives notice of failures keeps on its board the latest of the failures since the user last took the
notices down, as many as there is room for (`Sound.tells`): one notice for each settlement of a failed call, in the
order of the settlements, with the kind of the call, the test name of the entry and the text of the failure
(`Notice.TellsOf`). A silent desk keeps nothing, and apart from the board it makes no difference to a run how failures
are reported (`run_withBoard`). `noticed_run` puts this together.
-/

namespace AckDesk

/-! ## The board -/

/-- The latest of the notices, as many as there is room for. -/
structure Notice.Latest (room : Nat) (queue ns : List Notice) : Prop where
  suffix : queue <:+ ns
  length : queue.length = min room ns.length

namespace NoticeBoard

/-- A new notice is the latest of all. -/
theorem latest_push {b : NoticeBoard} {ns : List Notice} (h : Notice.Latest b.capacity b.queue ns) (n : Notice) :
    Notice.Latest b.capacity (b.push n).queue (ns ++ [n]) where
  suffix := by
    obtain ⟨older, hold⟩ := h.suffix
    have hboth : b.queue ++ [n] <:+ ns ++ [n] := ⟨older, by rw [← List.append_assoc, hold]⟩
    exact (List.drop_suffix _ _).trans hboth
  length := by
    have hq := h.length
    rw [queue_push, lastOf, List.length_drop, List.length_append, List.length_append, List.length_singleton]
    omega

theorem told_of_silent {o : Options} (h : o.feedback = .silent) (b : NoticeBoard) (n : Notice) : b.told o n = b := by
  simp only [told, h]

theorem told_of_notice {o : Options} (h : o.feedback = .notice) (b : NoticeBoard) (n : Notice) :
    b.told o n = b.push n := by
  simp only [told, h]

end NoticeBoard

namespace Desk

variable {k : Desk} {s : Settlement}

theorem notices_settle_of_none (h : s.failure? = none) : (k.settle s).1.notices = k.notices := by
  cases s with
  | save i t r result =>
    cases result with
    | error f => cases h
    | ok key => cases he : k.entry? i <;> simp [settle, settleSave, he, replaceSaved, modifyEntry]
  | delete i key result =>
    cases result with
    | error f => cases h
    | ok _ => cases he : k.entry? i <;> simp [settle, settleDelete, he, removeEntry]

/-- The board is told of a failed call, under the test name of the entry. -/
theorem notices_settle {e : Entry} {f : Backend.Failure} (he : k.entry? s.call.entry = some e) (hc : s.call.Fits e)
    (hf : s.failure? = some f) :
    (k.settle s).1.notices = k.notices.told k.options ⟨s.call.noticeKind, e.record.testName, f.message⟩ := by
  cases s with
  | save i t r result =>
    change k.entry? i = some e at he
    cases result with
    | ok key => cases hf
    | error g =>
      obtain rfl := Option.some.inj hf
      have hname : r.testName = e.record.testName := hc.2.2
      simp only [settle, settleSave, he, hname]
      cases e.record.isDraft <;> exact notices_report ..
  | delete i key result =>
    change k.entry? i = some e at he
    cases result with
    | ok _ => cases hf
    | error g =>
      obtain rfl := Option.some.inj hf
      simp only [settle, settleDelete, he]
      exact notices_report ..

end Desk

/-! ## Failed settlements -/

namespace Flight

/-- The move as a failed settlement, if it settles a call in flight and the call failed. -/
def failed (f : Flight) : Move → List (Flight × Settlement)
  | .settle s => if s.call ∈ f.calls ∧ s.failure?.isSome then [(f, s)] else []
  | .event _ => []

/-- The failed settlements of a run, each with the flight in which it came. -/
def failures (f : Flight) : List Move → List (Flight × Settlement)
  | [] => []
  | m :: ms => f.failed m ++ (f.step m).failures ms

theorem failures_concat (f : Flight) (ms : List Move) (m : Move) :
    f.failures (ms ++ [m]) = f.failures ms ++ (f.run ms).failed m := by
  induction ms generalizing f with
  | nil => simp [failures, run]
  | cons n ms ih => rw [List.cons_append, failures, ih, failures, List.append_assoc]; rfl

end Flight

/-- The notice tells of a failed settlement: the kind of the call, the test name of the entry and what the backend
said. -/
def Notice.TellsOf (n : Notice) : Flight × Settlement → Prop
  | (g, s) => ∃ e f, g.desk.entry? s.call.entry = some e ∧ s.failure? = some f ∧
      n = ⟨s.call.noticeKind, e.record.testName, f.message⟩

namespace Flight

variable {f : Flight}

/-- A failed settlement is told to the board. -/
theorem Sound.notices_settle (h : f.Sound) {s : Settlement} (hs : s.call ∈ f.calls) :
    (f.failed (.settle s) = [] ∧ (f.desk.settle s).1.notices = f.desk.notices) ∨
    ∃ n, f.failed (.settle s) = [(f, s)] ∧ n.TellsOf (f, s) ∧
      (f.desk.settle s).1.notices = f.desk.notices.told f.desk.options n := by
  cases hf : s.failure? with
  | none =>
    left
    exact ⟨by simp [failed, hf], Desk.notices_settle_of_none hf⟩
  | some r =>
    right
    obtain ⟨e, he, hfits⟩ := h.exists_entry hs
    exact ⟨⟨s.call.noticeKind, e.record.testName, r.message⟩, by simp [failed, hs, hf], ⟨e, r, he, hf, rfl⟩,
      Desk.notices_settle he hfits hf⟩

/-- A move leaves the options and the size of the board. -/
theorem options_step (f : Flight) (m : Move) :
    (f.step m).desk.options = f.desk.options ∧ (f.step m).desk.notices.capacity = f.desk.notices.capacity := by
  rcases step_cases f m with ⟨hm, -⟩ | ⟨e, k, c, -, hh, hm⟩ | ⟨s, -, -, hm⟩
  · rw [hm]
    exact ⟨rfl, rfl⟩
  · obtain ⟨ho, hb⟩ := Desk.notices_handle hh
    rw [hm]
    refine ⟨ho, ?_⟩
    rw [hb]
    cases e <;> rfl
  · rw [hm]
    exact ⟨Desk.options_settle .., Desk.capacity_settle ..⟩

/-- A move that is no dismissal and no failed settlement leaves the board, and a failed settlement is told to it. -/
theorem Sound.notices_step (h : f.Sound) {m : Move} (hm : m ≠ .event .noticesDismissed) :
    (f.failed m = [] ∧ (f.step m).desk.notices = f.desk.notices) ∨
    ∃ p n, f.failed m = [p] ∧ n.TellsOf p ∧ (f.step m).desk.notices = f.desk.notices.told f.desk.options n := by
  rcases step_cases f m with ⟨hs, hnone⟩ | ⟨e, k, c, rfl, hh, hs⟩ | ⟨s, rfl, hc, hs⟩
  · left
    refine ⟨?_, by rw [hs]⟩
    cases m with
    | event e => rfl
    | settle s => simp [failed, hnone s rfl]
  · left
    rw [hs]
    have hb := (Desk.notices_handle hh).2
    refine ⟨rfl, hb.trans ?_⟩
    cases e <;> first | rfl | exact absurd rfl hm
  · rw [hs]
    exact (h.notices_settle hc).imp id fun ⟨n, hn⟩ => ⟨(f, s), n, hn⟩

theorem options_run (f : Flight) (ms : List Move) :
    (f.run ms).desk.options = f.desk.options ∧ (f.run ms).desk.notices.capacity = f.desk.notices.capacity := by
  induction ms using List.reverseRecOn with
  | nil => exact ⟨rfl, rfl⟩
  | append_singleton ms m ih =>
    obtain ⟨ho, hc⟩ := (f.run ms).options_step m
    rw [run_concat]
    exact ⟨ho.trans ih.1, hc.trans ih.2⟩

/-- The failures since the board was empty are told, the latest of them. -/
theorem Sound.tells (h : f.Sound) (ho : f.desk.options.feedback = .notice) (hq : f.desk.notices.queue = [])
    {ms : List Move} (hms : .event .noticesDismissed ∉ ms) :
    ∃ ns, List.Forall₂ Notice.TellsOf ns (f.failures ms) ∧
      Notice.Latest f.desk.notices.capacity (f.run ms).desk.notices.queue ns := by
  induction ms using List.reverseRecOn with
  | nil =>
    refine ⟨[], .nil, ?_⟩
    show Notice.Latest _ f.desk.notices.queue []
    rw [hq]
    exact ⟨List.suffix_rfl, by simp⟩
  | append_singleton ms m ih =>
    rw [List.mem_append, not_or] at hms
    obtain ⟨ns, hns, hlatest⟩ := ih hms.1
    obtain ⟨hopt, hcap⟩ := f.options_run ms
    have hm : m ≠ .event .noticesDismissed := fun hm => hms.2 (by simp [hm])
    rcases (h.run ms).notices_step hm with ⟨hf, hb⟩ | ⟨p, n, hf, hn, hb⟩
    · refine ⟨ns, ?_, ?_⟩
      · rw [failures_concat, hf, List.append_nil]
        exact hns
      · rw [run_concat, hb]
        exact hlatest
    · refine ⟨ns ++ [n], ?_, ?_⟩
      · rw [failures_concat, hf]
        exact List.rel_append hns (.cons hn .nil)
      · rw [run_concat, hb, NoticeBoard.told_of_notice (hopt ▸ ho)]
        rw [← hcap] at hlatest ⊢
        exact NoticeBoard.latest_push hlatest n

theorem notices_step_dismissed (f : Flight) :
    (f.step (.event .noticesDismissed)).desk.notices = f.desk.notices.clear := rfl

/-- Nothing is told to the board of a silent desk. -/
theorem Sound.silent (h : f.Sound) (ho : f.desk.options.feedback = .silent) (hq : f.desk.notices.queue = [])
    (ms : List Move) : (f.run ms).desk.notices.queue = [] := by
  induction ms using List.reverseRecOn with
  | nil => exact hq
  | append_singleton ms m ih =>
    obtain ⟨hopt, -⟩ := f.options_run ms
    rw [run_concat]
    by_cases hm : m = .event .noticesDismissed
    · rw [hm, notices_step_dismissed]
      rfl
    · rcases (h.run ms).notices_step hm with ⟨-, hb⟩ | ⟨p, n, -, -, hb⟩
      · rw [hb]
        exact ih
      · rw [hb, NoticeBoard.told_of_silent (hopt ▸ ho)]
        exact ih

/-! ## The rest of the desk -/

/-- The flight of the desk with other options and another board. -/
def withBoard (f : Flight) (o : Options) (b : NoticeBoard) : Flight := ⟨f.desk.withBoard o b, f.calls⟩

theorem step_withBoard (f : Flight) (o : Options) (b : NoticeBoard) (m : Move) :
    ∃ b', (f.withBoard o b).step m = (f.step m).withBoard o b' := by
  cases m with
  | event e =>
    have hw : (f.withBoard o b).desk.handle e = _ := f.desk.handle_withBoard o b e
    cases hh : f.desk.handle e with
    | error r => exact ⟨b, by simp only [step, hw, hh, Except.map]⟩
    | ok p => exact ⟨e.onBoard b, by simp only [step, hw, hh, Except.map]; rfl⟩
  | settle s =>
    obtain ⟨b', hb⟩ := f.desk.settle_withBoard o b s
    have hdesk : (f.withBoard o b).desk.settle s = _ := hb
    have hcalls : (f.withBoard o b).calls = f.calls := rfl
    by_cases hs : s.call ∈ f.calls
    · exact ⟨b', by simp only [step, hcalls, hdesk, if_pos hs]; rfl⟩
    · exact ⟨b, by simp only [step, hcalls, if_neg hs]⟩

/-- A run does the same at a desk with other options and another board. -/
theorem run_withBoard (f : Flight) (o : Options) (b : NoticeBoard) (ms : List Move) :
    ∃ b', (f.withBoard o b).run ms = (f.run ms).withBoard o b' := by
  induction ms using List.reverseRecOn with
  | nil => exact ⟨b, rfl⟩
  | append_singleton ms m ih =>
    obtain ⟨b', hb⟩ := ih
    obtain ⟨b'', hb'⟩ := (f.run ms).step_withBoard o b' m
    exact ⟨b'', by rw [run_concat, run_concat, hb, hb']⟩

/-! ## A run -/

/-- What stands on the board after a run over a page, and that nothing else depends on how failures are reported. -/
structure Noticed (p : Page) (o : Options) (ms : List Move) : Prop where
  /-- A desk that gives notice shows the latest failures since the last dismissal, or since the start. -/
  told : o.feedback = .notice → ∀ before after, ms = before ++ after →
    (before = [] ∨ before.getLast? = some (.event .noticesDismissed)) → .event .noticesDismissed ∉ after →
    ∃ ns, List.Forall₂ Notice.TellsOf ns (((start p o).run before).failures after) ∧
      Notice.Latest o.noticeCapacity ((start p o).run ms).desk.notices.queue ns
  /-- A silent desk shows none. -/
  silent : o.feedback = .silent → ((start p o).run ms).desk.notices.queue = []
  /-- Under other options the run comes to the same, apart from the options and the board. -/
  rest : ∀ o', ∃ b, (start p o').run ms = ((start p o).run ms).withBoard o' b

/-- **Notices**: after every run over a page the board tells the latest failures, and the rest of the desk does not
depend on it. -/
theorem noticed_run (p : Page) (o : Options) (ms : List Move) : Noticed p o ms where
  told := by
    rintro ho before after rfl hlast hafter
    obtain ⟨hopt, hcap⟩ := (start p o).options_run before
    have hempty : ((start p o).run before).desk.notices.queue = [] := by
      rcases hlast with rfl | hlast
      · rfl
      · obtain ⟨earlier, rfl⟩ := List.getLast?_eq_some_iff.1 hlast
        rw [run_concat, notices_step_dismissed]
        rfl
    have hroom : ((start p o).run before).desk.notices.capacity = o.noticeCapacity := hcap
    rw [run_append, ← hroom]
    exact (sound_run p o before).tells (hopt ▸ ho) hempty hafter
  silent := fun ho => (sound_start p o).silent ho rfl ms
  rest := fun o' => (start p o).run_withBoard o' { capacity := o'.noticeCapacity } ms

end Flight

end AckDesk
