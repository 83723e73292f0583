import AckDesk.Text.Lowercase
import Mathlib.Data.List.Basic

/-!
# The lowercase form of a part of a text

A text inside a larger text has its own lowercase form there, capital sigmas apart: they look over its ends for letters.
So the two forms are the same exactly where its sigmas end words as they do in the text alone (`sameWordEnds_iff`). Some
texts settle that for all their sigmas, and these are the texts whose form shows in every text in which they stand
(`settled_iff`): next to any other text, one letter is enough to hide it.

A lowercase text is its own lowercase form (`lowercase_lowercase`), because no run of the table leads into a run
(`avoids_lowercaseRuns`).
-/

namespace AckDesk.Text

/-! ## Looking for a letter -/

/-- Some character is not passed over, so what stands behind it is never looked at. -/
def blocks (cs : List Char) : Bool := cs.any (!caseIgnorable.contains ·)

section

variable {before after cs : List Char}

theorem facesLetter_cons (c : Char) (cs : List Char) :
    facesLetter (c :: cs) = if caseIgnorable.contains c then facesLetter cs else cased.contains c := by
  by_cases hc : caseIgnorable.contains c <;> simp [facesLetter, hc]

/-- Whether a letter follows is settled by the first part, if it blocks, and else by the second. -/
theorem facesLetter_append (cs ds : List Char) :
    facesLetter (cs ++ ds) = if blocks cs then facesLetter cs else facesLetter ds := by
  induction cs with
  | nil => rfl
  | cons c cs ih =>
    rw [List.cons_append, facesLetter_cons, facesLetter_cons, ih]
    by_cases hc : caseIgnorable.contains c <;> simp [blocks, hc]

theorem facesLetter_of_not_blocks (h : blocks cs = false) : facesLetter cs = false := by
  have hcs := facesLetter_append cs []
  rw [List.append_nil, h] at hcs
  exact hcs

/-- Whether a place between the two ends a word is settled: it is the same whatever stands around them. -/
def settles (before after : List Char) : Bool :=
  facesLetter after || blocks before && (blocks after || !facesLetter before)

/-- Where the surroundings settle whether a word ends, what stands beyond them makes no difference. -/
theorem isWordEnd_of_settles (h : settles before after = true) (x y : List Char) :
    isWordEnd (before ++ x) (after ++ y) = isWordEnd before after := by
  simp only [isWordEnd, facesLetter_append]
  cases hb : blocks before <;> cases ha : blocks after <;>
    simp_all [settles, facesLetter_of_not_blocks]

/-- A letter beside a place that is not settled decides: one before it makes it the end of a word, or one after it makes
it no end. -/
theorem isWordEnd_of_not_settles (h : settles before after = false) {x : List Char} (hx : facesLetter x = true) :
    isWordEnd before after = false ∧ isWordEnd (before ++ x) after = true ∨
      isWordEnd before after = true ∧ isWordEnd before (after ++ x) = false := by
  simp only [isWordEnd, facesLetter_append]
  cases hb : blocks before <;> cases ha : blocks after <;>
    simp_all [settles, facesLetter_of_not_blocks]

/-- More text before a place ends no word less. -/
theorem isWordEnd_append_left (h : isWordEnd before after = true) (x : List Char) :
    isWordEnd (before ++ x) after = true := by
  simp only [isWordEnd, facesLetter_append] at h ⊢
  cases hb : blocks before <;> simp_all [facesLetter_of_not_blocks]

/-- More text after a place ends no word more. -/
theorem isWordEnd_of_append_right {x : List Char} (h : isWordEnd before (after ++ x) = true) :
    isWordEnd before after = true := by
  simp only [isWordEnd, facesLetter_append] at h ⊢
  cases ha : blocks after <;> simp_all [facesLetter_of_not_blocks]

end

/-! ## Capital sigmas -/

/-- What stands before, nearest first, and after each capital sigma of `cs` has the property, `before` being what stands
before `cs`. -/
def AtSigmas (P : List Char → List Char → Prop) (before : List Char) : List Char → Prop
  | [] => True
  | c :: cs => (c = 'Σ' → P before cs) ∧ AtSigmas P (c :: before) cs

namespace AtSigmas

variable {P Q : List Char → List Char → Prop}

instance decidable [∀ b a, Decidable (P b a)] : (before cs : List Char) → Decidable (AtSigmas P before cs)
  | _, [] => .isTrue trivial
  | before, c :: cs =>
    have := decidable (c :: before) cs
    inferInstanceAs (Decidable (_ ∧ _))

theorem imp (hPQ : ∀ b a, P b a → Q b a) {before cs : List Char} (h : AtSigmas P before cs) :
    AtSigmas Q before cs := by
  induction cs generalizing before with
  | nil => trivial
  | cons c cs ih => exact ⟨fun hc => hPQ _ _ (h.1 hc), ih h.2⟩

theorem and {before cs : List Char} (hP : AtSigmas P before cs) (hQ : AtSigmas Q before cs) :
    AtSigmas (fun b a => P b a ∧ Q b a) before cs := by
  induction cs generalizing before with
  | nil => trivial
  | cons c cs ih => exact ⟨fun hc => ⟨hP.1 hc, hQ.1 hc⟩, ih hP.2 hQ.2⟩

theorem of_not_mem {before cs : List Char} (h : 'Σ' ∉ cs) : AtSigmas P before cs := by
  induction cs generalizing before with
  | nil => trivial
  | cons c cs ih =>
    rw [List.mem_cons, not_or] at h
    exact ⟨fun hc => absurd hc.symm h.1, ih h.2⟩

end AtSigmas

/-- The capital sigmas of `cs` end words between `before` and `after` exactly as they do in `cs` alone. -/
def SameWordEnds (before after cs : List Char) : Prop :=
  AtSigmas (fun b a => isWordEnd (b ++ before.reverse) (a ++ after) = isWordEnd b a) [] cs

/-- What stands around the capital sigmas of `cs` inside `cs` settles for each of them whether it ends a word. -/
def Settled (cs : List Char) : Prop := AtSigmas (fun b a => settles b a = true) [] cs

instance (cs : List Char) : Decidable (Settled cs) := AtSigmas.decidable [] cs

/-- In a settled text the final sigmas are the same wherever the text stands. -/
theorem Settled.sameWordEnds {cs : List Char} (h : Settled cs) (before after : List Char) :
    SameWordEnds before after cs :=
  h.imp fun _ _ hs => isWordEnd_of_settles hs before.reverse after

/-- A text is settled if a letter before it and a letter after it leave its word ends alone. -/
theorem settled_of_sameWordEnds {cs : List Char} {c : Char} (hc : facesLetter [c] = true)
    (hbefore : SameWordEnds [c] [] cs) (hafter : SameWordEnds [] [c] cs) : Settled cs := by
  refine (hbefore.and hafter).imp ?_
  rintro b a ⟨hb, ha⟩
  rw [List.append_nil] at hb
  rw [List.reverse_nil, List.append_nil] at ha
  by_contra hs
  rcases isWordEnd_of_not_settles (Bool.not_eq_true _ ▸ hs) hc with ⟨halone, h⟩ | ⟨halone, h⟩
  · rw [List.reverse_singleton, h, halone] at hb
    cases hb
  · rw [h, halone] at ha
    cases ha

/-! ## A part of a text -/

/-- The lowercase form of a capital sigma. -/
def sigmaForm (ends : Bool) : Char := if ends then 'ς' else 'σ'

theorem sigmaForm_inj {e f : Bool} : sigmaForm e = sigmaForm f ↔ e = f := by
  cases e <;> cases f <;> decide

/-- The lowercase form of `cs` between the characters `before`, nearest first, and `after`. -/
def lowercaseWithin (before after : List Char) : List Char → List Char
  | [] => []
  | c :: cs =>
    (if c = 'Σ' then [sigmaForm (isWordEnd before (cs ++ after))] else lowerChar c) ++
      lowercaseWithin (c :: before) after cs

theorem lowercaseAfter_append (before cs ds : List Char) :
    lowercaseAfter before (cs ++ ds) = lowercaseWithin before ds cs ++ lowercaseAfter (cs.reverse ++ before) ds := by
  induction cs generalizing before with
  | nil => rfl
  | cons c cs ih =>
    rw [List.cons_append, lowercaseAfter, ih, lowercaseWithin, List.reverse_cons, List.append_assoc, List.append_assoc]
    rfl

theorem lowercaseWithin_nil (before cs : List Char) : lowercaseWithin before [] cs = lowercaseAfter before cs := by
  have h := lowercaseAfter_append before cs []
  rw [List.append_nil, lowercaseAfter, List.append_nil] at h
  exact h.symm

section

variable {b a b' a' : List Char}

/-- Two surroundings give `cs` one lowercase form exactly if its capital sigmas end words alike in both. -/
theorem lowercaseWithin_eq_iff (before cs : List Char) :
    lowercaseWithin (before ++ b) a cs = lowercaseWithin (before ++ b') a' cs ↔
      AtSigmas (fun u v => isWordEnd (u ++ b) (v ++ a) = isWordEnd (u ++ b') (v ++ a')) before cs := by
  induction cs generalizing before with
  | nil => simp [AtSigmas, lowercaseWithin]
  | cons c cs ih =>
    rw [AtSigmas, ← ih (c :: before), lowercaseWithin, lowercaseWithin]
    by_cases hc : c = 'Σ'
    · simp [hc, sigmaForm_inj]
    · simp [hc]

theorem count_sigmaForm {e e' f : Bool} (h : e = f → e' = f) :
    [sigmaForm e].count (sigmaForm f) ≤ [sigmaForm e'].count (sigmaForm f) ∧
      ([sigmaForm e'].count (sigmaForm f) ≤ [sigmaForm e].count (sigmaForm f) → e = e') := by
  revert e e' f
  decide

/-- If the capital sigmas that have one of the two forms between `b` and `a` have it between `b'` and `a'` too, then it
is there at least as often, and no more often only if the lowercase forms are the same. -/
theorem count_lowercaseWithin {f : Bool}
    (h : ∀ u v, isWordEnd (u ++ b) (v ++ a) = f → isWordEnd (u ++ b') (v ++ a') = f) (before cs : List Char) :
    (lowercaseWithin (before ++ b) a cs).count (sigmaForm f) ≤
        (lowercaseWithin (before ++ b') a' cs).count (sigmaForm f) ∧
      ((lowercaseWithin (before ++ b') a' cs).count (sigmaForm f) ≤
          (lowercaseWithin (before ++ b) a cs).count (sigmaForm f) →
        lowercaseWithin (before ++ b) a cs = lowercaseWithin (before ++ b') a' cs) := by
  induction cs generalizing before with
  | nil => simp [lowercaseWithin]
  | cons c cs ih =>
    obtain ⟨hle, heq⟩ := ih (c :: before)
    simp only [List.cons_append] at hle heq
    simp only [lowercaseWithin, List.count_append]
    by_cases hc : c = 'Σ'
    · obtain ⟨hle', heq'⟩ := count_sigmaForm (h before cs)
      rw [if_pos hc, if_pos hc]
      refine ⟨Nat.add_le_add hle' hle, fun hcount => ?_⟩
      rw [heq' (by omega), heq (by omega)]
    · rw [if_neg hc, if_neg hc]
      exact ⟨Nat.add_le_add_left hle _, fun hcount => by rw [heq (by omega)]⟩

end

/-- The final sigmas of a text are the same in its place exactly when it is lowercased there as it is alone. -/
theorem sameWordEnds_iff {before after cs : List Char} :
    SameWordEnds before after cs ↔ lowercaseWithin before.reverse after cs = lowercaseAfter [] cs := by
  have h : lowercaseWithin ([] ++ before.reverse) after cs = lowercaseWithin ([] ++ []) [] cs ↔ _ :=
    lowercaseWithin_eq_iff [] cs
  simp only [List.nil_append, List.append_nil, lowercaseWithin_nil] at h
  exact h.symm

/-- The lowercase of a text is made up of those of its parts, each in its place. -/
theorem lowercaseAfter_append_append (before cs after : List Char) :
    lowercaseAfter [] (before ++ cs ++ after) = lowercaseWithin [] (cs ++ after) before ++
      lowercaseWithin before.reverse after cs ++ lowercaseAfter (cs.reverse ++ before.reverse) after := by
  rw [List.append_assoc, lowercaseAfter_append, lowercaseAfter_append, List.append_nil, List.append_assoc]

/-- Where its word ends are the same, the lowercase form of a part stands in that of the text. -/
theorem SameWordEnds.isInfix {before after cs : List Char} (h : SameWordEnds before after cs) :
    lowercaseAfter [] cs <:+: lowercaseAfter [] (before ++ cs ++ after) := by
  rw [lowercaseAfter_append_append, sameWordEnds_iff.1 h]
  exact ⟨_, _, rfl⟩

/-! ## The texts that always keep their form -/

/-- If the capital sigmas with one of the two forms have it in the text alone as well, and these have not become fewer,
the word ends are the same. -/
theorem sameWordEnds_of_count {before after cs : List Char} {f : Bool}
    (hends : ∀ u v, isWordEnd (u ++ before.reverse) (v ++ after) = f → isWordEnd u v = f)
    (hcount : (lowercaseAfter [] cs).count (sigmaForm f) ≤
      (lowercaseWithin before.reverse after cs).count (sigmaForm f)) : SameWordEnds before after cs := by
  have hends' : ∀ u v, isWordEnd (u ++ before.reverse) (v ++ after) = f → isWordEnd (u ++ []) (v ++ []) = f := by
    simpa only [List.append_nil] using hends
  rw [← lowercaseWithin_nil] at hcount
  rw [sameWordEnds_iff, ← lowercaseWithin_nil]
  exact (count_lowercaseWithin hends' [] cs).2 hcount

/-- A letter before a text hides its lowercase form unless it leaves the word ends alone. -/
theorem sameWordEnds_of_infix_cons {cs : List Char} (h : lowercaseAfter [] cs <:+: lowercaseAfter [] ('a' :: cs)) :
    SameWordEnds ['a'] [] cs := by
  have hcs : lowercaseAfter [] ('a' :: cs) = ['a'] ++ lowercaseWithin ['a'] [] cs := by
    rw [lowercaseWithin_nil]
    rfl
  have hcount := h.sublist.count_le (sigmaForm false)
  rw [hcs, List.count_append, List.count_eq_zero_of_not_mem (l := ['a']) (by decide), Nat.zero_add] at hcount
  refine sameWordEnds_of_count ?_ hcount
  intro u v huv
  by_contra hend
  rw [List.append_nil, isWordEnd_append_left (Bool.not_eq_false _ ▸ hend)] at huv
  cases huv

/-- A letter after a text hides its lowercase form unless it leaves the word ends alone. -/
theorem sameWordEnds_of_infix_concat {cs : List Char} (h : lowercaseAfter [] cs <:+: lowercaseAfter [] (cs ++ ['a'])) :
    SameWordEnds [] ['a'] cs := by
  have hcs : lowercaseAfter [] (cs ++ ['a']) = lowercaseWithin [] ['a'] cs ++ ['a'] := lowercaseAfter_append [] cs ['a']
  have hcount := h.sublist.count_le (sigmaForm true)
  rw [hcs, List.count_append, List.count_eq_zero_of_not_mem (l := ['a']) (by decide), Nat.add_zero] at hcount
  refine sameWordEnds_of_count ?_ hcount
  intro u v huv
  rw [List.reverse_nil, List.append_nil] at huv
  exact isWordEnd_of_append_right huv

/-- The settled texts are those whose lowercase form stands in that of every text in which they stand. -/
theorem settled_iff {cs : List Char} :
    Settled cs ↔ ∀ ds, cs <:+: ds → lowercaseAfter [] cs <:+: lowercaseAfter [] ds := by
  constructor
  · rintro h _ ⟨before, after, rfl⟩
    exact (h.sameWordEnds before after).isInfix
  · intro h
    refine settled_of_sameWordEnds (c := 'a') (by decide +kernel) ?_ ?_
    · exact sameWordEnds_of_infix_cons (h _ (List.suffix_cons 'a' cs).isInfix)
    · exact sameWordEnds_of_infix_concat (h _ (List.prefix_append cs ['a']).isInfix)

/-! ## Lowercase texts -/

namespace CaseRun

/-- No lowercase form of the first run is a letter of the second: the runs lie apart, or their letters alternate. -/
def avoids (r r' : CaseRun) : Bool :=
  (r.target + (r.last - r.first)).blt r'.first || r'.last.blt r.target ||
    (r.step == 2 || r.first == r.last) && r'.step == 2 && (r.target + r'.first) % 2 == 1

/-- The lowercase forms of the run are characters. -/
def isValid (r : CaseRun) : Bool :=
  r.target + (r.last - r.first) < 0xD800 || 0xDFFF < r.target && r.target + (r.last - r.first) < 0x110000

theorem lower?_eq_none_of_avoids {r r' : CaseRun} {c d : Char} (hr : r.isValid = true) (hc : r.lower? c = some d)
    (h : r.avoids r' = true) : r'.lower? d = none := by
  simp only [isValid, Bool.or_eq_true, Bool.and_eq_true, decide_eq_true_eq] at hr
  simp only [avoids, Bool.or_eq_true, Bool.and_eq_true, Nat.blt_eq, beq_iff_eq] at h
  unfold lower? at hc
  split at hc
  · rename_i hin
    have hd : d.toNat = r.target + (c.toNat - r.first) := by
      rw [← Option.some.inj hc, Char.ofNat, dif_pos (by simp only [Nat.isValidChar]; omega)]
      rfl
    refine if_neg ?_
    rintro ⟨hfirst, hlast, hstep⟩
    rcases h with (h | h) | ⟨⟨h | h, h'⟩, hodd⟩
    · omega
    · omega
    · rw [h] at hin
      rw [h'] at hstep
      omega
    · rw [h'] at hstep
      omega
  · cases hc

end CaseRun

/-- The dotted capital I, whose lowercase form is no run's, as a run of its own. -/
def dottedRun : CaseRun := ⟨0x130, 0x130, 1, 0x69⟩

/-- The runs lead out of all runs. -/
theorem avoids_lowercaseRuns : ∀ r ∈ lowercaseRuns, r.isValid = true ∧
    (dottedRun :: lowercaseRuns).all r.avoids = true := by
  decide +kernel

theorem lowerChar_of_runs {c : Char} (h : ∀ r ∈ dottedRun :: lowercaseRuns, r.lower? c = none) :
    lowerChar c = [c] := by
  have hdotted : c ≠ 'İ' := by
    rintro rfl
    exact absurd (h dottedRun List.mem_cons_self) (by decide)
  rw [lowerChar, if_neg hdotted, List.findSome?_eq_none_iff.2 fun r hr => h r (List.mem_cons_of_mem _ hr)]
  rfl

/-- The characters of a lowercase form are their own lowercase forms. -/
theorem lowerChar_of_mem_lowerChar {c d : Char} (h : d ∈ lowerChar c) : lowerChar d = [d] := by
  unfold lowerChar at h
  split at h
  · simp only [List.mem_cons, List.not_mem_nil, or_false] at h
    rcases h with rfl | rfl <;> decide +kernel
  · rename_i hdotted
    obtain rfl := List.mem_singleton.1 h
    cases hrun : lowercaseRuns.findSome? (·.lower? c) with
    | none =>
      rw [Option.getD_none, lowerChar, if_neg hdotted, hrun]
      rfl
    | some d =>
      obtain ⟨r, hr, hc⟩ := List.exists_of_findSome?_eq_some hrun
      obtain ⟨hvalid, havoids⟩ := avoids_lowercaseRuns r hr
      exact lowerChar_of_runs fun r' hr' =>
        CaseRun.lower?_eq_none_of_avoids hvalid hc (List.all_eq_true.1 havoids r' hr')

/-- The characters of a lowercase text are lowercase already. -/
theorem lowerChar_of_mem {before cs : List Char} {d : Char} (h : d ∈ lowercaseAfter before cs) :
    lowerChar d = [d] := by
  induction cs generalizing before with
  | nil => cases h
  | cons c cs ih =>
    rw [lowercaseAfter, List.mem_append] at h
    rcases h with h | h
    · split at h
      · obtain rfl := List.mem_singleton.1 h
        cases isWordEnd before cs <;> decide +kernel
      · exact lowerChar_of_mem_lowerChar h
    · exact ih h

theorem lowercaseAfter_eq_self {cs : List Char} (h : ∀ c ∈ cs, lowerChar c = [c]) (before : List Char) :
    lowercaseAfter before cs = cs := by
  induction cs generalizing before with
  | nil => rfl
  | cons c cs ih =>
    obtain ⟨hc, hcs⟩ := List.forall_mem_cons.1 h
    have hsigma : c ≠ 'Σ' := by
      rintro rfl
      exact absurd hc (by decide +kernel)
    rw [lowercaseAfter, if_neg hsigma, hc, ih hcs]
    rfl

/-- A lowercase text is its own lowercase form. -/
theorem lowercase_lowercase (s : String) : lowercase (lowercase s) = lowercase s := by
  unfold lowercase
  rw [String.toList_ofList, lowercaseAfter_eq_self fun _ => lowerChar_of_mem]

/-- Only the empty text has an empty lowercase. -/
theorem lowercase_ne_empty {s : String} (h : s ≠ "") : lowercase s ≠ "" := by
  intro hempty
  have hs : lowercaseAfter [] s.toList = [] := by simpa [lowercase] using congrArg String.toList hempty
  cases hcs : s.toList with
  | nil => exact h (String.toList_eq_nil_iff.1 hcs)
  | cons c cs =>
    rw [hcs, lowercaseAfter, List.append_eq_nil_iff] at hs
    have hhead := hs.1
    unfold lowerChar at hhead
    split at hhead
    · cases hhead
    · split at hhead <;> cases hhead

end AckDesk.Text
