import AckDesk.Proofs.Json.Members
import AckDesk.Proofs.Json.Printing
import AckDesk.Record.Json

/-!
# Records as they are read

Which JSON texts are read as a record (`reads_tolerantly`).

- An object that `Describes` the record: its members in any order, each at most once, with empty ones left out or
  written as null, and members of other names anywhere between them.
- A list of the members' values in their order.
- No object without a test name, and none with a member of the record twice.

While an object is read the record is built up member by member: `r.upTo seen` is what there is of it once the
members `seen` have been there, and each further member takes it one name on (`exists_member`).
-/

namespace AckDesk.Record

open Json (IsText Member Reader Shape Tree Value)

/-! ## Texts of a record -/

/-- A string as it is written. -/
def textTree (s : String) : Tree := .string (some s)

/-- A string, or null where there is none. -/
def optionalTree : Option String → Tree
  | none => .null
  | some s => textTree s

def textsTree (ss : List String) : Tree := .list (ss.map textTree)

/-- The members of the record, in the order in which they are declared. -/
def members (r : Record) : List (String × Tree) := [
  ("key", optionalTree (r.key.map Key.text)),
  ("testName", textTree r.testName),
  ("branches", textsTree r.scope.branches),
  ("devices", textsTree r.scope.devices),
  ("testCaseNames", textsTree r.scope.testCases),
  ("note", optionalTree r.note)]

def memberNames : List String := ["key", "testName", "branches", "devices", "testCaseNames", "note"]

/-- The value of a member that may be missing: no key, no note, or a dimension without limits. -/
def IsEmpty (t : Tree) : Prop := t = .null ∨ t = .list []

/-- What may stand in the place of a member's value: the value, or null if it is empty. -/
def Stands (u t : Tree) : Prop := u = t ∨ IsEmpty t ∧ u = .null

/-- An object's members are those of the record, in any order. -/
structure Describes (r : Record) (ms : List (Option String × Tree)) : Prop where
  /-- A member stands for one of the record's, or has another name. -/
  each : ∀ m ∈ ms, (∃ name t, (name, t) ∈ r.members ∧ m.1 = some name ∧ Stands m.2 t) ∨
    ∃ name, name ∉ memberNames ∧ m.1 = some name
  /-- None of the record's members is repeated. -/
  once : ∀ name ∈ memberNames, (ms.map Prod.fst).count (some name) ≤ 1
  /-- Only empty ones are left out. -/
  complete : ∀ m ∈ r.members, some m.1 ∈ ms.map Prod.fst ∨ IsEmpty m.2

/-! ## Values of the members -/

theorem not_isEmpty_textTree (s : String) : ¬IsEmpty (textTree s) := by
  rintro (h | h) <;> cases h

/-- An optional text that may be left out is an absent one. -/
theorem eq_none_of_isEmpty {o : Option String} (h : IsEmpty (optionalTree o)) : o = none := by
  cases o with
  | none => rfl
  | some s => exact absurd h (not_isEmpty_textTree s)

/-- A list that may be left out is an empty one. -/
theorem eq_nil_of_isEmpty {ss : List String} (h : IsEmpty (textsTree ss)) : ss = [] := by
  rcases h with h | h
  · cases h
  · simpa [textsTree] using h

/-- An optional text is read from its tree, or from null in its place. -/
theorem reads_optional {u : Tree} {o : Option String} (h : Stands u (optionalTree o)) :
    Reader.string.nullable.Reads u o := by
  have hu : u = optionalTree o := by
    rcases h with rfl | ⟨ho, rfl⟩
    · rfl
    · rw [eq_none_of_isEmpty ho]
      rfl
  subst hu
  cases o with
  | none => exact Reader.reads_null _
  | some s => exact (Reader.reads_string s).nullable (by rintro ⟨⟩)

theorem reads_texts (ss : List String) : Reader.string.list.Reads (textsTree ss) ss := by
  refine Reader.Reads.list ?_
  induction ss with
  | nil => exact .nil
  | cons s ss ih => exact .cons (Reader.reads_string s) ih

/-- A list of texts is read from its tree, or as the empty list from null in its place. -/
theorem exists_reads_texts {u : Tree} {ss : List String} (h : Stands u (textsTree ss)) :
    ∃ o : Option (List String), Reader.string.list.nullable.Reads u o ∧ o.getD [] = ss := by
  rcases h with rfl | ⟨hs, rfl⟩
  · exact ⟨some ss, (reads_texts ss).nullable (by rintro ⟨⟩), rfl⟩
  · exact ⟨none, Reader.reads_null _, (eq_nil_of_isEmpty hs).symm⟩

/-! ## Member by member -/

/-- What there is of the record once the members `seen` have been there. -/
def upTo (r : Record) (seen : List String) : Record where
  key := if "key" ∈ seen then r.key else none
  testName := if "testName" ∈ seen then r.testName else ""
  scope.branches := if "branches" ∈ seen then r.scope.branches else []
  scope.devices := if "devices" ∈ seen then r.scope.devices else []
  scope.testCases := if "testCaseNames" ∈ seen then r.scope.testCases else []
  note := if "note" ∈ seen then r.note else none

/-- Nothing is missing of a record of which only empty members have not been there. -/
theorem upTo_eq_self {r : Record} {seen : List String} (h : ∀ m ∈ r.members, m.1 ∈ seen ∨ IsEmpty m.2) :
    r.upTo seen = r := by
  simp only [members, List.forall_mem_cons] at h
  obtain ⟨hkey, hname, hbranches, hdevices, hcases, hnote, -⟩ := h
  have hk : (if "key" ∈ seen then r.key else none) = r.key := by
    split
    · rfl
    · exact (Option.map_eq_none_iff.1 (eq_none_of_isEmpty (hkey.resolve_left ‹_›))).symm
  have hs : (if "testName" ∈ seen then r.testName else "") = r.testName :=
    if_pos (hname.resolve_right (not_isEmpty_textTree _))
  have hn : (if "note" ∈ seen then r.note else none) = r.note := by
    split
    · rfl
    · exact (eq_none_of_isEmpty (hnote.resolve_left ‹_›)).symm
  have hd {name : String} {ss : List String} (h : name ∈ seen ∨ IsEmpty (textsTree ss)) :
      (if name ∈ seen then ss else []) = ss := by
    split
    · rfl
    · exact (eq_nil_of_isEmpty (h.resolve_left ‹_›)).symm
  simp only [upTo, hk, hs, hn, hd hbranches, hd hdevices, hd hcases]

theorem upTo_dimension (r : Record) (d : Dimension) (seen : List String) :
    { r.upTo seen with scope := (r.upTo seen).scope.set d (r.scope.get d) } = r.upTo (d.fieldName :: seen) := by
  cases d <;> simp [upTo, Scoped.set, Scoped.get, Dimension.fieldName]

/-- The member takes what there is of the record one name on. -/
def Takes (r : Record) (name : String) (u : Tree) : Prop :=
  ∃ m f, shape.member? name = some m ∧ m.reader.Reads u f ∧ ∀ seen, f (r.upTo seen) = r.upTo (name :: seen)

/-- A dimension's member is taken into the record. -/
theorem takes_dimension {r : Record} {u : Tree} (d : Dimension) (hu : Stands u (textsTree (r.scope.get d))) :
    r.Takes d.fieldName u := by
  obtain ⟨o, ho, hs⟩ := exists_reads_texts hu
  have hm : shape.member? d.fieldName = some (scopeMember d) := by cases d <;> rfl
  have hr := ho.map fun vs (a : Record) => { a with scope := a.scope.set d (vs.getD []) }
  exact ⟨_, _, hm, hr, fun seen => by rw [← upTo_dimension, hs]⟩

/-- Whatever stands for a member takes what there is of the record one name on. -/
theorem takes_of_stands {r : Record} {name : String} {t u : Tree} (ht : (name, t) ∈ r.members) (hu : Stands u t) :
    r.Takes name u := by
  simp only [members, List.mem_cons, Prod.mk.injEq, List.not_mem_nil, or_false] at ht
  rcases ht with ⟨rfl, rfl⟩ | ⟨rfl, rfl⟩ | ⟨rfl, rfl⟩ | ⟨rfl, rfl⟩ | ⟨rfl, rfl⟩ | ⟨rfl, rfl⟩
  · have hk : (r.key.map Key.text).map Key.mk = r.key := by cases r.key <;> rfl
    have hr := (reads_optional hu).map fun k (a : Record) => { a with key := k.map Key.mk }
    exact ⟨_, _, rfl, hr, fun seen => by simp [upTo, hk]⟩
  · obtain rfl : u = textTree r.testName := hu.resolve_right fun h => not_isEmpty_textTree _ h.1
    have hr := (Reader.reads_string r.testName).map fun s (a : Record) => { a with testName := s }
    exact ⟨_, _, rfl, hr, fun seen => by simp [upTo]⟩
  · exact takes_dimension .branches hu
  · exact takes_dimension .devices hu
  · exact takes_dimension .testCases hu
  · have hr := (reads_optional hu).map fun n (a : Record) => { a with note := n }
    exact ⟨_, _, rfl, hr, fun seen => by simp [upTo]⟩

/-- Only the names of members are known, and all others are skipped. -/
theorem member?_eq_none {name : String} (h : name ∉ memberNames) : shape.member? name = none := by
  simp only [memberNames, List.mem_cons, List.not_mem_nil, or_false, not_or] at h
  simp [Shape.member?, shape, scopeMember, Dimension.fieldName, Ne.symm, h]

theorem mem_memberNames {r : Record} {m : String × Tree} (h : m ∈ r.members) : m.1 ∈ memberNames :=
  List.mem_map_of_mem (f := Prod.fst) h

/-- The members describe what there is not yet of the record once the members `seen` have been there. -/
structure Completes (r : Record) (seen : List String) (ms : List (Option String × Tree)) : Prop where
  each : ∀ m ∈ ms, (∃ name t, (name, t) ∈ r.members ∧ m.1 = some name ∧ Stands m.2 t) ∨
    ∃ name, name ∉ memberNames ∧ m.1 = some name
  once : ∀ name ∈ memberNames, (ms.map Prod.fst).count (some name) ≤ 1
  fresh : ∀ name ∈ seen, some name ∉ ms.map Prod.fst
  complete : ∀ m ∈ r.members, m.1 ∈ seen ∨ some m.1 ∈ ms.map Prod.fst ∨ IsEmpty m.2

/-- Members that describe a record complete it from nothing. -/
theorem Describes.completes {r : Record} {ms : List (Option String × Tree)} (h : r.Describes ms) :
    r.Completes [] ms :=
  ⟨h.each, h.once, by simp, fun m hm => .inr (h.complete m hm)⟩

section

variable {r : Record} {seen : List String} {name : String} {u : Tree} {ms : List (Option String × Tree)}

theorem Completes.once_tail (h : r.Completes seen ((some name, u) :: ms)) :
    ∀ name ∈ memberNames, (ms.map Prod.fst).count (some name) ≤ 1 :=
  fun name hn => Nat.le_trans List.count_le_count_cons (h.once name hn)

/-- Behind one of its own members the rest of the record is described. -/
theorem Completes.known (h : r.Completes seen ((some name, u) :: ms)) (hn : name ∈ memberNames) :
    r.Completes (name :: seen) ms where
  each := (List.forall_mem_cons.1 h.each).2
  once := h.once_tail
  fresh := by
    refine List.forall_mem_cons.2 ⟨?_, fun name' hn' hm => h.fresh name' hn' (List.mem_cons_of_mem _ hm)⟩
    have hcount := h.once name hn
    simp only [List.map_cons, List.count_cons_self] at hcount
    exact List.count_eq_zero.1 (by omega)
  complete m hm := by
    rcases h.complete m hm with hs | hs | hs
    · exact .inl (List.mem_cons_of_mem _ hs)
    · rcases List.mem_cons.1 hs with hs | hs
      · exact .inl (List.mem_cons.2 (.inl (Option.some.inj hs)))
      · exact .inr (.inl hs)
    · exact .inr (.inr hs)

/-- A member of another name describes nothing. -/
theorem Completes.other (h : r.Completes seen ((some name, u) :: ms)) (hn : name ∉ memberNames) :
    r.Completes seen ms where
  each := (List.forall_mem_cons.1 h.each).2
  once := h.once_tail
  fresh name' hn' hm := h.fresh name' hn' (List.mem_cons_of_mem _ hm)
  complete m hm := by
    refine (h.complete m hm).imp_right (Or.imp_left fun hs => ?_)
    rcases List.mem_cons.1 hs with hs | hs
    · exact absurd (Option.some.inj hs ▸ mem_memberNames hm) hn
    · exact hs

end

/-- Members that describe what there is not yet of the record build the rest of it. -/
theorem Completes.builds {r : Record} {ms : List (Option String × Tree)} {seen : List String}
    (h : r.Completes seen ms) : shape.Builds seen (r.upTo seen) ms r := by
  induction ms generalizing seen with
  | nil =>
    have hleft : ∀ m ∈ r.members, m.1 ∈ seen ∨ IsEmpty m.2 := by simpa using h.complete
    have hname : "testName" ∈ seen :=
      (hleft ("testName", textTree r.testName) (by simp [members])).resolve_right (not_isEmpty_textTree _)
    rw [upTo_eq_self hleft]
    exact .nil (by simp [Shape.missing?, shape, scopeMember, hname])
  | cons m ms ih =>
    obtain ⟨key, u⟩ := m
    rcases h.each _ List.mem_cons_self with ⟨name, t, ht, rfl, hu⟩ | ⟨name, hn, rfl⟩
    · obtain ⟨m, f, hm, hr, hf⟩ := takes_of_stands ht hu
      have hfresh : name ∉ seen := fun hs => h.fresh name hs List.mem_cons_self
      refine .known hm hfresh hr ?_
      rw [hf]
      exact ih (h.known (mem_memberNames ht))
    · exact .other (member?_eq_none hn) (ih (h.other hn))

/-- An object that describes the record is read as the record, wherever it stands. -/
theorem Describes.reads {r : Record} {ms : List (Option String × Tree)} (h : r.Describes ms) :
    shape.reader.Reads (.object ms) r :=
  h.completes.builds.reads_object

/-! ## Lists of the members' values -/

/-- Values that stand for the members take what there is of the record to its end. -/
theorem lists_upTo {r : Record} {ms : List (Member Record)} {fields : List (String × Tree)} {us : List Tree}
    (seen : List String) (hms : List.Forall₂ (fun m field => shape.member? field.1 = some m) ms fields)
    (hf : ∀ field ∈ fields, field ∈ r.members) (hu : List.Forall₂ Stands us (fields.map Prod.snd)) :
    Shape.Lists ms us (r.upTo seen) (r.upTo ((fields.map Prod.fst).reverse ++ seen)) := by
  induction hms generalizing us seen with
  | nil =>
    cases hu
    exact .nil
  | @cons m field ms fields hm _ ih =>
    obtain ⟨name, t⟩ := field
    cases hu with
    | cons hu hus =>
      obtain ⟨m', f, hm', hr, hfs⟩ := takes_of_stands (hf _ List.mem_cons_self) hu
      obtain rfl : m' = m := Option.some.inj (hm'.symm.trans hm)
      refine .cons hr ?_
      rw [hfs]
      simpa using ih (name :: seen) (fun field h => hf field (List.mem_cons_of_mem _ h)) hus

/-- A list of values that stand for the members is read as the record, wherever it stands. -/
theorem reads_values {r : Record} {us : List Tree} (hu : List.Forall₂ Stands us (r.members.map Prod.snd)) :
    shape.reader.Reads (.list us) r := by
  have hms : List.Forall₂ (fun m field => shape.member? field.1 = some m) shape.members r.members :=
    .cons rfl (.cons rfl (.cons rfl (.cons rfl (.cons rfl (.cons rfl .nil)))))
  have hl := lists_upTo [] hms (fun _ h => h) hu
  have hend : r.upTo ((r.members.map Prod.fst).reverse ++ []) = r := upTo_eq_self fun m hm =>
    .inl (by simpa using List.mem_map_of_mem (f := Prod.fst) hm)
  rw [hend] at hl
  exact hl.reads_list

/-! ## Objects that are refused -/

/-- The reader of each member is exact, so that a record ends where its text does. -/
theorem exact_reader : ∀ m ∈ shape.members, m.reader.Exact := by
  have hoptional : Reader.string.nullable.Exact := Reader.exact_string.nullable
  have hlist (d : Dimension) : (scopeMember d).reader.Exact := by
    dsimp only [scopeMember]
    exact Reader.exact_string.list.nullable.map _
  simp only [shape, List.forall_mem_cons]
  exact ⟨hoptional.map _, Reader.exact_string.map _, hlist _, hlist _, hlist _, hoptional.map _, by simp⟩

/-- An object without a test name, or with a member of the record twice, is refused. -/
theorem ofJson_refused {ms : List (Option String × Tree)} {text : String} (ht : IsText (.object ms) text)
    (h : some "testName" ∉ ms.map Prod.fst ∨ ∃ name ∈ memberNames, 2 ≤ (ms.map Prod.fst).count (some name)) :
    ∃ e, ofJson text = .error e := by
  cases hr : ofJson text with
  | error e => exact ⟨e, rfl⟩
  | ok r =>
    have ha := Shape.admits_of_whole exact_reader ht hr
    exfalso
    rcases h with h | ⟨name, hn, h⟩
    · have hreq := ha.required _ (List.mem_cons_of_mem _ List.mem_cons_self) rfl
      exact h (hreq.resolve_left (by simp))
    · obtain ⟨m, hm, rfl⟩ : ∃ m ∈ shape.members, m.name = name := by
        have : memberNames = shape.members.map (·.name) := rfl
        simpa [this] using hn
      have := ha.once m hm
      simp only [List.count_nil] at this
      omega

/-! ## What is read as a record -/

/-- A text of the record's members in any order, or of their values in the order of the members, is read as the
record; an object without a test name or with a member twice is not read at all. -/
theorem reads_tolerantly (r : Record) (text : String) :
    (∀ ms, IsText (.object ms) text → r.Describes ms → ofJson text = .ok r) ∧
    (∀ us, IsText (.list us) text → List.Forall₂ Stands us (r.members.map Prod.snd) → ofJson text = .ok r) ∧
    ∀ ms, IsText (.object ms) text →
      (some "testName" ∉ ms.map Prod.fst ∨ ∃ name ∈ memberNames, 2 ≤ (ms.map Prod.fst).count (some name)) →
      ∃ e, ofJson text = .error e :=
  ⟨fun _ ht h => h.reads.whole_eq ht, fun _ ht h => (reads_values h).whole_eq ht, fun _ ht h => ofJson_refused ht h⟩

/-- A stored record with two branches and a note. -/
def twoBranchesAndNote : Record := ⟨some ⟨"k1"⟩, "t", ⟨["main", "beta"], [], []⟩, some "n"⟩

/-- The members are in another order, one is null, one is left out, and one is of another name. -/
theorem reads_tolerantly_twoBranchesAndNote :
    ofJson (Value.object [("note", .string "n"), ("branches", .strings ["main", "beta"]), ("devices", .null),
          ("seen", .list [.bool true, .object []]), ("testName", .string "t"), ("key", .string "k1")]).text =
        .ok twoBranchesAndNote ∧
      ofJson (Value.list [.string "k1", .string "t", .strings ["main", "beta"], .list [], .null, .string "n"]).text =
        .ok twoBranchesAndNote ∧
      ∃ e, ofJson (Value.object [("key", .string "k1"), ("testName", .string "t"), ("testName", .string "t")]).text =
        .error e := by
  refine ⟨(reads_tolerantly twoBranchesAndNote _).1 _ (Value.isText_text (.object _)) ?_,
    (reads_tolerantly twoBranchesAndNote _).2.1 _ (Value.isText_text (.list _)) ?_,
    (reads_tolerantly twoBranchesAndNote _).2.2 _ (Value.isText_text (.object _))
      (.inr ⟨"testName", by decide, by decide⟩)⟩
  · refine ⟨?_, by decide, ?_⟩
    · simp only [Value.treeMembers, List.forall_mem_cons]
      exact ⟨.inl ⟨"note", textTree "n", by simp [members, twoBranchesAndNote, optionalTree], rfl, .inl rfl⟩,
        .inl ⟨"branches", textsTree ["main", "beta"], by simp [members, twoBranchesAndNote], rfl, .inl rfl⟩,
        .inl ⟨"devices", textsTree [], by simp [members, twoBranchesAndNote], rfl, .inr ⟨.inr rfl, rfl⟩⟩,
        .inr ⟨"seen", by decide, rfl⟩,
        .inl ⟨"testName", textTree "t", by simp [members, twoBranchesAndNote], rfl, .inl rfl⟩,
        .inl ⟨"key", textTree "k1", by simp [members, twoBranchesAndNote, optionalTree], rfl, .inl rfl⟩, by simp⟩
    · simp only [members, List.forall_mem_cons]
      exact ⟨.inl (by decide), .inl (by decide), .inl (by decide), .inl (by decide), .inr (.inr rfl),
        .inl (by decide), by simp⟩
  · have hlist : Stands .null (textsTree []) := .inr ⟨.inr rfl, rfl⟩
    exact .cons (.inl rfl) (.cons (.inl rfl) (.cons (.inl rfl)
      (.cons (.inl rfl) (.cons hlist (.cons (.inl rfl) .nil)))))

end AckDesk.Record
