/-!
# Scopes

An acknowledgment is limited in three dimensions: branches, devices and test cases. `Scoped α` holds one value of
`α` for each of them. A dimension's values are compared in **canonical form**, strictly ascending by code point
(`pairwise_canonicalValues`) with the same values as before (`mem_canonicalValues`), so that two lists have one
canonical form exactly when they have the same values (`canonicalValues_eq_iff`).
-/

namespace AckDesk

/-! ## Dimensions -/

/-- One of the three lists that limit an acknowledgment. -/
inductive Dimension where
  | branches
  | devices
  | testCases
deriving DecidableEq

namespace Dimension

/-- The dimensions in the order in which they are shown. -/
def all : List Dimension := [.branches, .devices, .testCases]

theorem mem_all (d : Dimension) : d ∈ all := by cases d <;> simp [all]

/-- The member of a record that carries the dimension. -/
def fieldName : Dimension → String
  | .branches => "branches"
  | .devices => "devices"
  | .testCases => "testCaseNames"

/-- The name of the dimension as a reader sees it. -/
def title : Dimension → String
  | .branches => "Branches"
  | .devices => "Devices"
  | .testCases => "Test Cases"

/-- The title as it stands in front of the values. -/
def label (d : Dimension) : String := d.title ++ ":"

/-- What an empty text box for the dimension asks for. -/
def placeholder : Dimension → String
  | .branches => "Specify a branch..."
  | .devices => "Specify a device..."
  | .testCases => "Specify a test case..."

end Dimension

/-! ## A value for each dimension -/

/-- One value for each dimension. -/
structure Scoped (α : Type) where
  branches : α
  devices : α
  testCases : α
deriving DecidableEq

namespace Scoped

variable {α β : Type}

def get (s : Scoped α) : Dimension → α
  | .branches => s.branches
  | .devices => s.devices
  | .testCases => s.testCases

/-- Puts a value in the place of a dimension's. -/
def set (s : Scoped α) (d : Dimension) (a : α) : Scoped α :=
  match d with
  | .branches => { s with branches := a }
  | .devices => { s with devices := a }
  | .testCases => { s with testCases := a }

def modify (s : Scoped α) (d : Dimension) (f : α → α) : Scoped α := s.set d (f (s.get d))

def map (f : α → β) (s : Scoped α) : Scoped β := ⟨f s.branches, f s.devices, f s.testCases⟩

/-- Two values for each dimension are equal when they agree at every dimension. -/
@[ext] theorem ext_get {s t : Scoped α} (h : ∀ d, s.get d = t.get d) : s = t := by
  cases s; cases t
  have h₁ := h .branches
  have h₂ := h .devices
  have h₃ := h .testCases
  simp_all [get]

@[simp] theorem get_set_self (s : Scoped α) (d : Dimension) (a : α) : (s.set d a).get d = a := by cases d <;> rfl

/-- Putting a value at one dimension leaves the others. -/
theorem get_set_of_ne (s : Scoped α) {d e : Dimension} (a : α) (h : e ≠ d) : (s.set d a).get e = s.get e := by
  cases d <;> cases e <;> first | exact absurd rfl h | rfl

@[simp] theorem get_map (f : α → β) (s : Scoped α) (d : Dimension) : (s.map f).get d = f (s.get d) := by
  cases d <;> rfl

@[simp] theorem get_modify_self (s : Scoped α) (d : Dimension) (f : α → α) : (s.modify d f).get d = f (s.get d) :=
  get_set_self ..

/-- A function that is applied at one dimension leaves the others. -/
theorem get_modify_of_ne (s : Scoped α) {d e : Dimension} (f : α → α) (h : e ≠ d) :
    (s.modify d f).get e = s.get e :=
  get_set_of_ne _ _ h

end Scoped

/-! ## Values in canonical form -/

/-- The values in ascending order of code points, repeats included. -/
def ascending (vs : List String) : List String := vs.mergeSort fun a b => decide (a ≤ b)

/-- The list without the values that equal the one before them. -/
def dropRepeats : List String → List String
  | [] => []
  | [a] => [a]
  | a :: b :: vs => if a = b then dropRepeats (b :: vs) else a :: dropRepeats (b :: vs)

/-- The values in ascending order, each once. -/
def canonicalValues (vs : List String) : List String := dropRepeats (ascending vs)

/-- Sorting neither adds nor loses a value. -/
theorem mem_ascending {a : String} {vs : List String} : a ∈ ascending vs ↔ a ∈ vs :=
  (List.mergeSort_perm vs _).mem_iff

/-- Sorted values ascend, repeats among them. -/
theorem pairwise_ascending (vs : List String) : (ascending vs).Pairwise (· ≤ ·) := by
  have trans (a b c : String) (hab : decide (a ≤ b) = true) (hbc : decide (b ≤ c) = true) :
      decide (a ≤ c) = true := by
    simp only [decide_eq_true_eq] at *
    exact String.le_trans hab hbc
  have total (a b : String) : (decide (a ≤ b) || decide (b ≤ a)) = true := by
    simp only [Bool.or_eq_true, decide_eq_true_eq]
    exact String.le_total a b
  exact (List.pairwise_mergeSort trans total vs).imp fun hab => by simpa using hab

/-- Dropping repeats loses no value, as an equal one is left behind. -/
theorem mem_dropRepeats {a : String} {vs : List String} : a ∈ dropRepeats vs ↔ a ∈ vs := by
  fun_induction dropRepeats vs with
  | case1 => rfl
  | case2 => rfl
  | case3 b vs ih => rw [ih]; simp
  | case4 b c vs _ ih => simp [ih]

/-- The canonical form has the same values as before. -/
theorem mem_canonicalValues {a : String} {vs : List String} : a ∈ canonicalValues vs ↔ a ∈ vs := by
  rw [canonicalValues, mem_dropRepeats, mem_ascending]

/-- Among ascending values equal ones are neighbours, so that what is left ascends strictly. -/
theorem pairwise_dropRepeats {vs : List String} (h : vs.Pairwise (· ≤ ·)) : (dropRepeats vs).Pairwise (· < ·) := by
  fun_induction dropRepeats vs with
  | case1 => exact .nil
  | case2 => simp
  | case3 b vs ih => exact ih (List.pairwise_cons.1 h).2
  | case4 a b vs hab ih =>
    obtain ⟨ha, hvs⟩ := List.pairwise_cons.1 h
    refine List.pairwise_cons.2 ⟨fun c hc => ?_, ih hvs⟩
    rw [mem_dropRepeats] at hc
    have hac := ha c hc
    refine String.not_le.1 fun hca => ?_
    obtain rfl := String.le_antisymm hac hca
    rcases List.mem_cons.1 hc with h | h
    · exact hab h
    · exact hab (String.le_antisymm (ha b (by simp)) ((List.pairwise_cons.1 hvs).1 a h))

/-- The canonical form ascends strictly, and so has no value twice. -/
theorem pairwise_canonicalValues (vs : List String) : (canonicalValues vs).Pairwise (· < ·) :=
  pairwise_dropRepeats (pairwise_ascending vs)

/-- A strictly ascending list is given by its values. -/
theorem eq_of_pairwise_lt {vs ws : List String} (hv : vs.Pairwise (· < ·)) (hw : ws.Pairwise (· < ·))
    (h : ∀ a, a ∈ vs ↔ a ∈ ws) : vs = ws := by
  have nodup : ∀ {us : List String}, us.Pairwise (· < ·) → us.Nodup := by
    intro us hu
    refine List.Pairwise.imp (fun {a b} hab => ?_) hu
    rintro rfl
    exact String.lt_irrefl a hab
  have hp : vs.Perm ws := (List.perm_ext_iff_of_nodup (nodup hv) (nodup hw)).2 h
  refine hp.eq_of_pairwise (fun a b _ _ hab hba => ?_) hv hw
  exact absurd (String.lt_trans hab hba) (String.lt_irrefl a)

/-- Two lists have one canonical form exactly when they have the same values: a strictly ascending list is fixed by
its members. -/
theorem canonicalValues_eq_iff {vs ws : List String} :
    canonicalValues vs = canonicalValues ws ↔ ∀ a, a ∈ vs ↔ a ∈ ws := by
  constructor
  · intro h a
    rw [← mem_canonicalValues, h, mem_canonicalValues]
  · intro h
    refine eq_of_pairwise_lt (pairwise_canonicalValues vs) (pairwise_canonicalValues ws) fun a => ?_
    rw [mem_canonicalValues, mem_canonicalValues, h]

end AckDesk
