import AckDesk.Key
import AckDesk.Scope

/-!
# Records

The record of an acknowledgment: the test it silences, the scope in which it does so, and a note. A record without
a key is a draft, which the backend has not stored yet. The **canonical form** (`Record.canonical`) puts every
dimension in canonical form and changes nothing else, and a second time it changes nothing at all.
-/

namespace AckDesk

/-- An acknowledgment of a failing test. An empty dimension stands for all its values. -/
structure Record where
  key : Option Key
  testName : String
  scope : Scoped (List String)
  note : Option String
deriving DecidableEq

namespace Record

/-- A draft for a test, without limits in any dimension. -/
def draft (testName : String) : Record := ⟨none, testName, ⟨[], [], []⟩, none⟩

/-- The backend has not given the record a key. -/
def isDraft (r : Record) : Bool := r.key.isNone

/-- The note, or the empty text where there is none. -/
def noteText (r : Record) : String := r.note.getD ""

/-- The record with its dimensions in canonical form. -/
def canonical (r : Record) : Record := { r with scope := r.scope.map canonicalValues }

def withKey (r : Record) (k : Key) : Record := { r with key := some k }

@[simp] theorem get_scope_canonical (r : Record) (d : Dimension) :
    r.canonical.scope.get d = canonicalValues (r.scope.get d) := by
  simp [canonical]

/-- Canonical values are their own canonical form. -/
theorem canonicalValues_canonicalValues (vs : List String) :
    canonicalValues (canonicalValues vs) = canonicalValues vs :=
  canonicalValues_eq_iff.2 fun _ => mem_canonicalValues

/-- A canonical record is its own canonical form. -/
@[simp] theorem canonical_canonical (r : Record) : r.canonical.canonical = r.canonical := by
  have h : (r.canonical.scope.map canonicalValues) = r.canonical.scope :=
    Scoped.ext_get fun d => by simp [canonicalValues_canonicalValues]
  rw [show r.canonical.canonical = { r.canonical with scope := r.canonical.scope.map canonicalValues } from rfl, h]

@[simp] theorem canonical_withKey (r : Record) (k : Key) : (r.withKey k).canonical = r.canonical.withKey k := rfl

end Record

end AckDesk
