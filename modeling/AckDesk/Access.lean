/-!
# Access

What the user of a desk may do is settled when the desk is set up: change acknowledgments, or look at them only.
-/

namespace AckDesk

/-- What the user may do. -/
inductive Access where
  | writable
  | readOnly
deriving DecidableEq

namespace Access

/-- The access that the read-only flag of a page grants. -/
def ofReadOnly (flag : Bool) : Access := if flag then .readOnly else .writable

/-- The user may change acknowledgments. -/
def canEdit : Access → Bool
  | .writable => true
  | .readOnly => false

/-- What only a user who may change acknowledgments gets. -/
def whenWritable {α : Type} (a : Access) (x : α) : Option α := if a.canEdit then some x else none

end Access

end AckDesk
