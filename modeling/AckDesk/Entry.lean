import AckDesk.Record

/-!
# Entries of the list

An entry is a card's place in the list: a number of its own, unrelated to the key, the record that the card shows,
and where the entry stands in the protocol of saving and deleting. A saved card gets a new number when it replaces
the old one; a draft stays hidden until its first save succeeds.
-/

namespace AckDesk

/-- The number of an entry. -/
structure EntryId where
  number : Nat
deriving DecidableEq

/-- An entry's number as a reader sees it. -/
def EntryId.text (i : EntryId) : String := s!"#{i.number}"

/-- Whether an entry waits for a call to settle. -/
inductive EntryState where
  | clean
  | saving
  | pendingDelete
deriving DecidableEq

def EntryState.name : EntryState → String
  | .clean => "Clean"
  | .saving => "Saving"
  | .pendingDelete => "PendingDelete"

/-- A card's place in the list. -/
structure Entry where
  id : EntryId
  record : Record
  state : EntryState
  visible : Bool
deriving DecidableEq

/-- A draft that no save has shown yet. -/
def Entry.isHiddenDraft (e : Entry) : Bool := e.record.isDraft && !e.visible

end AckDesk
