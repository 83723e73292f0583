import AckDesk.Backend.Failure
import AckDesk.Editor

/-!
# Calls, settlements and changes

An event may ask for a call to the backend. The call settles later, with what the backend answered, and the
settlement changes the list in one of six ways.
-/

namespace AckDesk

open Backend (Failure)

/-- A call to the backend that an event asks for. -/
inductive Call where
  | save (entry : EntryId) (session : Session) (record : Record)
  | delete (entry : EntryId) (key : Key)
deriving DecidableEq

def Call.entry : Call → EntryId
  | .save entry _ _ => entry
  | .delete entry _ => entry

/-- A call together with what the backend answered. -/
inductive Settlement where
  | save (entry : EntryId) (session : Session) (record : Record) (result : Except Failure Key)
  | delete (entry : EntryId) (key : Key) (result : Except Failure Unit)

/-- How a settlement changed the list. -/
inductive Change where
  | inserted (entry : EntryId) (key : Key)
  | replaced (old new : EntryId) (key : Key)
  | removed (entry : EntryId) (key : Key)
  | reverted (entry : EntryId) (reason : String)
  | discarded (entry : EntryId) (reason : String)
  | ignored (entry : EntryId)
deriving DecidableEq

/-- The direction in which a card comes or goes. -/
inductive Slide where
  | down
  | up
deriving DecidableEq

/-- How long a card slides, in milliseconds. -/
def Slide.millis : Nat := 150

namespace Change

def isFailure : Change → Bool
  | reverted .. | discarded .. => true
  | _ => false

/-- How the card comes or goes, where one does. -/
def slide? : Change → Option Slide
  | inserted .. => some .down
  | removed .. => some .up
  | _ => none

end Change

end AckDesk
