import AckDesk.Desk.Call
import AckDesk.Desk.Refusal
import AckDesk.Modal
import AckDesk.Notice
import AckDesk.Search

/-!
# The desk

A desk holds the list of entries, the modal region, the search box and the notices, and gives every entry a number
that no other entry had before. Its state changes in two ways only, by a user's event and by the settlement of a
call.
-/

namespace AckDesk

/-- Whether failures are put on the notice board, besides taking the entry back. -/
inductive Feedback where
  | silent
  | notice
deriving DecidableEq

/-- How a desk reports failures, and how many notices it keeps. -/
structure Options where
  feedback : Feedback := .silent
  noticeCapacity : Nat := 5
deriving DecidableEq

/-- The list of entries with everything around it. -/
structure Desk where
  access : Access
  options : Options
  search : Search
  entries : List Entry
  modal : Modal
  notices : NoticeBoard
  lastId : Nat

namespace Desk

/-- Visible entries for the records, numbered from `n + 1`. -/
def entriesFrom (n : Nat) : List Record → List Entry
  | [] => []
  | r :: rs => ⟨⟨n + 1⟩, r, .clean, true⟩ :: entriesFrom (n + 1) rs

/-- The desk over a list of stored records. -/
def ofRecords (testNames : List String) (records : List Record) (access : Access) (options : Options) : Desk :=
  ⟨access, options, { testNames }, entriesFrom 0 records, {}, { capacity := options.noticeCapacity }, records.length⟩

/-- The entry with a number. -/
def entry? (k : Desk) (i : EntryId) : Option Entry := k.entries.find? (·.id == i)

/-- The first entry that shows a key. -/
def findByKey? (k : Desk) (key : Key) : Option Entry := k.entries.find? (·.record.key == some key)

def visibleEntries (k : Desk) : List Entry := k.entries.filter (·.visible)

def nextId (k : Desk) : EntryId := ⟨k.lastId + 1⟩

def modifyEntry (k : Desk) (i : EntryId) (f : Entry → Entry) : Desk :=
  { k with entries := k.entries.map fun e => if e.id = i then f e else e }

/-- Takes the entry with a number off the list. -/
def removeEntry (k : Desk) (i : EntryId) : Desk := { k with entries := k.entries.filter (·.id != i) }

end Desk

end AckDesk
