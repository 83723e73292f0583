import AckDesk.Json.Shape
import AckDesk.Json.Value
import AckDesk.Record

/-!
# Records as JSON

A record is written as an object with all its members. When one is read only the test name has to be there; a member
that is missing or null stands for no key, an unlimited dimension or no note.
-/

namespace AckDesk.Record

open Json (Member Reader Shape Value)

def toJson (r : Record) : Value :=
  .object [
    ("key", .optional (r.key.map Key.text)),
    ("testName", .string r.testName),
    ("branches", .strings r.scope.branches),
    ("devices", .strings r.scope.devices),
    ("testCaseNames", .strings r.scope.testCases),
    ("note", .optional r.note)]

/-- The member for a dimension. -/
def scopeMember (d : Dimension) : Member Record where
  name := d.fieldName
  isRequired := false
  reader := Reader.string.list.nullable.map fun vs r => { r with scope := r.scope.set d (vs.getD []) }

/-- The members of a record. -/
def shape : Shape Record where
  title := "AcknowledgmentRecord"
  blank := .draft ""
  members := [
    ⟨"key", false, Reader.string.nullable.map fun k r => { r with key := k.map Key.mk }⟩,
    ⟨"testName", true, Reader.string.map fun s r => { r with testName := s }⟩,
    scopeMember .branches,
    scopeMember .devices,
    scopeMember .testCases,
    ⟨"note", false, Reader.string.nullable.map fun n r => { r with note := n }⟩]

def ofJson (text : String) : Except Json.Error Record := shape.reader.whole text

end AckDesk.Record
