import AckDesk.Record.Json

/-!
# Pages

What a page hands over to the desk on it: the test names to suggest, the records that are stored already, and
whether they may be changed. A page that does not say so is read-only.
-/

namespace AckDesk

/-- What a desk is mounted with. -/
structure Page where
  testNames : List String := []
  records : List Record := []
  readOnly : Bool := true
deriving DecidableEq

namespace Page

open Json (Reader Shape Value)

def toJson (p : Page) : Value :=
  .object [
    ("allTestNames", .strings p.testNames),
    ("existingAcknowledgments", .list (p.records.map Record.toJson)),
    ("readOnly", .bool p.readOnly)]

/-- The members of a page. -/
def shape : Shape Page where
  title := "MountArgs"
  blank := {}
  members := [
    ⟨"allTestNames", false, Reader.string.list.map fun ns p => { p with testNames := ns }⟩,
    ⟨"existingAcknowledgments", false, Record.shape.reader.list.map fun rs p => { p with records := rs }⟩,
    ⟨"readOnly", false, Reader.bool.map fun b p => { p with readOnly := b }⟩]

def ofJson (text : String) : Except Json.Error Page := shape.reader.whole text

end Page

end AckDesk
