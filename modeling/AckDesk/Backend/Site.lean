import AckDesk.Backend.Basic
import AckDesk.Url.Parser

/-!
# Backends with an address

A site keeps records behind a URL: the collection, to which records are posted, and under it one item for each key.
It is described without its network, so every request to it fails, with a fault of the address if there is one.
-/

namespace AckDesk.Backend

/-- Where the records are, and how the program names itself. -/
structure Site where
  baseUrl : String
  apiPath : String := "/api/test_acknowledgments"
  userAgent : String := "test_ack_editor/0.1"
deriving DecidableEq

namespace Site

/-- The text of the collection's address, with one slash between its two parts. -/
def collectionText (s : Site) : String :=
  .ofList ((s.baseUrl.toList.reverse.dropWhile (· == '/')).reverse ++ '/' :: s.apiPath.toList.dropWhile (· == '/'))

/-- The address of all records. -/
def collectionUrl (s : Site) : Except Failure Url :=
  match Url.parse s.collectionText with
  | .ok u => .ok u
  | .error f => .error (.invalidUrl s.collectionText f.message)

/-- The address of the record of a key. -/
def itemUrl (s : Site) (key : Key) : Except Failure Url := do
  let u ← s.collectionUrl
  match u.join? key.text with
  | some v => .ok v
  | none => .error (.invalidUrl u.text "URL can't be a base")

/-- A character may stand in a header. -/
def isHeaderChar (c : Char) : Bool := c = '\t' || (' ' ≤ c && c ≠ '\x7f')

/-- Why a site cannot be used at all. -/
inductive Unusable where
  | address (f : Failure)
  | userAgent
deriving DecidableEq

def Unusable.message : Unusable → String
  | address f => f.message
  | userAgent => "builder error"

/-- The site, if its address and the name of the program are right. -/
def check (s : Site) : Except Unusable Site :=
  match s.collectionUrl with
  | .error f => .error (.address f)
  | .ok _ => if s.userAgent.toList.all isHeaderChar then .ok s else .error .userAgent

/-- Posts a record to the collection. -/
def save (s : Site) (_ : Record) : Site × Except Failure Key :=
  match s.collectionUrl with
  | .error f => (s, .error f)
  | .ok _ => (s, .error .transport)

/-- Deletes the item of a key. -/
def delete (s : Site) (key : Key) : Site × Except Failure Unit :=
  match s.itemUrl key with
  | .error f => (s, .error f)
  | .ok _ => (s, .error .transport)

instance : Backend Site := ⟨fun s _ => (s, none), save, delete⟩

end Site

end AckDesk.Backend
