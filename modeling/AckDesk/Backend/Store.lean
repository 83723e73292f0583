import AckDesk.Backend.Basic

/-!
# The backend in memory

A store keeps records under their keys, in ascending order of keys. It replaces the record of a key that is there, and
refuses to delete what it does not have. The keys of records that have none are made up by counting, whether or not a
record has such a key already.

A store can be offline, or fail the next few requests; whether a request fails is settled when it arrives, and a request
that fails changes no record.
-/

namespace AckDesk.Backend

/-- The records under their keys, and how the store answers. -/
structure Store where
  shelf : List (Key × Record) := []
  requests : List Request := []
  lastKey : Nat := 0
  failuresLeft : Nat := 0
  offline : Bool := false
deriving DecidableEq

namespace Store

/-- Puts a record under a key into an ascending list, in place of the one that is there. -/
def putIn (key : Key) (r : Record) : List (Key × Record) → List (Key × Record)
  | [] => [(key, r)]
  | p :: ps =>
    if p.1 = key then (key, r) :: ps
    else if key.text < p.1.text then (key, r) :: p :: ps
    else p :: putIn key r ps

/-- Puts a record on the shelf, under its own key or, if it has none, under the key that is made up next. The shelf may
have a record under this key, which is then replaced: keys are numbered without a look at it. -/
def put (s : Store) (r : Record) : Store × Key :=
  match r.key with
  | some key => ({ s with shelf := putIn key r s.shelf }, key)
  | none =>
    let key : Key := ⟨s!"ack-{s.lastKey + 1}"⟩
    ({ s with shelf := putIn key (r.withKey key) s.shelf, lastKey := s.lastKey + 1 }, key)

/-- The store that holds the given records. -/
def ofRecords (rs : List Record) : Store := rs.foldl (fun s r => (s.put r).1) {}

/-- The stored records in the order of their keys. -/
def records (s : Store) : List Record := s.shelf.map (·.2)

/-- Notes a request and settles whether it fails. -/
def receive (s : Store) (q : Request) : Store × Option Failure :=
  let s := { s with requests := s.requests ++ [q] }
  if s.offline then (s, some (.unavailable "offline"))
  else if s.failuresLeft = 0 then (s, none)
  else ({ s with failuresLeft := s.failuresLeft - 1 }, some (.unavailable "scripted failure"))

/-- Stores the canonical form of a record. -/
def save (s : Store) (r : Record) : Store × Except Failure Key :=
  let (s, key) := s.put r.canonical
  (s, .ok key)

/-- Takes the record of a key off the shelf. -/
def delete (s : Store) (key : Key) : Store × Except Failure Unit :=
  if s.shelf.any (·.1 == key) then ({ s with shelf := s.shelf.filter (·.1 != key) }, .ok ())
  else (s, .error (.httpStatus "DELETE" key.text 404))

/-- Fails the next requests. -/
def failNext (s : Store) (count : Nat) : Store := { s with failuresLeft := count }

def setOffline (s : Store) (offline : Bool) : Store := { s with offline }

instance : Backend Store := ⟨receive, save, delete⟩

def saveCount (s : Store) : Nat := s.requests.countP fun q => match q with | .save _ => true | .delete _ => false

def deleteCount (s : Store) : Nat := s.requests.countP fun q => match q with | .save _ => false | .delete _ => true

end Store

end AckDesk.Backend
