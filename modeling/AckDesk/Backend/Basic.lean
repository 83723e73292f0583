import AckDesk.Backend.Failure
import AckDesk.Record

/-!
# Backends

A backend answers requests to save and to delete. A request reaches it first, which may settle already that it will
fail, and is carried out later.
-/

namespace AckDesk

/-- What a backend is asked to do. -/
inductive Request where
  | save (record : Record)
  | delete (key : Key)
deriving DecidableEq

open Backend (Failure)

/-- States `σ` of a backend, and what requests do to them. -/
class Backend (σ : Type) where
  /-- A request reaches the backend, which may settle then that it fails. -/
  receive : σ → Request → σ × Option Failure
  /-- Carries out a received save. -/
  save : σ → Record → σ × Except Failure Key
  /-- Carries out a received delete. -/
  delete : σ → Key → σ × Except Failure Unit

end AckDesk
