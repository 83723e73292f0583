import AckDesk.Backend.Basic
import AckDesk.Desk.Handle
import AckDesk.Desk.Settle

/-!
# Mounted desks

A mount joins a desk to a backend. A call that an event asks for passes through three queues: it has been started,
it has reached the backend, it has been carried out; then its settlement is applied to the desk. Calls move on one
at a time, so that events can come between any two steps.
-/

namespace AckDesk

open Backend (Failure)

def Call.request : Call → Request
  | .save _ _ record => .save record
  | .delete _ key => .delete key

/-- A desk, its backend, and the calls in flight. -/
structure Mount (σ : Type) where
  desk : Desk
  backend : σ
  started : List Call := []
  arrived : List (Call × Option Failure) := []
  settled : List Settlement := []
  inFlight : Nat := 0

namespace Mount

variable {σ : Type}

/-- Applies an event to the desk and starts the call that it asks for. -/
def dispatch (m : Mount σ) (e : Event) : Except Refusal (Mount σ) :=
  (m.desk.handle e).map fun
    | (k, none) => { m with desk := k }
    | (k, some c) => { m with desk := k, started := m.started ++ [c], inFlight := m.inFlight + 1 }

/-- The settlement of the next call that was carried out reaches the desk. -/
def applyNext? (m : Mount σ) : Option (Mount σ × Change) :=
  match m.settled with
  | [] => none
  | s :: ss =>
    let (k, change) := m.desk.settle s
    some ({ m with desk := k, settled := ss, inFlight := m.inFlight - 1 }, change)

/-- All settlements that wait reach the desk in their order. -/
def applyAll (m : Mount σ) : Mount σ × List Change :=
  let (k, changes) := m.desk.settleAll m.settled
  ({ m with desk := k, settled := [], inFlight := m.inFlight - m.settled.length }, changes)

section Calls

variable [Backend σ]

/-- The next call that was started reaches the backend. -/
def arriveNext (m : Mount σ) : Mount σ :=
  match m.started with
  | [] => m
  | c :: cs =>
    let (b, failure) := Backend.receive m.backend c.request
    { m with backend := b, started := cs, arrived := m.arrived ++ [(c, failure)] }

/-- What becomes of the backend and of a call that reached it. -/
def carryOut (b : σ) : Call → Option Failure → σ × Settlement
  | .save i s r, some f => (b, .save i s r (.error f))
  | .save i s r, none =>
    let (b, result) := Backend.save b r
    (b, .save i s r result)
  | .delete i key, some f => (b, .delete i key (.error f))
  | .delete i key, none =>
    let (b, result) := Backend.delete b key
    (b, .delete i key result)

/-- The next call that reached the backend is carried out. -/
def completeNext (m : Mount σ) : Mount σ :=
  match m.arrived with
  | [] => m
  | (c, failure) :: cs =>
    let (b, s) := carryOut m.backend c failure
    { m with backend := b, arrived := cs, settled := m.settled ++ [s] }

/-- All calls that were started reach the backend. -/
def arriveAll (m : Mount σ) : Mount σ := m.started.foldl (fun m _ => m.arriveNext) m

/-- All calls that reached the backend are carried out. -/
def completeAll (m : Mount σ) : Mount σ := m.arrived.foldl (fun m _ => m.completeNext) m

end Calls

end Mount

end AckDesk
