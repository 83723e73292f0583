import AckDesk.View.Node

/-!
# Failure notices

A notice tells the user that a save or a delete failed. The board keeps the latest ones, as many as it has room
for, and drops the oldest first (`NoticeBoard.queue_push`).
-/

namespace AckDesk

open View

/-- The kind of call that failed. -/
inductive NoticeKind where
  | saveFailed
  | deleteFailed
deriving DecidableEq

/-- A failure that the user is told about. -/
structure Notice where
  kind : NoticeKind
  testName : String
  reason : String
deriving DecidableEq

def Notice.headline (n : Notice) : String :=
  (match n.kind with
    | .saveFailed => "Could not save acknowledgment"
    | .deleteFailed => "Could not delete acknowledgment") ++
    " for " ++ n.testName ++ ": " ++ n.reason

/-- The latest notices, oldest first. -/
structure NoticeBoard where
  capacity : Nat
  queue : List Notice := []
deriving DecidableEq

namespace NoticeBoard

/-- The last `k` members of a list. -/
def lastOf (k : Nat) (ns : List Notice) : List Notice := ns.drop (ns.length - k)

/-- Puts up a notice, and drops the oldest ones for which there is no room. -/
def push (b : NoticeBoard) (n : Notice) : NoticeBoard := { b with queue := lastOf b.capacity (b.queue ++ [n]) }

def clear (b : NoticeBoard) : NoticeBoard := { b with queue := [] }

theorem queue_push (b : NoticeBoard) (n : Notice) : (b.push n).queue = lastOf b.capacity (b.queue ++ [n]) := rfl

/-- The board never holds more notices than it has room for. -/
theorem length_queue_push (b : NoticeBoard) (n : Notice) : (b.push n).queue.length ≤ b.capacity := by
  simp only [queue_push, lastOf, List.length_drop]
  omega

def noticeView (n : Notice) : Node := .leaf { kind := .notice, className := "toast", text := n.headline }

def dismissButton : Node :=
  .mk { kind := .button, className := "btn-flat", affordance := some .dismissNotices } [
    .leaf { kind := .icon .clear }]

/-- The board, unless there is nothing on it. -/
def view (b : NoticeBoard) : Option Node :=
  if b.queue.isEmpty then none
  else some (.mk { kind := .container, className := "toasts" } (b.queue.map noticeView ++ [dismissButton]))

end NoticeBoard

end AckDesk
