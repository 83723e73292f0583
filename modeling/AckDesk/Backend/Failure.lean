/-!
# Failures of the backend

Why a save or a delete did not go through. A desk recovers from all of them by taking the entry back to what it
showed.
-/

namespace AckDesk.Backend

/-- Why a call to the backend failed. -/
inductive Failure where
  | invalidUrl (url reason : String)
  | transport
  | httpStatus (method url : String) (status : Nat)
  | missingKey
  | unavailable (reason : String)
deriving DecidableEq

namespace Failure

def message : Failure → String
  | invalidUrl url reason => "Invalid acknowledgments URL " ++ url ++ ": " ++ reason
  | transport => "Could not reach the acknowledgments backend"
  | httpStatus method url status => method ++ " " ++ url ++ " failed with HTTP status " ++ toString status
  | missingKey => "The backend accepted the acknowledgment but did not return its key"
  | unavailable reason => "The acknowledgments backend is unavailable: " ++ reason

/-- The code under which the failure is documented. -/
def code : Failure → String
  | invalidUrl .. => "test_ack_editor::gateway::invalid_url"
  | transport => "test_ack_editor::gateway::transport"
  | httpStatus .. => "test_ack_editor::gateway::http_status"
  | missingKey => "test_ack_editor::gateway::missing_key"
  | unavailable _ => "test_ack_editor::gateway::unavailable"

/-- What the user can do about it, where there is something. -/
def help? : Failure → Option String
  | invalidUrl .. => some "The base URL must be absolute, eg: https://dashboard.example.com"
  | _ => none

end Failure

end AckDesk.Backend
