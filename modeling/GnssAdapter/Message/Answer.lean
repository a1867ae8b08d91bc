import GnssAdapter.Error
import GnssAdapter.Message.Response

/-!
How the answer to a synchronous request is judged: as an outcome to be counted, as the result of a
command, and as a reason to send the request again.
-/

namespace GnssAdapter

/-- What came of a synchronous request: a response of the engine, or a failure on the way. -/
abbrev Answer := Except ClientError Response

/-- The classes in which answers are counted. -/
inductive Outcome where
  | success | busy | failure | timeout | transportError
  deriving DecidableEq

def Outcome.label : Outcome → String
  | .success => "success"
  | .busy => "busy"
  | .failure => "failure"
  | .timeout => "timeout"
  | .transportError => "transport_error"

namespace Answer

def isSuccess : Answer → Bool
  | .ok response => response.status.isSuccess
  | .error _ => false

/-- The engine has taken the request, at once or for later. -/
def isAccepted : Answer → Bool
  | .ok response => response.status.isAccepted
  | .error _ => false

/-- The engine is busy, told by itself or by the transport. -/
def isBusy : Answer → Bool
  | .ok response => response.status = .engineBusy
  | .error error => error = .engineBusy

def outcome : Answer → Outcome
  | .ok response =>
      if response.status.isSuccess then .success
      else if response.status = .engineBusy then .busy
      else .failure
  | .error .timeout => .timeout
  | .error .engineBusy => .busy
  | .error _ => .transportError

/-- The result of a command that tells refused parameters and unsupported requests apart. -/
def verdict : Answer → Except LocationError Unit
  | .ok response =>
      match response.status with
      | .success => .ok ()
      | .invalidParameter => .error .invalidParameter
      | .unsupported | .configNotSupported => .error .notSupported
      | .generalFailure | .engineBusy | .phoneOffline | .timeout | .insufficientMemory =>
          .error .generalFailure
  | .error .invalidParameter => .error .invalidParameter
  | .error .unsupported => .error .notSupported
  | .error _ => .error .generalFailure

/-- The result of a command that only tells success from failure. -/
def completion (answer : Answer) : Except LocationError Unit :=
  if answer.isSuccess then .ok () else .error .generalFailure

/-- The payload of a successful answer. -/
def payload? : Answer → Option ResponsePayload
  | .ok response => if response.status.isSuccess then some response.payload else none
  | .error _ => none

theorem outcome_eq_success_iff (answer : Answer) :
    answer.outcome = .success ↔ answer.isSuccess = true := by
  rcases answer with error | response
  · cases error <;> simp [outcome, isSuccess]
  · by_cases h : response.status.isSuccess = true
    · simp [outcome, isSuccess, h]
    · by_cases hb : response.status = .engineBusy <;> simp [outcome, isSuccess, h, hb]

end Answer

end GnssAdapter
