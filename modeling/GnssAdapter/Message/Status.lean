import GnssAdapter.Enumeration

/-!
Status words that travel with answers and indications.
-/

namespace GnssAdapter

/-- How the remote engine judges a request. -/
inductive Verdict where
  | success | generalFailure | unsupported | invalidParameter | engineBusy | phoneOffline
  | timeout | configNotSupported | insufficientMemory
  deriving DecidableEq

instance : Enumeration Verdict where
  names := [
    (.success, "Success"),
    (.generalFailure, "GeneralFailure"),
    (.unsupported, "Unsupported"),
    (.invalidParameter, "InvalidParameter"),
    (.engineBusy, "EngineBusy"),
    (.phoneOffline, "PhoneOffline"),
    (.timeout, "Timeout"),
    (.configNotSupported, "ConfigNotSupported"),
    (.insufficientMemory, "InsufficientMemory")]

namespace Verdict

def isSuccess (verdict : Verdict) : Bool :=
  verdict = .success

/-- A busy engine has accepted the request for later. -/
def isAccepted (verdict : Verdict) : Bool :=
  verdict = .success || verdict = .engineBusy

end Verdict

/-- How a fix session stands. -/
inductive SessionStatus where
  | success | inProgress | generalFailure | timeout | userEnd | badParameter | phoneOffline
  | engineLocked
  deriving DecidableEq

instance : Enumeration SessionStatus where
  names := [
    (.success, "Success"),
    (.inProgress, "InProgress"),
    (.generalFailure, "GeneralFailure"),
    (.timeout, "Timeout"),
    (.userEnd, "UserEnd"),
    (.badParameter, "BadParameter"),
    (.phoneOffline, "PhoneOffline"),
    (.engineLocked, "EngineLocked")]

inductive EngineState where
  | on | off
  deriving DecidableEq

instance : Enumeration EngineState where
  names := [
    (.on, "On"),
    (.off, "Off")]

inductive FixSessionState where
  | started | finished | unknown
  deriving DecidableEq

instance : Enumeration FixSessionState where
  names := [
    (.started, "Started"),
    (.finished, "Finished"),
    (.unknown, "Unknown")]

/-- A failure of the service as a whole. -/
inductive ServiceError where
  | serviceUnavailable | other
  deriving DecidableEq

instance : Enumeration ServiceError where
  names := [
    (.serviceUnavailable, "ServiceUnavailable"),
    (.other, "Other")]

end GnssAdapter
