import GnssAdapter.Enumeration

/-!
What can go wrong, and how it is worded.
-/

namespace GnssAdapter

/-- Failure of the transport itself; a request that has reached the engine is answered by it. -/
inductive ClientError where
  | timeout | unsupported | engineBusy | generalFailure | invalidParameter | internal
  | invalidHandle | invalidMessageId | serviceNotPresent | phoneOffline
  deriving DecidableEq

/-- Outcome of a command as its caller sees it. -/
inductive LocationError where
  | generalFailure | invalidParameter | notSupported
  deriving DecidableEq

/-- Failure to obtain a usable configuration. -/
inductive ConfigError where
  | parse (detail : String)
  | validation (field detail : String)
  | io
  | other (detail : String)

/-- Failure of a command. -/
inductive AdapterError where
  /-- The worker has stopped and takes no more commands. -/
  | workerGone
  /-- The worker dropped a command without an answer. -/
  | replyDropped (command : String)
  | config (error : ConfigError)
  | location (error : LocationError)
  /-- The connection could not be opened or closed. -/
  | client (error : ClientError)

instance : Enumeration ClientError where
  names := [
    (.timeout, "Timeout"),
    (.unsupported, "Unsupported"),
    (.engineBusy, "EngineBusy"),
    (.generalFailure, "GeneralFailure"),
    (.invalidParameter, "InvalidParameter"),
    (.internal, "Internal"),
    (.invalidHandle, "InvalidHandle"),
    (.invalidMessageId, "InvalidMessageId"),
    (.serviceNotPresent, "ServiceNotPresent"),
    (.phoneOffline, "PhoneOffline")]

instance : Enumeration LocationError where
  names := [
    (.generalFailure, "GeneralFailure"),
    (.invalidParameter, "InvalidParameter"),
    (.notSupported, "NotSupported")]

def ClientError.message : ClientError → String
  | .timeout => "request timed out"
  | .unsupported => "request not supported"
  | .engineBusy => "engine busy"
  | .generalFailure => "general failure"
  | .invalidParameter => "invalid parameter"
  | .internal => "internal failure"
  | .invalidHandle => "invalid client handle"
  | .invalidMessageId => "invalid message id"
  | .serviceNotPresent => "service not present"
  | .phoneOffline => "phone offline"

def LocationError.message : LocationError → String
  | .generalFailure => "general failure"
  | .invalidParameter => "invalid parameter"
  | .notSupported => "not supported"

def ConfigError.message : ConfigError → String
  | .parse detail => "config parse error: " ++ detail
  | .validation field detail => "config validation error at '" ++ field ++ "': " ++ detail
  | .io => "io error"
  | .other detail => detail

def AdapterError.message : AdapterError → String
  | .workerGone => "adapter worker is gone"
  | .replyDropped command => "adapter worker dropped the reply of '" ++ command ++ "'"
  | .config error => error.message
  | .location error => "location command failed: " ++ error.message
  | .client error => "transport failure: " ++ error.message

end GnssAdapter
