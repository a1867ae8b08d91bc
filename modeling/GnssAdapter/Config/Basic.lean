import GnssAdapter.Codec
import GnssAdapter.Error
import GnssAdapter.Event.Mask

/-!
Configuration of an adapter and the ranges that its fields have to keep.
-/

namespace GnssAdapter

structure Config where
  /-- Uncertainty of the times that reports are stamped with, in milliseconds. -/
  timestampUncertaintyMs : Float32 := 0
  requestTimeoutMs : UInt64 := 1000
  /-- Commands that may wait for the worker. -/
  queueCapacity : UInt64 := 64
  /-- Claim master rights on opening. -/
  masterClient : Bool := true
  /-- Events that are never registered. -/
  excludedEvents : Mask AdapterEvent := ∅

instance : Codec Config := .record <| Config.mk
  <$> fieldOr "ap_timestamp_uncertainty_ms" 0 (·.timestampUncertaintyMs)
  <*> fieldOr "sync_request_timeout_ms" 1000 (·.requestTimeoutMs)
  <*> fieldOr "queue_capacity" 64 (·.queueCapacity)
  <*> fieldOr "master_client" true (·.masterClient)
  <*> fieldOr "excluded_event_mask" ∅ (·.excludedEvents)

/-- A field outside its range. -/
def ConfigError.outOfRange (field : String) : ConfigError :=
  .validation field (field ++ ": Validation error: range")

namespace Config

/-- The first field outside its range. A number that is no number is not below zero. -/
def fieldOutOfRange? (config : Config) : Option String :=
  if config.timestampUncertaintyMs < 0 then some "ap_timestamp_uncertainty_ms"
  else if config.requestTimeoutMs < 1 || 60000 < config.requestTimeoutMs then
    some "sync_request_timeout_ms"
  else if config.queueCapacity < 1 then some "queue_capacity"
  else none

/-- Every field keeps its range. -/
def check (config : Config) : Except ConfigError Unit :=
  match config.fieldOutOfRange? with
  | some field => .error (.outOfRange field)
  | none => .ok ()

/-- The stricter rules of a configuration that is loaded: besides the ranges, the uncertainty is
finite and some event is left to register. -/
def validate (config : Config) : Except ConfigError Unit := do
  unless config.timestampUncertaintyMs.isFinite do
    throw (.validation "ap_timestamp_uncertainty_ms" "must be a finite number")
  config.check
  if config.excludedEvents.contains (.full AdapterEvent) then
    throw (.validation "excluded_event_mask" "cannot exclude every event")

end Config

end GnssAdapter
