import GnssAdapter.Message.Request
import GnssAdapter.Message.Status

/-!
Answers of the remote engine to requests.
-/

namespace GnssAdapter

/-- What an engine that is always on can batch. -/
inductive AlwaysOnFeature where
  | autoBatching | distanceBasedBatching | updateTbf | outdoorTripBatching
  deriving DecidableEq

instance : Flag AlwaysOnFeature where
  width := 32
  layout := [
    (.autoBatching, 0, "AUTO_BATCHING"),
    (.distanceBasedBatching, 1, "DISTANCE_BASED_BATCHING"),
    (.updateTbf, 2, "UPDATE_TBF"),
    (.outdoorTripBatching, 3, "OUTDOOR_TRIP_BATCHING")]

/-- Whether a constellation is enabled, and who decides that. -/
inductive ConstellationStatus where
  | enabledMandatory | enabledInternally | enabledByClient | disabledNotSupported
  | disabledInternally | disabledByClient | disabledNoMemory
  deriving DecidableEq

instance : Enumeration ConstellationStatus where
  names := [
    (.enabledMandatory, "EnabledMandatory"),
    (.enabledInternally, "EnabledInternally"),
    (.enabledByClient, "EnabledByClient"),
    (.disabledNotSupported, "DisabledNotSupported"),
    (.disabledInternally, "DisabledInternally"),
    (.disabledByClient, "DisabledByClient"),
    (.disabledNoMemory, "DisabledNoMemory")]

def ConstellationStatus.isEnabled : ConstellationStatus → Bool
  | .enabledMandatory | .enabledInternally | .enabledByClient => true
  | .disabledNotSupported | .disabledInternally | .disabledByClient | .disabledNoMemory => false

structure BlacklistReply where
  status : Verdict := .success
  glonassBlacklist : Option UInt64 := none
  bdsBlacklist : Option UInt64 := none
  qzssBlacklist : Option UInt64 := none
  galileoBlacklist : Option UInt64 := none

structure ConstellationReply where
  status : Verdict := .success
  glonass : Option ConstellationStatus := none
  bds : Option ConstellationStatus := none
  qzss : Option ConstellationStatus := none
  galileo : Option ConstellationStatus := none

inductive ResponsePayload where
  | none
  | predictedOrbitsPart (partNum : UInt16)
  | xtraServers (items : List String)
  | engineLock (content : Option EngineLock)
  | energyConsumed (sinceFirstBoot : UInt64)
  | alwaysOn (content : Option (Mask AlwaysOnFeature))
  | supportedFeatures (items : List UInt8)
  | constellationConfig (content : ConstellationReply)

/-- The engine's verdict on a request, and what was asked for. -/
structure Response where
  status : Verdict := .success
  payload : ResponsePayload := .none

end GnssAdapter
