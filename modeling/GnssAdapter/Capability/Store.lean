import GnssAdapter.Flag

/-!
What the engine is known to support.
-/

namespace GnssAdapter

/-- Something that an engine may or may not be able to do. -/
inductive EngineFeature where
  | locationBatching | batchedGeofenceBreach | distanceBasedTracking | adaptiveLocationBatching
  | distanceBasedLocationBatching | updateTbfOnTheFly | outdoorTripBatching
  deriving DecidableEq

instance : Flag EngineFeature where
  width := 64
  layout := [
    (.locationBatching, 0, "LOCATION_BATCHING"),
    (.batchedGeofenceBreach, 1, "BATCHED_GEOFENCE_BREACH"),
    (.distanceBasedTracking, 2, "DISTANCE_BASED_TRACKING"),
    (.adaptiveLocationBatching, 3, "ADAPTIVE_LOCATION_BATCHING"),
    (.distanceBasedLocationBatching, 4, "DISTANCE_BASED_LOCATION_BATCHING"),
    (.updateTbfOnTheFly, 5, "UPDATE_TBF_ON_THE_FLY"),
    (.outdoorTripBatching, 6, "OUTDOOR_TRIP_BATCHING")]

/-- What an engine has confirmed when it was asked. -/
structure EngineCapabilities where
  supportedMessages : Mask EngineFeature := ∅
  /-- A bitmap of numbered features, eight to a byte and the lowest bit first. -/
  features : List UInt8 := []
  gnssMeasurementSupported : Bool := false

namespace EngineCapabilities

/-- The bit of a feature in the bitmap; features beyond its end are not supported. -/
def isFeatureSupported (capabilities : EngineCapabilities) (feature : UInt8) : Bool :=
  (capabilities.features[feature.toNat / 8]?).any fun byte => byte.toNat.testBit (feature.toNat % 8)

end EngineCapabilities

/-- What has been found out about the engine, by the first to finish looking. -/
structure CapabilityStore where
  published : Option EngineCapabilities := none

namespace CapabilityStore

/-- Only the first capabilities are kept; tells whether these were. -/
def publish (store : CapabilityStore) (capabilities : EngineCapabilities) :
    CapabilityStore × Bool :=
  match store.published with
  | some _ => (store, false)
  | none => (⟨some capabilities⟩, true)

def isPublished (store : CapabilityStore) : Bool :=
  store.published.isSome

/-- Every feature of a mask is known to be supported. -/
def supportsAll (store : CapabilityStore) (features : Mask EngineFeature) : Bool :=
  store.published.any fun capabilities => capabilities.supportedMessages.contains features

def supports (store : CapabilityStore) (feature : EngineFeature) : Bool :=
  store.supportsAll (.single feature)

def measurementSupported (store : CapabilityStore) : Bool :=
  store.published.any (·.gnssMeasurementSupported)

end CapabilityStore

end GnssAdapter
