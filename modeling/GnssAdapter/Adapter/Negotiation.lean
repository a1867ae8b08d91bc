import GnssAdapter.Adapter.Subscription

/-!
Finding out what the engine supports, once per connection and only with master rights.

Every query stands for itself: a refused or unanswered one leaves its own capability unset and
hinders no other.
-/

namespace GnssAdapter

/-- The feature that an always-on capability stands for. -/
def AlwaysOnFeature.feature : AlwaysOnFeature → EngineFeature
  | .autoBatching => .adaptiveLocationBatching
  | .distanceBasedBatching => .distanceBasedLocationBatching
  | .updateTbf => .updateTbfOnTheFly
  | .outdoorTripBatching => .outdoorTripBatching

/-- The key by which master rights are claimed. -/
def masterKey : UInt32 := 0xBAABCDEF

/-- The messages that the engine is asked about, message `i` standing for feature bit `i`. -/
def probedMessages : List MessageId :=
  [.getBatchSize, .batchedGeofenceBreach, .startDistanceTracking]

/-- The features of an answer about the probed messages. -/
def EngineFeature.ofProbe (bits : UInt64) : Mask EngineFeature :=
  ⟨BitVec.ofNat _ (bits.toNat % Nat.pow 2 probedMessages.length)⟩

/-- The transaction of the only always-on query. -/
def alwaysOnTransaction : UInt32 := 1

namespace Answer

/-- The engine does not know what master rights are. -/
def deniesMasters : Answer → Bool
  | .error .invalidMessageId | .error .unsupported => true
  | _ => false

/-- The features of a successful always-on answer. -/
def alwaysOnFeatures (answer : Answer) : Mask EngineFeature :=
  match answer.payload? with
  | some (.alwaysOn (some capabilities)) =>
      capabilities.translate fun capability => [capability.feature]
  | _ => ∅

/-- The feature bitmap that a response carries, whatever its status. -/
def featureBitmap : Answer → List UInt8
  | .ok { payload := .supportedFeatures bitmap, .. } => bitmap
  | _ => []

end Answer

namespace AdapterM

variable {σ : Type} [Environment σ]

def claimMaster : AdapterM σ Unit := do
  let answer ← exchange (.registerMasterClient masterKey)
  setState fun state => { state with masterUnsupported := answer.deniesMasters }

/-- A measurement subscription that the engine takes shows that it measures. -/
def probeMeasurement : AdapterM σ Bool := do
  let supported ← subscribeConstellations (.single .measurementReport)
  if supported then
    setState fun state =>
      { state with registeredMask := state.registeredMask ∪ .single .measurementReport }
  return supported

def probeMessages : AdapterM σ (Mask EngineFeature) := do
  match (← get).state.handle with
  | none => return ∅
  | some handle =>
      match ← probeOn handle probedMessages with
      | .ok bits => return EngineFeature.ofProbe bits
      | .error _ => return ∅

/-- Only an engine that batches locations is asked for its always-on capabilities. -/
def queryAlwaysOn (features : Mask EngineFeature) : AdapterM σ (Mask EngineFeature) := do
  if features.has .locationBatching then
    let answer ← exchange (.queryAlwaysOn alwaysOnTransaction)
    return features ∪ answer.alwaysOnFeatures
  else return features

def queryFeatureBitmap : AdapterM σ (List UInt8) := do
  let answer ← exchange .getSupportedFeatures
  return answer.featureBitmap

/-- Claims master rights, asks what the engine supports, and publishes it. -/
def negotiate : AdapterM σ Unit := do
  claimMaster
  let gnssMeasurementSupported ← probeMeasurement
  let supportedMessages ← queryAlwaysOn (← probeMessages)
  let features ← queryFeatureBitmap
  publish { supportedMessages, features, gnssMeasurementSupported }
  notify .featuresKnown

end AdapterM

end GnssAdapter
