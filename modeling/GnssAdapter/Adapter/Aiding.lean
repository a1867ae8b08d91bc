import GnssAdapter.Adapter.Exchange
import GnssAdapter.Aiding.Deletion
import GnssAdapter.Aiding.Orbits
import GnssAdapter.Aiding.Position
import GnssAdapter.Indication.Connection

/-!
Aiding data: time, positions and predicted orbits go to the engine, and what it holds is deleted or
asked for.
-/

namespace GnssAdapter

/-- A sum that stops at the greatest number. -/
def saturatingAdd (left right : UInt64) : UInt64 :=
  if left.toNat + right.toNat < UInt64.size then left + right else .ofNat (UInt64.size - 1)

/-- The UTC time at an uptime, given the UTC time at a reference. A reference that is still to come
counts as now. -/
def TimeInjection.ofReference (utcMs referenceMs : UInt64) (uncertaintyMs : UInt32)
    (uptimeMs : UInt64) : TimeInjection where
  timeUtcMs := saturatingAdd utcMs (if referenceMs ≤ uptimeMs then uptimeMs - referenceMs else 0)
  timeUncertaintyMs := uncertaintyMs

/-- The engine does not know the deletion of service data. -/
def Answer.deniesServiceDeletion : Answer → Bool
  | .error .unsupported | .error .internal => true
  | _ => false

/-- The servers of a successful answer. -/
def Answer.orbitServers (answer : Answer) : List String :=
  match answer.payload? with
  | some (.xtraServers urls) => urls
  | _ => []

namespace AdapterM

variable {σ : Type} [Environment σ]

def injectTime (utcMs referenceMs : UInt64) (uncertaintyMs : UInt32) :
    AdapterM σ (Except LocationError Unit) := do
  let bootTime ← readBootTime
  complete (.injectTime (.ofReference utcMs referenceMs uncertaintyMs bootTime.toMilliseconds))

def injectLocation (location : Location) (onDemand : Bool) :
    AdapterM σ (Except LocationError Unit) :=
  complete (.injectPosition (.ofLocation location onDemand))

def injectLocationInfo (info : LocationInfo) (onDemand : Bool) :
    AdapterM σ (Except LocationError Unit) :=
  complete (.injectPosition (.ofInfo info onDemand))

/-- Injects a coarse position as that of the present time. -/
def injectPosition (coordinates : Coordinates) (accuracy : Float32) :
    AdapterM σ (Except LocationError Unit) := do
  let utcMs ← readUtc
  injectLocation
    { coordinates := some coordinates
      accuracy := some accuracy
      timestampMs := utcMs }
    false

/-- Deletes aiding data. When the engine first turns out not to know the deletion of service data,
the older deletion takes its place for good. -/
def deleteAidingData (data : AidingData) : AdapterM σ (Except LocationError Unit) := do
  if (← get).state.serviceDeletionKnown then
    let answer ← exchange (.deleteServiceData data.serviceDeletion)
    unless answer.deniesServiceDeletion do
      return answer.completion
    setState fun state => { state with serviceDeletionKnown := false }
  complete (.deleteAssistData data.assistDeletion)

/-- Asks the engine to report whole databases; whether it does shows in later events. -/
def requestAidingData (databases : Mask SatelliteDatabase) : AdapterM σ Unit :=
  discard <| exchange <| .setReportSubscription
    { fullPolynomials := databases.has .poly
      fullEphemerides := databases.has .ephemeris
      fullIonosphere := databases.has .ionosphere }

/-- Sends parts as long as they are acknowledged; answers with the bytes sent. -/
def injectParts : List OrbitsPart → Nat → AdapterM σ (Except LocationError Nat)
  | [], injected => do
      observe (.orbitBytes injected)
      return .ok injected
  | part :: rest, injected => do
      let answer ← exchange (.injectPredictedOrbits part)
      if answer.acknowledges part then injectParts rest (injected + part.data.size)
      else
        observe (.orbitBytes injected)
        return .error .generalFailure

def injectOrbits (data : ByteArray) : AdapterM σ (Except LocationError Nat) :=
  match OrbitsPart.split? data with
  | none => return .error .invalidParameter
  | some parts => injectParts parts 0

/-- Asks the engine where predicted orbits are to be had. -/
def requestOrbitServers : AdapterM σ (Except LocationError Unit) := do
  let answer ← exchange .getPredictedOrbitsSource
  (OrbitServers.callbacks answer.orbitServers).forM notify
  return answer.completion

end AdapterM

end GnssAdapter
