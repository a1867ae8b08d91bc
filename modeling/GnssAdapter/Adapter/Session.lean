import GnssAdapter.Adapter.Negotiation
import GnssAdapter.Session.Start

/-!
Connections and fix sessions.

An adapter is closed, open and idle, or open in a fix session. Opening leads from closed to idle,
starting and stopping a fix lead back and forth between idle and in session, and closing leads back
from everywhere, also if the transport refuses.
-/

namespace GnssAdapter

namespace AdapterM

variable {σ : Type} [Environment σ]

/-- Forgets the connection and everything that hangs on it. -/
def resetConnection : AdapterM σ Unit :=
  modify fun adapter => { adapter with state := adapter.state.reset, replays := [] }

/-- Connects to the engine unless a connection is open; masters then negotiate. -/
def ensureConnected : AdapterM σ (Except ClientError Unit) := do
  if (← get).state.handle.isSome then return .ok ()
  match ← connect with
  | .error error =>
      resetConnection
      return .error error
  | .ok handle =>
      setState fun state => { state with handle := some handle }
      if (← get).isMaster then negotiate
      return .ok ()

/-- Tells the engine that Wi-Fi can be asked for, when that is first subscribed. -/
def announceWifi (native : Mask NativeEvent) : AdapterM σ Unit := do
  if native.has .wifiRequest && !(← get).state.registeredMask.has .wifiRequest then
    discard <| exchange (.notifyWifi true)

/-- Subscribes new events; masters also adjust the constellations of changed reports. -/
def changeEvents (requested : Mask AdapterEvent) : AdapterM σ Unit := do
  let adapter ← get
  let native := nativeEvents requested adapter.batchedBreach
  let registered := adapter.state.registeredMask
  announceWifi native
  unless requested = (← get).state.requestedMask do
    subscribe requested
    if (← get).isMaster &&
        (native.symmDiff registered).intersects NativeEvent.perConstellation then
      discard <| subscribeConstellations native

/-- Opens the connection and subscribes events. On an open connection only the events change. -/
def openConnection (requested : Mask AdapterEvent) : AdapterM σ (Except ClientError Unit) := do
  match ← ensureConnected with
  | .error error => return .error error
  | .ok () =>
      changeEvents (requested \ (← get).config.excludedEvents)
      return .ok ()

/-- Closes the connection; the state is reset even if the transport refuses. -/
def closeConnection : AdapterM σ (Except ClientError Unit) := do
  let result ←
    match (← get).state.handle with
    | some handle => disconnect handle
    | none => pure (.ok ())
  resetConnection
  return result

/-- Starts a fix session. An operation mode that is not answered in time does not hinder it; any
other failure to set the mode does, but the session stays marked as started. -/
def startFix (criteria : FixCriteria) : AdapterM σ (Except LocationError Unit) := do
  setState fun state => { state with inSession := true, sessionFresh := true }
  resubscribe
  let answer ← exchange (.setOperationMode criteria.mode.operation)
  if answer.isSuccess || answer.outcome = .timeout then
    setState fun state => { state with powerMode := criteria.powerMode }
    query (.start criteria.start)
  else return .error .generalFailure

/-- Stops the fix session, even if the request cannot be sent. Events that belong to a session stay
registered until the engine turns off, unless it has never turned on. -/
def stopFix : AdapterM σ (Except LocationError Unit) := do
  let result ← query (.stop sessionId)
  setState fun state => { state with inSession := false, powerMode := none }
  unless (← get).state.engineOn do resubscribe
  setState fun state => { state with raw := {} }
  return result

/-- New criteria restart a running session and are of no use to an idle one. -/
def changeCriteria (criteria : FixCriteria) : AdapterM σ (Except LocationError Unit) := do
  if (← get).state.inSession then startFix criteria else return .ok ()

/-- The remote service went away, and the connection with it. -/
def loseService : AdapterM σ Unit := do
  resetConnection
  notify .engineDown

end AdapterM

end GnssAdapter
