import GnssAdapter.Adapter.Exchange
import GnssAdapter.Event.Mapping

/-!
Event subscription: the native mask follows the events asked for and the state of the session, and
measurement reports are subscribed per constellation as well.
-/

namespace GnssAdapter

namespace AdapterM

variable {σ : Type} [Environment σ]

/-- Registers the native mask of some events, less the excluded ones, and keeps them as the events
asked for, whether the transport accepts the mask or not. -/
def subscribe (requested : Mask AdapterEvent) : AdapterM σ Unit := do
  let adapter ← get
  let requested := requested \ adapter.config.excludedEvents
  let native := registrationMask requested adapter.state.inSession adapter.batchedBreach
  if native ≠ adapter.state.registeredMask then
    if let some handle := adapter.state.handle then
      register handle native
  setState fun state => { state with requestedMask := requested }

/-- Registers the events asked for once more, after the session has changed. -/
def resubscribe : AdapterM σ Unit := do
  subscribe (← get).state.requestedMask

/-- Subscribes measurement and polynomial reports per constellation; tells whether the engine has
taken the request. Where master rights are implied, measurements are always subscribed. -/
def subscribeConstellations (native : Mask NativeEvent) : AdapterM σ Bool := do
  let measurement := native.has .measurementReport || (← get).state.masterUnsupported
  let polynomial := native.has .polynomialReport
  let answer ← exchange <| .setReportSubscription
    { measurementReport := some (.fullIf ReportConstellation measurement)
      polynomials := some (.fullIf ReportConstellation polynomial) }
  return answer.isAccepted

end AdapterM

end GnssAdapter
