import GnssAdapter.Adapter.Subscription
import GnssAdapter.Adapter.Session
import GnssAdapter.Indication.Position
import GnssAdapter.Indication.Reply
import GnssAdapter.Indication.Report

/-!
Events from the transport.

Most indications are only reported. The engine state and the measurement fragments are kept track
of; an engine that turns off makes the adapter register its events anew and send what it has kept
for replay.
-/

namespace GnssAdapter

namespace AdapterM

variable {σ : Type} [Environment σ]

def notifyAll (callbacks : List Callback) : AdapterM σ Unit :=
  callbacks.forM notify

/-- The end of a session that was stopped has been told already, so that an engine turning on is
told only within a session. -/
def engineTurnedOn : AdapterM σ Unit := do
  setState fun state => { state with engineOn := true }
  if (← get).state.inSession then
    notifyAll [.status .engineOn, .status .sessionBegin]

def engineTurnedOff : AdapterM σ Unit := do
  setState fun state => { state with engineOn := false }
  notifyAll [.status .sessionEnd, .status .engineOff]
  resubscribe
  drainReplays

/-- Merges a fragment into the raw set; outside a session it is dropped. -/
def addRaw (fragment : MeasurementFragment) : AdapterM σ Unit := do
  let state := (← get).state
  if state.inSession then
    let (raw, finished) := state.raw.add fragment
    setState fun state => { state with raw }
    if let some set := finished then
      notify (.rawSet (set.stamp (← timestamp)))
      count fun counters => { counters with measurementSets := counters.measurementSets + 1 }
      observe (.setReported .raw set.measurements.length)

/-- Merges a fragment into the processed epoch. The first clock of a session uses up its
freshness. -/
def addProcessed (fragment : MeasurementFragment) : AdapterM σ Unit := do
  let state := (← get).state
  let fullPower := state.powerMode = some .m1
  let step := state.processed.add fragment state.sessionFresh fullPower
  setState fun state =>
    { state with
      processed := step.buffer
      sessionFresh := state.sessionFresh && !step.clockTaken }
  if let some (epoch, msInWeek) := step.finished then
    notify (.processedEpoch epoch msInWeek)
    observe (.setReported .processed epoch.measurements.length)

/-- One fragment feeds both the raw set and the processed epoch. -/
def addFragment (fragment : MeasurementFragment) : AdapterM σ Unit := do
  addRaw fragment
  addProcessed fragment

/-- A position is stamped with the time at which it is reported, used or not. -/
def reportPosition (indication : PositionIndication) (unpropagated : Bool) : AdapterM σ Unit := do
  let stamp ← timestamp
  notify (indication.callback stamp unpropagated)

def handleIndication (indication : Indication) : AdapterM σ Unit := do
  count fun counters => { counters with indications := counters.indications + 1 }
  observe (.indication indication.kind)
  match indication with
  | .engineState .on => engineTurnedOn
  | .engineState .off => engineTurnedOff
  | .measurement fragment => addFragment fragment
  | .position indication => reportPosition indication false
  | .unpropagatedPosition indication => reportPosition indication true
  | indication => notifyAll indication.callbacks

/-- The time of a reply; it is read from the wall clock only if the engine gives none. -/
def timeReply (reply : PositionReply) : AdapterM σ UInt64 :=
  match reply.timestampUtcMs with
  | some timestampMs => return timestampMs
  | none => readUtc

def handleReply (reply : PositionReply) : AdapterM σ Unit := do
  let timestampMs ← timeReply reply
  notify (reply.callback timestampMs)

/-- Handles one event. Of transport failures only the loss of the service matters. -/
def handleEvent (event : TransportEvent) : AdapterM σ Unit := do
  record (.arrived event)
  match event with
  | .indication indication => handleIndication indication
  | .response reply => handleReply reply
  | .error .serviceUnavailable => loseService
  | .error .other => return

end AdapterM

end GnssAdapter
