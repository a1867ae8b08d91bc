import GnssAdapter.Adapter.State
import GnssAdapter.Capability.Store
import GnssAdapter.Config.Basic
import GnssAdapter.Report.Callback
import GnssAdapter.Statistics.Recorder
import GnssAdapter.Statistics.Running

/-!
An adapter among its surroundings, and the steps that its operations are made of.

Everything that crosses the boundary of an adapter is an entry of its history: what the transport
was asked and answered, what the location engine was told, and which events arrived.
-/

namespace GnssAdapter

inductive Entry where
  | connected (result : Except ClientError Handle)
  | disconnected (handle : Handle) (result : Except ClientError Unit)
  | posted (handle : Handle) (request : Request) (result : Except ClientError Unit)
  | requested (handle : Handle) (request : Request) (answer : Option Answer)
  | registered (handle : Handle) (mask : Mask NativeEvent) (isMaster accepted : Bool)
  | probed (handle : Handle) (messages : List MessageId) (result : Except ClientError UInt64)
  | notified (callback : Callback)
  /-- Capabilities were offered to the store of the process. -/
  | published (capabilities : EngineCapabilities) (accepted : Bool)
  | arrived (event : TransportEvent)

structure Counters where
  commands : Nat := 0
  indications : Nat := 0
  /-- Events that came after the worker had stopped. -/
  droppedEvents : Nat := 0
  /-- Exchanges whose answer was no success. -/
  failures : Nat := 0
  replaysQueued : Nat := 0
  replaysSent : Nat := 0
  replaysFailed : Nat := 0
  /-- Raw measurement sets. -/
  measurementSets : Nat := 0

/-- What all adapters of a process have in common. -/
structure Shared where
  capabilities : CapabilityStore := {}
  recorder : Recorder := {}

structure Adapter (σ : Type) where
  config : Config
  surroundings : σ
  shared : Shared := {}
  state : State := {}
  /-- Requests that found the engine busy, to be sent again when it is idle. -/
  replays : List Request := []
  counters : Counters := {}
  /-- Latencies of synchronous requests, in milliseconds. -/
  latency : RunningStats Float := .empty
  /-- The latest entry comes first. -/
  history : List Entry := []

namespace Adapter

variable {σ : Type}

/-- Master rights are configured, or come of an engine that does not know them. -/
def isMaster (adapter : Adapter σ) : Bool :=
  adapter.config.masterClient || adapter.state.masterUnsupported

def batchedBreach (adapter : Adapter σ) : Bool :=
  adapter.shared.capabilities.supports .batchedGeofenceBreach

end Adapter

/-- An operation of an adapter. -/
abbrev AdapterM (σ : Type) := StateM (Adapter σ)

namespace AdapterM

variable {σ : Type}

def setState (change : State → State) : AdapterM σ Unit :=
  modify fun adapter => { adapter with state := change adapter.state }

def count (change : Counters → Counters) : AdapterM σ Unit :=
  modify fun adapter => { adapter with counters := change adapter.counters }

def record (entry : Entry) : AdapterM σ Unit :=
  modify fun adapter => { adapter with history := entry :: adapter.history }

def notify (callback : Callback) : AdapterM σ Unit :=
  record (.notified callback)

def observe (observation : Observation) : AdapterM σ Unit :=
  modify fun adapter =>
    { adapter with
      shared := { adapter.shared with
        recorder := adapter.shared.recorder.observe observation } }

def sampleLatency (milliseconds : Float) : AdapterM σ Unit :=
  modify fun adapter => { adapter with latency := adapter.latency.push milliseconds }

/-- Offers capabilities to the store of the process. -/
def publish (capabilities : EngineCapabilities) : AdapterM σ Unit :=
  modify fun adapter =>
    let (store, accepted) := adapter.shared.capabilities.publish capabilities
    { adapter with
      shared := { adapter.shared with capabilities := store }
      history := .published capabilities accepted :: adapter.history }

/-- A call of the surroundings. -/
def consult {α : Type} (call : σ → α × σ) : AdapterM σ α :=
  modifyGet fun adapter =>
    let (answer, surroundings) := call adapter.surroundings
    (answer, { adapter with surroundings })

variable [Environment σ]

def connect : AdapterM σ (Except ClientError Handle) := do
  let result ← consult Environment.connect
  record (.connected result)
  return result

def disconnect (handle : Handle) : AdapterM σ (Except ClientError Unit) := do
  let result ← consult (Environment.disconnect handle)
  record (.disconnected handle result)
  return result

def postOn (handle : Handle) (request : Request) : AdapterM σ (Except ClientError Unit) := do
  let result ← consult (Environment.post handle request)
  record (.posted handle request result)
  return result

/-- Waits for an answer as long as the configuration allows. -/
def requestOn (handle : Handle) (request : Request) : AdapterM σ Reply := do
  let timeoutMs := (← get).config.requestTimeoutMs
  let reply ← consult (Environment.request handle request timeoutMs)
  record (.requested handle request reply.answer)
  return reply

def registerOn (handle : Handle) (mask : Mask NativeEvent) : AdapterM σ Bool := do
  let isMaster := (← get).isMaster
  let accepted ← consult (Environment.register handle mask isMaster)
  record (.registered handle mask isMaster accepted)
  return accepted

def probeOn (handle : Handle) (messages : List MessageId) :
    AdapterM σ (Except ClientError UInt64) := do
  let result ← consult (Environment.probe handle messages)
  record (.probed handle messages result)
  return result

def readBootTime : AdapterM σ Duration :=
  consult Environment.readBootTime

def readUtc : AdapterM σ UInt64 :=
  consult Environment.readUtc

/-- The time for a report, with the configured uncertainty. -/
def timestamp : AdapterM σ ApTimestamp := do
  let bootTime ← readBootTime
  return { bootTime, uncertaintyMs := (← get).config.timestampUncertaintyMs }

end AdapterM

end GnssAdapter
