import GnssAdapter.Adapter.Environment
import GnssAdapter.Message.Identity

/-!
A remote engine that follows a script: it fails, stalls or answers as it is told, and notes what it
was asked.
-/

namespace GnssAdapter

structure ScriptedEngine where
  clock : ClockReading
  /-- Every attempt to connect fails. -/
  openFailure : Option ClientError := none
  /-- The next attempt to connect fails, whatever else holds. -/
  nextOpenFailure : Option ClientError := none
  /-- Closing succeeds but is answered with a failure. -/
  closeFailure : Option ClientError := none
  probeFailure : Option ClientError := none
  /-- Failures of messages, for good. -/
  failures : List (MessageId × ClientError) := []
  /-- Failures of messages, each for one request; they come first. -/
  nextFailures : List (MessageId × ClientError) := []
  responses : List (MessageId × Response) := []
  /-- Messages that are never answered. -/
  stalled : List MessageId := []
  /-- The answer to a probe, before it is cut to the messages asked about. -/
  supportedMessages : UInt64 := 0
  unsupported : List MessageId := []
  rejectsRegistrations : Bool := false
  nextHandle : UInt64 := 1
  /-- Events reach the adapter: since it last connected, it has not disconnected. -/
  listening : Bool := false
  /-- The requests received, the latest first. -/
  requests : List Request := []
  /-- The masks accepted, the latest first. -/
  registrations : List (Mask NativeEvent) := []
  opens : Nat := 0
  closes : Nat := 0

namespace ScriptedEngine

/-- An association list with one entry replaced. -/
def assign {α : Type} (id : MessageId) (value : α) (entries : List (MessageId × α)) :
    List (MessageId × α) :=
  (id, value) :: entries.filter (·.1 ≠ id)

def failAlways (engine : ScriptedEngine) (id : MessageId) (error : ClientError) : ScriptedEngine :=
  { engine with failures := assign id error engine.failures }

def failNext (engine : ScriptedEngine) (id : MessageId) (error : ClientError) : ScriptedEngine :=
  { engine with nextFailures := assign id error engine.nextFailures }

def respond (engine : ScriptedEngine) (id : MessageId) (response : Response) : ScriptedEngine :=
  { engine with responses := assign id response engine.responses }

/-- Tells whether the engine understands a message. -/
def understands (engine : ScriptedEngine) (id : MessageId) : Bool :=
  !engine.unsupported.contains id

/-- The requests received for a message, the oldest first. -/
def requestsFor (engine : ScriptedEngine) (id : MessageId) : List Request :=
  engine.requests.reverse.filter (·.id = id)

def connect (engine : ScriptedEngine) : Except ClientError Handle × ScriptedEngine :=
  match engine.nextOpenFailure, engine.openFailure with
  | some error, _ => (.error error, { engine with nextOpenFailure := none })
  | none, some error => (.error error, engine)
  | none, none =>
      (.ok ⟨engine.nextHandle⟩,
        { engine with
          nextHandle := engine.nextHandle + 1
          listening := true
          opens := engine.opens + 1 })

def disconnect (engine : ScriptedEngine) : Except ClientError Unit × ScriptedEngine :=
  let result :=
    match engine.closeFailure with
    | some error => .error error
    | none => .ok ()
  (result, { engine with listening := false, closes := engine.closes + 1 })

/-- Notes a request and tells whether it fails; a failure for one request is used up. -/
def receive (engine : ScriptedEngine) (request : Request) :
    Except ClientError Unit × ScriptedEngine :=
  let engine := { engine with requests := request :: engine.requests }
  match engine.nextFailures.lookup request.id, engine.failures.lookup request.id with
  | some error, _ =>
      (.error error,
        { engine with nextFailures := engine.nextFailures.filter (·.1 ≠ request.id) })
  | none, some error => (.error error, engine)
  | none, none => (.ok (), engine)

/-- A plain success; a part of predicted orbits is acknowledged by its number. -/
def plainResponse : Request → Response
  | .injectPredictedOrbits part => { payload := .predictedOrbitsPart part.partNum }
  | _ => {}

def response? (engine : ScriptedEngine) (request : Request) : Option Response :=
  if engine.stalled.contains request.id then none
  else some ((engine.responses.lookup request.id).getD (plainResponse request))

def request (engine : ScriptedEngine) (request : Request) : Reply × ScriptedEngine :=
  match engine.receive request with
  | (.error error, engine) => ({ answer := some (.error error), elapsedMs := 0 }, engine)
  | (.ok (), engine) =>
      ({ answer := (engine.response? request).map .ok, elapsedMs := 0 }, engine)

def register (engine : ScriptedEngine) (mask : Mask NativeEvent) : Bool × ScriptedEngine :=
  if engine.rejectsRegistrations then (false, engine)
  else (true, { engine with registrations := mask :: engine.registrations })

def probe (engine : ScriptedEngine) (messages : List MessageId) : Except ClientError UInt64 :=
  match engine.probeFailure with
  | some error => .error error
  | none => .ok (.ofNat (engine.supportedMessages.toNat % Nat.pow 2 messages.length))

instance : Environment ScriptedEngine where
  connect := connect
  disconnect _ := disconnect
  post _ request engine := engine.receive request
  request _ message _ engine := engine.request message
  register _ mask _ engine := engine.register mask
  probe _ messages engine := (engine.probe messages, engine)
  readBootTime engine := (engine.clock.bootTime, engine)
  readUtc engine := (engine.clock.utcMs, engine)

end ScriptedEngine

end GnssAdapter
