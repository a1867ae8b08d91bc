import GnssAdapter.Adapter.Basic

/-!
Requests on the open connection, and the replay of those that found the engine busy.

The answer of a busy engine goes to the caller as it is; the request is kept and sent once more,
without waiting, when the engine turns off.
-/

namespace GnssAdapter

namespace AdapterM

variable {σ : Type} [Environment σ]

/-- Registers a mask; the stored mask changes only if the transport accepts it. -/
def register (handle : Handle) (mask : Mask NativeEvent) : AdapterM σ Unit := do
  if ← registerOn handle mask then
    setState fun state => { state with registeredMask := mask }
    observe (.registration mask)

/-- Keeps a request for later. The first one subscribes to the engine state, which tells when to
send it. -/
def queueReplay (handle : Handle) (request : Request) : AdapterM σ Unit := do
  let adapter ← get
  let registered := adapter.state.registeredMask
  if adapter.replays.isEmpty && !registered.has .engineState then
    register handle (registered ∪ .single .engineState)
  modify fun adapter => { adapter with replays := adapter.replays ++ [request] }
  count fun counters => { counters with replaysQueued := counters.replaysQueued + 1 }
  observe (.replayQueued request.id)

/-- Sends a request and waits for its answer. -/
def exchange (request : Request) : AdapterM σ Answer := do
  match (← get).state.handle with
  | none => return .error .invalidHandle
  | some handle =>
      let reply ← requestOn handle request
      let answer : Answer := reply.answer.getD (.error .timeout)
      sampleLatency reply.elapsedMs
      observe (.exchange request.id answer.outcome reply.elapsedMs)
      if answer.isBusy then queueReplay handle request
      unless answer.isSuccess do
        count fun counters => { counters with failures := counters.failures + 1 }
      return answer

/-- Sends a request without waiting for its answer. -/
def post (request : Request) : AdapterM σ (Except ClientError Unit) := do
  match (← get).state.handle with
  | none => return .error .invalidHandle
  | some handle => postOn handle request

/-- Sends every kept request once, in order; none is kept again. -/
def drainReplays : AdapterM σ Unit := do
  let pending := (← get).replays
  unless pending.isEmpty do
    modify fun adapter => { adapter with replays := [] }
    let results ← pending.mapM post
    let sent := results.countP (·.isOk)
    let failed := results.countP (!·.isOk)
    count fun counters =>
      { counters with
        replaysSent := counters.replaysSent + sent
        replaysFailed := counters.replaysFailed + failed }
    observe (.replaysDrained sent failed)

/-- Sends a request whose answer comes later as an event. -/
def query (request : Request) : AdapterM σ (Except LocationError Unit) := do
  match ← post request with
  | .ok () => return .ok ()
  | .error _ => return .error .generalFailure

/-- Sends a request of which only success matters. -/
def complete (request : Request) : AdapterM σ (Except LocationError Unit) := do
  let answer ← exchange request
  return answer.completion

/-- Sends a request whose refusal is told to the caller. -/
def confirm (request : Request) : AdapterM σ (Except LocationError Unit) := do
  let answer ← exchange request
  return answer.verdict

end AdapterM

end GnssAdapter
