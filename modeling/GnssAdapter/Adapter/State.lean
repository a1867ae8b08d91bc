import GnssAdapter.Adapter.Environment
import GnssAdapter.Epoch.Processed
import GnssAdapter.Session.Criteria

/-!
The state of an adapter: its connection, its event masks, its fix session and the measurement
epochs being assembled.
-/

namespace GnssAdapter

/-- Where an adapter stands. -/
inductive Phase where
  | closed | openIdle | openInSession
  deriving DecidableEq

instance : Enumeration Phase where
  names := [
    (.closed, "Closed"),
    (.openIdle, "OpenIdle"),
    (.openInSession, "OpenInSession")]

structure State where
  handle : Option Handle := none
  /-- The events last asked for, less the excluded ones. -/
  requestedMask : Mask AdapterEvent := ∅
  /-- The native events that the transport has accepted. -/
  registeredMask : Mask NativeEvent := ∅
  inSession : Bool := false
  powerMode : Option PowerMode := none
  engineOn : Bool := false
  /-- The engine does not know master clients, so that every client has master rights. -/
  masterUnsupported : Bool := false
  /-- The engine is believed to know the deletion of service data. -/
  serviceDeletionKnown : Bool := true
  /-- The sentence types last sent. -/
  nmeaTypes : Option UInt32 := none
  /-- No clock has been taken since the session was started. -/
  sessionFresh : Bool := false
  raw : RawBuffer := {}
  processed : EpochBuffer := {}

namespace State

def phase (state : State) : Phase :=
  match state.handle, state.inSession with
  | none, _ => .closed
  | some _, false => .openIdle
  | some _, true => .openInSession

/-- The state without a connection; what has been learnt about the engine stays. -/
def reset (state : State) : State where
  masterUnsupported := state.masterUnsupported
  serviceDeletionKnown := state.serviceDeletionKnown

@[simp]
theorem phase_reset (state : State) : state.reset.phase = .closed := rfl

@[simp]
theorem reset_reset (state : State) : state.reset.reset = state.reset := rfl

end State

end GnssAdapter
