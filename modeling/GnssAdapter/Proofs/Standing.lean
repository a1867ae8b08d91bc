import GnssAdapter.Adapter.Inbound

/-!
What of an adapter does not hang on its clocks, its metrics and its surroundings, and what becomes of
it in each operation. The answers of the transport are arguments, so that a statement about all
arguments is one about every transport.
-/

namespace GnssAdapter

structure Standing where
  config : Config
  capabilities : CapabilityStore
  state : State
  replays : List Request
  queued : Nat
  sent : Nat
  failed : Nat
  history : List Entry

namespace Adapter

variable {σ : Type}

def standing (adapter : Adapter σ) : Standing where
  config := adapter.config
  capabilities := adapter.shared.capabilities
  state := adapter.state
  replays := adapter.replays
  queued := adapter.counters.replaysQueued
  sent := adapter.counters.replaysSent
  failed := adapter.counters.replaysFailed
  history := adapter.history

@[simp]
theorem standing_config (adapter : Adapter σ) : adapter.standing.config = adapter.config := rfl

@[simp]
theorem standing_state (adapter : Adapter σ) : adapter.standing.state = adapter.state := rfl

@[simp]
theorem standing_replays (adapter : Adapter σ) : adapter.standing.replays = adapter.replays := rfl

@[simp]
theorem standing_history (adapter : Adapter σ) : adapter.standing.history = adapter.history := rfl

end Adapter

/-- A change of the state that leaves the connection and both event masks alone. -/
inductive Adjustment where
  | startSession
  | stopSession
  | setPower (mode : Option PowerMode)
  | turn (on : Bool)
  | implyMaster (unsupported : Bool)
  | noteNmeaTypes (types : UInt32)
  | forgetServiceDeletion
  | keepRaw (raw : RawBuffer)
  | keepEpoch (processed : EpochBuffer) (clockTaken : Bool)

def Adjustment.apply (state : State) : Adjustment → State
  | .startSession => { state with inSession := true, sessionFresh := true }
  | .stopSession => { state with inSession := false, powerMode := none }
  | .setPower mode => { state with powerMode := mode }
  | .turn on => { state with engineOn := on }
  | .implyMaster unsupported => { state with masterUnsupported := unsupported }
  | .noteNmeaTypes types => { state with nmeaTypes := some types }
  | .forgetServiceDeletion => { state with serviceDeletionKnown := false }
  | .keepRaw raw => { state with raw }
  | .keepEpoch processed clockTaken =>
      { state with processed, sessionFresh := state.sessionFresh && !clockTaken }

namespace Adjustment

/-- The session goes on as it is, and the engine does not turn off. -/
def isSteady : Adjustment → Bool
  | .startSession | .stopSession | .turn false => false
  | _ => true

variable (state : State) (adjustment : Adjustment)

@[simp]
theorem apply_handle : (adjustment.apply state).handle = state.handle := by
  cases adjustment <;> rfl

@[simp]
theorem apply_requestedMask : (adjustment.apply state).requestedMask = state.requestedMask := by
  cases adjustment <;> rfl

@[simp]
theorem apply_registeredMask : (adjustment.apply state).registeredMask = state.registeredMask := by
  cases adjustment <;> rfl

theorem apply_inSession {adjustment : Adjustment} (hsteady : adjustment.isSteady = true) :
    (adjustment.apply state).inSession = state.inSession := by
  cases adjustment with
  | startSession | stopSession => cases hsteady
  | _ => rfl

end Adjustment

/-- The request by which an engine is asked whether it measures. -/
def measurementProbe : Request :=
  .setReportSubscription
    { measurementReport := some (.full ReportConstellation), polynomials := some ∅ }

namespace Standing

def isMaster (standing : Standing) : Bool :=
  standing.config.masterClient || standing.state.masterUnsupported

theorem isMaster_of_config {standing : Standing} (hmaster : standing.config.masterClient = true) :
    standing.isMaster = true := by
  unfold isMaster
  rw [hmaster, Bool.true_or]

def batchedBreach (standing : Standing) : Bool :=
  standing.capabilities.supports .batchedGeofenceBreach

def log (standing : Standing) (entry : Entry) : Standing :=
  { standing with history := entry :: standing.history }

@[simp]
theorem log_state (standing : Standing) (entry : Entry) :
    (standing.log entry).state = standing.state := rfl

@[simp]
theorem log_history (standing : Standing) (entry : Entry) :
    (standing.log entry).history = entry :: standing.history := rfl

def adjust (standing : Standing) (adjustment : Adjustment) : Standing :=
  { standing with state := adjustment.apply standing.state }

@[simp]
theorem adjust_handle (standing : Standing) (adjustment : Adjustment) :
    (standing.adjust adjustment).state.handle = standing.state.handle :=
  Adjustment.apply_handle ..

def register (standing : Standing) (handle : Handle) (mask : Mask NativeEvent)
    (accepted : Bool) : Standing :=
  { standing.log (.registered handle mask standing.isMaster accepted) with
    state :=
      if accepted then { standing.state with registeredMask := mask } else standing.state }

theorem register_state (standing : Standing) (handle : Handle) (mask : Mask NativeEvent)
    (accepted : Bool) :
    (standing.register handle mask accepted).state =
      { standing.state with
        registeredMask := (standing.register handle mask accepted).state.registeredMask } := by
  cases accepted <;> rfl

@[simp]
theorem register_handle (standing : Standing) (handle : Handle) (mask : Mask NativeEvent)
    (accepted : Bool) :
    (standing.register handle mask accepted).state.handle = standing.state.handle := by
  rw [register_state]

/-- The first request to be kept makes the adapter listen for the engine turning off. -/
def watch (standing : Standing) (handle : Handle) (accepted : Bool) : Standing :=
  if standing.replays.isEmpty && !standing.state.registeredMask.has .engineState then
    standing.register handle (standing.state.registeredMask ∪ .single .engineState) accepted
  else standing

def keep (standing : Standing) (request : Request) : Standing :=
  { standing with replays := standing.replays ++ [request], queued := standing.queued + 1 }

def exchange (standing : Standing) (request : Request) (answer : Option Answer)
    (accepted : Bool) : Standing :=
  match standing.state.handle with
  | none => standing
  | some handle =>
      let asked := standing.log (.requested handle request answer)
      if answer.any Answer.isBusy then (asked.watch handle accepted).keep request else asked

/-- What a request comes to. Without a connection it is not asked, and if it finds the engine busy
it is kept. The first one to be kept has the engine's state registered, unless it is already. -/
inductive Exchanged (standing : Standing) (request : Request) (answer : Option Answer)
    (accepted : Bool) : Standing → Prop where
  | closed (hclosed : standing.state.handle = none) :
      Exchanged standing request answer accepted standing
  | asked {handle : Handle} (hopen : standing.state.handle = some handle)
      (hfree : answer.any Answer.isBusy = false) :
      Exchanged standing request answer accepted (standing.log (.requested handle request answer))
  | kept {handle : Handle} (hopen : standing.state.handle = some handle)
      (hbusy : answer.any Answer.isBusy = true)
      (hheard : standing.replays ≠ [] ∨ standing.state.registeredMask.has .engineState = true) :
      Exchanged standing request answer accepted
        ((standing.log (.requested handle request answer)).keep request)
  | watched {handle : Handle} (hopen : standing.state.handle = some handle)
      (hbusy : answer.any Answer.isBusy = true)
      (hfirst : standing.replays = [] ∧
        standing.state.registeredMask.has .engineState = false) :
      Exchanged standing request answer accepted
        (((standing.log (.requested handle request answer)).register handle
          (standing.state.registeredMask ∪ .single .engineState) accepted).keep request)

theorem exchanged (standing : Standing) (request : Request) (answer : Option Answer)
    (accepted : Bool) :
    Exchanged standing request answer accepted (standing.exchange request answer accepted) := by
  unfold exchange
  split
  · rename_i hclosed
    exact .closed hclosed
  · rename_i handle hopen
    split
    · rename_i hbusy
      unfold watch
      dsimp only
      split
      · rename_i hfirst
        exact .watched hopen hbusy (by simpa [log] using hfirst)
      · rename_i hheard
        refine .kept hopen hbusy (Decidable.or_iff_not_imp_left.mpr fun hempty => ?_)
        rw [Decidable.not_not] at hempty
        simpa [log, hempty] using hheard
    · rename_i hfree
      exact .asked hopen (Bool.eq_false_iff.mpr hfree)

/-- Of the state, an exchange changes the registered mask at most. -/
theorem exchange_state (standing : Standing) (request : Request) (answer : Option Answer)
    (accepted : Bool) :
    (standing.exchange request answer accepted).state =
      { standing.state with
        registeredMask :=
          (standing.exchange request answer accepted).state.registeredMask } := by
  have hexchanged := standing.exchanged request answer accepted
  generalize standing.exchange request answer accepted = after at hexchanged ⊢
  cases hexchanged with
  | closed | asked | kept => rfl
  | @watched handle => exact register_state (standing.log _) handle _ accepted

@[simp]
theorem exchange_handle (standing : Standing) (request : Request) (answer : Option Answer)
    (accepted : Bool) :
    (standing.exchange request answer accepted).state.handle = standing.state.handle := by
  rw [exchange_state]

theorem exchange_config (standing : Standing) (request : Request) (answer : Option Answer)
    (accepted : Bool) : (standing.exchange request answer accepted).config = standing.config := by
  have hexchanged := standing.exchanged request answer accepted
  generalize standing.exchange request answer accepted = after at hexchanged ⊢
  cases hexchanged <;> rfl

theorem exchange_requestedMask (standing : Standing) (request : Request) (answer : Option Answer)
    (accepted : Bool) :
    (standing.exchange request answer accepted).state.requestedMask =
      standing.state.requestedMask := by
  rw [exchange_state]

def post (standing : Standing) (request : Request) (result : Except ClientError Unit) : Standing :=
  match standing.state.handle with
  | none => standing
  | some handle => standing.log (.posted handle request result)

def postAll (standing : Standing) (sendings : List (Request × Except ClientError Unit)) :
    Standing :=
  sendings.foldl (fun standing (request, result) => standing.post request result) standing

/-- The entries of requests sent one after the other. -/
def postings (handle : Option Handle) (sendings : List (Request × Except ClientError Unit)) :
    List Entry :=
  match handle with
  | none => []
  | some handle => (sendings.map fun (request, result) => .posted handle request result).reverse

theorem postings_cons (handle : Option Handle) (sending : Request × Except ClientError Unit)
    (rest : List (Request × Except ClientError Unit)) :
    postings handle (sending :: rest) = postings handle rest ++ postings handle [sending] := by
  cases handle <;> simp [postings]

theorem exists_of_mem_postings {handle : Option Handle}
    {sendings : List (Request × Except ClientError Unit)} {entry : Entry}
    (hmem : entry ∈ postings handle sendings) :
    ∃ current request result, entry = .posted current request result := by
  unfold postings at hmem
  split at hmem
  · cases hmem
  · rw [List.mem_reverse, List.mem_map] at hmem
    obtain ⟨sending, -, rfl⟩ := hmem
    exact ⟨_, _, _, rfl⟩

theorem post_eq (standing : Standing) (request : Request) (result : Except ClientError Unit) :
    standing.post request result =
      { standing with
        history := postings standing.state.handle [(request, result)] ++ standing.history } := by
  unfold post
  split
  · rename_i hclosed
    rw [hclosed]
    rfl
  · rename_i handle hopen
    rw [hopen]
    rfl

theorem postAll_eq (standing : Standing) (sendings : List (Request × Except ClientError Unit)) :
    standing.postAll sendings =
      { standing with history := postings standing.state.handle sendings ++ standing.history } := by
  induction sendings generalizing standing with
  | nil => cases hhandle : standing.state.handle <;> rfl
  | cons sending rest ih =>
      change (standing.post sending.1 sending.2).postAll rest = _
      rw [ih, post_eq, postings_cons _ sending rest, List.append_assoc]

def countDrained (standing : Standing) (results : List (Except ClientError Unit)) : Standing :=
  { standing with
    sent := standing.sent + results.countP (·.isOk)
    failed := standing.failed + results.countP (!·.isOk) }

def drain (standing : Standing) (results : List (Except ClientError Unit)) : Standing :=
  ({ standing with replays := [] }.postAll (standing.replays.zip results)).countDrained results

theorem drain_nil {standing : Standing} (hempty : standing.replays = []) :
    standing.drain [] = standing := by
  cases standing
  subst hempty
  rfl

/-- The native mask of some events as things stand. -/
def nativeFor (standing : Standing) (requested : Mask AdapterEvent) : Mask NativeEvent :=
  registrationMask (requested \ standing.config.excludedEvents) standing.state.inSession
    standing.batchedBreach

def request (standing : Standing) (requested : Mask AdapterEvent) : Standing :=
  { standing with
    state := { standing.state with
      requestedMask := requested \ standing.config.excludedEvents } }

def subscribe (standing : Standing) (requested : Mask AdapterEvent) (accepted : Bool) : Standing :=
  match standing.state.handle with
  | some handle =>
      if standing.nativeFor requested = standing.state.registeredMask then standing.request requested
      else (standing.register handle (standing.nativeFor requested) accepted).request requested
  | none => standing.request requested

/-- What a subscription comes to. The events are noted, and on an open connection what they come to
is registered, unless it looks as if it were already. -/
inductive Subscribed (standing : Standing) (requested : Mask AdapterEvent) (accepted : Bool) :
    Standing → Prop where
  | closed (hclosed : standing.state.handle = none) :
      Subscribed standing requested accepted (standing.request requested)
  | unchanged {handle : Handle} (hopen : standing.state.handle = some handle)
      (hsame : standing.state.registeredMask = standing.nativeFor requested) :
      Subscribed standing requested accepted (standing.request requested)
  | registered {handle : Handle} (hopen : standing.state.handle = some handle)
      (hdiffers : standing.state.registeredMask ≠ standing.nativeFor requested) :
      Subscribed standing requested accepted
        ((standing.register handle (standing.nativeFor requested) accepted).request requested)

theorem subscribed (standing : Standing) (requested : Mask AdapterEvent) (accepted : Bool) :
    Subscribed standing requested accepted (standing.subscribe requested accepted) := by
  unfold subscribe
  split
  · rename_i handle hopen
    split
    · rename_i hsame
      exact .unchanged hopen hsame.symm
    · rename_i hdiffers
      exact .registered hopen (Ne.symm hdiffers)
  · rename_i hclosed
    exact .closed hclosed

/-- Of the state, a subscription changes the masks at most. -/
theorem subscribe_state (standing : Standing) (requested : Mask AdapterEvent) (accepted : Bool) :
    (standing.subscribe requested accepted).state =
      { standing.state with
        requestedMask := requested \ standing.config.excludedEvents
        registeredMask := (standing.subscribe requested accepted).state.registeredMask } := by
  have hsubscribed := standing.subscribed requested accepted
  generalize standing.subscribe requested accepted = after at hsubscribed ⊢
  cases hsubscribed with
  | closed | unchanged => rfl
  | registered => cases accepted <;> rfl

@[simp]
theorem subscribe_replays (standing : Standing) (requested : Mask AdapterEvent)
    (accepted : Bool) : (standing.subscribe requested accepted).replays = standing.replays := by
  have hsubscribed := standing.subscribed requested accepted
  generalize standing.subscribe requested accepted = after at hsubscribed ⊢
  cases hsubscribed <;> rfl

def connect (standing : Standing) (handle : Handle) : Standing :=
  { standing.log (.connected (.ok handle)) with
    state := { standing.state with handle := some handle } }

/-- The negotiation's question whether the engine measures. -/
def mark (standing : Standing) (answer : Option Answer) (accepted : Bool) : Standing :=
  let asked := standing.exchange measurementProbe answer accepted
  if answer.any Answer.isAccepted then
    { asked with
      state := { asked.state with
        registeredMask := asked.state.registeredMask ∪ .single .measurementReport } }
  else asked

@[simp]
theorem mark_handle (standing : Standing) (answer : Option Answer) (accepted : Bool) :
    (standing.mark answer accepted).state.handle = standing.state.handle := by
  unfold mark
  split <;> exact exchange_handle ..

/-- The question whether the engine measures, up to the next question. -/
def measure (standing : Standing) (handle : Handle) (answer : Option Answer) (accepted : Bool)
    (messages : List MessageId) (result : Except ClientError UInt64) : Standing :=
  (standing.mark answer accepted).log (.probed handle messages result)

/-- The claim of master rights. -/
def claim (standing : Standing) (answer : Option Answer) (accepted : Bool) : Standing :=
  (standing.exchange (.registerMasterClient masterKey) answer accepted).adjust
    (.implyMaster (answer.getD (.error .timeout)).deniesMasters)

@[simp]
theorem claim_handle (standing : Standing) (answer : Option Answer) (accepted : Bool) :
    (standing.claim answer accepted).state.handle = standing.state.handle :=
  (adjust_handle ..).trans (exchange_handle ..)

/-- A master that has connected claims its rights and asks whether the engine measures, before all
else. -/
def introduce (standing : Standing) (handle : Handle) (claimed probed : Option Answer)
    (claimAccepted probeAccepted : Bool) (messages : List MessageId)
    (result : Except ClientError UInt64) : Standing :=
  ((standing.connect handle).claim claimed claimAccepted).measure handle probed probeAccepted
    messages result

def publish (standing : Standing) (capabilities : EngineCapabilities) : Standing :=
  let (store, accepted) := standing.capabilities.publish capabilities
  { standing.log (.published capabilities accepted) with capabilities := store }

def reset (standing : Standing) : Standing :=
  { standing with state := standing.state.reset, replays := [] }

def refuse (standing : Standing) (error : ClientError) : Standing :=
  (standing.log (.connected (.error error))).reset

def disconnect (standing : Standing) (result : Except ClientError Unit) : Standing :=
  match standing.state.handle with
  | none => standing.reset
  | some handle => (standing.log (.disconnected handle result)).reset

def lose (standing : Standing) : Standing :=
  (standing.log (.arrived (.error .serviceUnavailable))).reset.log (.notified .engineDown)

/-- The session is stopped. Its events are given up at once if the engine is off. -/
def stop (standing : Standing) (accepted : Bool) : Standing :=
  if standing.state.engineOn then standing.adjust .stopSession
  else (standing.adjust .stopSession).subscribe standing.state.requestedMask accepted

/-- The engine has turned off, and the location engine has been told. -/
def noticeOff (standing : Standing) : Standing :=
  ((standing.log (.arrived (.indication (.engineState .off)))).adjust (.turn false)).log
      (.notified (.status .sessionEnd))
    |>.log (.notified (.status .engineOff))

def turnOff (standing : Standing) (accepted : Bool) (results : List (Except ClientError Unit)) :
    Standing :=
  (standing.noticeOff.subscribe standing.state.requestedMask accepted).drain results

/-! ### The configuration stays -/

theorem subscribe_config (standing : Standing) (requested : Mask AdapterEvent) (accepted : Bool) :
    (standing.subscribe requested accepted).config = standing.config := by
  have hsubscribed := standing.subscribed requested accepted
  generalize standing.subscribe requested accepted = after at hsubscribed ⊢
  cases hsubscribed <;> rfl

theorem mark_config (standing : Standing) (answer : Option Answer) (accepted : Bool) :
    (standing.mark answer accepted).config = standing.config := by
  unfold mark
  split <;> exact exchange_config ..

theorem introduce_config (standing : Standing) (handle : Handle)
    (claimed probed : Option Answer) (claimAccepted probeAccepted : Bool)
    (messages : List MessageId) (result : Except ClientError UInt64) :
    (standing.introduce handle claimed probed claimAccepted probeAccepted messages
      result).config = standing.config :=
  (mark_config ((standing.connect handle).claim claimed claimAccepted) ..).trans
    (exchange_config (standing.connect handle) ..)

/-! ### The history only grows -/

theorem history_suffix_exchange (standing : Standing) (request : Request) (answer : Option Answer)
    (accepted : Bool) :
    standing.history <:+ (standing.exchange request answer accepted).history := by
  have hexchanged := standing.exchanged request answer accepted
  generalize standing.exchange request answer accepted = after at hexchanged ⊢
  cases hexchanged with
  | closed => exact List.suffix_rfl
  | asked | kept => exact List.suffix_cons ..
  | watched => exact ⟨[_, _], rfl⟩

theorem history_suffix_subscribe (standing : Standing) (requested : Mask AdapterEvent)
    (accepted : Bool) : standing.history <:+ (standing.subscribe requested accepted).history := by
  have hsubscribed := standing.subscribed requested accepted
  generalize standing.subscribe requested accepted = after at hsubscribed ⊢
  cases hsubscribed with
  | closed | unchanged => exact List.suffix_rfl
  | registered => exact List.suffix_cons ..

theorem history_suffix_stop (standing : Standing) (accepted : Bool) :
    standing.history <:+ (standing.stop accepted).history := by
  unfold stop
  split
  · exact List.suffix_rfl
  · exact history_suffix_subscribe (standing.adjust .stopSession) ..

theorem history_suffix_drain (standing : Standing) (results : List (Except ClientError Unit)) :
    standing.history <:+ (standing.drain results).history := by
  unfold drain
  rw [postAll_eq]
  exact List.suffix_append ..

theorem history_suffix_claim (standing : Standing) (answer : Option Answer) (accepted : Bool) :
    standing.history <:+ (standing.claim answer accepted).history :=
  history_suffix_exchange standing (.registerMasterClient masterKey) answer accepted

theorem history_suffix_mark (standing : Standing) (answer : Option Answer) (accepted : Bool) :
    standing.history <:+ (standing.mark answer accepted).history := by
  unfold mark
  split <;> exact history_suffix_exchange ..

theorem history_suffix_introduce (standing : Standing) (handle : Handle)
    (claimed probed : Option Answer) (claimAccepted probeAccepted : Bool)
    (messages : List MessageId) (result : Except ClientError UInt64) :
    standing.history <:+ (standing.introduce handle claimed probed claimAccepted probeAccepted
      messages result).history := by
  have hconnected : standing.history <:+ (standing.connect handle).history := List.suffix_cons ..
  have hclaimed := hconnected.trans
    (history_suffix_claim (standing.connect handle) claimed claimAccepted)
  have hprobed := hclaimed.trans
    (history_suffix_mark ((standing.connect handle).claim claimed claimAccepted) probed
      probeAccepted)
  exact hprobed.trans (List.suffix_cons ..)

theorem history_suffix_turnOff (standing : Standing) (accepted : Bool)
    (results : List (Except ClientError Unit)) :
    standing.history <:+ (standing.turnOff accepted results).history := by
  have hnoticed : standing.history <:+ standing.noticeOff.history :=
    List.suffix_append [_, _, _] _
  have hsubscribed := hnoticed.trans
    (history_suffix_subscribe standing.noticeOff standing.state.requestedMask accepted)
  exact hsubscribed.trans (history_suffix_drain ..)

end Standing

end GnssAdapter
