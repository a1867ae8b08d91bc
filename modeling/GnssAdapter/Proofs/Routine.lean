import GnssAdapter.Command
import GnssAdapter.Proofs.Reports
import GnssAdapter.Proofs.Step
import GnssAdapter.Proofs.Synchrony

/-!
Routine operations. Most of what an adapter does is put together from a few operations, and goes by
nothing but its configuration, its state, the capabilities that are known and the answers it gets.
What holds of the few, and of putting operations together, holds of all of them. Most routine
operations are plain besides.
-/

namespace GnssAdapter

/-! ### What arrives and is asked for -/

def Indication.fragment? : Indication → Option MeasurementFragment
  | .measurement fragment => some fragment
  | _ => none

theorem Indication.eq_of_fragment? {indication : Indication} {fragment : MeasurementFragment}
    (hfragment : indication.fragment? = some fragment) : indication = .measurement fragment := by
  cases indication with
  | measurement other =>
      cases hfragment
      rfl
  | _ => cases hfragment

/-- A command that leaves the connection and the session as they are. -/
def Command.isRoutine : Command → Bool
  | .connect _ | .disconnect | .startFix _ | .stopFix | .changeCriteria _ => false
  | _ => true

/-- A routine command that does not set sentence types. -/
def Command.isPlain : Command → Bool
  | .setNmeaTypes _ => false
  | command => command.isRoutine

/-! ### What routine operations are made of -/

/-- Adapters that decide alike, whatever they have been through and have kept for replay. -/
structure Adapter.Agree {σ : Type} (first second : Adapter σ) : Prop where
  hconfig : first.config = second.config
  hcapabilities : first.shared.capabilities = second.shared.capabilities
  hstate : first.state = second.state

namespace Adapter.Agree

variable {σ : Type} {first second third : Adapter σ}

theorem symm (hagree : first.Agree second) : second.Agree first :=
  ⟨hagree.hconfig.symm, hagree.hcapabilities.symm, hagree.hstate.symm⟩

theorem trans (hfirst : first.Agree second) (hsecond : second.Agree third) : first.Agree third :=
  ⟨hfirst.hconfig.trans hsecond.hconfig, hfirst.hcapabilities.trans hsecond.hcapabilities,
    hfirst.hstate.trans hsecond.hstate⟩

theorem isMaster (hagree : first.Agree second) : first.isMaster = second.isMaster := by
  unfold Adapter.isMaster
  rw [hagree.hconfig, hagree.hstate]

theorem batchedBreach (hagree : first.Agree second) :
    first.batchedBreach = second.batchedBreach := by
  unfold Adapter.batchedBreach
  rw [hagree.hcapabilities]

end Adapter.Agree

namespace AdapterM

variable {σ α β : Type} [Environment σ]

/-- A look at a clock, and which times it may give in place of each other. -/
inductive Look : {α : Type} → AdapterM σ α → (Synchrony → α → α → Prop) → Prop
  | bootTime : Look readBootTime Synchrony.BootTimes
  | utc : Look readUtc Synchrony.UtcTimes
  | timestamp : Look timestamp Synchrony.Stamps

theorem Look.standing {look : AdapterM σ α} {same : Synchrony → α → α → Prop}
    (hlook : Look look same) (adapter : Adapter σ) :
    (look.run adapter).2.standing = adapter.standing := by
  cases hlook <;> rfl

inductive Routine : {α : Type} → AdapterM σ α → Prop
  | pure {α : Type} (value : α) : Routine (pure value)
  | bind {α β : Type} {operation : AdapterM σ α} {next : α → AdapterM σ β}
      (hfirst : Routine operation) (hnext : ∀ value, Routine (next value)) :
      Routine (operation >>= next)
  /-- Only what adapters decide by is read. -/
  | read {α : Type} {next : Adapter σ → AdapterM σ α}
      (hagree : ∀ first second : Adapter σ, first.Agree second → next first = next second)
      (hnext : ∀ adapter, Routine (next adapter)) : Routine (get >>= next)
  /-- The time is not taken for anything but a request. -/
  | exchangeAt {α : Type} {look : AdapterM σ α} {same : Synchrony → α → α → Prop}
      (hlook : Look look same) (request : α → Request)
      (hblur : ∀ {synchrony first second}, same synchrony first second →
        (request first).blur synchrony = (request second).blur synchrony) :
      Routine (look >>= fun time => exchange (request time))
  /-- The time is not taken for anything but a report. -/
  | notifyAt {α : Type} {look : AdapterM σ α} {same : Synchrony → α → α → Prop}
      (hlook : Look look same) (callback : α → Callback)
      (hblur : ∀ {synchrony first second}, same synchrony first second →
        (callback first).blur synchrony = (callback second).blur synchrony) :
      Routine (look >>= fun time => notify (callback time))
  | exchange (request : Request) : Routine (exchange request)
  | post (request : Request) : Routine (post request)
  | subscribe (requested : Mask AdapterEvent) : Routine (subscribe requested)
  | adjust {change : State → State} (adjustment : Adjustment)
      (hsteady : adjustment.isSteady = true)
      (hchange : ∀ state, change state = adjustment.apply state) : Routine (setState change)
  | notify (callback : Callback) : Routine (notify callback)
  | publish (capabilities : EngineCapabilities) : Routine (publish capabilities)
  | observe (observation : Observation) : Routine (observe observation)
  | count (change : Counters → Counters)
      (hapart : ∀ counters, (change counters).replaysQueued = counters.replaysQueued ∧
        (change counters).replaysSent = counters.replaysSent ∧
        (change counters).replaysFailed = counters.replaysFailed) : Routine (count change)

namespace Routine

variable {operation : AdapterM σ α}

theorem map (change : α → β) (hoperation : Routine operation) : Routine (change <$> operation) :=
  hoperation.bind fun value => .pure (change value)

theorem walks (hoperation : Routine operation) : Walks operation := by
  induction hoperation with
  | pure value => exact .pure value
  | bind _ _ hfirst hnext => exact hfirst.bind hnext
  | read _ _ hnext => exact Walks.get.bind hnext
  | exchangeAt hlook => exact Walks.bind (.of_silent hlook.standing) fun _ => .exchange _
  | notifyAt hlook => exact Walks.bind (.of_silent hlook.standing) fun _ => .notify _
  | exchange request => exact .exchange request
  | post request => exact .post request
  | subscribe requested => exact .subscribe requested
  | adjust adjustment hsteady hchange => exact .setState adjustment hsteady hchange
  | notify callback => exact .notify callback
  | publish capabilities => exact .publish capabilities
  | observe observation => exact .observe observation
  | count change hapart =>
      -- Of the counters, only those of replays are part of the standing.
      refine .of_silent fun adapter => ?_
      obtain ⟨hqueued, hsent, hfailed⟩ := hapart adapter.counters
      have hstanding : ((AdapterM.count change).run adapter).2.standing =
          { adapter.standing with
            queued := (change adapter.counters).replaysQueued
            sent := (change adapter.counters).replaysSent
            failed := (change adapter.counters).replaysFailed } := rfl
      rw [hstanding, hqueued, hsent, hfailed]
      rfl

end Routine

/-! ### Plain operations -/

/-- A routine operation that has nothing to do with sentence types, measurement epochs and how
sessions are timed. -/
structure Plain (operation : AdapterM σ α) : Prop where
  hroutine : Routine operation
  hretains : ∀ adapter : Adapter σ, adapter.standing.Retains (operation.run adapter).2.standing
  htiming : ∀ adapter : Adapter σ,
    (operation.run adapter).2.standing.state.timing = adapter.standing.state.timing

namespace Plain

variable {operation : AdapterM σ α}

theorem of_silent (hroutine : Routine operation)
    (hsilent : ∀ adapter : Adapter σ, (operation.run adapter).2.state = adapter.state ∧
      (operation.run adapter).2.history = adapter.history) : Plain operation where
  hroutine := hroutine
  hretains adapter :=
    (Standing.Retains.refl adapter.standing).of_same (hsilent adapter).1 (hsilent adapter).2
  htiming adapter := congrArg State.timing (hsilent adapter).1

theorem pure (value : α) : Plain (pure value : AdapterM σ α) :=
  of_silent (.pure value) fun _ => ⟨rfl, rfl⟩

theorem bind {next : α → AdapterM σ β} (hfirst : Plain operation)
    (hnext : ∀ value, Plain (next value)) : Plain (operation >>= next) where
  hroutine := hfirst.hroutine.bind fun value => (hnext value).hroutine
  hretains adapter := (hfirst.hretains adapter).trans ((hnext _).hretains _)
  htiming adapter := ((hnext _).htiming _).trans (hfirst.htiming adapter)

theorem map (change : α → β) (hoperation : Plain operation) : Plain (change <$> operation) :=
  hoperation.bind fun value => .pure (change value)

theorem discard (hoperation : Plain operation) : Plain (Functor.discard operation) :=
  hoperation.bind fun _ => .pure ()

theorem forM {operation : α → AdapterM σ PUnit} {items : List α}
    (hoperation : ∀ item ∈ items, Plain (operation item)) : Plain (items.forM operation) := by
  induction items with
  | nil => exact .pure _
  | cons item rest ih =>
      exact (hoperation item (.head _)).bind fun _ =>
        ih fun other hmem => hoperation other (.tail _ hmem)

theorem read {next : Adapter σ → AdapterM σ α}
    (hagree : ∀ first second : Adapter σ, first.Agree second → next first = next second)
    (hnext : ∀ adapter, Plain (next adapter)) : Plain (get >>= next) where
  hroutine := .read hagree fun adapter => (hnext adapter).hroutine
  hretains adapter := (hnext adapter).hretains adapter
  htiming adapter := (hnext adapter).htiming adapter

theorem of_look {look : AdapterM σ α} {same : Synchrony → α → α → Prop}
    (hlook : Look look same) {next : α → AdapterM σ β} (hnext : ∀ time, Plain (next time))
    (hroutine : Routine (look >>= next)) : Plain (look >>= next) where
  hroutine := hroutine
  hretains adapter := by
    rw [← hlook.standing adapter]
    exact (hnext _).hretains (look.run adapter).2
  htiming adapter := by
    rw [← hlook.standing adapter]
    exact (hnext _).htiming (look.run adapter).2

theorem exchange {request : Request} (hplain : request.isPlain = true) :
    Plain (exchange request : AdapterM σ Answer) where
  hroutine := .exchange request
  hretains adapter := by
    obtain ⟨answer, accepted, hstanding, -⟩ := exchange_standing request adapter
    rw [hstanding]
    exact .exchange _ hplain answer accepted
  htiming adapter := by
    obtain ⟨answer, accepted, hstanding, -⟩ := exchange_standing request adapter
    rw [hstanding, Standing.exchange_state]
    rfl

theorem exchangeAt {look : AdapterM σ α} {same : Synchrony → α → α → Prop}
    (hlook : Look look same) {request : α → Request}
    (hblur : ∀ {synchrony first second}, same synchrony first second →
      (request first).blur synchrony = (request second).blur synchrony)
    (hplain : ∀ time, (request time).isPlain = true) :
    Plain (look >>= fun time => AdapterM.exchange (request time)) :=
  of_look hlook (fun time => exchange (hplain time)) (.exchangeAt hlook request hblur)

theorem post (request : Request) :
    Plain (post request : AdapterM σ (Except ClientError Unit)) where
  hroutine := .post request
  hretains adapter := by
    rw [post_standing]
    exact .post ..
  htiming adapter := by
    rw [post_standing, Standing.post_eq]

theorem subscribe (requested : Mask AdapterEvent) :
    Plain (subscribe requested : AdapterM σ Unit) where
  hroutine := .subscribe requested
  hretains adapter := by
    obtain ⟨accepted, hstanding⟩ := subscribe_standing requested adapter
    rw [hstanding]
    exact .subscribe ..
  htiming adapter := by
    obtain ⟨accepted, hstanding⟩ := subscribe_standing requested adapter
    rw [hstanding, Standing.subscribe_state]
    rfl

theorem adjust {change : State → State} (adjustment : Adjustment)
    (hsteady : adjustment.isSteady = true) (hplain : adjustment.isPlain = true)
    (htimeless : ∀ state, (adjustment.apply state).timing = state.timing)
    (hchange : ∀ state, change state = adjustment.apply state) :
    Plain (setState change : AdapterM σ Unit) where
  hroutine := .adjust adjustment hsteady hchange
  hretains adapter := by
    rw [setState_standing, hchange]
    exact .adjust _ _ hplain
  htiming adapter := by
    rw [setState_standing, hchange]
    exact htimeless _

theorem notify {callback : Callback} (hplain : callback.isPlain = true) :
    Plain (notify callback : AdapterM σ Unit) where
  hroutine := .notify callback
  hretains adapter := .log adapter.standing hplain
  htiming _ := rfl

theorem notifyAll {callbacks : List Callback} (hplain : callbacks.all Callback.isPlain = true) :
    Plain (notifyAll callbacks : AdapterM σ Unit) :=
  forM fun callback hmem => notify (List.all_eq_true.mp hplain callback hmem)

theorem notifyAt {look : AdapterM σ α} {same : Synchrony → α → α → Prop}
    (hlook : Look look same) {callback : α → Callback}
    (hblur : ∀ {synchrony first second}, same synchrony first second →
      (callback first).blur synchrony = (callback second).blur synchrony)
    (hplain : ∀ time, (callback time).isPlain = true) :
    Plain (look >>= fun time => AdapterM.notify (callback time)) :=
  of_look hlook (fun time => notify (hplain time)) (.notifyAt hlook callback hblur)

theorem publish (capabilities : EngineCapabilities) :
    Plain (publish capabilities : AdapterM σ Unit) where
  hroutine := .publish capabilities
  hretains _ := ⟨rfl, rfl, .cons rfl _⟩
  htiming _ := rfl

theorem observe (observation : Observation) : Plain (observe observation : AdapterM σ Unit) :=
  of_silent (.observe observation) fun _ => ⟨rfl, rfl⟩

theorem count {change : Counters → Counters}
    (hapart : ∀ counters, (change counters).replaysQueued = counters.replaysQueued ∧
      (change counters).replaysSent = counters.replaysSent ∧
      (change counters).replaysFailed = counters.replaysFailed) :
    Plain (count change : AdapterM σ Unit) :=
  of_silent (.count change hapart) fun _ => ⟨rfl, rfl⟩

/-! ### Requests -/

theorem query (request : Request) :
    Plain (query request : AdapterM σ (Except LocationError Unit)) := by
  refine (post request).bind fun result => ?_
  cases result <;> exact .pure _

theorem complete {request : Request} (hplain : request.isPlain = true) :
    Plain (complete request : AdapterM σ (Except LocationError Unit)) :=
  (exchange hplain).bind fun _ => .pure _

theorem confirm {request : Request} (hplain : request.isPlain = true) :
    Plain (confirm request : AdapterM σ (Except LocationError Unit)) :=
  (exchange hplain).bind fun _ => .pure _

theorem resubscribe : Plain (resubscribe : AdapterM σ Unit) :=
  .read (fun _ _ hagree => by rw [hagree.hstate]) fun adapter =>
    subscribe adapter.state.requestedMask

/-! ### Aiding data -/

theorem injectTime (utcMs referenceMs : UInt64) (uncertaintyMs : UInt32) :
    Plain (injectTime utcMs referenceMs uncertaintyMs :
      AdapterM σ (Except LocationError Unit)) :=
  (exchangeAt .bootTime (fun hsame => Request.injectTime_blur hsame _ _ _) fun _ => rfl).bind
    fun _ => .pure _

theorem injectPosition (coordinates : Coordinates) (accuracy : Float32) :
    Plain (injectPosition coordinates accuracy : AdapterM σ (Except LocationError Unit)) := by
  let location : Location := { coordinates := some coordinates, accuracy := some accuracy }
  let request (utcMs : UInt64) : Request :=
    .injectPosition (.ofLocation { location with timestampMs := utcMs } false)
  have hasked : Plain (readUtc >>= fun utcMs => AdapterM.exchange (request utcMs) :
      AdapterM σ Answer) :=
    exchangeAt .utc (fun hsame => Request.injectPosition_blur hsame location false) fun _ => rfl
  exact hasked.bind fun _ => .pure _

theorem deleteAidingData (data : AidingData) :
    Plain (deleteAidingData data : AdapterM σ (Except LocationError Unit)) := by
  refine .read (fun _ _ hagree => by rw [hagree.hstate]) fun adapter => ?_
  split
  · refine (exchange rfl).bind fun answer => ?_
    split
    · exact (adjust .forgetServiceDeletion rfl rfl (fun _ => rfl) fun _ => rfl).bind fun _ =>
        complete rfl
    · exact .pure _
  · exact complete rfl

theorem injectParts (parts : List OrbitsPart) (injected : Nat) :
    Plain (injectParts parts injected : AdapterM σ (Except LocationError Nat)) := by
  induction parts generalizing injected with
  | nil => exact (observe _).bind fun _ => .pure _
  | cons part rest ih =>
      refine (exchange rfl).bind fun answer => ?_
      split
      · exact ih _
      · exact (observe _).bind fun _ => .pure _

theorem injectOrbits (data : ByteArray) :
    Plain (injectOrbits data : AdapterM σ (Except LocationError Nat)) := by
  unfold AdapterM.injectOrbits
  split
  · exact .pure _
  · exact injectParts _ _

theorem requestOrbitServers :
    Plain (requestOrbitServers : AdapterM σ (Except LocationError Unit)) :=
  (exchange rfl).bind fun _ =>
    (notifyAll (OrbitServers.callbacks_isPlain _)).bind fun _ => .pure _

/-! ### Settings -/

theorem getLock (subscription : LockSubscription) :
    Plain (getLock subscription : AdapterM σ (Except LocationError PositioningLock)) := by
  refine (exchange rfl).bind fun answer => ?_
  split <;> exact .pure _

theorem getEnergyConsumed :
    Plain (getEnergyConsumed : AdapterM σ (Except LocationError Unit)) := by
  refine (exchange rfl).bind fun answer => ?_
  split <;> exact (notify rfl).bind fun _ => .pure _

theorem getConstellations :
    Plain (getConstellations : AdapterM σ (Except LocationError Unit)) := by
  refine (exchange rfl).bind fun answer => ?_
  split
  · exact (notify rfl).bind fun _ => .pure _
  · exact .pure _

theorem setServerUrl (url : String) (kind : ServerKind) :
    Plain (setServerUrl url kind : AdapterM σ (Except LocationError Unit)) := by
  unfold AdapterM.setServerUrl
  split
  · exact .pure _
  · exact complete rfl

theorem installSlot (slot : UInt8) (step : SlotStep) :
    Plain (installSlot slot step : AdapterM σ Unit) := by
  cases step with
  | inject certificate => exact (exchange rfl).discard
  | skip => exact .pure _
  | clear => exact (exchange rfl).discard.bind fun _ => (exchange rfl).discard

/-! ### Commands -/

theorem attempt {operation : AdapterM σ (Except LocationError Unit)}
    (hoperation : Plain operation) : Plain (attempt operation) :=
  hoperation.map _

theorem always (hoperation : Plain operation) : Plain (always operation) :=
  hoperation.map _

theorem execute {command : Command} (hplain : command.isPlain = true) :
    Plain (execute command : AdapterM σ CommandResult) := by
  cases command with
  | connect | disconnect | startFix | stopFix | changeCriteria | setNmeaTypes => cases hplain
  | subscribe events => exact (subscribe events).always
  | injectTime utcMs referenceMs uncertaintyMs =>
      exact (injectTime utcMs referenceMs uncertaintyMs).attempt
  | injectPosition coordinates accuracy => exact (injectPosition coordinates accuracy).attempt
  | deleteAidingData data => exact (deleteAidingData data).attempt
  | requestAidingData databases => exact (exchange rfl).discard.always
  | injectOrbits data => exact (injectOrbits data).map _
  | requestOrbitServers => exact requestOrbitServers.attempt
  | getConstellations => exact getConstellations.attempt
  | getLock subscription => exact (getLock subscription).map _
  | getEnergyConsumed => exact getEnergyConsumed.attempt
  | setServerUrl url kind => exact (setServerUrl url kind).attempt
  | reportCallOpened | reportCallClosed => exact (exchange rfl).always
  | installCertificates certificates slots =>
      exact (forM fun (slot, step) _ => installSlot slot step).always
  | getBlacklist | getWwanPosition | getBestAvailablePosition => exact (query _).attempt
  | setBlacklist | setConstellations | resetConstellations | setSensorProperties
  | setSensorControl => exact (confirm rfl).attempt
  | injectLocation | injectLocationInfo | setXtraCheck | setSuplVersion | setLppProfile
  | setAGlonassProtocol | setLppeControlPlane | setLppeUserPlane | setLock
  | constrainTimeUncertainty | setPositionAssistedClock | answerNi | setServerAddress =>
      exact (complete rfl).attempt

/-! ### Subscription and sessions -/

theorem subscribeConstellations (native : Mask NativeEvent) :
    Plain (subscribeConstellations native : AdapterM σ Bool) :=
  .read (fun _ _ hagree => by rw [hagree.hstate]) fun _ => (exchange rfl).bind fun _ => .pure _

theorem announceWifi (native : Mask NativeEvent) :
    Plain (announceWifi native : AdapterM σ Unit) := by
  refine .read (fun _ _ hagree => by rw [hagree.hstate]) fun adapter => ?_
  split
  · exact (exchange rfl).discard
  · exact .pure _

theorem changeEvents (requested : Mask AdapterEvent) :
    Plain (changeEvents requested : AdapterM σ Unit) := by
  refine .read (fun _ _ hagree => by rw [hagree.hstate, hagree.batchedBreach]) fun adapter => ?_
  refine (announceWifi _).bind fun _ => ?_
  refine .read (fun _ _ hagree => by rw [hagree.hstate]) fun announced => ?_
  split
  · exact .pure _
  · refine (subscribe _).bind fun _ => ?_
    refine .read (fun _ _ hagree => by rw [hagree.isMaster]) fun subscribed => ?_
    split
    · exact (subscribeConstellations _).discard
    · exact .pure _

/-! ### Negotiation -/

theorem claimMaster : Plain (claimMaster : AdapterM σ Unit) :=
  (exchange rfl).bind fun answer =>
    adjust (.implyMaster answer.deniesMasters) rfl rfl (fun _ => rfl) fun _ => rfl

theorem queryAlwaysOn (features : Mask EngineFeature) :
    Plain (queryAlwaysOn features : AdapterM σ (Mask EngineFeature)) := by
  unfold AdapterM.queryAlwaysOn
  split
  · exact (exchange rfl).bind fun _ => .pure _
  · exact .pure _

theorem queryFeatureBitmap : Plain (queryFeatureBitmap : AdapterM σ (List UInt8)) :=
  (exchange rfl).bind fun _ => .pure _

/-- What a negotiation does with what it has found out first. -/
theorem publishFeatures (supported : Bool) (features : Mask EngineFeature) :
    Plain (do
      let supportedMessages ← AdapterM.queryAlwaysOn features
      let features ← AdapterM.queryFeatureBitmap
      AdapterM.publish { supportedMessages, features, gnssMeasurementSupported := supported }
      AdapterM.notify .featuresKnown : AdapterM σ Unit) :=
  (queryAlwaysOn features).bind fun _ => queryFeatureBitmap.bind fun _ =>
    (publish _).bind fun _ => notify rfl

/-! ### Events -/

theorem engineTurnedOn : Plain (engineTurnedOn : AdapterM σ Unit) := by
  refine (adjust (.turn true) rfl rfl (fun _ => rfl) fun _ => rfl).bind fun _ => ?_
  refine .read (fun _ _ hagree => by rw [hagree.hstate]) fun adapter => ?_
  split
  · exact notifyAll rfl
  · exact .pure _

theorem reportPosition (indication : PositionIndication) (unpropagated : Bool) :
    Plain (reportPosition indication unpropagated : AdapterM σ Unit) :=
  notifyAt .timestamp (indication.callback_blur unpropagated) fun stamp =>
    Callback.isPlain_of_isRelay (indication.callback_isRelay stamp unpropagated)

theorem handleIndication {indication : Indication}
    (hquiet : (TransportEvent.indication indication).isQuiet = true)
    (hother : indication.fragment? = none) :
    Plain (handleIndication indication : AdapterM σ Unit) := by
  refine bind (count fun _ => ⟨rfl, rfl, rfl⟩) fun _ => bind (observe _) fun _ => ?_
  split
  · exact engineTurnedOn
  · exact absurd hquiet (by decide)
  · cases hother
  · exact reportPosition _ _
  · exact reportPosition _ _
  · exact notifyAll indication.callbacks_isPlain

theorem handleReply (reply : PositionReply) : Plain (handleReply reply : AdapterM σ Unit) := by
  have hplain (timestampMs : UInt64) : (reply.callback timestampMs).isPlain = true :=
    Callback.isPlain_of_isRelay (reply.callback_isRelay timestampMs)
  unfold AdapterM.handleReply timeReply
  split
  · exact notify (hplain _)
  · exact notifyAt .utc reply.callback_blur hplain

end Plain

/-! ### Sentence types, measurement epochs and the start of a session -/

namespace Routine

/-- What follows the mark that a session has been started. -/
theorem startMarked (criteria : FixCriteria) :
    Routine (do
      AdapterM.resubscribe
      let answer ← AdapterM.exchange (.setOperationMode criteria.mode.operation)
      if answer.isSuccess || answer.outcome = .timeout then
        setState fun state => { state with powerMode := criteria.powerMode }
        AdapterM.query (.start criteria.start)
      else return .error .generalFailure : AdapterM σ (Except LocationError Unit)) := by
  refine Plain.resubscribe.hroutine.bind fun _ => (exchange _).bind fun answer => ?_
  split
  · exact (adjust (.setPower criteria.powerMode) rfl fun _ => rfl).bind fun _ =>
      (Plain.query _).hroutine
  · exact .pure _

theorem setNmeaTypes (types : UInt32) :
    Routine (setNmeaTypes types : AdapterM σ (Except LocationError Unit)) := by
  refine .read (fun _ _ hagree => by rw [hagree.hstate]) fun adapter => ?_
  split
  · exact .pure _
  · exact (exchange _).bind fun _ =>
      (adjust (.noteNmeaTypes types) rfl fun _ => rfl).bind fun _ => .pure _

theorem execute {command : Command} (hroutine : command.isRoutine = true) :
    Routine (execute command : AdapterM σ CommandResult) := by
  cases command with
  | connect | disconnect | startFix | stopFix | changeCriteria => cases hroutine
  | setNmeaTypes types => exact (setNmeaTypes types).map _
  | _ => exact (Plain.execute rfl).hroutine

theorem addRaw (fragment : MeasurementFragment) :
    Routine (addRaw fragment : AdapterM σ Unit) := by
  refine .read (fun _ _ hagree => by rw [hagree.hstate]) fun adapter => ?_
  dsimp only
  split
  · refine (adjust (.keepRaw _) rfl fun _ => rfl).bind fun _ => ?_
    split
    · rename_i set _
      have hreport : Routine (AdapterM.timestamp >>= fun stamp =>
          AdapterM.notify (.rawSet (set.stamp stamp)) : AdapterM σ Unit) :=
        notifyAt .timestamp (fun stamp => .rawSet (set.stamp stamp)) set.stamp_blur
      have hcounted : Routine (do
          AdapterM.count fun counters =>
            { counters with measurementSets := counters.measurementSets + 1 }
          AdapterM.observe (.setReported .raw set.measurements.length) : AdapterM σ Unit) :=
        bind (count _ fun _ => ⟨rfl, rfl, rfl⟩) fun _ => observe _
      exact hreport.bind fun _ => hcounted
    · exact .pure _
  · exact .pure _

theorem addProcessed (fragment : MeasurementFragment) :
    Routine (addProcessed fragment : AdapterM σ Unit) := by
  refine .read (fun _ _ hagree => by rw [hagree.hstate]) fun adapter => ?_
  refine (adjust (.keepEpoch _ _) rfl fun _ => rfl).bind fun _ => ?_
  split
  · exact (notify _).bind fun _ => observe _
  · exact .pure _

theorem addFragment (fragment : MeasurementFragment) :
    Routine (addFragment fragment : AdapterM σ Unit) :=
  (addRaw fragment).bind fun _ => addProcessed fragment

theorem handleIndication (indication : Indication)
    (hquiet : (TransportEvent.indication indication).isQuiet = true) :
    Routine (handleIndication indication : AdapterM σ Unit) := by
  cases hfragment : indication.fragment? with
  | none => exact (Plain.handleIndication hquiet hfragment).hroutine
  | some fragment =>
      rw [Indication.eq_of_fragment? hfragment]
      exact bind (count _ fun _ => ⟨rfl, rfl, rfl⟩) fun _ => bind (observe _) fun _ =>
        addFragment fragment

end Routine

end AdapterM

end GnssAdapter
