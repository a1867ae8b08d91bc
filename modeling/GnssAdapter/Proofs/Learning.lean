import GnssAdapter.Proofs.Lesson
import GnssAdapter.Proofs.Walk.Event

/-!
Operations that have nothing to do with a lesson. Each lesson has one command that teaches it; every
other command leaves it alone, and so does every event, but for what an engine that turns off is sent
again.
-/

namespace GnssAdapter

namespace AdapterM

open Standing

variable {σ α β : Type} {lesson : Lesson}

/-- The questions of a negotiation, and what it makes of the answers. -/
def inquire [Environment σ] : AdapterM σ EngineCapabilities := do
  claimMaster
  let gnssMeasurementSupported ← probeMeasurement
  let supportedMessages ← queryAlwaysOn (← probeMessages)
  let features ← queryFeatureBitmap
  return { supportedMessages, features, gnssMeasurementSupported }

/-- A negotiation publishes what it makes of the answers, and tells of it. -/
theorem negotiate_eq [Environment σ] :
    (negotiate : AdapterM σ Unit) = (do
      publish (← inquire)
      notify .featuresKnown) := by
  unfold negotiate inquire
  simp only [bind_assoc, pure_bind]

/-- An operation that has nothing to do with a lesson. -/
def Omits (lesson : Lesson) (operation : AdapterM σ α) : Prop :=
  ∀ adapter : Adapter σ, adapter.standing.Skips lesson (operation.run adapter).2.standing

namespace Omits

variable {operation : AdapterM σ α}

theorem of_silent
    (hsilent : ∀ adapter, (operation.run adapter).2.standing.learnt lesson =
      adapter.standing.learnt lesson ∧ (operation.run adapter).2.history = adapter.history) :
    Omits lesson operation :=
  fun adapter => .of_same (hsilent adapter).1 (hsilent adapter).2

theorem pure (value : α) : Omits lesson (pure value : AdapterM σ α) :=
  of_silent fun _ => ⟨rfl, rfl⟩

theorem bind {next : α → AdapterM σ β} (hfirst : Omits lesson operation)
    (hnext : ∀ value, Omits lesson (next value)) : Omits lesson (operation >>= next) :=
  fun adapter => (hfirst adapter).trans (hnext _ _)

theorem map (change : α → β) (hoperation : Omits lesson operation) :
    Omits lesson (change <$> operation) :=
  hoperation

theorem discard (hoperation : Omits lesson operation) :
    Omits lesson (Functor.discard operation) :=
  hoperation

theorem forM {operation : α → AdapterM σ PUnit} {items : List α}
    (hoperation : ∀ item ∈ items, Omits lesson (operation item)) :
    Omits lesson (items.forM operation) := by
  induction items with
  | nil => exact pure _
  | cons item rest ih =>
      exact (hoperation item (.head _)).bind fun _ =>
        ih fun other hmem => hoperation other (.tail _ hmem)

theorem get : Omits lesson (get : AdapterM σ (Adapter σ)) :=
  of_silent fun _ => ⟨rfl, rfl⟩

theorem setState {change : State → State} (adjustment : Adjustment)
    (hother : adjustment.lesson? ≠ some lesson)
    (hchange : ∀ state, change state = adjustment.apply state) :
    Omits lesson (setState change : AdapterM σ Unit) := by
  intro adapter
  rw [setState_standing, hchange]
  exact .adjust adapter.standing hother

theorem notify {callback : Callback} (hother : callback.lesson? ≠ some lesson) :
    Omits lesson (notify callback : AdapterM σ Unit) :=
  fun adapter => .log adapter.standing hother

theorem notifyAll {callbacks : List Callback}
    (hother : ∀ callback ∈ callbacks, callback.lesson? ≠ some lesson) :
    Omits lesson (notifyAll callbacks : AdapterM σ Unit) :=
  forM fun callback hmem => notify (hother callback hmem)

theorem observe (observation : Observation) :
    Omits lesson (observe observation : AdapterM σ Unit) :=
  of_silent fun _ => ⟨by cases lesson <;> rfl, rfl⟩

theorem count (change : Counters → Counters) : Omits lesson (count change : AdapterM σ Unit) :=
  of_silent fun _ => ⟨by cases lesson <;> rfl, rfl⟩

theorem publish (hother : lesson ≠ .capabilities) (capabilities : EngineCapabilities) :
    Omits lesson (publish capabilities : AdapterM σ Unit) := by
  intro adapter
  refine .of_entry ?_ rfl ?_
  · cases lesson with
    | capabilities => exact absurd rfl hother
    | mastery | deletion => rfl
  · exact Lesson.other rfl hother

/-! ### Keeping track -/

theorem engineTurnedOn : Omits lesson (engineTurnedOn : AdapterM σ Unit) := by
  refine (setState (.turn true) (Lesson.apart rfl) fun _ => rfl).bind fun _ => ?_
  refine get.bind fun adapter => ?_
  split
  · refine notifyAll fun callback hmem => Lesson.apart ?_
    simp only [List.mem_cons, List.not_mem_nil, or_false] at hmem
    rcases hmem with rfl | rfl <;> rfl
  · exact pure _

theorem addProcessed (fragment : MeasurementFragment) :
    Omits lesson (addProcessed fragment : AdapterM σ Unit) := by
  refine get.bind fun adapter => ?_
  refine (setState (.keepEpoch _ _) (Lesson.apart rfl) fun _ => rfl).bind fun _ => ?_
  split
  · exact (notify (Lesson.apart rfl)).bind fun _ => observe _
  · exact pure _

variable [Environment σ]

theorem look {look : AdapterM σ α} {same : Synchrony → α → α → Prop} (hlook : Look look same) :
    Omits lesson look := by
  refine of_silent fun adapter => ?_
  rw [hlook.standing adapter]
  exact ⟨rfl, congrArg Standing.history (hlook.standing adapter)⟩

/-! ### Requests -/

theorem exchange {request : Request} (hother : request.lesson? ≠ some lesson) :
    Omits lesson (exchange request : AdapterM σ Answer) := by
  intro adapter
  obtain ⟨answer, accepted, hstanding, -⟩ := exchange_standing request adapter
  rw [hstanding]
  exact .exchange adapter.standing hother answer accepted

theorem post {request : Request} (hother : request.lesson? ≠ some lesson) :
    Omits lesson (post request : AdapterM σ (Except ClientError Unit)) := by
  intro adapter
  rw [post_standing]
  exact .post adapter.standing hother _

theorem subscribe (requested : Mask AdapterEvent) :
    Omits lesson (subscribe requested : AdapterM σ Unit) := by
  intro adapter
  obtain ⟨accepted, hstanding⟩ := subscribe_standing requested adapter
  rw [hstanding]
  exact .subscribe adapter.standing requested accepted

theorem resubscribe : Omits lesson (resubscribe : AdapterM σ Unit) :=
  get.bind fun _ => subscribe _

theorem query {request : Request} (hother : request.lesson? ≠ some lesson) :
    Omits lesson (query request : AdapterM σ (Except LocationError Unit)) := by
  refine (post hother).bind fun result => ?_
  cases result <;> exact pure _

theorem complete {request : Request} (hother : request.lesson? ≠ some lesson) :
    Omits lesson (complete request : AdapterM σ (Except LocationError Unit)) :=
  (exchange hother).bind fun _ => pure _

theorem confirm {request : Request} (hother : request.lesson? ≠ some lesson) :
    Omits lesson (confirm request : AdapterM σ (Except LocationError Unit)) :=
  (exchange hother).bind fun _ => pure _

/-! ### Commands that teach nothing -/

theorem injectParts (parts : List OrbitsPart) (injected : Nat) :
    Omits lesson (injectParts parts injected : AdapterM σ (Except LocationError Nat)) := by
  induction parts generalizing injected with
  | nil => exact (observe _).bind fun _ => pure _
  | cons part rest ih =>
      refine (exchange (Lesson.apart rfl)).bind fun answer => ?_
      split
      · exact ih _
      · exact (observe _).bind fun _ => pure _

theorem injectOrbits (data : ByteArray) :
    Omits lesson (injectOrbits data : AdapterM σ (Except LocationError Nat)) := by
  unfold AdapterM.injectOrbits
  split
  · exact pure _
  · exact injectParts _ _

theorem requestOrbitServers :
    Omits lesson (requestOrbitServers : AdapterM σ (Except LocationError Unit)) := by
  refine (exchange (Lesson.apart rfl)).bind fun answer => ?_
  refine (notifyAll fun callback hmem => ?_).bind fun _ => pure _
  have hrelay := List.all_eq_true.mp (OrbitServers.callbacks_isRelay answer.orbitServers)
  exact Lesson.apart (Callback.lesson?_of_isRelay (hrelay callback hmem))

theorem setNmeaTypes (types : UInt32) :
    Omits lesson (setNmeaTypes types : AdapterM σ (Except LocationError Unit)) := by
  refine get.bind fun adapter => ?_
  split
  · exact pure _
  · exact (exchange (Lesson.apart rfl)).bind fun _ =>
      (setState (.noteNmeaTypes types) (Lesson.apart rfl) fun _ => rfl).bind fun _ => pure _

theorem getLock (subscription : LockSubscription) :
    Omits lesson (getLock subscription : AdapterM σ (Except LocationError PositioningLock)) := by
  refine (exchange (Lesson.apart rfl)).bind fun answer => ?_
  split <;> exact pure _

theorem getEnergyConsumed :
    Omits lesson (getEnergyConsumed : AdapterM σ (Except LocationError Unit)) := by
  refine (exchange (Lesson.apart rfl)).bind fun answer => ?_
  split <;> exact (notify (Lesson.apart rfl)).bind fun _ => pure _

theorem getConstellations :
    Omits lesson (getConstellations : AdapterM σ (Except LocationError Unit)) := by
  refine (exchange (Lesson.apart rfl)).bind fun answer => ?_
  split
  · exact (notify (Lesson.apart rfl)).bind fun _ => pure _
  · exact pure _

theorem setServerUrl (url : String) (kind : ServerKind) :
    Omits lesson (setServerUrl url kind : AdapterM σ (Except LocationError Unit)) := by
  unfold AdapterM.setServerUrl
  split
  · exact pure _
  · exact complete (Lesson.apart rfl)

theorem installSlot (slot : UInt8) (step : SlotStep) :
    Omits lesson (installSlot slot step : AdapterM σ Unit) := by
  cases step with
  | inject certificate => exact (exchange (Lesson.apart rfl)).discard
  | skip => exact pure _
  | clear =>
      exact (exchange (Lesson.apart rfl)).discard.bind fun _ =>
        (exchange (Lesson.apart rfl)).discard

/-! ### Sessions -/

theorem startFix (criteria : FixCriteria) :
    Omits lesson (startFix criteria : AdapterM σ (Except LocationError Unit)) := by
  refine (setState .startSession (Lesson.apart rfl) fun _ => rfl).bind fun _ => ?_
  refine resubscribe.bind fun _ => (exchange (Lesson.apart rfl)).bind fun answer => ?_
  split
  · exact (setState (.setPower criteria.powerMode) (Lesson.apart rfl) fun _ => rfl).bind fun _ =>
      query (Lesson.apart rfl)
  · exact pure _

theorem stopFix : Omits lesson (stopFix : AdapterM σ (Except LocationError Unit)) := by
  refine (query (Lesson.apart rfl)).bind fun result => ?_
  refine (setState .stopSession (Lesson.apart rfl) fun _ => rfl).bind fun _ => ?_
  refine get.bind fun adapter => ?_
  have hforgotten : Omits lesson (do
      AdapterM.setState fun state => { state with raw := {} }
      return result : AdapterM σ (Except LocationError Unit)) :=
    (setState (.keepRaw {}) (Lesson.apart rfl) fun _ => rfl).bind fun _ => pure _
  split
  · exact hforgotten
  · exact resubscribe.bind fun _ => hforgotten

theorem changeCriteria (criteria : FixCriteria) :
    Omits lesson (changeCriteria criteria : AdapterM σ (Except LocationError Unit)) := by
  refine get.bind fun adapter => ?_
  split
  · exact startFix criteria
  · exact pure _

theorem closeConnection :
    Omits lesson (closeConnection : AdapterM σ (Except ClientError Unit)) := by
  intro adapter
  rw [closeConnection_standing]
  exact .disconnect adapter.standing _

/-! ### Connecting -/

theorem announceWifi (native : Mask NativeEvent) :
    Omits lesson (announceWifi native : AdapterM σ Unit) := by
  refine get.bind fun adapter => ?_
  split
  · exact (exchange (Lesson.apart rfl)).discard
  · exact pure _

theorem probeMessages : Omits lesson (probeMessages : AdapterM σ (Mask EngineFeature)) := by
  refine get.bind fun adapter => ?_
  cases adapter.state.handle with
  | none => exact pure _
  | some handle =>
      have hprobed : Omits lesson (probeOn handle probedMessages :
          AdapterM σ (Except ClientError UInt64)) :=
        fun adapter => .of_entry (by cases lesson <;> rfl) rfl (Lesson.apart rfl)
      refine hprobed.bind fun result => ?_
      cases result <;> exact pure _

section

variable (hother : lesson ≠ .mastery)

include hother

theorem subscribeConstellations (native : Mask NativeEvent) :
    Omits lesson (subscribeConstellations native : AdapterM σ Bool) :=
  get.bind fun _ => (exchange (Lesson.other rfl hother)).bind fun _ => pure _

theorem changeEvents (requested : Mask AdapterEvent) :
    Omits lesson (changeEvents requested : AdapterM σ Unit) := by
  refine get.bind fun adapter => (announceWifi _).bind fun _ => get.bind fun announced => ?_
  split
  · exact pure _
  · refine (subscribe _).bind fun _ => get.bind fun subscribed => ?_
    split
    · exact (subscribeConstellations hother _).discard
    · exact pure _

theorem claimMaster : Omits lesson (claimMaster : AdapterM σ Unit) :=
  (exchange (Lesson.other rfl hother)).bind fun answer =>
    setState (.implyMaster answer.deniesMasters)
      (Lesson.other rfl hother) fun _ => rfl

theorem probeMeasurement : Omits lesson (probeMeasurement : AdapterM σ Bool) := by
  refine (subscribeConstellations hother _).bind fun supported => ?_
  have hmarked : Omits lesson (AdapterM.setState fun state =>
      { state with
        registeredMask := state.registeredMask ∪ .single .measurementReport } : AdapterM σ Unit) :=
    of_silent fun adapter => ⟨by cases lesson <;> rfl, rfl⟩
  split
  · exact hmarked.bind fun _ => pure _
  · exact pure _

theorem queryAlwaysOn (features : Mask EngineFeature) :
    Omits lesson (queryAlwaysOn features : AdapterM σ (Mask EngineFeature)) := by
  unfold AdapterM.queryAlwaysOn
  split
  · exact (exchange (Lesson.other rfl hother)).bind fun _ => pure _
  · exact pure _

theorem queryFeatureBitmap : Omits lesson (queryFeatureBitmap : AdapterM σ (List UInt8)) :=
  (exchange (Lesson.other rfl hother)).bind fun _ => pure _

theorem inquire : Omits lesson (inquire : AdapterM σ EngineCapabilities) := by
  refine (claimMaster hother).bind fun _ => (probeMeasurement hother).bind fun _ => ?_
  refine probeMessages.bind fun _ => (queryAlwaysOn hother _).bind fun _ => ?_
  exact (queryFeatureBitmap hother).bind fun _ => pure _

variable (hunpublished : lesson ≠ .capabilities)

include hunpublished

theorem negotiate : Omits lesson (negotiate : AdapterM σ Unit) := by
  rw [negotiate_eq]
  refine (inquire hother).bind fun _ => (publish hunpublished _).bind fun _ => ?_
  exact notify (Lesson.other rfl hunpublished)

theorem ensureConnected :
    Omits lesson (ensureConnected : AdapterM σ (Except ClientError Unit)) := by
  intro adapter
  rcases ensureConnected_cases adapter with
    ⟨-, hkept⟩ | ⟨-, ⟨error, -, hrefused⟩ |
      ⟨handle, connected, hconnected, ⟨-, hnegotiated⟩ | ⟨-, hdone⟩⟩⟩
  · rw [hkept]
    exact .refl _
  · rw [hrefused]
    exact .refuse ..
  · have hfirst : adapter.standing.Skips lesson connected.standing := by
      rw [hconnected]
      exact .connect ..
    rw [hnegotiated]
    exact hfirst.trans (negotiate hother hunpublished connected)
  · rw [hdone, hconnected]
    exact .connect ..

theorem openConnection (requested : Mask AdapterEvent) :
    Omits lesson (openConnection requested : AdapterM σ (Except ClientError Unit)) := by
  refine (ensureConnected hother hunpublished).bind fun result => ?_
  cases result with
  | error error => exact pure _
  | ok => exact get.bind fun _ => (changeEvents hother _).bind fun _ => pure _

end

theorem deleteAidingData (hother : lesson ≠ .deletion) (data : AidingData) :
    Omits lesson (deleteAidingData data : AdapterM σ (Except LocationError Unit)) := by
  have hassist : Omits lesson (AdapterM.complete (.deleteAssistData data.assistDeletion) :
      AdapterM σ (Except LocationError Unit)) :=
    complete (Lesson.other rfl hother)
  refine get.bind fun adapter => ?_
  split
  · refine (exchange (Lesson.other rfl hother)).bind fun answer => ?_
    split
    · exact (setState .forgetServiceDeletion
        (Lesson.other rfl hother) fun _ => rfl).bind fun _ => hassist
    · exact pure _
  · exact hassist

/-! ### Commands -/

theorem execute {command : Command} (hother : command.teaches lesson = false) :
    Omits lesson (execute command : AdapterM σ CommandResult) := by
  cases command with
  | connect events =>
      cases lesson with
      | mastery | capabilities => cases hother
      | deletion => exact (openConnection (by decide) (by decide) events).map _
  | deleteAidingData data =>
      cases lesson with
      | deletion => cases hother
      | mastery | capabilities => exact (deleteAidingData (by decide) data).map _
  | disconnect => exact closeConnection.map _
  | subscribe events => exact (subscribe events).map _
  | startFix criteria => exact (startFix criteria).map _
  | stopFix => exact stopFix.map _
  | changeCriteria criteria => exact (changeCriteria criteria).map _
  | injectTime => exact ((look .bootTime).bind fun _ => complete (Lesson.apart rfl)).map _
  | injectPosition => exact ((look .utc).bind fun _ => complete (Lesson.apart rfl)).map _
  | requestAidingData databases => exact (exchange (Lesson.apart rfl)).discard.map _
  | injectOrbits data => exact (injectOrbits data).map _
  | requestOrbitServers => exact requestOrbitServers.map _
  | getConstellations => exact getConstellations.map _
  | setNmeaTypes types => exact (setNmeaTypes types).map _
  | getLock subscription => exact (getLock subscription).map _
  | getEnergyConsumed => exact getEnergyConsumed.map _
  | setServerUrl url kind => exact (setServerUrl url kind).map _
  | reportCallOpened | reportCallClosed => exact (exchange (Lesson.apart rfl)).map _
  | installCertificates certificates slots =>
      exact (forM fun (slot, step) _ => installSlot slot step).map _
  | getBlacklist | getWwanPosition | getBestAvailablePosition =>
      exact (query (Lesson.apart rfl)).map _
  | setBlacklist | setConstellations | resetConstellations | setSensorProperties
  | setSensorControl => exact (confirm (Lesson.apart rfl)).map _
  | injectLocation | injectLocationInfo | setXtraCheck | setSuplVersion | setLppProfile
  | setAGlonassProtocol | setLppeControlPlane | setLppeUserPlane | setLock
  | constrainTimeUncertainty | setPositionAssistedClock | answerNi | setServerAddress =>
      exact (complete (Lesson.apart rfl)).map _

/-! ### Events -/

theorem addRaw (fragment : MeasurementFragment) :
    Omits lesson (addRaw fragment : AdapterM σ Unit) := by
  refine get.bind fun adapter => ?_
  dsimp only
  split
  · refine (setState (.keepRaw _) (Lesson.apart rfl) fun _ => rfl).bind fun _ => ?_
    split
    · exact (look .timestamp).bind fun _ => (notify (Lesson.apart rfl)).bind fun _ =>
        (count _).bind fun _ => observe _
    · exact pure _
  · exact pure _

theorem reportPosition (indication : PositionIndication) (unpropagated : Bool) :
    Omits lesson (reportPosition indication unpropagated : AdapterM σ Unit) :=
  (look .timestamp).bind fun stamp =>
    notify (Lesson.apart (Callback.lesson?_of_isRelay (indication.callback_isRelay stamp _)))

theorem handleReply (reply : PositionReply) :
    Omits lesson (handleReply reply : AdapterM σ Unit) := by
  have htold (timestampMs : UInt64) :
      Omits lesson (AdapterM.notify (reply.callback timestampMs) : AdapterM σ Unit) :=
    notify (Lesson.apart (Callback.lesson?_of_isRelay (reply.callback_isRelay timestampMs)))
  unfold AdapterM.handleReply timeReply
  split
  · exact htold _
  · exact (look .utc).bind fun _ => htold _

theorem handleIndication {indication : Indication}
    (hquiet : (TransportEvent.indication indication).isQuiet = true) :
    Omits lesson (handleIndication indication : AdapterM σ Unit) := by
  refine (count _).bind fun _ => (observe _).bind fun _ => ?_
  split
  · exact engineTurnedOn
  · exact absurd hquiet (by decide)
  · rename_i fragment
    exact (addRaw fragment).bind fun _ => addProcessed fragment
  · exact reportPosition _ _
  · exact reportPosition _ _
  · refine notifyAll fun callback hmem => Lesson.apart ?_
    have hrelay := List.all_eq_true.mp indication.callbacks_isRelay
    exact Callback.lesson?_of_isRelay (hrelay callback hmem)

end Omits

variable [Environment σ]

/-- What is sent again when the engine turns off may belong to a lesson; nothing else about an event
does. -/
theorem handleEvent_skips (event : TransportEvent) (adapter : Adapter σ)
    (hother : event = .indication (.engineState .off) →
      ∀ request ∈ adapter.replays, request.lesson? ≠ some lesson) :
    adapter.standing.Skips lesson ((handleEvent event).run adapter).2.standing := by
  have harrived : Omits lesson (record (.arrived event) : AdapterM σ Unit) :=
    fun adapter => .log adapter.standing (Lesson.apart rfl)
  by_cases hquiet : event.isQuiet = true
  · cases event with
    | indication indication =>
        exact (harrived.bind fun _ => Omits.handleIndication hquiet) adapter
    | response reply => exact (harrived.bind fun _ => Omits.handleReply reply) adapter
    | error failure =>
        cases failure with
        | serviceUnavailable => exact absurd hquiet (by decide)
        | other => exact (harrived.bind fun _ => Omits.pure _) adapter
  · rcases event.eq_of_not_isQuiet hquiet with rfl | rfl
    · obtain ⟨accepted, results, -, hturned⟩ := handleEvent_turnOff adapter
      rw [hturned]
      exact .turnOff adapter.standing (hother rfl) accepted results
    · rw [handleEvent_lose]
      exact .lose adapter.standing

end AdapterM

end GnssAdapter
