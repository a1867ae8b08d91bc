import GnssAdapter.Proofs.Opening

/-!
The constellations that measurements and polynomials are subscribed for. A master subscribes them
when it negotiates, to find out whether the engine measures, and when it opens a connection for
events that differ from those last asked for.

What is subscribed goes by the events asked for; whether it has to be subscribed anew goes by the
events that are registered. Outside a session measurements are asked for without being registered,
and that is where the two part.
-/

namespace GnssAdapter

/-- The constellations of measurements and those of polynomials. -/
abbrev ReportConstellations :=
  Option (Mask ReportConstellation) × Option (Mask ReportConstellation)

/-- All constellations, or none of them. -/
def constellationsFor (measurement polynomial : Bool) : ReportConstellations :=
  (some (.fullIf ReportConstellation measurement), some (.fullIf ReportConstellation polynomial))

/-- What a request subscribes that is about measurements. -/
def Request.constellations? : Request → Option ReportConstellations
  | .setReportSubscription subscription =>
      if subscription.measurementReport.isSome then
        some (subscription.measurementReport, subscription.polynomials)
      else none
  | _ => none

def Entry.constellations? : Entry → Option ReportConstellations
  | .requested _ request _ => request.constellations?
  | .posted _ request _ => request.constellations?
  | _ => none

/-- The subscription of measurements sent last on the latest connection. -/
def lastConstellations (history : List Entry) : Option ReportConstellations :=
  (connectionOf history).findSome? Entry.constellations?

/-- Whether there are measurements among some events, and whether there are polynomials. -/
def reportsAmong (mask : Mask NativeEvent) : Bool × Bool :=
  (mask.has .measurementReport, mask.has .polynomialReport)

theorem lastConstellations_cons {entry : Entry} (history : List Entry)
    (hgoes : entry.opensConnection = false) :
    lastConstellations (entry :: history) =
      entry.constellations?.or (lastConstellations history) := by
  unfold lastConstellations
  rw [connectionOf_cons history hgoes, List.findSome?_cons]
  cases entry.constellations? <;> rfl

theorem symmDiff_intersects_perConstellation (left right : Mask NativeEvent) :
    (left.symmDiff right).intersects NativeEvent.perConstellation = false ↔
      reportsAmong left = reportsAmong right := by
  unfold NativeEvent.perConstellation reportsAmong
  rw [Mask.intersects_ofList_eq_false_iff]
  simp only [List.forall_mem_cons, Mask.has_symmDiff, bne_eq_false_iff_eq, Prod.mk.injEq,
    List.not_mem_nil, false_implies, implies_true, and_true]

/-- Only the breaches of geofences are translated in two ways. -/
theorem reportsAmong_nativeEvents (mask : Mask AdapterEvent) (first second : Bool) :
    reportsAmong (nativeEvents mask first) = reportsAmong (nativeEvents mask second) := by
  unfold reportsAmong
  rw [nativeEvents_has_eq (by decide) mask first second,
    nativeEvents_has_eq (by decide) mask first second]

theorem reportsAmong_union_engineState (mask : Mask NativeEvent) :
    reportsAmong (mask ∪ .single .engineState) = reportsAmong mask := by
  have hmeasurement : (Mask.single NativeEvent.engineState).has .measurementReport = false := by
    decide
  have hpolynomial : (Mask.single NativeEvent.engineState).has .polynomialReport = false := by decide
  unfold reportsAmong
  rw [Mask.has_union, Mask.has_union, hmeasurement, hpolynomial, Bool.or_false, Bool.or_false]

theorem reportsAmong_union_measurementReport (mask : Mask NativeEvent) :
    reportsAmong (mask ∪ .single .measurementReport) = (true, (reportsAmong mask).2) := by
  have hmeasurement :
      (Mask.single NativeEvent.measurementReport).has .measurementReport = true := by decide
  have hpolynomial :
      (Mask.single NativeEvent.measurementReport).has .polynomialReport = false := by decide
  unfold reportsAmong
  rw [Mask.has_union, Mask.has_union, hmeasurement, hpolynomial, Bool.or_true, Bool.or_false]

theorem mem_gained {earlier middle later : List Entry} {entry : Entry} (hfirst : earlier <:+ middle)
    (hsecond : entry :: middle <:+ later) : entry ∈ gained earlier later := by
  obtain ⟨first, rfl⟩ := hfirst
  obtain ⟨second, rfl⟩ := hsecond
  rw [← List.cons_append, ← List.append_assoc, gained_append]
  exact List.mem_append_right _ (.head _)

namespace Standing

variable {standing before middle after : Standing}

/-! ### Exchanges -/

theorem requested_suffix_exchange {handle : Handle} (hopen : standing.state.handle = some handle)
    (request : Request) (answer : Option Answer) (accepted : Bool) :
    .requested handle request answer :: standing.history <:+
      (standing.exchange request answer accepted).history := by
  have hexchanged := standing.exchanged request answer accepted
  generalize standing.exchange request answer accepted = after at hexchanged ⊢
  cases hexchanged with
  | closed hclosed => exact nomatch hclosed.symm.trans hopen
  | asked hstill | kept hstill =>
      obtain rfl := Option.some.inj (hopen.symm.trans hstill)
      exact List.suffix_rfl
  | watched hstill =>
      obtain rfl := Option.some.inj (hopen.symm.trans hstill)
      exact List.suffix_cons ..

theorem exchange_constellations {handle : Handle} (hopen : standing.state.handle = some handle)
    (request : Request) (answer : Option Answer) (accepted : Bool) :
    lastConstellations (standing.exchange request answer accepted).history =
      request.constellations?.or (lastConstellations standing.history) := by
  have hasked (handle : Handle) :
      lastConstellations (standing.log (.requested handle request answer)).history =
        request.constellations?.or (lastConstellations standing.history) :=
    lastConstellations_cons _ rfl
  have hexchanged := standing.exchanged request answer accepted
  generalize standing.exchange request answer accepted = after at hexchanged ⊢
  cases hexchanged with
  | closed hclosed => exact nomatch hclosed.symm.trans hopen
  | asked | kept => exact hasked _
  | @watched handle => exact (lastConstellations_cons _ rfl).trans (hasked handle)

theorem exchange_reports (standing : Standing) (request : Request) (answer : Option Answer)
    (accepted : Bool) :
    reportsAmong (standing.exchange request answer accepted).state.registeredMask =
      reportsAmong standing.state.registeredMask := by
  have hexchanged := standing.exchanged request answer accepted
  generalize standing.exchange request answer accepted = after at hexchanged ⊢
  cases hexchanged with
  | closed | asked | kept => rfl
  | watched =>
      -- What is added for a request that is kept is no report.
      cases accepted with
      | false => rfl
      | true => exact reportsAmong_union_engineState _

/-! ### What does not subscribe measurements -/

/-- Measurements have not been subscribed, and the reports that are registered are the same. -/
structure Unsubscribed (before after : Standing) : Prop where
  hsuffix : before.history <:+ after.history
  hconstellations : lastConstellations after.history = lastConstellations before.history
  hreports : reportsAmong after.state.registeredMask = reportsAmong before.state.registeredMask

namespace Unsubscribed

theorem refl (standing : Standing) : Unsubscribed standing standing :=
  ⟨List.suffix_rfl, rfl, rfl⟩

theorem trans (hfirst : Unsubscribed before middle) (hsecond : Unsubscribed middle after) :
    Unsubscribed before after where
  hsuffix := hfirst.hsuffix.trans hsecond.hsuffix
  hconstellations := hsecond.hconstellations.trans hfirst.hconstellations
  hreports := hsecond.hreports.trans hfirst.hreports

theorem log (standing : Standing) {entry : Entry} (hgoes : entry.opensConnection = false)
    (hother : entry.constellations? = none) : Unsubscribed standing (standing.log entry) where
  hsuffix := List.suffix_cons ..
  hconstellations := by
    rw [log_history, lastConstellations_cons _ hgoes, hother, Option.none_or]
  hreports := rfl

theorem exchange (standing : Standing) {request : Request}
    (hother : request.constellations? = none) (answer : Option Answer) (accepted : Bool) :
    Unsubscribed standing (standing.exchange request answer accepted) where
  hsuffix := history_suffix_exchange ..
  hconstellations := by
    cases hopen : standing.state.handle with
    | none =>
        unfold Standing.exchange
        rw [hopen]
    | some handle => rw [exchange_constellations hopen, hother, Option.none_or]
  hreports := exchange_reports ..

end Unsubscribed

theorem subscribe_constellations (standing : Standing) (requested : Mask AdapterEvent)
    (accepted : Bool) :
    lastConstellations (standing.subscribe requested accepted).history =
      lastConstellations standing.history := by
  have hsubscribed := standing.subscribed requested accepted
  generalize standing.subscribe requested accepted = after at hsubscribed ⊢
  cases hsubscribed with
  | closed | unchanged => rfl
  | registered => exact lastConstellations_cons _ rfl

/-! ### Negotiation -/

/-- The negotiation of a new connection leaves the probe's subscription, and the measurements that
it has found, if the engine has taken the probe. -/
theorem introduce_constellations (hempty : standing.state.registeredMask = ∅) (handle : Handle)
    (claimed probed : Option Answer) (claimAccepted probeAccepted : Bool)
    (messages : List MessageId) (result : Except ClientError UInt64)
    (htaken : probed.any Answer.isAccepted = true) :
    let introduced := standing.introduce handle claimed probed claimAccepted probeAccepted messages
      result
    lastConstellations introduced.history = some (constellationsFor true false) ∧
      reportsAmong introduced.state.registeredMask = (true, false) := by
  let claimedStanding := (standing.connect handle).claim claimed claimAccepted
  have hreports : reportsAmong claimedStanding.state.registeredMask = (false, false) := by
    have hasked := exchange_reports (standing.connect handle) (.registerMasterClient masterKey)
      claimed claimAccepted
    change _ = reportsAmong standing.state.registeredMask at hasked
    rw [hempty] at hasked
    exact hasked.trans (by decide)
  have hopen : claimedStanding.state.handle = some handle := claim_handle ..
  intro introduced
  have hmarked : introduced =
      (claimedStanding.mark probed probeAccepted).log (.probed handle messages result) := rfl
  rw [hmarked]
  unfold mark
  rw [if_pos htaken]
  refine ⟨?_, ?_⟩
  · refine (lastConstellations_cons _ rfl).trans ?_
    exact exchange_constellations hopen measurementProbe probed probeAccepted
  · change reportsAmong (_ ∪ _) = _
    rw [reportsAmong_union_measurementReport, exchange_reports, hreports]

theorem probe_mem_introduce {earlier later : List Entry} (standing : Standing) (handle : Handle)
    (claimed probed : Option Answer) (claimAccepted probeAccepted : Bool)
    (messages : List MessageId) (result : Except ClientError UInt64)
    (hfirst : earlier <:+ standing.history)
    (hsecond : (standing.introduce handle claimed probed claimAccepted probeAccepted messages
      result).history <:+ later) :
    .requested handle measurementProbe probed ∈ gained earlier later := by
  let claimedStanding := (standing.connect handle).claim claimed claimAccepted
  have hconnected : standing.history <:+ (standing.connect handle).history := List.suffix_cons ..
  have hclaimed : standing.history <:+ claimedStanding.history :=
    hconnected.trans (history_suffix_claim ..)
  have hopen : claimedStanding.state.handle = some handle := claim_handle ..
  have hasked := requested_suffix_exchange hopen measurementProbe probed probeAccepted
  have hmarked : (claimedStanding.exchange measurementProbe probed probeAccepted).history =
      (claimedStanding.mark probed probeAccepted).history := by
    unfold mark
    split <;> rfl
  rw [hmarked] at hasked
  exact mem_gained (hfirst.trans hclaimed)
    ((hasked.trans (List.suffix_cons ..)).trans hsecond)

end Standing

namespace AdapterM

open Standing

variable {σ α β : Type}

/-- An operation that does not subscribe measurements. -/
def Spares (operation : AdapterM σ α) : Prop :=
  ∀ adapter, Unsubscribed adapter.standing (operation.run adapter).2.standing

namespace Spares

theorem pure (value : α) : Spares (pure value : AdapterM σ α) :=
  fun adapter => .refl adapter.standing

theorem bind {operation : AdapterM σ α} {next : α → AdapterM σ β} (hfirst : Spares operation)
    (hnext : ∀ value, Spares (next value)) : Spares (operation >>= next) :=
  fun adapter => (hfirst adapter).trans (hnext _ _)

variable [Environment σ]

theorem exchange {request : Request} (hother : request.constellations? = none) :
    Spares (exchange request : AdapterM σ Answer) := by
  intro adapter
  obtain ⟨answer, accepted, hstanding, -⟩ := exchange_standing request adapter
  rw [hstanding]
  exact .exchange _ hother answer accepted

theorem queryAlwaysOn (features : Mask EngineFeature) :
    Spares (queryAlwaysOn features : AdapterM σ (Mask EngineFeature)) := by
  unfold AdapterM.queryAlwaysOn
  split
  · exact (exchange rfl).bind fun _ => pure _
  · exact pure _

theorem publishFeatures (supported : Bool) (features : Mask EngineFeature) :
    Spares (do
      let supportedMessages ← AdapterM.queryAlwaysOn features
      let features ← AdapterM.queryFeatureBitmap
      AdapterM.publish { supportedMessages, features, gnssMeasurementSupported := supported }
      AdapterM.notify .featuresKnown : AdapterM σ Unit) := by
  have hpublish (capabilities : EngineCapabilities) :
      Spares (AdapterM.publish capabilities : AdapterM σ Unit) :=
    fun published =>
      ⟨List.suffix_cons .., (lastConstellations_cons _ rfl).trans (Option.none_or ..), rfl⟩
  exact (queryAlwaysOn features).bind fun _ =>
    ((exchange rfl).bind fun _ => pure _).bind fun _ =>
      (hpublish _).bind fun _ => fun notified => .log notified.standing rfl rfl

theorem announceWifi (native : Mask NativeEvent) :
    Spares (announceWifi native : AdapterM σ Unit) := by
  intro adapter
  have hother : (Request.notifyWifi true).constellations? = none := rfl
  unfold AdapterM.announceWifi
  rw [run_bind, run_get]
  split
  · exact exchange hother adapter
  · exact .refl _

end Spares

end AdapterM

namespace Adapter

variable {σ : Type}

/-- The subscription of measurements on the open connection, or the one that the negotiation of a
new connection leaves. -/
def priorConstellations (adapter : Adapter σ) : Option ReportConstellations :=
  if adapter.state.handle.isSome then lastConstellations adapter.history
  else some (constellationsFor true false)

/-- The measurements and polynomials registered on the open connection, or those that the
negotiation of a new connection finds. -/
def priorReports (adapter : Adapter σ) : Bool × Bool :=
  if adapter.state.handle.isSome then reportsAmong adapter.state.registeredMask else (true, false)

open AdapterM Standing

variable [Environment σ] {adapter : Adapter σ}

theorem negotiate_constellations {standing : Standing} {handle : Handle}
    (hconnected : adapter.standing = standing.connect handle)
    (hempty : standing.state.registeredMask = ∅) {later : List Entry}
    (hlater : (negotiate.run adapter).2.history <:+ later)
    (htaken : ∀ entry ∈ gained standing.history later, entry.measurementTaken? ≠ some false) :
    lastConstellations (negotiate.run adapter).2.history = some (constellationsFor true false) ∧
      reportsAmong (negotiate.run adapter).2.state.registeredMask = (true, false) := by
  obtain ⟨claimed, probed, claimAccepted, probeAccepted, result, hintroduced⟩ :=
    introduce_standing adapter hconnected
  unfold negotiate at hlater ⊢
  rw [run_bind, run_bind, run_bind] at hlater ⊢
  generalize probeMeasurement.run (claimMaster.run adapter).2 = measured at hintroduced hlater ⊢
  generalize probeMessages.run measured.2 = introduced at hintroduced hlater ⊢
  have hspared := Spares.publishFeatures measured.1 introduced.1 introduced.2
  rw [hintroduced] at hspared
  -- The probe that has been sent is one of the subscriptions that are taken.
  have hprobe := probe_mem_introduce standing handle claimed probed claimAccepted probeAccepted
    probedMessages result List.suffix_rfl (hspared.hsuffix.trans hlater)
  have hyes : probed.any Answer.isAccepted = true := by
    rw [← Bool.not_eq_false]
    exact fun hno => htaken _ hprobe (congrArg some hno)
  obtain ⟨hlast, hreports⟩ := introduce_constellations hempty handle claimed probed claimAccepted
    probeAccepted probedMessages result hyes
  exact ⟨hspared.hconstellations.trans hlast, hspared.hreports.trans hreports⟩

theorem ensureConnected_constellations (hreachable : adapter.Reachable)
    (hmaster : adapter.config.masterClient = true)
    (hok : (ensureConnected.run adapter).1 = .ok ()) {later : List Entry}
    (hlater : (ensureConnected.run adapter).2.history <:+ later)
    (htaken : ∀ entry ∈ gained adapter.history later, entry.measurementTaken? ≠ some false) :
    lastConstellations (ensureConnected.run adapter).2.history = adapter.priorConstellations ∧
      reportsAmong (ensureConnected.run adapter).2.state.registeredMask = adapter.priorReports := by
  unfold priorConstellations priorReports
  rcases ensureConnected_cases adapter with
    ⟨hopen, hkept⟩ | ⟨hclosed, ⟨error, hfailed, -⟩ |
      ⟨handle, connected, hconnected, ⟨-, hnegotiated⟩ | ⟨hclient, -⟩⟩⟩
  · rw [hkept, if_pos (Option.isSome_iff_ne_none.mpr hopen),
      if_pos (Option.isSome_iff_ne_none.mpr hopen)]
    exact ⟨rfl, rfl⟩
  · rw [hfailed] at hok
    cases hok
  · rw [hnegotiated] at hlater ⊢
    have hempty : adapter.standing.state.registeredMask = ∅ :=
      (Mirrored.of_closed hclosed).mp hreachable.mirrored
    rw [hclosed]
    exact negotiate_constellations hconnected hempty hlater htaken
  · exact absurd (isMaster_of_config hmaster) (Bool.eq_false_iff.mp hclient)

theorem changeEvents_constellations (requested : Mask AdapterEvent)
    (hopen : adapter.state.handle ≠ none) (hmaster : adapter.config.masterClient = true) :
    let native := nativeEvents requested adapter.batchedBreach
    let changed := ((changeEvents requested).run adapter).2
    (requested ≠ adapter.state.requestedMask ∧
        reportsAmong native ≠ reportsAmong adapter.state.registeredMask ∧
        lastConstellations changed.history = some (constellationsFor
          (native.has .measurementReport || changed.state.masterUnsupported)
          (native.has .polynomialReport))) ∨
      (¬(requested ≠ adapter.state.requestedMask ∧
          reportsAmong native ≠ reportsAmong adapter.state.registeredMask) ∧
        lastConstellations changed.history = lastConstellations adapter.history) := by
  intro native changed
  have hcases := changeEvents_cases requested adapter
  have hasked := Asks.announceWifi native adapter
  have hspared := Spares.announceWifi native adapter
  change _ ∧ _ = ((announceWifi native).run adapter).2.standing ∨
    _ ≠ ((announceWifi native).run adapter).2.standing.state.requestedMask ∧ _ at hcases
  -- What is announced first subscribes no measurements and leaves what is compared alone.
  generalize ((announceWifi native).run adapter).2.standing = announced at hasked hspared hcases
  rw [hasked.requestedMask_eq, standing_state] at hcases
  rcases hcases with ⟨hsame, hleft⟩ | ⟨hdiffers, accepted, hcases⟩
  · have hlast : lastConstellations changed.history = lastConstellations announced.history :=
      congrArg (fun standing => lastConstellations standing.history) hleft
    exact .inr ⟨fun hboth => hboth.1 hsame, hlast.trans hspared.hconstellations⟩
  · have hlast := (subscribe_constellations announced requested accepted).trans
      hspared.hconstellations
    have hhandle : (announced.subscribe requested accepted).state.handle = adapter.state.handle := by
      rw [subscribe_state]
      exact hasked.handle_eq
    have hyes : (announced.subscribe requested accepted).isMaster = true := by
      refine isMaster_of_config ?_
      rwa [subscribe_config, hasked.hconfig]
    -- A master follows the subscription up if the masks differ in a bit that is subscribed per
    -- constellation.
    dsimp only at hcases
    rw [hyes, Bool.true_and] at hcases
    generalize announced.subscribe requested accepted = subscribed at hlast hhandle hcases
    rcases hcases with ⟨hno, hfinal⟩ | ⟨hmeets, answer, again, hfinal⟩
    · have hreports := (symmDiff_intersects_perConstellation native _).mp hno
      refine .inr ⟨fun hboth => hboth.2 hreports, ?_⟩
      exact (congrArg (fun standing => lastConstellations standing.history) hfinal).trans hlast
    · have hreports : reportsAmong native ≠ reportsAmong adapter.state.registeredMask := by
        intro hsame
        rw [(symmDiff_intersects_perConstellation native _).mpr hsame] at hmeets
        cases hmeets
      obtain ⟨handle, hstill⟩ : ∃ handle, subscribed.state.handle = some handle := by
        rw [← Option.isSome_iff_exists, hhandle]
        exact Option.isSome_iff_ne_none.mpr hopen
      have hsent := exchange_constellations hstill (subscribed.reportRequest native) answer again
      have hsame : changed.state.masterUnsupported = subscribed.state.masterUnsupported := by
        have hstate := congrArg (·.state.masterUnsupported) hfinal
        rw [exchange_state] at hstate
        exact hstate
      refine .inl ⟨hdiffers, hreports, ?_⟩
      rw [hsame]
      exact (congrArg (fun standing => lastConstellations standing.history) hfinal).trans hsent

/-- A master that opens a connection, and whose subscriptions of measurements are taken, has
subscribed the constellations of the events asked for exactly if one of two things holds. They were
subscribed before, on the open connection or by the negotiation; or the events differ from those
last asked for, and there are measurements or polynomials among them otherwise than among those
registered before. -/
theorem openConnection_constellations_iff (hreachable : adapter.Reachable)
    (hmaster : adapter.config.masterClient = true) (requested : Mask AdapterEvent)
    (hok : ((openConnection requested).run adapter).1 = .ok ())
    (htaken : ∀ entry ∈ gained adapter.history ((openConnection requested).run adapter).2.history,
      entry.measurementTaken? ≠ some false) :
    let opened := ((openConnection requested).run adapter).2
    let native := nativeEvents (requested \ opened.config.excludedEvents) opened.batchedBreach
    let due := constellationsFor
      (native.has .measurementReport || opened.state.masterUnsupported)
      (native.has .polynomialReport)
    lastConstellations opened.history = some due ↔
      adapter.priorConstellations = some due ∨
        requested \ adapter.config.excludedEvents ≠ adapter.state.requestedMask ∧
          reportsAmong native ≠ adapter.priorReports := by
  intro opened native due
  obtain ⟨hconnected, hopened⟩ := openConnection_ok hok
  obtain ⟨start, -, hconfig, hstate, hopen, -, hmade⟩ :=
    ensureConnected_undisturbed adapter hconnected
  have hexcluded : (ensureConnected.run adapter).2.config = adapter.config :=
    hmade.hconfig.trans hconfig
  have hrequested : (ensureConnected.run adapter).2.state.requestedMask =
      adapter.state.requestedMask := by
    have hstart := hmade.requestedMask_eq
    rw [hstate] at hstart
    exact hstart
  have hstill : (ensureConnected.run adapter).2.state.handle ≠ none := by
    rwa [← standing_state, hmade.handle_eq]
  let events := requested \ adapter.config.excludedEvents
  rw [hexcluded] at hopened
  have hchanged := changeEvents_constellations events hstill (by rwa [hexcluded])
  have hsteps := (Plain.changeEvents events).hroutine.walks (ensureConnected.run adapter).2
  dsimp only at hchanged
  rw [← hopened] at hchanged hsteps
  have hgrown : _ <:+ opened.history := hsteps.history_suffix
  have hfinal : opened.config = _ := hsteps.config_eq
  obtain ⟨hlast, hreports⟩ :=
    ensureConnected_constellations hreachable hmaster hconnected hgrown htaken
  rw [hrequested, hreports, hlast] at hchanged
  -- The events are the same in whatever way geofences are translated.
  have hevents : reportsAmong native = reportsAmong
      (nativeEvents (requested \ adapter.config.excludedEvents)
        (ensureConnected.run adapter).2.batchedBreach) := by
    change reportsAmong (nativeEvents (requested \ opened.config.excludedEvents) _) = _
    rw [show opened.config = adapter.config from hfinal.trans hexcluded]
    exact reportsAmong_nativeEvents ..
  rw [← hevents] at hchanged
  rcases hchanged with ⟨hdiffers, hnew, hsent⟩ | ⟨hleft, hkept⟩
  · have hdue : due = constellationsFor
        ((reportsAmong native).1 || opened.state.masterUnsupported) (reportsAmong native).2 := rfl
    rw [hdue, hevents]
    exact ⟨fun _ => .inr ⟨hdiffers, by rwa [← hevents]⟩, fun _ => hsent⟩
  · rw [show lastConstellations opened.history = _ from hkept]
    exact ⟨.inl, fun heither => heither.resolve_right hleft⟩

/-- A master among an engine that takes everything, after some actions. -/
def obligedMasterAfter (actions : List AdapterAction) : Adapter ScriptedEngine :=
  let engine : ScriptedEngine := { clock := .first }
  (Adapter.spawn { masterClient := true } engine {}).run actions

theorem openConnection_constellations_at_first :
    let opened := ((openConnection (.single .niRequest)).run (obligedMasterAfter [])).2
    opened.state.phase = .openIdle ∧
      lastConstellations opened.history = some (constellationsFor false false) := by
  have hreachable : (obligedMasterAfter []).Reachable := ⟨_, _, _, [], rfl⟩
  have hok : ((openConnection (.single .niRequest)).run (obligedMasterAfter [])).1 = .ok () := rfl
  have htaken : ∀ entry ∈ gained (obligedMasterAfter []).history
      ((openConnection (.single .niRequest)).run (obligedMasterAfter [])).2.history,
        entry.measurementTaken? ≠ some false := by decide
  refine ⟨rfl, ?_⟩
  exact (openConnection_constellations_iff hreachable rfl (.single .niRequest) hok htaken).mpr
    (.inr ⟨by decide, by decide⟩)

/-- Measurements asked for without a session are not registered, so that no longer asking for them
looks as if there never had been any. -/
theorem openConnection_constellations_left :
    let adapter := obligedMasterAfter
      [.execute (.connect (.single .niRequest ∪ .single .measurementReport))]
    let opened := ((openConnection (.single .niRequest)).run adapter).2
    let native := nativeEvents (.single .niRequest \ opened.config.excludedEvents)
      opened.batchedBreach
    Grants opened.history ∧ opened.state.phase = .openIdle ∧
      (∀ entry ∈ opened.history, entry.measurementTaken? ≠ some false) ∧
      lastConstellations opened.history ≠ some (constellationsFor
        (native.has .measurementReport || opened.state.masterUnsupported)
        (native.has .polynomialReport)) :=
  ⟨by decide, rfl, by decide, by decide⟩

end Adapter

end GnssAdapter
