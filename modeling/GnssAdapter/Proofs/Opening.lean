import GnssAdapter.Proofs.Waiting

/-!
What opening registers. The connection is made unless it is open, the events asked for are registered
unless they look unchanged, and either may be preceded and followed by requests of its own.
-/

namespace GnssAdapter

/-- The entries that a history has gained. -/
def gained (earlier later : List Entry) : List Entry :=
  later.take (later.length - earlier.length)

/-- Since then the transport has accepted every registration, and found the engine busy for no
request. -/
def Smooth (earlier later : List Entry) : Prop :=
  ∀ entry ∈ gained earlier later, entry.isRejection = false ∧ entry.busyRequest?.isNone = true

instance (earlier later : List Entry) : Decidable (Smooth earlier later) :=
  inferInstanceAs (Decidable (∀ entry ∈ gained earlier later, _))

theorem gained_append (entries earlier : List Entry) :
    gained earlier (entries ++ earlier) = entries := by
  simp [gained]

theorem gained_self (history : List Entry) : gained history history = [] :=
  gained_append [] history

theorem gained_split {earlier middle later : List Entry} (hfirst : earlier <:+ middle)
    (hsecond : middle <:+ later) :
    gained earlier later = gained middle later ++ gained earlier middle := by
  obtain ⟨first, rfl⟩ := hfirst
  obtain ⟨second, rfl⟩ := hsecond
  rw [← List.append_assoc, gained_append, List.append_assoc, gained_append, gained_append]

/-- The transport has accepted a mask with the event among some entries. -/
def Taken (event : NativeEvent) (entries : List Entry) : Prop :=
  ∃ entry ∈ entries, ∃ mask, entry.acceptedMask? = some mask ∧ mask.has event = true

theorem not_taken_of_free {event : NativeEvent} {entries : List Entry}
    (hfree : ∀ entry ∈ entries, entry.acceptedMask? = none) : ¬Taken event entries := by
  rintro ⟨entry, hentry, mask, hmask, -⟩
  cases (hfree entry hentry).symm.trans hmask

theorem taken_append {event : NativeEvent} {first second : List Entry} :
    Taken event (first ++ second) ↔ Taken event first ∨ Taken event second := by
  simp only [Taken, List.mem_append, or_and_right, exists_or]

namespace Adapter

variable {σ : Type} [Environment σ] {adapter : Adapter σ} {action : AdapterAction}

/-- What an action leaves at the boundary of an adapter, the oldest first. -/
def trace (adapter : Adapter σ) (action : AdapterAction) : List Entry :=
  (gained adapter.history (adapter.act action).history).reverse

theorem trace_eq {entries : List Entry}
    (hhistory : (adapter.act action).history = entries ++ adapter.history) :
    adapter.trace action = entries.reverse := by
  unfold trace
  rw [hhistory, gained_append]

end Adapter

namespace Smooth

variable {earlier middle later : List Entry}

theorem of_suffix (hsmooth : Smooth earlier later) (hfirst : earlier <:+ middle)
    (hsecond : middle <:+ later) : Smooth earlier middle ∧ Smooth middle later := by
  obtain ⟨first, rfl⟩ := hfirst
  obtain ⟨second, rfl⟩ := hsecond
  unfold Smooth at hsmooth ⊢
  rw [← List.append_assoc, gained_append] at hsmooth
  rw [gained_append, gained_append]
  exact ⟨fun entry hentry => hsmooth entry (List.mem_append_right _ hentry),
    fun entry hentry => hsmooth entry (List.mem_append_left _ hentry)⟩

theorem head {entry : Entry} (hsmooth : Smooth earlier (entry :: earlier)) :
    entry.isRejection = false ∧ entry.busyRequest?.isNone = true := by
  have hgained : gained earlier (entry :: earlier) = [entry] := gained_append [entry] earlier
  unfold Smooth at hsmooth
  rw [hgained] at hsmooth
  exact hsmooth entry (.head _)

end Smooth

namespace Standing

variable {standing before middle after : Standing}

/-- Nothing but the request is heard of, unless the engine is busy. -/
theorem exchange_of_smooth {request : Request} {answer : Option Answer} {accepted : Bool}
    (hsmooth : Smooth standing.history (standing.exchange request answer accepted).history) :
    standing.exchange request answer accepted = standing ∨
      ∃ handle, standing.exchange request answer accepted =
        standing.log (.requested handle request answer) := by
  have hexchanged := standing.exchanged request answer accepted
  generalize standing.exchange request answer accepted = after at hexchanged hsmooth ⊢
  cases hexchanged with
  | closed => exact .inl rfl
  | @asked handle => exact .inr ⟨handle, rfl⟩
  | @kept handle _ hbusy =>
      have hnone := Smooth.head (show Smooth standing.history
        (.requested handle request answer :: standing.history) from hsmooth)
      rw [Entry.busyRequest?, if_pos hbusy] at hnone
      cases hnone.2
  | @watched handle _ hbusy =>
      have hnone := (hsmooth.of_suffix (List.suffix_cons (.requested handle request answer) _)
        (List.suffix_cons ..)).1.head
      rw [Entry.busyRequest?, if_pos hbusy] at hnone
      cases hnone.2

/-- An event that was registered, or has been accepted since, is registered. -/
def Keeps (event : NativeEvent) (before after : Standing) : Prop :=
  before.state.registeredMask.has event = true ∨
      Taken event (gained before.history after.history) →
    after.state.registeredMask.has event = true

namespace Keeps

variable {event : NativeEvent}

theorem refl (standing : Standing) : Keeps event standing standing := by
  rintro (hheld | htaken)
  · exact hheld
  · rw [gained_self] at htaken
    exact absurd htaken (not_taken_of_free (by simp))

theorem trans (hfirst : Keeps event before middle) (hsecond : Keeps event middle after)
    (hbefore : before.history <:+ middle.history) (hafter : middle.history <:+ after.history) :
    Keeps event before after := by
  rintro (hheld | htaken)
  · exact hsecond (.inl (hfirst (.inl hheld)))
  · rw [gained_split hbefore hafter, taken_append] at htaken
    rcases htaken with hlater | hearlier
    · exact hsecond (.inr hlater)
    · exact hsecond (.inl (hfirst (.inr hearlier)))

theorem log (standing : Standing) {entry : Entry} (hfree : entry.acceptedMask? = none) :
    Keeps event standing (standing.log entry) := by
  rintro (hheld | htaken)
  · exact hheld
  · rw [log_history, show gained standing.history (entry :: standing.history) = [entry] from
      gained_append [entry] _] at htaken
    exact absurd htaken (not_taken_of_free (by simpa using hfree))

theorem of_grown {grown : Mask NativeEvent} (standing : Standing)
    (hgrown : standing.state.registeredMask.has event = true → grown.has event = true)
    (handle : Handle) (accepted : Bool) :
    Keeps event standing (standing.register handle grown accepted) := by
  cases accepted with
  | false => exact log standing rfl
  | true =>
      rintro (hheld | htaken)
      · exact hgrown hheld
      · obtain ⟨entry, hentry, mask, hmask, hhas⟩ := htaken
        rw [show gained standing.history (standing.register handle grown true).history =
          [.registered handle grown standing.isMaster true] from gained_append [_] _,
          List.mem_singleton] at hentry
        rw [hentry] at hmask
        cases hmask
        exact hhas

theorem union (standing : Standing) (part : Mask NativeEvent) :
    standing.state.registeredMask.has event = true →
      (standing.state.registeredMask ∪ part).has event = true := by
  intro hheld
  rw [Mask.has_union, hheld, Bool.true_or]

theorem exchange (standing : Standing) (request : Request) (answer : Option Answer)
    (accepted : Bool) : Keeps event standing (standing.exchange request answer accepted) := by
  have hasked (handle : Handle) :
      Keeps event standing (standing.log (.requested handle request answer)) :=
    log standing rfl
  have hexchanged := standing.exchanged request answer accepted
  generalize standing.exchange request answer accepted = after at hexchanged ⊢
  cases hexchanged with
  | closed => exact refl standing
  | asked | kept => exact hasked _
  | @watched handle =>
      let asked := standing.log (.requested handle request answer)
      exact (hasked handle).trans (of_grown asked (union asked _) handle accepted)
        (List.suffix_cons ..) (List.suffix_cons ..)

end Keeps

/-- Nothing but requests has happened, and what comes of their answers. -/
structure Undisturbed (before after : Standing) : Prop where
  hsuffix : before.history <:+ after.history
  hconfig : after.config = before.config
  hstate : after.state =
    { before.state with
      registeredMask := after.state.registeredMask
      masterUnsupported := after.state.masterUnsupported }
  haccepted : Smooth before.history after.history →
    acceptedMask after.history = acceptedMask before.history
  hkeeps (event : NativeEvent) : Keeps event before after

namespace Undisturbed

theorem refl (standing : Standing) : Undisturbed standing standing :=
  ⟨List.suffix_rfl, rfl, rfl, fun _ => rfl, fun _ => .refl standing⟩

theorem handle_eq (hundisturbed : Undisturbed before after) :
    after.state.handle = before.state.handle := by
  rw [hundisturbed.hstate]

theorem requestedMask_eq (hundisturbed : Undisturbed before after) :
    after.state.requestedMask = before.state.requestedMask := by
  rw [hundisturbed.hstate]

theorem inSession_eq (hundisturbed : Undisturbed before after) :
    after.state.inSession = before.state.inSession := by
  rw [hundisturbed.hstate]

theorem trans (hfirst : Undisturbed before middle) (hsecond : Undisturbed middle after) :
    Undisturbed before after where
  hsuffix := hfirst.hsuffix.trans hsecond.hsuffix
  hconfig := hsecond.hconfig.trans hfirst.hconfig
  hstate := by rw [hsecond.hstate, hfirst.hstate]
  haccepted hsmooth := by
    obtain ⟨hearlier, hlater⟩ := hsmooth.of_suffix hfirst.hsuffix hsecond.hsuffix
    exact (hsecond.haccepted hlater).trans (hfirst.haccepted hearlier)
  hkeeps event :=
    (hfirst.hkeeps event).trans (hsecond.hkeeps event) hfirst.hsuffix hsecond.hsuffix

theorem log (standing : Standing) {entry : Entry} (hgoes : entry.opensConnection = false)
    (hfree : entry.acceptedMask? = none) : Undisturbed standing (standing.log entry) where
  hsuffix := List.suffix_cons ..
  hconfig := rfl
  hstate := rfl
  haccepted _ := by
    rw [log_history, acceptedMask_cons _ hgoes, hfree]
    rfl
  hkeeps _ := .log standing hfree

theorem implyMaster (standing : Standing) (unsupported : Bool) :
    Undisturbed standing (standing.adjust (.implyMaster unsupported)) :=
  ⟨List.suffix_rfl, rfl, rfl, fun _ => rfl, fun _ => .refl standing⟩

theorem exchange (standing : Standing) (request : Request) (answer : Option Answer)
    (accepted : Bool) : Undisturbed standing (standing.exchange request answer accepted) where
  hsuffix := history_suffix_exchange ..
  hconfig := exchange_config ..
  hstate := by rw [exchange_state]
  haccepted hsmooth := by
    rcases exchange_of_smooth hsmooth with hsame | ⟨handle, hasked⟩
    · rw [hsame]
    · rw [hasked]
      exact acceptedMask_cons _ rfl
  hkeeps _ := .exchange standing request answer accepted

theorem mark (standing : Standing) (answer : Option Answer) (accepted : Bool) :
    Undisturbed standing (standing.mark answer accepted) := by
  have hasked := exchange standing measurementProbe answer accepted
  unfold Standing.mark
  dsimp only
  split
  · refine ⟨hasked.hsuffix, hasked.hconfig, ?_, hasked.haccepted, fun event heither => ?_⟩
    · dsimp only
      rw [hasked.hstate]
    · exact Keeps.union _ _ (hasked.hkeeps event heither)
  · exact hasked

theorem introduce (standing : Standing) (handle : Handle) (claimed probed : Option Answer)
    (claimAccepted probeAccepted : Bool) (messages : List MessageId)
    (result : Except ClientError UInt64) :
    Undisturbed (standing.connect handle)
      (standing.introduce handle claimed probed claimAccepted probeAccepted messages result) := by
  have hclaimed : Undisturbed (standing.connect handle)
      ((standing.connect handle).claim claimed claimAccepted) :=
    (exchange (standing.connect handle) ..).trans (implyMaster ..)
  exact (hclaimed.trans (mark _ probed probeAccepted)).trans (log _ rfl rfl)

end Undisturbed

end Standing

namespace AdapterM

open Standing

variable {σ α β : Type}

/-- An operation that asks questions, and lets everything else alone. -/
def Asks (operation : AdapterM σ α) : Prop :=
  ∀ adapter, Undisturbed adapter.standing (operation.run adapter).2.standing

namespace Asks

theorem pure (value : α) : Asks (pure value : AdapterM σ α) :=
  fun adapter => .refl adapter.standing

theorem bind {operation : AdapterM σ α} {next : α → AdapterM σ β} (hfirst : Asks operation)
    (hnext : ∀ value, Asks (next value)) : Asks (operation >>= next) :=
  fun adapter => (hfirst adapter).trans (hnext _ _)

variable [Environment σ]

theorem exchange (request : Request) : Asks (exchange request : AdapterM σ Answer) := by
  intro adapter
  obtain ⟨answer, accepted, hstanding, -⟩ := exchange_standing request adapter
  rw [hstanding]
  exact .exchange ..

theorem queryAlwaysOn (features : Mask EngineFeature) :
    Asks (queryAlwaysOn features : AdapterM σ (Mask EngineFeature)) := by
  unfold AdapterM.queryAlwaysOn
  split
  · exact (exchange _).bind fun _ => pure _
  · exact pure _

theorem announceWifi (native : Mask NativeEvent) :
    Asks (announceWifi native : AdapterM σ Unit) := by
  intro adapter
  unfold AdapterM.announceWifi
  rw [run_bind, run_get]
  split
  · exact exchange (.notifyWifi true) adapter
  · exact .refl _

end Asks

variable [Environment σ]

/-- A negotiation asks questions, besides what it finds out and publishes. -/
theorem negotiate_undisturbed {handle : Handle} {standing : Standing} (adapter : Adapter σ)
    (hconnected : adapter.standing = standing.connect handle) :
    Undisturbed adapter.standing (negotiate.run adapter).2.standing := by
  obtain ⟨claimed, probed, claimAccepted, probeAccepted, result, hintroduced⟩ :=
    introduce_standing adapter hconnected
  have hfirst : Undisturbed adapter.standing
      (probeMessages.run (probeMeasurement.run (claimMaster.run adapter).2).2).2.standing := by
    rw [hintroduced, hconnected]
    exact .introduce ..
  have hpublish (capabilities : EngineCapabilities) :
      Asks (publish capabilities : AdapterM σ Unit) := fun published =>
    ⟨List.suffix_cons .., rfl, rfl, fun _ => acceptedMask_cons _ rfl, fun _ => .log _ rfl⟩
  have hrest (supported : Bool) (features : Mask EngineFeature) : Asks (do
      let supportedMessages ← queryAlwaysOn features
      let features ← queryFeatureBitmap
      publish { supportedMessages, features, gnssMeasurementSupported := supported }
      notify .featuresKnown : AdapterM σ Unit) :=
    (Asks.queryAlwaysOn features).bind fun _ =>
      ((Asks.exchange _).bind fun _ => Asks.pure _).bind fun _ =>
        (hpublish _).bind fun _ => fun notified => .log notified.standing rfl rfl
  unfold negotiate
  rw [run_bind, run_bind, run_bind]
  exact hfirst.trans (hrest _ _ _)

end AdapterM

/-- The subscription of the constellations that some events are reported for. -/
def Standing.reportRequest (standing : Standing) (native : Mask NativeEvent) : Request :=
  .setReportSubscription
    { measurementReport := some (.fullIf ReportConstellation
        (native.has .measurementReport || standing.state.masterUnsupported))
      polynomials := some (.fullIf ReportConstellation (native.has .polynomialReport)) }

namespace Adapter

variable {σ : Type}

/-- The mask last accepted on the connection, if one is open. -/
def openMask (adapter : Adapter σ) : Mask NativeEvent :=
  if adapter.state.handle.isSome then acceptedMask adapter.history else ∅

end Adapter

namespace AdapterM

open Standing

variable {σ : Type} [Environment σ]

/-- Where a connection is open in the end, nothing has been disturbed since the adapter found it or
made it. -/
theorem ensureConnected_undisturbed (adapter : Adapter σ)
    (hok : (ensureConnected.run adapter).1 = .ok ()) :
    ∃ start : Standing, adapter.history <:+ start.history ∧ start.config = adapter.config ∧
      start.state = { adapter.state with handle := start.state.handle } ∧
      start.state.handle ≠ none ∧
      acceptedMask start.history = adapter.openMask ∧
      Undisturbed start (ensureConnected.run adapter).2.standing := by
  rcases ensureConnected_cases adapter with
    ⟨hopen, hkept⟩ | ⟨hclosed, ⟨error, hfailed, -⟩ |
      ⟨handle, connected, hconnected, hmade⟩⟩
  · have hmask : acceptedMask adapter.history = adapter.openMask := by
      unfold Adapter.openMask
      rw [if_pos (Option.isSome_iff_ne_none.mpr hopen)]
    rw [hkept]
    exact ⟨adapter.standing, List.suffix_rfl, rfl, rfl, hopen, hmask, .refl _⟩
  · rw [hfailed] at hok
    cases hok
  · have hmask : acceptedMask (adapter.standing.connect handle).history = adapter.openMask := by
      unfold Adapter.openMask
      rw [hclosed]
      rfl
    refine ⟨adapter.standing.connect handle, List.suffix_cons .., rfl, rfl,
      Option.some_ne_none handle, hmask, ?_⟩
    rw [← hconnected]
    rcases hmade with ⟨-, hnegotiated⟩ | ⟨-, hdone⟩
    · rw [hnegotiated]
      exact negotiate_undisturbed connected hconnected
    · rw [hdone]
      exact .refl _

theorem subscribeConstellations_standing (native : Mask NativeEvent) (adapter : Adapter σ) :
    ∃ answer accepted, ((subscribeConstellations native).run adapter).2.standing =
      adapter.standing.exchange (adapter.standing.reportRequest native) answer accepted := by
  obtain ⟨answer, accepted, hstanding, -⟩ :=
    exchange_standing (adapter.standing.reportRequest native) adapter
  exact ⟨answer, accepted, hstanding⟩

/-- Events that look unchanged are left as they are; others are subscribed. A master that finds its
measurements or polynomials changed has their constellations subscribed after that. -/
theorem changeEvents_cases (requested : Mask AdapterEvent) (adapter : Adapter σ) :
    let native := nativeEvents requested adapter.batchedBreach
    let announced := ((announceWifi native).run adapter).2.standing
    let final := ((changeEvents requested).run adapter).2.standing
    requested = announced.state.requestedMask ∧ final = announced ∨
      requested ≠ announced.state.requestedMask ∧ ∃ accepted,
        let subscribed := announced.subscribe requested accepted
        let changed := subscribed.isMaster &&
          (native.symmDiff adapter.state.registeredMask).intersects NativeEvent.perConstellation
        changed = false ∧ final = subscribed ∨
          changed = true ∧ ∃ answer again,
            final = subscribed.exchange (subscribed.reportRequest native) answer again := by
  intro native announced final
  have hfinal : final = ((changeEvents requested).run adapter).2.standing := rfl
  have hannounced : announced = ((announceWifi native).run adapter).2.standing := rfl
  unfold changeEvents at hfinal
  rw [run_bind, run_get] at hfinal
  dsimp only at hfinal
  rw [run_bind] at hfinal
  change final = ((_ : AdapterM σ Unit).run ((announceWifi native).run adapter).2).2.standing
    at hfinal
  generalize (announceWifi native).run adapter = made at hfinal hannounced
  obtain ⟨_, made⟩ := made
  dsimp only at hannounced
  rw [run_bind, run_get] at hfinal
  rw [hannounced]
  by_cases hsame : requested = made.state.requestedMask
  · rw [if_pos hsame] at hfinal
    exact .inl ⟨hsame, hfinal⟩
  · rw [if_neg hsame, run_bind] at hfinal
    obtain ⟨accepted, hsubscribed⟩ := subscribe_standing requested made
    refine .inr ⟨hsame, accepted, ?_⟩
    generalize (subscribe requested).run made = subscribed at hsubscribed hfinal
    obtain ⟨_, subscribed⟩ := subscribed
    dsimp only at hsubscribed
    rw [run_bind, run_get] at hfinal
    rw [← hsubscribed]
    dsimp only
    by_cases hchanged : (subscribed.isMaster && (native.symmDiff
        adapter.state.registeredMask).intersects NativeEvent.perConstellation) = true
    · rw [if_pos hchanged] at hfinal
      obtain ⟨answer, again, hasked⟩ := subscribeConstellations_standing native subscribed
      exact .inr ⟨hchanged, answer, again, hfinal.trans hasked⟩
    · rw [if_neg hchanged] at hfinal
      exact .inl ⟨by rwa [← Bool.not_eq_true], hfinal⟩

end AdapterM

namespace Standing

variable {standing : Standing}

theorem nativeFor_sdiff (standing : Standing) (requested : Mask AdapterEvent) :
    standing.nativeFor (requested \ standing.config.excludedEvents) =
      standing.nativeFor requested := by
  unfold nativeFor
  rw [Mask.sdiff_sdiff_self]

theorem subscribe_nativeFor (standing : Standing) (requested : Mask AdapterEvent)
    (accepted : Bool) :
    (standing.subscribe requested accepted).config = standing.config ∧
      ∀ events, (standing.subscribe requested accepted).nativeFor events =
        standing.nativeFor events := by
  have hsubscribed := standing.subscribed requested accepted
  generalize standing.subscribe requested accepted = after at hsubscribed ⊢
  cases hsubscribed with
  | closed | unchanged => exact ⟨rfl, fun _ => rfl⟩
  | registered => cases accepted <;> exact ⟨rfl, fun _ => rfl⟩

/-- A subscription that the transport accepts is in force afterwards, unless it looked as if it were
before. -/
theorem subscribe_acceptedMask_iff (hmirrored : standing.Mirrored)
    (hopen : standing.state.handle ≠ none) (requested : Mask AdapterEvent) (accepted : Bool)
    (hsmooth : Smooth standing.history (standing.subscribe requested accepted).history) :
    acceptedMask (standing.subscribe requested accepted).history =
        standing.nativeFor requested ↔
      acceptedMask standing.history = standing.nativeFor requested ∨
        ¬(standing.nativeFor requested =
            acceptedMask standing.history ∪ .single .measurementReport ∧
          measurementProven (standing.subscribe requested accepted).history = true) := by
  have hsubscribed := standing.subscribed requested accepted
  generalize standing.subscribe requested accepted = after at hsubscribed hsmooth ⊢
  cases hsubscribed with
  | closed hclosed => exact absurd hclosed hopen
  | unchanged hhandle hsame =>
      change acceptedMask standing.history = _ ↔
        _ ∨ ¬(_ ∧ measurementProven standing.history = true)
      rw [Mirrored.of_open hhandle, hsame] at hmirrored
      unfold believedMask at hmirrored
      by_cases hproven : measurementProven standing.history = true
      · rw [if_pos hproven] at hmirrored
        refine ⟨.inl, fun heither => ?_⟩
        rcases heither with hdone | hnot
        · exact hdone
        · exact absurd ⟨hmirrored, hproven⟩ hnot
      · rw [if_neg hproven] at hmirrored
        exact ⟨.inl, fun _ => hmirrored.symm⟩
  | registered =>
      have haccepted : accepted = true := by
        have hfirst := hsmooth.head.1
        cases accepted with
        | false => cases hfirst
        | true => rfl
      rw [haccepted]
      refine ⟨fun _ => .inr fun hboth => ?_, fun _ => rfl⟩
      cases hboth.2

/-- The same holds if a question follows the subscription. -/
theorem changed_acceptedMask_iff {final : Standing} (hmirrored : standing.Mirrored)
    (hopen : standing.state.handle ≠ none) (requested : Mask AdapterEvent) (accepted : Bool)
    (hfinal : final = standing.subscribe requested accepted ∨
      ∃ request answer again,
        final = (standing.subscribe requested accepted).exchange request answer again)
    (hsmooth : Smooth standing.history final.history) :
    acceptedMask final.history = final.nativeFor requested ↔
      acceptedMask standing.history = final.nativeFor requested ∨
        ¬(final.nativeFor requested =
            acceptedMask standing.history ∪ .single .measurementReport ∧
          measurementProven final.history = true) := by
  have hsame := (subscribe_nativeFor standing requested accepted).2 requested
  have hiff := subscribe_acceptedMask_iff hmirrored hopen requested accepted
  rcases hfinal with rfl | ⟨request, answer, again, rfl⟩
  · rw [hsame]
    exact hiff hsmooth
  · obtain ⟨hfirst, hsecond⟩ := hsmooth.of_suffix (history_suffix_subscribe ..)
      (history_suffix_exchange (standing.subscribe requested accepted) request answer again)
    rcases exchange_of_smooth hsecond with hquiet | ⟨handle, hasked⟩
    · rw [hquiet, hsame]
      exact hiff hfirst
    · have haccepted : acceptedMask (.requested handle request answer ::
          (standing.subscribe requested accepted).history) =
            acceptedMask (standing.subscribe requested accepted).history :=
        acceptedMask_cons _ rfl
      have hproven : measurementProven (.requested handle request answer ::
          (standing.subscribe requested accepted).history) =
            measurementProven (standing.subscribe requested accepted).history :=
        measurementProven_cons _ rfl rfl
      have hnative : ((standing.subscribe requested accepted).log
          (.requested handle request answer)).nativeFor requested = standing.nativeFor requested :=
        hsame
      rw [hasked, log_history, haccepted, hproven, hnative]
      exact hiff hfirst

end Standing

namespace Adapter

open AdapterM Standing

variable {σ : Type} [Environment σ]

/-- Opening a connection comes to making it and changing the events, where it is made. -/
theorem openConnection_ok {adapter : Adapter σ} {requested : Mask AdapterEvent}
    (hok : ((openConnection requested).run adapter).1 = .ok ()) :
    (ensureConnected.run adapter).1 = .ok () ∧
      ((openConnection requested).run adapter).2 =
        ((changeEvents (requested \ (ensureConnected.run adapter).2.config.excludedEvents)).run
          (ensureConnected.run adapter).2).2 := by
  unfold openConnection at hok ⊢
  rw [run_bind] at hok ⊢
  generalize ensureConnected.run adapter = made at hok ⊢
  obtain ⟨result, connected⟩ := made
  cases result with
  | error error => cases hok
  | ok => exact ⟨rfl, rfl⟩

/-- Where the transport accepts and the engine is not busy, opening a connection registers what the
events asked for come to, exactly if one of two things holds. It was in force on the open connection
already; or the events differ from those last asked for, and it is not the mask in force with the
measurement reports that the negotiation alone has found. -/
theorem openConnection_registers_iff {adapter : Adapter σ} (hreachable : adapter.Reachable)
    (requested : Mask AdapterEvent)
    (hok : ((openConnection requested).run adapter).1 = .ok ())
    (hsmooth : Smooth adapter.history ((openConnection requested).run adapter).2.history) :
    let opened := ((openConnection requested).run adapter).2
    let native := registrationMask (requested \ opened.config.excludedEvents)
      opened.state.inSession opened.batchedBreach
    acceptedMask opened.history = native ↔
      adapter.openMask = native ∨
        requested \ adapter.config.excludedEvents ≠ adapter.state.requestedMask ∧
          ¬(native = adapter.openMask ∪ .single .measurementReport ∧
            measurementProven opened.history = true) := by
  intro opened native
  obtain ⟨hconnected, hopened⟩ := openConnection_ok hok
  obtain ⟨start, hbefore, hconfig, hstate, hopen, hmask, hmade⟩ :=
    ensureConnected_undisturbed adapter hconnected
  have hrequested : start.state.requestedMask = adapter.state.requestedMask := by
    rw [hstate]
  have hconnecting := Walks.ensureConnected adapter
  generalize (ensureConnected.run adapter).2 = connected at hopened hmade hconnecting
  have hchanged := changeEvents_cases (requested \ connected.config.excludedEvents) connected
  let native := nativeEvents (requested \ connected.config.excludedEvents) connected.batchedBreach
  have hsteps := (Plain.announceWifi native).hroutine.walks connected
  have hasked := Asks.announceWifi native connected
  change _ ∧ _ = ((announceWifi native).run connected).2.standing ∨
    _ ≠ ((announceWifi native).run connected).2.standing.state.requestedMask ∧ _ at hchanged
  generalize ((announceWifi native).run connected).2.standing = announced at hsteps hasked hchanged
  have hannounced : Undisturbed start announced := hmade.trans hasked
  have hmirrored : announced.Mirrored :=
    Steps.preserves step_mirrored (hconnecting.trans hsteps) hreachable.mirrored
  have hevents : requested \ connected.config.excludedEvents =
      requested \ adapter.config.excludedEvents := by
    rw [← hconfig, ← hmade.hconfig]
    rfl
  rw [← hopened, hevents] at hchanged
  rw [hannounced.requestedMask_eq, hrequested] at hchanged
  have hstill (hsmooth : Smooth adapter.history announced.history) :
      acceptedMask announced.history = adapter.openMask :=
    (hannounced.haccepted (hsmooth.of_suffix hbefore hannounced.hsuffix).2).trans hmask
  change Smooth adapter.history opened.standing.history at hsmooth
  change acceptedMask opened.standing.history = opened.standing.nativeFor requested ↔
    adapter.openMask = opened.standing.nativeFor requested ∨
      _ ∧ ¬(opened.standing.nativeFor requested = _ ∧
        measurementProven opened.standing.history = true)
  replace hchanged :
      requested \ adapter.config.excludedEvents = adapter.state.requestedMask ∧
          opened.standing = announced ∨
        requested \ adapter.config.excludedEvents ≠ adapter.state.requestedMask ∧
          ∃ accepted, opened.standing =
              announced.subscribe (requested \ adapter.config.excludedEvents) accepted ∨
            ∃ request answer again, opened.standing =
              (announced.subscribe (requested \ adapter.config.excludedEvents)
                accepted).exchange request answer again := by
    rcases hchanged with hleft | ⟨hdiffers, accepted, ⟨-, hsubscribed⟩ | ⟨-, answer, again, hasked⟩⟩
    · exact .inl hleft
    · exact .inr ⟨hdiffers, accepted, .inl hsubscribed⟩
    · exact .inr ⟨hdiffers, accepted, .inr ⟨_, answer, again, hasked⟩⟩
  generalize opened.standing = final at hsmooth hchanged ⊢
  rcases hchanged with ⟨hsame, hleft⟩ | ⟨hdiffers, accepted, hsubscribed⟩
  · subst hleft
    rw [hstill hsmooth]
    refine ⟨.inl, fun heither => ?_⟩
    rcases heither with hdone | ⟨hdiffers, -⟩
    · exact hdone
    · exact absurd hsame hdiffers
  · have hgrown : announced.history <:+ final.history ∧ final.config = announced.config := by
      have hconfig := (subscribe_nativeFor announced
        (requested \ adapter.config.excludedEvents) accepted).1
      rcases hsubscribed with rfl | ⟨request, answer, again, rfl⟩
      · exact ⟨history_suffix_subscribe .., hconfig⟩
      · exact ⟨(history_suffix_subscribe ..).trans (history_suffix_exchange ..),
          (exchange_config ..).trans hconfig⟩
    obtain ⟨hbegun, hended⟩ :=
      hsmooth.of_suffix (hbefore.trans hannounced.hsuffix) hgrown.1
    have hiff := changed_acceptedMask_iff hmirrored (by rwa [hannounced.handle_eq]) _ accepted
      hsubscribed hended
    have hexcluded : final.config = adapter.config :=
      hgrown.2.trans (hannounced.hconfig.trans hconfig)
    rw [← hexcluded, nativeFor_sdiff, hstill hbegun] at hiff
    refine hiff.trans ⟨fun heither => ?_, fun heither => ?_⟩
    · exact heither.imp_right fun hnot => ⟨hdiffers, hnot⟩
    · exact heither.imp_right And.right

/-- A client of an engine that takes everything, after some actions. -/
def obligedAfter (actions : List AdapterAction) : Adapter ScriptedEngine :=
  let engine : ScriptedEngine := { clock := .first }
  (Adapter.spawn { masterClient := false } engine {}).run actions

theorem openConnection_registers_at_first :
    let opened := (openConnection (.single .niRequest)).run (obligedAfter [])
    opened.1 = .ok () ∧ Smooth (obligedAfter []).history opened.2.history ∧
      acceptedMask opened.2.history =
        registrationMask (.single .niRequest \ opened.2.config.excludedEvents)
          opened.2.state.inSession opened.2.batchedBreach := by
  have hreachable : (obligedAfter []).Reachable := ⟨_, _, _, [], rfl⟩
  have hok : ((openConnection (.single .niRequest)).run (obligedAfter [])).1 = .ok () := rfl
  have hsmooth : Smooth (obligedAfter []).history
      ((openConnection (.single .niRequest)).run (obligedAfter [])).2.history := by decide
  refine ⟨hok, hsmooth, ?_⟩
  refine (openConnection_registers_iff hreachable (.single .niRequest) hok hsmooth).mpr (.inr ?_)
  exact ⟨by decide, by decide⟩

/-- Events asked for while no connection is open look unchanged when one is opened for them. -/
theorem openConnection_registers_nothing :
    let adapter := obligedAfter [.execute (.subscribe (.single .niRequest))]
    let opened := (openConnection (.single .niRequest)).run adapter
    opened.1 = .ok () ∧ Smooth adapter.history opened.2.history ∧
      acceptedMask opened.2.history ≠
        registrationMask (.single .niRequest \ opened.2.config.excludedEvents)
          opened.2.state.inSession opened.2.batchedBreach :=
  ⟨rfl, by decide, by decide⟩

end Adapter

end GnssAdapter
