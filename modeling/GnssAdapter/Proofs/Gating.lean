import GnssAdapter.Proofs.Waiting

/-!
Session events at the transport. Outside a session, with the engine off, none of them is in force but
the engine state, and the measurement reports that the negotiation has found where a busy engine made
the adapter register them.

The registered mask is the wrong thing to look at: it has the measurement reports from the negotiation
on, before anything has been registered, and takes them to the transport when the engine state is
added to it. The invariant below is about the history. It tells such a registration from one for a
session, and the engine state that came with it keeps a second one from being made.
-/

namespace GnssAdapter

/-- The session-gated events but for the engine state, which is also registered for kept requests. -/
def NativeEvent.sessionOnly : Mask NativeEvent :=
  sessionGated \ .single .engineState

theorem NativeEvent.has_measurementReport_of_not_intersects {mask : Mask NativeEvent}
    (hnone : mask.intersects NativeEvent.sessionOnly = false) :
    mask.has .measurementReport = false :=
  Mask.has_eq_false_of_not_intersects hnone (by decide)

/-- The mask accepted last on the latest connection has measurement reports, and was accepted while
only the negotiation had found the engine to measure. -/
def measurementHeldOver : List Entry → Bool
  | [] => false
  | entry :: earlier =>
      if entry.opensConnection then false
      else
        match entry.acceptedMask? with
        | some mask => measurementProven earlier && mask.has .measurementReport
        | none => measurementHeldOver earlier

/-- No session event is in force but measurement reports that have been held over. -/
structure Confined (history : List Entry) : Prop where
  hmeasurement :
    (acceptedMask history).has .measurementReport = measurementHeldOver history
  hothers :
    (acceptedMask history \ .single .measurementReport).intersects NativeEvent.sessionOnly = false
  hlistens : measurementHeldOver history = true → (acceptedMask history).has .engineState = true

section History

variable {entry : Entry} (history : List Entry)

theorem measurementHeldOver_cons (hgoes : entry.opensConnection = false)
    (hfree : entry.acceptedMask? = none) :
    measurementHeldOver (entry :: history) = measurementHeldOver history := by
  simp [measurementHeldOver, hgoes, hfree]

theorem measurementHeldOver_registered (handle : Handle) (mask : Mask NativeEvent)
    (isMaster : Bool) :
    measurementHeldOver (.registered handle mask isMaster true :: history) =
      (measurementProven history && mask.has .measurementReport) := rfl

theorem acceptedMask_has_of_measurementHeldOver (hheld : measurementHeldOver history = true) :
    (acceptedMask history).has .measurementReport = true := by
  induction history with
  | nil => cases hheld
  | cons entry earlier ih =>
      unfold measurementHeldOver at hheld
      split at hheld
      · cases hheld
      · rename_i hgoes
        rw [acceptedMask_cons earlier (Bool.eq_false_iff.mpr hgoes)]
        split at hheld
        · rename_i mask haccepted
          rw [haccepted]
          exact (Bool.and_eq_true_iff.mp hheld).2
        · rename_i hfree
          rw [hfree]
          exact ih hheld

end History

namespace Confined

variable {history : List Entry}

theorem cons {entry : Entry} (hconfined : Confined history) (hgoes : entry.opensConnection = false)
    (hfree : entry.acceptedMask? = none) : Confined (entry :: history) := by
  have hmask : acceptedMask (entry :: history) = acceptedMask history := by
    rw [acceptedMask_cons history hgoes, hfree]
    rfl
  have hheld := measurementHeldOver_cons history hgoes hfree
  refine ⟨?_, ?_, ?_⟩
  · rw [hmask, hheld]
    exact hconfined.hmeasurement
  · rw [hmask]
    exact hconfined.hothers
  · rw [hmask, hheld]
    exact hconfined.hlistens

theorem of_not_intersects
    (hnone : (acceptedMask history).intersects NativeEvent.sessionOnly = false)
    (hheld : measurementHeldOver history = false) : Confined history where
  hmeasurement := by
    rw [hheld]
    exact NativeEvent.has_measurementReport_of_not_intersects hnone
  hothers := Mask.sdiff_intersects_eq_false hnone _
  hlistens hyes := absurd (hheld.symm.trans hyes) Bool.false_ne_true

theorem of_believed (hnone : (believedMask history).intersects NativeEvent.sessionOnly = false) :
    Confined history := by
  have haccepted : (acceptedMask history).intersects NativeEvent.sessionOnly = false := by
    unfold believedMask at hnone
    split at hnone
    · exact ((Mask.union_intersects_eq_false_iff ..).mp hnone).1
    · exact hnone
  refine of_not_intersects haccepted ?_
  rw [← Bool.not_eq_true]
  intro hheld
  have habsent := NativeEvent.has_measurementReport_of_not_intersects haccepted
  exact Bool.false_ne_true
    (habsent.symm.trans (acceptedMask_has_of_measurementHeldOver history hheld))

theorem connected (handle : Handle) : Confined (.connected (.ok handle) :: history) := by
  have hmask : acceptedMask (.connected (.ok handle) :: history) = ∅ := rfl
  refine of_not_intersects ?_ rfl
  rw [hmask]
  decide

theorem registered (handle : Handle) {mask : Mask NativeEvent} (isMaster : Bool)
    (hnone : mask.intersects NativeEvent.sessionOnly = false) :
    Confined (.registered handle mask isMaster true :: history) := by
  have hmask : acceptedMask (.registered handle mask isMaster true :: history) = mask :=
    acceptedMask_cons history rfl
  refine of_not_intersects ?_ ?_
  · rwa [hmask]
  · rw [measurementHeldOver_registered,
      NativeEvent.has_measurementReport_of_not_intersects hnone, Bool.and_false]

theorem not_intersects (hconfined : Confined history) (hheld : measurementHeldOver history = false) :
    (acceptedMask history).intersects NativeEvent.sessionOnly = false :=
  Mask.intersects_eq_false_of_sdiff_single hconfined.hothers (hconfined.hmeasurement.trans hheld)

theorem intersects_iff (hconfined : Confined history) :
    (acceptedMask history).intersects NativeEvent.sessionOnly = true ↔
      measurementHeldOver history = true := by
  cases hheld : measurementHeldOver history with
  | false =>
      rw [hconfined.not_intersects hheld]
  | true =>
      refine ⟨fun _ => rfl, fun _ => ?_⟩
      rw [← Bool.not_eq_false]
      intro hnone
      have habsent := NativeEvent.has_measurementReport_of_not_intersects hnone
      exact Bool.false_ne_true (habsent.symm.trans (hconfined.hmeasurement.trans hheld))

/-- Listening for the engine on top of what is believed to be registered takes over what the
negotiation has found. -/
theorem widened (hconfined : Confined history) (handle : Handle) (isMaster : Bool)
    (hunheard : (believedMask history).has .engineState = false) :
    Confined (.registered handle (believedMask history ∪ .single .engineState) isMaster true ::
      history) := by
  have hengine : (Mask.single NativeEvent.engineState).intersects NativeEvent.sessionOnly = false := by
    decide
  -- Reports that are held over came with the engine state, which is not registered here.
  have hfree : measurementHeldOver history = false := by
    rw [← Bool.not_eq_true]
    intro hheld
    have hheard := hconfined.hlistens hheld
    unfold believedMask at hunheard
    split at hunheard
    · rw [Mask.has_union, hheard] at hunheard
      cases hunheard
    · exact Bool.false_ne_true (hunheard.symm.trans hheard)
  have hnone := hconfined.not_intersects hfree
  unfold believedMask
  split
  · rename_i hproven
    have hmask : acceptedMask (.registered handle
        (acceptedMask history ∪ .single .measurementReport ∪ .single .engineState) isMaster true ::
          history) = _ := acceptedMask_cons history rfl
    have hmeasurement : (acceptedMask history ∪ .single .measurementReport ∪
        .single .engineState).has .measurementReport = true := by
      rw [Mask.has_union, Mask.has_union]
      exact Bool.or_eq_true_iff.mpr (.inl (Bool.or_eq_true_iff.mpr (.inr (by decide))))
    refine ⟨?_, ?_, fun _ => ?_⟩
    · rw [hmask, measurementHeldOver_registered, hproven]
      exact (Bool.true_and _).symm
    · rw [hmask]
      change ((acceptedMask history ∪ _ ∪ _) \ _).intersects _ = false
      rw [Mask.union_sdiff, Mask.union_sdiff, Mask.union_intersects_eq_false_iff,
        Mask.union_intersects_eq_false_iff]
      exact ⟨⟨Mask.sdiff_intersects_eq_false hnone _, by decide⟩, by decide⟩
    · rw [hmask]
      change (_ ∪ _ : Mask NativeEvent).has _ = true
      rw [Mask.has_union]
      exact Bool.or_eq_true_iff.mpr (.inr (by decide))
  · exact registered handle isMaster
      ((Mask.union_intersects_eq_false_iff ..).mpr ⟨hnone, hengine⟩)

end Confined

namespace Standing

variable {standing : Standing}

/-- On an idle connection, with the engine off, the history confines the session events. -/
def Settled (standing : Standing) : Prop :=
  standing.state.handle ≠ none → standing.state.inSession = false →
    standing.state.engineOn = false → Confined standing.history

theorem settled_of_closed (hclosed : standing.state.handle = none) : standing.Settled :=
  fun hopen => absurd hclosed hopen

theorem log_settled (hsettled : standing.Settled) {entry : Entry}
    (hgoes : entry.opensConnection = false) (hfree : entry.acceptedMask? = none) :
    (standing.log entry).Settled :=
  fun hopen hidle hoff => (hsettled hopen hidle hoff).cons hgoes hfree

theorem adjust_settled (hsettled : standing.Settled) {adjustment : Adjustment}
    (hsteady : adjustment.isSteady = true) : (standing.adjust adjustment).Settled := by
  intro hopen hidle hoff
  cases adjustment with
  | startSession | stopSession => cases hsteady
  | turn on =>
      cases on with
      | false => cases hsteady
      | true => cases hoff
  | setPower | implyMaster | noteNmeaTypes | forgetServiceDeletion | keepRaw | keepEpoch =>
      exact hsettled hopen hidle hoff

theorem exchange_settled (hmirrored : standing.Mirrored) (hsettled : standing.Settled)
    (request : Request) (answer : Option Answer) (accepted : Bool)
    (hgrants : Grants (standing.exchange request answer accepted).history) :
    (standing.exchange request answer accepted).Settled := by
  rcases exchange_cases standing request answer accepted hgrants with
    hsame | ⟨handle, hopen, ⟨-, hasked⟩ | ⟨-, -, hkept⟩ | ⟨-, ⟨-, hunheard⟩, hfirst⟩⟩
  · rwa [hsame]
  · rw [hasked]
    exact log_settled hsettled rfl rfl
  · rw [hkept]
    exact log_settled hsettled rfl rfl
  · rw [hfirst]
    intro hstill hidle hoff
    have hasked : (standing.log (.requested handle request answer)).Mirrored :=
      log_mirrored hmirrored rfl rfl rfl
    have hbelieved : standing.state.registeredMask =
        believedMask (.requested handle request answer :: standing.history) :=
      (Mirrored.of_open hopen).mp hasked
    have hconfined : Confined (.requested handle request answer :: standing.history) :=
      (hsettled hstill hidle hoff).cons rfl rfl
    rw [hbelieved] at hunheard
    change Confined (.registered handle (standing.state.registeredMask ∪ _) _ true :: _)
    rw [hbelieved]
    exact hconfined.widened handle _ hunheard

theorem subscribe_settled (hmirrored : standing.Mirrored) (requested : Mask AdapterEvent)
    (accepted : Bool) (hgrants : Grants (standing.subscribe requested accepted).history) :
    (standing.subscribe requested accepted).Settled := by
  have hgated (hidle : standing.state.inSession = false) :
      (standing.nativeFor requested).intersects NativeEvent.sessionOnly = false := by
    unfold nativeFor registrationMask
    rw [hidle]
    exact Mask.not_intersects_sdiff _ NativeEvent.sessionGated _
  have hsubscribed := standing.subscribed requested accepted
  generalize standing.subscribe requested accepted = after at hsubscribed hgrants ⊢
  cases hsubscribed with
  | closed hclosed => exact settled_of_closed hclosed
  | unchanged hopen hsame =>
      intro _ hidle _
      -- Nothing is registered if the mask looks registered; then the history is as it has to be.
      have hnone := hgated hidle
      rw [← hsame, (Mirrored.of_open hopen).mp hmirrored] at hnone
      exact .of_believed hnone
  | @registered handle =>
      have haccepted : accepted = true := hgrants.accepted_eq_true
      rw [haccepted]
      exact fun _ hidle _ => .registered handle _ (hgated hidle)

theorem post_settled (hsettled : standing.Settled) (request : Request)
    (result : Except ClientError Unit) : (standing.post request result).Settled := by
  unfold post
  split
  · exact hsettled
  · exact log_settled hsettled rfl rfl

theorem drain_settled (hsettled : standing.Settled) (results : List (Except ClientError Unit)) :
    (standing.drain results).Settled := by
  have hpostAll (sendings : List (Request × Except ClientError Unit)) {emptied : Standing}
      (hemptied : emptied.Settled) : (emptied.postAll sendings).Settled := by
    induction sendings generalizing emptied with
    | nil => exact hemptied
    | cons sending rest ih => exact ih (post_settled hemptied sending.1 sending.2)
  have hemptied : Settled { standing with replays := [] } := hsettled
  exact hpostAll _ hemptied

theorem start_settled (standing : Standing) : (standing.adjust .startSession).Settled :=
  fun _ hidle _ => by cases hidle

theorem stop_settled (hmirrored : standing.Mirrored) (accepted : Bool)
    (hgrants : Grants (standing.stop accepted).history) : (standing.stop accepted).Settled := by
  unfold stop at hgrants ⊢
  split at hgrants
  · rename_i hon
    rw [if_pos hon]
    -- The session events are still in force, and are given up when the engine turns off.
    exact fun _ _ hoff => absurd (hon.symm.trans hoff) (by decide)
  · rename_i hoff
    rw [if_neg hoff]
    exact subscribe_settled (adjust_mirrored hmirrored .stopSession) _ accepted hgrants

theorem connect_settled (standing : Standing) (handle : Handle) :
    (standing.connect handle).Settled :=
  fun _ _ _ => .connected handle

theorem claim_settled (hmirrored : standing.Mirrored) (hsettled : standing.Settled)
    (answer : Option Answer) (accepted : Bool)
    (hgrants : Grants (standing.claim answer accepted).history) :
    (standing.claim answer accepted).Settled :=
  adjust_settled (exchange_settled hmirrored hsettled _ answer accepted hgrants) rfl

theorem mark_settled (hmirrored : standing.Mirrored) (hsettled : standing.Settled)
    (answer : Option Answer) (accepted : Bool)
    (hgrants : Grants (standing.mark answer accepted).history) :
    (standing.mark answer accepted).Settled := by
  unfold mark at hgrants ⊢
  split at hgrants
  · rename_i hyes
    rw [if_pos hyes]
    -- The mark is on the registered mask alone; nothing has been registered for it yet.
    exact exchange_settled hmirrored hsettled measurementProbe answer accepted hgrants
  · rename_i hno
    rw [if_neg hno]
    exact exchange_settled hmirrored hsettled measurementProbe answer accepted hgrants

theorem introduce_settled (hmirrored : standing.Mirrored) (hclosed : standing.state.handle = none)
    (handle : Handle) (claimed probed : Option Answer) (claimAccepted probeAccepted : Bool)
    (messages : List MessageId) (result : Except ClientError UInt64)
    (hgrants : Grants (standing.introduce handle claimed probed claimAccepted probeAccepted
      messages result).history) :
    (standing.introduce handle claimed probed claimAccepted probeAccepted messages
      result).Settled := by
  have hmarked := hgrants.of_suffix (List.suffix_cons ..)
  have hclaimed := hmarked.of_suffix (history_suffix_mark ..)
  have hconnected := connect_mirrored hmirrored hclosed handle
  have hmaster : ((standing.connect handle).claim claimed claimAccepted).Mirrored :=
    adjust_mirrored (exchange_mirrored hconnected ..) _
  have hsettled := claim_settled hconnected (connect_settled standing handle) claimed claimAccepted
    hclaimed
  exact log_settled (mark_settled hmaster hsettled probed probeAccepted hmarked) rfl rfl

theorem turnOff_settled (hmirrored : standing.Mirrored) (accepted : Bool)
    (results : List (Except ClientError Unit))
    (hgrants : Grants (standing.turnOff accepted results).history) :
    (standing.turnOff accepted results).Settled :=
  drain_settled (subscribe_settled (noticeOff_mirrored hmirrored) _ accepted
    (hgrants.of_suffix (history_suffix_drain ..))) results

theorem step_settled {before after : Standing} (hstep : Step before after)
    (hmirrored : before.Mirrored) (hgrants : Grants after.history) (hsettled : before.Settled) :
    after.Settled := by
  cases hstep with
  | exchange request answer accepted =>
      exact exchange_settled hmirrored hsettled request answer accepted hgrants
  | post request result => exact post_settled hsettled request result
  | subscribe requested accepted =>
      exact subscribe_settled hmirrored requested accepted hgrants
  | adjust adjustment hsteady => exact adjust_settled hsettled hsteady
  | start => exact start_settled before
  | stop accepted => exact stop_settled hmirrored accepted hgrants
  | connect handle => exact connect_settled before handle
  | introduce handle hclosed hmaster claimed probed claimAccepted probeAccepted messages result =>
      exact introduce_settled hmirrored hclosed handle claimed probed claimAccepted probeAccepted
        messages result hgrants
  | disconnect result =>
      refine settled_of_closed ?_
      unfold Standing.disconnect
      split <;> rfl
  | turnOff accepted results => exact turnOff_settled hmirrored accepted results hgrants
  | refuse | lose => exact settled_of_closed rfl
  | notify | publish | arrive => exact log_settled hsettled rfl rfl
  | share => exact hsettled

def Gated (standing : Standing) : Prop :=
  standing.Mirrored ∧ (Grants standing.history → standing.Settled)

theorem step_gated {before after : Standing} (hstep : Step before after) (hgated : before.Gated) :
    after.Gated := by
  obtain ⟨hmirrored, hgranted⟩ := hgated
  refine ⟨step_mirrored hstep hmirrored, fun hgrants => ?_⟩
  exact step_settled hstep hmirrored hgrants
    (hgranted (hgrants.of_suffix hstep.history_suffix))

end Standing

namespace Adapter

variable {σ : Type} [Environment σ]

theorem Reachable.gated {adapter : Adapter σ} (hreachable : adapter.Reachable) :
    adapter.standing.Gated := by
  obtain ⟨config, surroundings, shared, actions, rfl⟩ := hreachable
  exact (run_steps _ actions).preserves Standing.step_gated
    ⟨rfl, fun _ => Standing.settled_of_closed rfl⟩

/-- Where the transport accepts every registration, the session events in force on an idle
connection with the engine off are measurement reports or none; and they are in force exactly if
they were registered while the negotiation alone had found the engine to measure. -/
theorem idle_session_events_iff {adapter : Adapter σ} (hreachable : adapter.Reachable)
    (hgrants : Grants adapter.history) (hopen : adapter.state.handle ≠ none)
    (hidle : adapter.state.inSession = false) (hoff : adapter.state.engineOn = false) :
    ((acceptedMask adapter.history).intersects NativeEvent.sessionOnly = true ↔
        measurementHeldOver adapter.history = true) ∧
      (acceptedMask adapter.history \ .single .measurementReport).intersects
        NativeEvent.sessionOnly = false := by
  have hconfined := hreachable.gated.2 hgrants hopen hidle hoff
  exact ⟨hconfined.intersects_iff, hconfined.hothers⟩

/-- A master that asks for no events, and after that takes some actions. -/
def masterAfter (actions : List AdapterAction) : Adapter ScriptedEngine :=
  let engine : ScriptedEngine :=
    { clock := .first
      responses := [(.setNmeaTypes, { status := .engineBusy })] }
  (Adapter.spawn { masterClient := true } engine {}).run (.execute (.connect ∅) :: actions)

/-- A fix is started for positions and measurements. -/
def measuredFix : List AdapterAction :=
  [.execute (.subscribe (.ofList [.positionReport, .measurement])), .execute (.startFix {})]

/-- What the session has put in force, its end takes back. -/
theorem idle_session_events_of_stopped :
    let started := masterAfter measuredFix
    let stopped := masterAfter (measuredFix ++ [.execute .stopFix])
    acceptedMask started.history =
        .single .positionReport ∪ .single .measurementReport ∧
      Grants stopped.history ∧ stopped.state.phase = .openIdle ∧
      stopped.state.engineOn = false ∧
      (acceptedMask stopped.history).intersects NativeEvent.sessionOnly = false := by
  intro started stopped
  have hgrants : Grants stopped.history := by decide
  refine ⟨by decide, hgrants, rfl, rfl, ?_⟩
  have hreachable : stopped.Reachable := ⟨_, _, _, _, rfl⟩
  have hevents := idle_session_events_iff hreachable hgrants (Option.some_ne_none _) rfl rfl
  have hheld : measurementHeldOver stopped.history = false := by decide
  rw [← Bool.not_eq_true]
  exact mt hevents.1.mp (Bool.eq_false_iff.mp hheld)

/-- The first request to find the engine busy registers the measurement reports along with the
engine state. -/
theorem idle_session_events_of_busy :
    let adapter := masterAfter [.execute (.setNmeaTypes 1)]
    Grants adapter.history ∧ adapter.state.phase = .openIdle ∧ adapter.state.engineOn = false ∧
      acceptedMask adapter.history = .single .measurementReport ∪ .single .engineState ∧
      (acceptedMask adapter.history).intersects
        (NativeEvent.sessionGated \ .single .engineState) = true :=
  ⟨by decide, rfl, rfl, by decide, by decide⟩

end Adapter

end GnssAdapter
