import GnssAdapter.Proofs.Registration
import GnssAdapter.Proofs.Replay
import GnssAdapter.Transport.Scripted

/-!
Waiting for the engine to turn off. Requests that found it busy and the events of a stopped session
stay until then, and the engine tells of it only where its state is registered.
-/

namespace GnssAdapter

/-- A registration that the transport has rejected. -/
def Entry.isRejection : Entry → Bool
  | .registered _ _ _ false => true
  | _ => false

/-- The transport has accepted every registration. -/
def Grants (history : List Entry) : Prop :=
  ∀ entry ∈ history, entry.isRejection = false

instance (history : List Entry) : Decidable (Grants history) :=
  inferInstanceAs (Decidable (∀ entry ∈ history, entry.isRejection = false))

theorem Grants.of_suffix {earlier later : List Entry} (hgrants : Grants later)
    (hsuffix : earlier <:+ later) : Grants earlier :=
  fun entry hentry => hgrants entry (hsuffix.subset hentry)

theorem Grants.accepted_eq_true {history : List Entry} {handle : Handle}
    {mask : Mask NativeEvent} {isMaster accepted : Bool}
    (hgrants : Grants (.registered handle mask isMaster accepted :: history)) :
    accepted = true := by
  have hfirst := hgrants _ (.head _)
  cases accepted with
  | false => cases hfirst
  | true => rfl

/-- The mask last accepted while a request was already owed. -/
def acceptedWhileOwed : List Entry → Option (Mask NativeEvent)
  | [] => none
  | entry :: earlier =>
      if (owedRequests earlier).isEmpty then none
      else entry.acceptedMask?.or (acceptedWhileOwed earlier)

theorem acceptedWhileOwed_first {history : List Entry} (hnone : owedRequests history = [])
    (entry : Entry) : acceptedWhileOwed (entry :: history) = none := by
  simp [acceptedWhileOwed, hnone]

theorem acceptedWhileOwed_cons {history : List Entry} (howed : owedRequests history ≠ [])
    (entry : Entry) :
    acceptedWhileOwed (entry :: history) =
      entry.acceptedMask?.or (acceptedWhileOwed history) := by
  simp [acceptedWhileOwed, howed]

namespace Standing

variable {standing : Standing}

theorem Accounted.replays_eq_nil_iff (haccounted : standing.Accounted) :
    standing.replays = [] ↔ owedRequests standing.history = [] := by
  rw [haccounted.hreplays, List.map_eq_nil_iff]

/-- Where the transport accepts, a request is asked without being kept, kept for an engine whose
state is registered or already waited for, or the first to be kept. -/
theorem exchange_cases (standing : Standing) (request : Request) (answer : Option Answer)
    (accepted : Bool) (hgrants : Grants (standing.exchange request answer accepted).history) :
    standing.exchange request answer accepted = standing ∨
      ∃ handle, standing.state.handle = some handle ∧
        let asked := standing.log (.requested handle request answer)
        (answer.any Answer.isBusy = false ∧
            standing.exchange request answer accepted = asked) ∨
          (answer.any Answer.isBusy = true ∧
            (standing.replays ≠ [] ∨ standing.state.registeredMask.has .engineState = true) ∧
            standing.exchange request answer accepted = asked.keep request) ∨
          (answer.any Answer.isBusy = true ∧
            (standing.replays = [] ∧ standing.state.registeredMask.has .engineState = false) ∧
            standing.exchange request answer accepted =
              (asked.register handle
                (standing.state.registeredMask ∪ .single .engineState) true).keep request) := by
  have hexchanged := standing.exchanged request answer accepted
  generalize standing.exchange request answer accepted = after at hexchanged hgrants ⊢
  cases hexchanged with
  | closed => exact .inl rfl
  | asked hopen hfree => exact .inr ⟨_, hopen, .inl ⟨hfree, rfl⟩⟩
  | kept hopen hbusy hheard => exact .inr ⟨_, hopen, .inr (.inl ⟨hbusy, hheard, rfl⟩)⟩
  | watched hopen hbusy hfirst =>
      have haccepted : accepted = true := hgrants.accepted_eq_true
      rw [haccepted]
      exact .inr ⟨_, hopen, .inr (.inr ⟨hbusy, hfirst, rfl⟩)⟩

/-! ### What the registered mask is made of -/

/-- A mask, and the engine state on top of it only while requests are kept. -/
def Grown (standing : Standing) (base : Mask NativeEvent) : Prop :=
  standing.state.registeredMask = base ∨
    standing.state.registeredMask = base ∪ .single .engineState ∧ standing.replays ≠ []

theorem exchange_grown {base : Mask NativeEvent} (hgrown : standing.Grown base)
    (request : Request) (answer : Option Answer) (accepted : Bool)
    (hgrants : Grants (standing.exchange request answer accepted).history) :
    (standing.exchange request answer accepted).Grown base := by
  rcases exchange_cases standing request answer accepted hgrants with
    hsame | ⟨handle, -, ⟨-, hasked⟩ | ⟨-, -, hkept⟩ | ⟨-, ⟨hempty, -⟩, hfirst⟩⟩
  · rwa [hsame]
  · rw [hasked]
    exact hgrown
  · rw [hkept]
    rcases hgrown with hbase | ⟨hbase, -⟩
    · exact .inl hbase
    · exact .inr ⟨hbase, List.append_ne_nil_of_right_ne_nil _ (List.cons_ne_nil _ _)⟩
  · rw [hfirst]
    rcases hgrown with hbase | ⟨-, hsome⟩
    · refine .inr ⟨?_, List.append_ne_nil_of_right_ne_nil _ (List.cons_ne_nil _ _)⟩
      change standing.state.registeredMask ∪ _ = _
      rw [hbase]
    · exact absurd hempty hsome

theorem adjust_grown {base : Mask NativeEvent} (hgrown : standing.Grown base)
    (adjustment : Adjustment) : (standing.adjust adjustment).Grown base := by
  unfold Grown adjust
  rw [Adjustment.apply_registeredMask]
  exact hgrown

/-- The masks that are registered but for the engine state: none, what the negotiation has found,
and what the events asked for come to. -/
def IsBase (requested : Mask AdapterEvent) (base : Mask NativeEvent) : Prop :=
  base = ∅ ∨ base = .single .measurementReport ∨
    ∃ inSession batchedBreach, base = registrationMask requested inSession batchedBreach

def Shaped (standing : Standing) : Prop :=
  ∃ base, IsBase standing.state.requestedMask base ∧ standing.Grown base

theorem shaped_of_empty (hempty : standing.state.registeredMask = ∅) : standing.Shaped :=
  ⟨∅, .inl rfl, .inl hempty⟩

theorem exchange_shaped (hshaped : standing.Shaped) (request : Request) (answer : Option Answer)
    (accepted : Bool) (hgrants : Grants (standing.exchange request answer accepted).history) :
    (standing.exchange request answer accepted).Shaped := by
  obtain ⟨base, hbase, hgrown⟩ := hshaped
  refine ⟨base, ?_, exchange_grown hgrown request answer accepted hgrants⟩
  rwa [exchange_requestedMask]

/-- Where the transport accepts, subscribing to events registers what they come to. -/
theorem subscribe_registeredMask {handle : Handle} (hopen : standing.state.handle = some handle)
    (requested : Mask AdapterEvent) (accepted : Bool)
    (hgrants : Grants (standing.subscribe requested accepted).history) :
    (standing.subscribe requested accepted).state.registeredMask =
      standing.nativeFor requested := by
  have hsubscribed := standing.subscribed requested accepted
  generalize standing.subscribe requested accepted = after at hsubscribed hgrants ⊢
  cases hsubscribed with
  | closed hclosed => exact nomatch hclosed.symm.trans hopen
  | unchanged _ hsame => exact hsame
  | registered =>
      have haccepted : accepted = true := hgrants.accepted_eq_true
      rw [haccepted]
      rfl

theorem subscribe_requestedMask (standing : Standing) (requested : Mask AdapterEvent)
    (accepted : Bool) :
    (standing.subscribe requested accepted).state.requestedMask =
      requested \ standing.config.excludedEvents := by
  rw [subscribe_state]

theorem subscribe_shaped (hmirrored : standing.Mirrored) (requested : Mask AdapterEvent)
    (accepted : Bool) (hgrants : Grants (standing.subscribe requested accepted).history) :
    ∃ base, IsBase (standing.subscribe requested accepted).state.requestedMask base ∧
      (standing.subscribe requested accepted).state.registeredMask = base := by
  rw [subscribe_requestedMask]
  cases hopen : standing.state.handle with
  | none =>
      refine ⟨∅, .inl rfl, ?_⟩
      have hempty := (Mirrored.of_closed hopen).mp hmirrored
      unfold subscribe
      rw [hopen]
      exact hempty
  | some handle =>
      exact ⟨standing.nativeFor requested, .inr (.inr ⟨_, _, rfl⟩),
        subscribe_registeredMask hopen requested accepted hgrants⟩

theorem adjust_shaped (hshaped : standing.Shaped) (adjustment : Adjustment) :
    (standing.adjust adjustment).Shaped := by
  obtain ⟨base, hbase, hgrown⟩ := hshaped
  refine ⟨base, ?_, adjust_grown hgrown adjustment⟩
  unfold adjust
  rwa [Adjustment.apply_requestedMask]

theorem stop_shaped (hmirrored : standing.Mirrored) (hshaped : standing.Shaped) (accepted : Bool)
    (hgrants : Grants (standing.stop accepted).history) : (standing.stop accepted).Shaped := by
  unfold stop at hgrants ⊢
  split at hgrants
  · rename_i hon
    rw [if_pos hon]
    exact adjust_shaped hshaped .stopSession
  · rename_i hoff
    rw [if_neg hoff]
    obtain ⟨base, hbase, hregistered⟩ :=
      subscribe_shaped (adjust_mirrored hmirrored .stopSession) _ accepted hgrants
    exact ⟨base, hbase, .inl hregistered⟩

theorem mark_shaped (hgrown : standing.Grown ∅) (answer : Option Answer) (accepted : Bool)
    (hgrants : Grants (standing.mark answer accepted).history) :
    (standing.mark answer accepted).Shaped := by
  unfold mark at hgrants ⊢
  split at hgrants
  · rename_i hyes
    rw [if_pos hyes]
    have hasked := exchange_grown hgrown measurementProbe answer accepted hgrants
    refine ⟨.single .measurementReport, .inr (.inl rfl), ?_⟩
    rcases hasked with hbase | ⟨hbase, hsome⟩
    · refine .inl ?_
      change _ ∪ _ = _
      rw [hbase, Mask.empty_union]
    · refine .inr ⟨?_, hsome⟩
      change _ ∪ _ = _
      rw [hbase, Mask.empty_union, Mask.union_comm]
  · rename_i hno
    rw [if_neg hno]
    exact ⟨∅, .inl rfl, exchange_grown hgrown measurementProbe answer accepted hgrants⟩

theorem introduce_shaped (hmirrored : standing.Mirrored) (hclosed : standing.state.handle = none)
    (handle : Handle) (claimed probed : Option Answer) (claimAccepted probeAccepted : Bool)
    (messages : List MessageId) (result : Except ClientError UInt64)
    (hgrants : Grants (standing.introduce handle claimed probed claimAccepted probeAccepted
      messages result).history) :
    (standing.introduce handle claimed probed claimAccepted probeAccepted messages
      result).Shaped := by
  have hconnected : (standing.connect handle).Grown ∅ :=
    .inl ((Mirrored.of_closed hclosed).mp hmirrored)
  have hmarked := hgrants.of_suffix (List.suffix_cons ..)
  have hclaimed := hmarked.of_suffix (history_suffix_mark ..)
  have hgrown : ((standing.connect handle).claim claimed claimAccepted).Grown ∅ :=
    adjust_grown (exchange_grown hconnected (.registerMasterClient masterKey) claimed claimAccepted
      hclaimed) _
  exact mark_shaped hgrown probed probeAccepted hmarked

theorem drain_state (standing : Standing) (results : List (Except ClientError Unit)) :
    (standing.drain results).state = standing.state := by
  unfold drain
  rw [postAll_eq]
  rfl

theorem turnOff_shaped (hmirrored : standing.Mirrored) (accepted : Bool)
    (results : List (Except ClientError Unit))
    (hgrants : Grants (standing.turnOff accepted results).history) :
    (standing.turnOff accepted results).Shaped := by
  obtain ⟨base, hbase, hregistered⟩ := subscribe_shaped (noticeOff_mirrored hmirrored)
    standing.state.requestedMask accepted (hgrants.of_suffix (history_suffix_drain ..))
  unfold turnOff
  refine ⟨base, ?_, .inl ?_⟩
  · rwa [drain_state]
  · rwa [drain_state]

theorem step_shaped {before after : Standing} (hstep : Step before after)
    (hmirrored : before.Mirrored) (hgrants : Grants after.history) (hshaped : before.Shaped) :
    after.Shaped := by
  cases hstep with
  | exchange request answer accepted =>
      exact exchange_shaped hshaped request answer accepted hgrants
  | post request result =>
      rw [post_eq]
      exact hshaped
  | subscribe requested accepted =>
      obtain ⟨base, hbase, hregistered⟩ := subscribe_shaped hmirrored requested accepted hgrants
      exact ⟨base, hbase, .inl hregistered⟩
  | adjust adjustment => exact adjust_shaped hshaped adjustment
  | start => exact adjust_shaped hshaped .startSession
  | stop accepted => exact stop_shaped hmirrored hshaped accepted hgrants
  | connect handle hclosed => exact shaped_of_empty ((Mirrored.of_closed hclosed).mp hmirrored)
  | introduce handle hclosed hmaster claimed probed claimAccepted probeAccepted messages result =>
      exact introduce_shaped hmirrored hclosed handle claimed probed claimAccepted probeAccepted
        messages result hgrants
  | disconnect result =>
      refine shaped_of_empty ?_
      unfold Standing.disconnect
      split <;> rfl
  | turnOff accepted results => exact turnOff_shaped hmirrored accepted results hgrants
  | refuse | lose => exact shaped_of_empty rfl
  | notify | publish | arrive | share => exact hshaped

/-! ### The engine state while requests are kept -/

/-- While requests are kept, the engine state is registered unless the mask accepted last, of those
accepted since the first of them was kept, does without it. -/
def Listens (standing : Standing) : Prop :=
  standing.replays ≠ [] →
    standing.state.registeredMask.has .engineState =
      (acceptedWhileOwed standing.history).all (·.has .engineState)

theorem listens_of_empty (hempty : standing.replays = []) : standing.Listens :=
  fun hsome => absurd hempty hsome

theorem log_listens (haccounted : standing.Accounted) (hlistens : standing.Listens) {entry : Entry}
    (hfree : entry.acceptedMask? = none) : (standing.log entry).Listens := by
  intro hsome
  have howed : owedRequests standing.history ≠ [] :=
    mt haccounted.replays_eq_nil_iff.mpr hsome
  change _ = (acceptedWhileOwed (entry :: standing.history)).all _
  rw [acceptedWhileOwed_cons howed, hfree, Option.none_or]
  exact hlistens hsome

theorem exchange_listens (haccounted : standing.Accounted) (hlistens : standing.Listens)
    (request : Request) (answer : Option Answer) (accepted : Bool)
    (hgrants : Grants (standing.exchange request answer accepted).history) :
    (standing.exchange request answer accepted).Listens := by
  rcases exchange_cases standing request answer accepted hgrants with
    hsame | ⟨handle, -, ⟨-, hasked⟩ | ⟨-, hheard, hkept⟩ | ⟨hbusy, -, hfirst⟩⟩
  · rwa [hsame]
  · rw [hasked]
    exact log_listens haccounted hlistens rfl
  · rw [hkept]
    by_cases hempty : standing.replays = []
    · intro _
      have hnone := haccounted.replays_eq_nil_iff.mp hempty
      change _ = (acceptedWhileOwed (_ :: standing.history)).all _
      rw [acceptedWhileOwed_first hnone]
      exact hheard.resolve_left (not_not_intro hempty)
    · intro _
      exact log_listens haccounted hlistens rfl hempty
  · rw [hfirst]
    intro _
    have howed : owedRequests (.requested handle request answer :: standing.history) ≠ [] := by
      rw [owedRequests_cons _ rfl, Entry.busyRequest?, if_pos hbusy]
      exact List.append_ne_nil_of_right_ne_nil _ (List.cons_ne_nil _ _)
    change _ = (acceptedWhileOwed (_ :: .requested handle request answer :: _)).all _
    rw [acceptedWhileOwed_cons howed]
    rfl

theorem subscribe_listens (haccounted : standing.Accounted) (hlistens : standing.Listens)
    (requested : Mask AdapterEvent) (accepted : Bool)
    (hgrants : Grants (standing.subscribe requested accepted).history) :
    (standing.subscribe requested accepted).Listens := by
  have hsubscribed := standing.subscribed requested accepted
  generalize standing.subscribe requested accepted = after at hsubscribed hgrants ⊢
  cases hsubscribed with
  | closed | unchanged => exact hlistens
  | registered =>
      have haccepted : accepted = true := hgrants.accepted_eq_true
      rw [haccepted]
      intro hsome
      have howed : owedRequests standing.history ≠ [] :=
        mt haccounted.replays_eq_nil_iff.mpr hsome
      change _ = (acceptedWhileOwed (_ :: standing.history)).all _
      rw [acceptedWhileOwed_cons howed]
      rfl

theorem adjust_listens (hlistens : standing.Listens) (adjustment : Adjustment) :
    (standing.adjust adjustment).Listens := by
  unfold Listens adjust
  simp only [Adjustment.apply_registeredMask]
  exact hlistens

theorem stop_listens (haccounted : standing.Accounted) (hlistens : standing.Listens)
    (accepted : Bool) (hgrants : Grants (standing.stop accepted).history) :
    (standing.stop accepted).Listens := by
  have hstopped := adjust_listens hlistens .stopSession
  unfold stop at hgrants ⊢
  split at hgrants
  · rename_i hon
    rwa [if_pos hon]
  · rename_i hoff
    rw [if_neg hoff]
    exact subscribe_listens (adjust_accounted haccounted _) hstopped _ accepted hgrants

theorem mark_listens (haccounted : standing.Accounted) (hlistens : standing.Listens)
    (answer : Option Answer) (accepted : Bool)
    (hgrants : Grants (standing.mark answer accepted).history) :
    (standing.mark answer accepted).Listens := by
  unfold mark at hgrants ⊢
  split at hgrants
  · rename_i hyes
    rw [if_pos hyes]
    have hasked := exchange_listens haccounted hlistens measurementProbe answer accepted hgrants
    intro hsome
    have hother : (Mask.single NativeEvent.measurementReport).has .engineState = false := by decide
    change (_ ∪ _ : Mask NativeEvent).has _ = _
    rw [Mask.has_union, hother, Bool.or_false]
    exact hasked hsome
  · rename_i hno
    rw [if_neg hno]
    exact exchange_listens haccounted hlistens measurementProbe answer accepted hgrants

theorem introduce_listens (haccounted : standing.Accounted)
    (hclosed : standing.state.handle = none) (handle : Handle) (claimed probed : Option Answer)
    (claimAccepted probeAccepted : Bool) (messages : List MessageId)
    (result : Except ClientError UInt64)
    (hgrants : Grants (standing.introduce handle claimed probed claimAccepted probeAccepted
      messages result).history) :
    (standing.introduce handle claimed probed claimAccepted probeAccepted messages
      result).Listens := by
  have hconnected : (standing.connect handle).Accounted :=
    connect_accounted haccounted hclosed handle
  have hempty : standing.replays = [] := by
    unfold Accounted at haccounted
    rw [hclosed] at haccounted
    exact haccounted.replays_of_closed
  have hmarked := hgrants.of_suffix (List.suffix_cons ..)
  have hclaimed := hmarked.of_suffix (history_suffix_mark ..)
  have haccounted := claim_accounted hconnected claimed claimAccepted
  have hlistens : ((standing.connect handle).claim claimed claimAccepted).Listens :=
    adjust_listens (exchange_listens hconnected (listens_of_empty hempty)
      (.registerMasterClient masterKey) claimed claimAccepted hclaimed) _
  exact log_listens (mark_accounted haccounted probed probeAccepted)
    (mark_listens haccounted hlistens probed probeAccepted hmarked) rfl

theorem step_listens {before after : Standing} (hstep : Step before after)
    (haccounted : before.Accounted) (hgrants : Grants after.history) (hlistens : before.Listens) :
    after.Listens := by
  cases hstep with
  | exchange request answer accepted =>
      exact exchange_listens haccounted hlistens request answer accepted hgrants
  | post request result =>
      unfold Standing.post
      split
      · exact hlistens
      · exact log_listens haccounted hlistens rfl
  | subscribe requested accepted =>
      exact subscribe_listens haccounted hlistens requested accepted hgrants
  | adjust adjustment => exact adjust_listens hlistens adjustment
  | start => exact adjust_listens hlistens .startSession
  | stop accepted => exact stop_listens haccounted hlistens accepted hgrants
  | introduce handle hclosed hmaster claimed probed claimAccepted probeAccepted messages result =>
      exact introduce_listens haccounted hclosed handle claimed probed claimAccepted probeAccepted
        messages result hgrants
  | disconnect result =>
      refine listens_of_empty ?_
      unfold Standing.disconnect
      split <;> rfl
  | turnOff accepted results =>
      obtain ⟨state, entries, hturned, -, -⟩ := turnOff_eq before accepted results
      rw [hturned]
      exact listens_of_empty rfl
  | refuse | lose => exact listens_of_empty rfl
  | notify | connect | publish | arrive => exact log_listens haccounted hlistens rfl
  | share => exact hlistens

end Standing

/-- Events of a fix session are registered, besides the engine state. -/
def State.keepsSessionEvents (state : State) : Bool :=
  state.registeredMask.intersects (NativeEvent.sessionGated \ .single .engineState)

namespace Standing

variable {standing : Standing}

/-- Session events that are left without any request being kept come of the events asked for, or of
the negotiation alone. -/
theorem Shaped.has_engineState_iff (hshaped : standing.Shaped) (hempty : standing.replays = [])
    (hleft : standing.state.keepsSessionEvents = true) :
    standing.state.registeredMask.has .engineState = true ↔
      standing.state.requestedMask.has .statusReport = true ∧
        standing.state.registeredMask ≠ .single .measurementReport := by
  obtain ⟨base, hbase, hgrown⟩ := hshaped
  have hregistered : standing.state.registeredMask = base := by
    rcases hgrown with hregistered | ⟨-, hsome⟩
    · exact hregistered
    · exact absurd hempty hsome
  have halone : (Mask.single NativeEvent.measurementReport).has .engineState = false := by decide
  unfold State.keepsSessionEvents at hleft
  rw [hregistered] at hleft ⊢
  rcases hbase with rfl | rfl | ⟨inSession, batchedBreach, rfl⟩
  · exact absurd hleft (by decide)
  · rw [halone]
    simp
  · cases inSession with
    | false =>
        have hnone := Mask.not_intersects_sdiff
          (nativeEvents standing.state.requestedMask batchedBreach) NativeEvent.sessionGated
          (.single .engineState)
        exact absurd (hleft.symm.trans hnone) (by decide)
    | true =>
        change (nativeEvents standing.state.requestedMask batchedBreach).has .engineState = true ↔
          _ ∧ nativeEvents standing.state.requestedMask batchedBreach ≠ _
        rw [nativeEvents_has_engineState]
        refine ⟨fun hreport => ⟨hreport, fun hsingle => ?_⟩, And.left⟩
        rw [← nativeEvents_has_engineState _ batchedBreach, hsingle, halone] at hreport
        cases hreport

theorem Listens.has_engineState_iff (hlistens : standing.Listens) (hsome : standing.replays ≠ []) :
    standing.state.registeredMask.has .engineState = true ↔
      ∀ mask, acceptedWhileOwed standing.history = some mask → mask.has .engineState = true := by
  rw [hlistens hsome, Option.all_eq_true]

/-- All that holds of waiting along a run. -/
def Waits (standing : Standing) : Prop :=
  standing.Accounted ∧ standing.Mirrored ∧
    (Grants standing.history → standing.Shaped ∧ standing.Listens)

theorem step_waits {before after : Standing} (hstep : Step before after) (hwaits : before.Waits) :
    after.Waits := by
  obtain ⟨haccounted, hmirrored, hgranted⟩ := hwaits
  refine ⟨step_accounted hstep haccounted, step_mirrored hstep hmirrored, fun hgrants => ?_⟩
  obtain ⟨hshaped, hlistens⟩ := hgranted (hgrants.of_suffix hstep.history_suffix)
  exact ⟨step_shaped hstep hmirrored hgrants hshaped,
    step_listens hstep haccounted hgrants hlistens⟩

end Standing

namespace Adapter

variable {σ : Type} [Environment σ]

/-- Something is put off until the engine turns off. -/
def awaitsEngineOff (adapter : Adapter σ) : Prop :=
  adapter.replays ≠ [] ∨
    adapter.state.inSession = false ∧ adapter.state.engineOn = true ∧
      adapter.state.keepsSessionEvents = true

theorem run_waits (config : Config) (surroundings : σ) (shared : Shared)
    (actions : List AdapterAction) :
    ((Adapter.spawn config surroundings shared).run actions).standing.Waits := by
  refine (run_steps _ actions).preserves Standing.step_waits ⟨Accounts.start, rfl, fun _ => ?_⟩
  exact ⟨Standing.shaped_of_empty rfl, Standing.listens_of_empty rfl⟩

/-- Where the transport accepts every registration, nothing is put off for good exactly if two
conditions hold: the mask accepted last while requests are kept has the engine state; and session
events left without such requests come of events asked for, the status among them, and not of the
negotiation alone. -/
theorem engineState_registered_iff (config : Config) (surroundings : σ) (shared : Shared)
    (actions : List AdapterAction)
    (hgrants : Grants ((Adapter.spawn config surroundings shared).run actions).history) :
    let adapter := (Adapter.spawn config surroundings shared).run actions
    (adapter.awaitsEngineOff → adapter.state.registeredMask.has .engineState = true) ↔
      (adapter.replays ≠ [] → ∀ mask, acceptedWhileOwed adapter.history = some mask →
        mask.has .engineState = true) ∧
      (adapter.replays = [] → adapter.state.inSession = false → adapter.state.engineOn = true →
        adapter.state.keepsSessionEvents = true →
          adapter.state.requestedMask.has .statusReport = true ∧
            adapter.state.registeredMask ≠ .single .measurementReport) := by
  intro adapter
  obtain ⟨-, -, hgranted⟩ := run_waits config surroundings shared actions
  obtain ⟨hshaped, hlistens⟩ := hgranted hgrants
  constructor
  · intro hregistered
    refine ⟨fun hsome => ?_, fun hempty hstopped hon hleft => ?_⟩
    · exact hlistens.has_engineState_iff hsome |>.mp (hregistered (.inl hsome))
    · exact hshaped.has_engineState_iff hempty hleft |>.mp
        (hregistered (.inr ⟨hstopped, hon, hleft⟩))
  · rintro ⟨hkept, hstopped⟩ hawaits
    by_cases hempty : adapter.replays = []
    · obtain ⟨hidle, hon, hleft⟩ := hawaits.resolve_left (not_not_intro hempty)
      exact hshaped.has_engineState_iff hempty hleft |>.mpr (hstopped hempty hidle hon hleft)
    · exact hlistens.has_engineState_iff hempty |>.mpr (hkept hempty)

/-- A client that has connected for requests of the network, has found the engine busy for sentence
types, and goes on with some actions. -/
def afterBusySentences (later : List AdapterAction) : Adapter ScriptedEngine :=
  let engine : ScriptedEngine :=
    { clock := .first
      responses := [(.setNmeaTypes, { status := .engineBusy })] }
  (Adapter.spawn { masterClient := false } engine {}).run <|
    .execute (.connect (.single .niRequest)) :: .execute (.setNmeaTypes 1) :: later

theorem engineState_registered_when_kept :
    Grants (afterBusySentences []).history ∧ (afterBusySentences []).awaitsEngineOff ∧
      (afterBusySentences []).state.registeredMask.has .engineState = true := by
  have hgrants : Grants (afterBusySentences []).history := by decide
  have hawaits : (afterBusySentences []).awaitsEngineOff := .inl (List.cons_ne_nil _ _)
  refine ⟨hgrants, hawaits, (engineState_registered_iff _ _ _ _ hgrants).mpr ⟨?_, ?_⟩ hawaits⟩
  · intro _ mask hmask
    have haccepted : acceptedWhileOwed (afterBusySentences []).history =
        some (.single .niRequest ∪ .single .engineState) := by decide
    rw [Option.some.inj (hmask.symm.trans haccepted)]
    decide
  · intro hempty
    exact absurd hempty (List.cons_ne_nil _ _)

/-- Other events asked for while a request is kept take the engine state away. -/
theorem engineState_lost_on_subscribe :
    let adapter := afterBusySentences [.execute (.subscribe (.single .assistanceDataRequest))]
    Grants adapter.history ∧ adapter.state.handle = some ⟨1⟩ ∧ adapter.awaitsEngineOff ∧
      adapter.state.registeredMask.has .engineState = false :=
  ⟨by decide, rfl, .inl (List.cons_ne_nil _ _), by decide⟩

end Adapter

end GnssAdapter
