import GnssAdapter.Proofs.History
import GnssAdapter.Proofs.Mask
import GnssAdapter.Proofs.Run

/-!
The registered mask of an adapter against what the transport has accepted. Registrations, the
negotiation and the first request kept for an idle engine all write the mask; losing, closing and
failing to open the connection reset it.
-/

namespace GnssAdapter

namespace Standing

variable {standing : Standing}

/-- What the adapter believes to be registered follows from the history. -/
def Mirrored (standing : Standing) : Prop :=
  standing.state.registeredMask =
    if standing.state.handle.isSome then believedMask standing.history else ∅

theorem Mirrored.of_open {handle : Handle} (hopen : standing.state.handle = some handle) :
    standing.Mirrored ↔ standing.state.registeredMask = believedMask standing.history := by
  unfold Mirrored
  rw [hopen]
  rfl

theorem Mirrored.of_closed (hclosed : standing.state.handle = none) :
    standing.Mirrored ↔ standing.state.registeredMask = ∅ := by
  unfold Mirrored
  rw [hclosed]
  rfl

theorem log_mirrored (hmirrored : standing.Mirrored) {entry : Entry}
    (hgoes : entry.opensConnection = false) (hfree : entry.acceptedMask? = none)
    (hasks : entry.endsMeasurementProbe = false) : (standing.log entry).Mirrored := by
  unfold Mirrored log
  dsimp only
  rw [believedMask_cons _ hgoes hfree hasks]
  exact hmirrored

theorem register_mirrored (hmirrored : standing.Mirrored) {handle : Handle}
    (hopen : standing.state.handle = some handle) (mask : Mask NativeEvent) (accepted : Bool) :
    (standing.register handle mask accepted).Mirrored := by
  rw [Mirrored.of_open hopen] at hmirrored
  rw [Mirrored.of_open ((register_handle ..).trans hopen)]
  unfold register log
  dsimp only
  rw [believedMask_registered]
  cases accepted
  · exact hmirrored
  · rfl

theorem exchange_mirrored (hmirrored : standing.Mirrored) (request : Request)
    (answer : Option Answer) (accepted : Bool) :
    (standing.exchange request answer accepted).Mirrored := by
  have hasked (handle : Handle) :
      (standing.log (.requested handle request answer)).Mirrored :=
    log_mirrored hmirrored rfl rfl rfl
  have hexchanged := standing.exchanged request answer accepted
  generalize standing.exchange request answer accepted = after at hexchanged ⊢
  cases hexchanged with
  | closed => exact hmirrored
  | asked | kept => exact hasked _
  | @watched handle hopen => exact register_mirrored (hasked handle) hopen ..

theorem post_mirrored (hmirrored : standing.Mirrored) (request : Request)
    (result : Except ClientError Unit) : (standing.post request result).Mirrored := by
  unfold post
  split
  · exact hmirrored
  · exact log_mirrored hmirrored rfl rfl rfl

theorem postAll_mirrored (hmirrored : standing.Mirrored)
    (sendings : List (Request × Except ClientError Unit)) :
    (standing.postAll sendings).Mirrored := by
  induction sendings generalizing standing with
  | nil => exact hmirrored
  | cons sending rest ih => exact ih (post_mirrored hmirrored sending.1 sending.2)

theorem adjust_mirrored (hmirrored : standing.Mirrored) (adjustment : Adjustment) :
    (standing.adjust adjustment).Mirrored := by
  unfold Mirrored adjust
  dsimp only
  rw [Adjustment.apply_handle, Adjustment.apply_registeredMask]
  exact hmirrored

theorem subscribe_mirrored (hmirrored : standing.Mirrored) (requested : Mask AdapterEvent)
    (accepted : Bool) : (standing.subscribe requested accepted).Mirrored := by
  have hsubscribed := standing.subscribed requested accepted
  generalize standing.subscribe requested accepted = after at hsubscribed ⊢
  cases hsubscribed with
  | closed | unchanged => exact hmirrored
  | registered hopen => exact register_mirrored hmirrored hopen ..

theorem stop_mirrored (hmirrored : standing.Mirrored) (accepted : Bool) :
    (standing.stop accepted).Mirrored := by
  have hstopped := adjust_mirrored hmirrored .stopSession
  unfold stop
  split
  · exact hstopped
  · exact subscribe_mirrored hstopped ..

theorem reset_mirrored (standing : Standing) : standing.reset.Mirrored := rfl

theorem disconnect_mirrored (standing : Standing) (result : Except ClientError Unit) :
    (standing.disconnect result).Mirrored := by
  unfold disconnect
  split <;> exact reset_mirrored _

/-- The probe is the latest subscription of measurements when it has been answered. -/
theorem measurementTaken_exchange {handle : Handle} (hopen : standing.state.handle = some handle)
    (answer : Option Answer) (accepted : Bool) :
    measurementTaken (standing.exchange measurementProbe answer accepted).history =
      answer.any Answer.isAccepted := by
  have hasked (handle : Handle) : measurementTaken
      (standing.log (.requested handle measurementProbe answer)).history =
        answer.any Answer.isAccepted :=
    measurementTaken_cons standing.history rfl
  have hexchanged := standing.exchanged measurementProbe answer accepted
  generalize standing.exchange measurementProbe answer accepted = after at hexchanged ⊢
  cases hexchanged with
  | closed hclosed => exact nomatch hclosed.symm.trans hopen
  | asked | kept => exact hasked _
  | @watched handle => exact (measurementTaken_cons _ rfl).trans (hasked handle)

theorem measure_mirrored (hmirrored : standing.Mirrored) {handle : Handle}
    (hopen : standing.state.handle = some handle) (answer : Option Answer) (accepted : Bool)
    (messages : List MessageId) (result : Except ClientError UInt64) :
    (standing.measure handle answer accepted messages result).Mirrored := by
  have hasked := exchange_mirrored hmirrored measurementProbe answer accepted
  rw [Mirrored.of_open ((exchange_handle ..).trans hopen)] at hasked
  have htaken := measurementTaken_exchange hopen answer accepted
  have hstill : (standing.measure handle answer accepted messages result).state.handle =
      some handle := (mark_handle standing answer accepted).trans hopen
  rw [Mirrored.of_open hstill]
  unfold measure mark
  rw [log_history, believedMask_probed]
  split
  · rename_i hyes
    dsimp only [log_state]
    rw [if_pos (htaken.trans hyes), hasked]
    unfold believedMask
    split
    · exact Mask.union_union_self ..
    · rfl
  · rename_i hno
    rw [log_state, if_neg (by rwa [htaken]), hasked]

theorem connect_mirrored (hmirrored : standing.Mirrored) (hclosed : standing.state.handle = none)
    (handle : Handle) : (standing.connect handle).Mirrored :=
  (Mirrored.of_closed hclosed).mp hmirrored

theorem introduce_mirrored (hmirrored : standing.Mirrored)
    (hclosed : standing.state.handle = none) (handle : Handle) (claimed probed : Option Answer)
    (claimAccepted probeAccepted : Bool) (messages : List MessageId)
    (result : Except ClientError UInt64) :
    (standing.introduce handle claimed probed claimAccepted probeAccepted messages
      result).Mirrored := by
  have hclaimed : ((standing.connect handle).claim claimed claimAccepted).Mirrored :=
    adjust_mirrored (exchange_mirrored (connect_mirrored hmirrored hclosed handle) ..) _
  exact measure_mirrored hclaimed (claim_handle ..) probed probeAccepted messages result

theorem drain_mirrored (hmirrored : standing.Mirrored) (results : List (Except ClientError Unit)) :
    (standing.drain results).Mirrored := by
  have hemptied : Mirrored { standing with replays := [] } := hmirrored
  exact postAll_mirrored hemptied _

theorem noticeOff_mirrored (hmirrored : standing.Mirrored) : standing.noticeOff.Mirrored := by
  have harrived : (standing.log (.arrived (.indication (.engineState .off)))).Mirrored :=
    log_mirrored hmirrored rfl rfl rfl
  have hturned := adjust_mirrored harrived (.turn false)
  exact log_mirrored (log_mirrored hturned rfl rfl rfl) rfl rfl rfl

theorem turnOff_mirrored (hmirrored : standing.Mirrored) (accepted : Bool)
    (results : List (Except ClientError Unit)) : (standing.turnOff accepted results).Mirrored :=
  drain_mirrored (subscribe_mirrored (noticeOff_mirrored hmirrored) _ accepted) results

theorem step_mirrored {before after : Standing} (hstep : Step before after)
    (hmirrored : before.Mirrored) : after.Mirrored := by
  cases hstep with
  | exchange request answer accepted => exact exchange_mirrored hmirrored request answer accepted
  | post request result => exact post_mirrored hmirrored request result
  | subscribe requested accepted => exact subscribe_mirrored hmirrored requested accepted
  | adjust adjustment => exact adjust_mirrored hmirrored adjustment
  | start => exact adjust_mirrored hmirrored .startSession
  | stop accepted => exact stop_mirrored hmirrored accepted
  | connect handle hclosed => exact connect_mirrored hmirrored hclosed handle
  | introduce handle hclosed =>
      exact introduce_mirrored hmirrored hclosed handle _ _ _ _ _ _
  | refuse => exact reset_mirrored _
  | disconnect result => exact disconnect_mirrored before result
  | lose => rfl
  | turnOff accepted results => exact turnOff_mirrored hmirrored accepted results
  | notify | publish | arrive => exact log_mirrored hmirrored rfl rfl rfl
  | share => exact hmirrored

end Standing

namespace Adapter

variable {σ : Type} [Environment σ]

theorem run_mirrored (config : Config) (surroundings : σ) (shared : Shared)
    (actions : List AdapterAction) :
    ((Adapter.spawn config surroundings shared).run actions).standing.Mirrored :=
  (run_steps _ actions).preserves Standing.step_mirrored rfl

theorem Reachable.mirrored {adapter : Adapter σ} (hreachable : adapter.Reachable) :
    adapter.standing.Mirrored := by
  obtain ⟨config, surroundings, shared, actions, rfl⟩ := hreachable
  exact run_mirrored config surroundings shared actions

/-- A registration that the transport rejects changes nothing of the state. -/
theorem register_rejected (adapter : Adapter σ) (handle : Handle) (mask : Mask NativeEvent)
    (hrejected : ((AdapterM.registerOn handle mask).run adapter).1 = false) :
    ((AdapterM.register handle mask).run adapter).2.state = adapter.state := by
  have hstanding := AdapterM.register_standing handle mask adapter
  rw [hrejected] at hstanding
  exact congrArg Standing.state hstanding

/-- The registered mask is the one that the transport has last accepted on the connection, but for
measurement reports after a probe that the engine has taken. -/
theorem registeredMask_eq_acceptedMask_or (config : Config) (surroundings : σ) (shared : Shared)
    (actions : List AdapterAction) :
    let adapter := (Adapter.spawn config surroundings shared).run actions
    (∀ handle, adapter.state.handle = some handle →
        adapter.state.registeredMask = acceptedMask adapter.history ∨
          adapter.state.registeredMask =
              acceptedMask adapter.history ∪ .single .measurementReport ∧
            measurementProven adapter.history = true) ∧
      (adapter.state.handle = none → adapter.state.registeredMask = ∅) ∧
      ∀ (other : Adapter σ) (handle : Handle) (mask : Mask NativeEvent),
        ((AdapterM.registerOn handle mask).run other).1 = false →
          ((AdapterM.register handle mask).run other).2.state = other.state := by
  intro adapter
  have hmirrored : adapter.standing.Mirrored := run_mirrored config surroundings shared actions
  refine ⟨fun handle hopen => ?_, fun hclosed => ?_, register_rejected⟩
  · have hbelieved : adapter.state.registeredMask = believedMask adapter.history :=
      (Standing.Mirrored.of_open hopen).mp hmirrored
    rw [hbelieved]
    unfold believedMask
    by_cases hproven : measurementProven adapter.history = true
    · rw [if_pos hproven]
      exact .inr ⟨rfl, hproven⟩
    · rw [if_neg hproven]
      exact .inl rfl
  · exact (Standing.Mirrored.of_closed hclosed).mp hmirrored

end Adapter

end GnssAdapter
