import GnssAdapter.Proofs.Operation
import Mathlib.Logic.Relation

/-!
The steps that a standing takes. Every command and every event comes to a sequence of them, so that
what each step preserves holds throughout every run.
-/

namespace GnssAdapter

/-- An event that neither turns the engine off nor ends the connection. -/
def TransportEvent.isQuiet : TransportEvent → Bool
  | .indication (.engineState .off) | .error .serviceUnavailable => false
  | _ => true

theorem TransportEvent.eq_of_not_isQuiet (event : TransportEvent)
    (hloud : ¬event.isQuiet = true) :
    event = .indication (.engineState .off) ∨ event = .error .serviceUnavailable := by
  unfold isQuiet at hloud
  split at hloud
  · exact .inl rfl
  · exact .inr rfl
  · exact absurd rfl hloud

namespace Standing

/-- The answers of the transport are free; what the adapter does with them is not. -/
inductive Step : Standing → Standing → Prop
  | exchange (standing : Standing) (request : Request) (answer : Option Answer)
      (accepted : Bool) : Step standing (standing.exchange request answer accepted)
  | post (standing : Standing) (request : Request) (result : Except ClientError Unit) :
      Step standing (standing.post request result)
  | notify (standing : Standing) (callback : Callback) :
      Step standing (standing.log (.notified callback))
  | subscribe (standing : Standing) (requested : Mask AdapterEvent) (accepted : Bool) :
      Step standing (standing.subscribe requested accepted)
  | adjust (standing : Standing) (adjustment : Adjustment)
      (hsteady : adjustment.isSteady = true) : Step standing (standing.adjust adjustment)
  | start (standing : Standing) : Step standing (standing.adjust .startSession)
  | stop (standing : Standing) (accepted : Bool) : Step standing (standing.stop accepted)
  | connect (standing : Standing) (handle : Handle) (hclosed : standing.state.handle = none)
      (hclient : standing.isMaster = false) : Step standing (standing.connect handle)
  | introduce (standing : Standing) (handle : Handle) (hclosed : standing.state.handle = none)
      (hmaster : standing.isMaster = true) (claimed probed : Option Answer)
      (claimAccepted probeAccepted : Bool) (messages : List MessageId)
      (result : Except ClientError UInt64) :
      Step standing
        (standing.introduce handle claimed probed claimAccepted probeAccepted messages result)
  | refuse (standing : Standing) (error : ClientError) (hclosed : standing.state.handle = none) :
      Step standing (standing.refuse error)
  | publish (standing : Standing) (capabilities : EngineCapabilities) :
      Step standing (standing.publish capabilities)
  | disconnect (standing : Standing) (result : Except ClientError Unit) :
      Step standing (standing.disconnect result)
  | arrive (standing : Standing) (event : TransportEvent) (hquiet : event.isQuiet = true) :
      Step standing (standing.log (.arrived event))
  | lose (standing : Standing) : Step standing standing.lose
  | turnOff (standing : Standing) (accepted : Bool) (results : List (Except ClientError Unit))
      (hall : results.length = standing.replays.length) :
      Step standing (standing.turnOff accepted results)
  /-- Another adapter of the process has published capabilities. -/
  | share (standing : Standing) (capabilities : CapabilityStore) :
      Step standing { standing with capabilities }

theorem Step.history_suffix {before after : Standing} (hstep : Step before after) :
    before.history <:+ after.history := by
  cases hstep with
  | exchange => exact history_suffix_exchange ..
  | post request result =>
      rw [post_eq]
      exact List.suffix_append ..
  | subscribe => exact history_suffix_subscribe ..
  | stop => exact history_suffix_stop ..
  | introduce => exact history_suffix_introduce ..
  | disconnect result =>
      unfold Standing.disconnect
      split
      · exact List.suffix_rfl
      · exact List.suffix_cons ..
  | lose => exact List.suffix_append [_, _] _
  | turnOff => exact history_suffix_turnOff ..
  | notify | connect | refuse | publish | arrive => exact List.suffix_cons ..
  | adjust | start | share => exact List.suffix_rfl

theorem Step.config_eq {before after : Standing} (hstep : Step before after) :
    after.config = before.config := by
  cases hstep with
  | exchange => exact exchange_config ..
  | post request result => rw [post_eq]
  | subscribe => exact subscribe_config ..
  | stop accepted =>
      unfold Standing.stop
      split
      · rfl
      · exact subscribe_config (before.adjust .stopSession) ..
  | introduce => exact introduce_config ..
  | disconnect result =>
      unfold Standing.disconnect
      split <;> rfl
  | turnOff accepted results =>
      unfold Standing.turnOff drain
      rw [postAll_eq]
      exact subscribe_config before.noticeOff ..
  | notify | connect | refuse | publish | arrive | lose | adjust | start | share => rfl

abbrev Steps : Standing → Standing → Prop := Relation.ReflTransGen Step

theorem Steps.preserves {invariant : Standing → Prop}
    (hstep : ∀ {before after}, Step before after → invariant before → invariant after)
    {before after : Standing} (hsteps : Steps before after) (hbefore : invariant before) :
    invariant after := by
  induction hsteps with
  | refl => exact hbefore
  | tail _ hlast ih => exact hstep hlast ih

theorem Steps.history_suffix {before after : Standing} (hsteps : Steps before after) :
    before.history <:+ after.history := by
  induction hsteps with
  | refl => exact List.suffix_rfl
  | tail _ hlast ih => exact ih.trans hlast.history_suffix

theorem Steps.config_eq {before after : Standing} (hsteps : Steps before after) :
    after.config = before.config := by
  induction hsteps with
  | refl => rfl
  | tail _ hlast ih => exact hlast.config_eq.trans ih

end Standing

namespace AdapterM

open Standing

variable {σ α β : Type}

/-- Every run of an operation is a sequence of steps. -/
def Walks (operation : AdapterM σ α) : Prop :=
  ∀ adapter, Steps adapter.standing (operation.run adapter).2.standing

namespace Walks

theorem of_silent {operation : AdapterM σ α}
    (hsilent : ∀ adapter, (operation.run adapter).2.standing = adapter.standing) :
    Walks operation := by
  intro adapter
  rw [hsilent adapter]

theorem of_step {operation : AdapterM σ α}
    (hstep : ∀ adapter, Step adapter.standing (operation.run adapter).2.standing) :
    Walks operation :=
  fun adapter => .single (hstep adapter)

theorem pure (value : α) : Walks (pure value : AdapterM σ α) :=
  of_silent fun _ => rfl

theorem bind {operation : AdapterM σ α} {next : α → AdapterM σ β} (hfirst : Walks operation)
    (hnext : ∀ value, Walks (next value)) : Walks (operation >>= next) :=
  fun adapter => (hfirst adapter).trans (hnext _ _)

theorem get : Walks (get : AdapterM σ (Adapter σ)) :=
  of_silent fun _ => rfl

theorem map {operation : AdapterM σ α} (change : α → β) (hoperation : Walks operation) :
    Walks (change <$> operation) :=
  fun adapter => hoperation adapter

theorem setState {change : State → State} (adjustment : Adjustment)
    (hsteady : adjustment.isSteady = true)
    (hchange : ∀ state, change state = adjustment.apply state) :
    Walks (setState change : AdapterM σ Unit) := by
  refine of_step fun adapter => ?_
  rw [setState_standing, hchange]
  exact .adjust _ adjustment hsteady

theorem notify (callback : Callback) : Walks (notify callback : AdapterM σ Unit) :=
  of_step fun adapter => .notify adapter.standing callback

theorem observe (observation : Observation) : Walks (observe observation : AdapterM σ Unit) :=
  of_silent fun _ => rfl

theorem publish (capabilities : EngineCapabilities) :
    Walks (publish capabilities : AdapterM σ Unit) :=
  of_step fun adapter => .publish adapter.standing capabilities

variable [Environment σ]

theorem exchange (request : Request) : Walks (exchange request : AdapterM σ Answer) := by
  refine of_step fun adapter => ?_
  obtain ⟨answer, accepted, hstanding, -⟩ := exchange_standing request adapter
  rw [hstanding]
  exact .exchange _ request answer accepted

theorem post (request : Request) :
    Walks (post request : AdapterM σ (Except ClientError Unit)) := by
  refine of_step fun adapter => ?_
  rw [post_standing]
  exact .post _ request _

theorem subscribe (requested : Mask AdapterEvent) :
    Walks (subscribe requested : AdapterM σ Unit) := by
  refine of_step fun adapter => ?_
  obtain ⟨accepted, hstanding⟩ := subscribe_standing requested adapter
  rw [hstanding]
  exact .subscribe _ requested accepted

end Walks

end AdapterM

end GnssAdapter
