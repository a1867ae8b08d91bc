import GnssAdapter.Proofs.History
import GnssAdapter.Proofs.Run
import GnssAdapter.Transport.Scripted

/-!
The handle of a connection. Whatever an adapter asks of the transport is about the handle that
connecting has given it last, from then until it closes the connection or the service is lost. It
connects only without a handle, and its worker leaves none behind.
-/

namespace GnssAdapter

namespace Entry

/-- The handle that a call of the transport is about. -/
def handle? : Entry → Option Handle
  | .disconnected handle _ => some handle
  | .posted handle _ _ => some handle
  | .requested handle _ _ => some handle
  | .registered handle _ _ _ => some handle
  | .probed handle _ _ => some handle
  | _ => none

/-- The transport is asked for a connection, whether it gives one or not. -/
def asksConnection : Entry → Bool
  | .connected _ => true
  | _ => false

/-- A call that is right with a handle held, or with none: it is about that handle, and asks for a
connection only if there is none. -/
structure Fits (entry : Entry) (held : Option Handle) : Prop where
  hcurrent : ∀ handle, entry.handle? = some handle → held = some handle
  hclosed : entry.asksConnection = true → held = none

theorem Fits.of_handle {entry : Entry} {held : Option Handle} (hheld : entry.handle? = held)
    (hsilent : entry.asksConnection = false) : entry.Fits held where
  hcurrent _ hhandle := hheld.symm.trans hhandle
  hclosed hasks := absurd (hsilent.symm.trans hasks) Bool.false_ne_true

theorem Fits.of_apart {entry : Entry} (hapart : entry.handle? = none)
    (hsilent : entry.asksConnection = false) (held : Option Handle) : entry.Fits held where
  hcurrent _ hhandle := nomatch hapart.symm.trans hhandle
  hclosed hasks := absurd (hsilent.symm.trans hasks) Bool.false_ne_true

end Entry

/-- The handle that connecting has given last, unless the connection has been closed or the service
lost since. -/
def heldHandle : List Entry → Option Handle
  | [] => none
  | .connected (.ok handle) :: _ => some handle
  | .disconnected .. :: _ => none
  | .arrived (.error .serviceUnavailable) :: _ => none
  | _ :: earlier => heldHandle earlier

/-- Each call was right when it was made. -/
def Orderly : List Entry → Prop
  | [] => True
  | entry :: earlier => entry.Fits (heldHandle earlier) ∧ Orderly earlier

theorem heldHandle_arrived {event : TransportEvent} (hquiet : event.isQuiet = true)
    (history : List Entry) : heldHandle (.arrived event :: history) = heldHandle history := by
  cases event with
  | indication | response => rfl
  | error failure =>
      cases failure with
      | serviceUnavailable => cases hquiet
      | other => rfl

/-- A handle that is held now and was not at some time has been given since. -/
theorem mem_of_heldHandle {handle : Handle} {later earlier : List Entry}
    (hheld : heldHandle (later ++ earlier) = some handle) (hnone : heldHandle earlier = none) :
    .connected (.ok handle) ∈ later := by
  induction later with
  | nil => exact nomatch hnone.symm.trans hheld
  | cons entry rest ih =>
      rw [List.cons_append] at hheld
      unfold heldHandle at hheld
      split at hheld
      · rename_i heq
        cases heq
      · rename_i heq
        cases heq
        cases hheld
        exact .head _
      · cases hheld
      · cases hheld
      · rename_i heq
        cases heq
        exact .tail _ (ih hheld)

namespace Orderly

theorem fits_of_mem {history later earlier : List Entry} {entry : Entry}
    (horderly : Orderly history)
    (hsplit : history = later ++ entry :: earlier) : entry.Fits (heldHandle earlier) := by
  subst hsplit
  induction later with
  | nil => exact horderly.1
  | cons _ _ ih => exact ih horderly.2

/-- A handle that is closed after another has been given in between. -/
theorem given_between {history later between earlier : List Entry} {first second : Handle}
    {firstResult secondResult : Except ClientError Unit} (horderly : Orderly history)
    (hsplit : history = later ++ .disconnected second secondResult ::
      (between ++ .disconnected first firstResult :: earlier)) :
    .connected (.ok second) ∈ between :=
  mem_of_heldHandle ((horderly.fits_of_mem hsplit).hcurrent second rfl) rfl

end Orderly

namespace Standing

variable {standing : Standing}

/-- All calls have been right, and the handle of the state is the one that is held. -/
structure Holds (standing : Standing) : Prop where
  horderly : Orderly standing.history
  hheld : standing.state.handle = heldHandle standing.history

theorem Holds.log (hholds : standing.Holds) {entry : Entry}
    (hfits : entry.Fits standing.state.handle)
    (hsame : heldHandle (entry :: standing.history) = heldHandle standing.history) :
    (standing.log entry).Holds where
  horderly := ⟨by rwa [← hholds.hheld], hholds.horderly⟩
  hheld := hholds.hheld.trans hsame.symm

theorem Holds.of_same (hholds : standing.Holds) {after : Standing}
    (hhistory : after.history = standing.history)
    (hhandle : after.state.handle = standing.state.handle) : after.Holds where
  horderly := by rw [hhistory]; exact hholds.horderly
  hheld := by rw [hhistory, hhandle]; exact hholds.hheld

theorem register_holds (hholds : standing.Holds) {handle : Handle}
    (hopen : standing.state.handle = some handle) (mask : Mask NativeEvent) (accepted : Bool) :
    (standing.register handle mask accepted).Holds := by
  have hlogged : (standing.log (.registered handle mask standing.isMaster accepted)).Holds :=
    hholds.log (.of_handle hopen.symm rfl) rfl
  exact hlogged.of_same rfl (register_handle ..)

theorem exchange_holds (hholds : standing.Holds) (request : Request) (answer : Option Answer)
    (accepted : Bool) : (standing.exchange request answer accepted).Holds := by
  have hasked {handle : Handle} (hopen : standing.state.handle = some handle) :
      (standing.log (.requested handle request answer)).Holds :=
    hholds.log (.of_handle hopen.symm rfl) rfl
  have hexchanged := standing.exchanged request answer accepted
  generalize standing.exchange request answer accepted = after at hexchanged ⊢
  cases hexchanged with
  | closed => exact hholds
  | asked hopen => exact hasked hopen
  | kept hopen => exact (hasked hopen).of_same rfl rfl
  | watched hopen => exact (register_holds (hasked hopen) hopen _ accepted).of_same rfl rfl

theorem post_holds (hholds : standing.Holds) (request : Request)
    (result : Except ClientError Unit) : (standing.post request result).Holds := by
  unfold post
  split
  · exact hholds
  · rename_i handle hopen
    exact hholds.log (.of_handle hopen.symm rfl) rfl

theorem postAll_holds (hholds : standing.Holds)
    (sendings : List (Request × Except ClientError Unit)) : (standing.postAll sendings).Holds := by
  induction sendings generalizing standing with
  | nil => exact hholds
  | cons sending rest ih => exact ih (post_holds hholds sending.1 sending.2)

theorem adjust_holds (hholds : standing.Holds) (adjustment : Adjustment) :
    (standing.adjust adjustment).Holds :=
  hholds.of_same rfl (adjust_handle ..)

theorem subscribe_holds (hholds : standing.Holds) (requested : Mask AdapterEvent)
    (accepted : Bool) : (standing.subscribe requested accepted).Holds := by
  have hsubscribed := standing.subscribed requested accepted
  generalize standing.subscribe requested accepted = after at hsubscribed ⊢
  cases hsubscribed with
  | closed | unchanged => exact hholds.of_same rfl rfl
  | registered hopen => exact (register_holds hholds hopen _ accepted).of_same rfl rfl

theorem stop_holds (hholds : standing.Holds) (accepted : Bool) :
    (standing.stop accepted).Holds := by
  have hstopped := adjust_holds hholds .stopSession
  unfold stop
  split
  · exact hstopped
  · exact subscribe_holds hstopped ..

theorem connect_holds (hholds : standing.Holds) (hclosed : standing.state.handle = none)
    (handle : Handle) : (standing.connect handle).Holds where
  horderly := ⟨⟨fun _ hother => (by cases hother), fun _ => hholds.hheld.symm.trans hclosed⟩,
    hholds.horderly⟩
  hheld := rfl

theorem refuse_holds (hholds : standing.Holds) (hclosed : standing.state.handle = none)
    (error : ClientError) : (standing.refuse error).Holds where
  horderly := ⟨⟨fun _ hother => (by cases hother), fun _ => hholds.hheld.symm.trans hclosed⟩,
    hholds.horderly⟩
  hheld := hclosed.symm.trans hholds.hheld

theorem mark_holds (hholds : standing.Holds) (answer : Option Answer) (accepted : Bool) :
    (standing.mark answer accepted).Holds := by
  have hasked := exchange_holds hholds measurementProbe answer accepted
  unfold mark
  split
  · exact hasked.of_same rfl rfl
  · exact hasked

theorem introduce_holds (hholds : standing.Holds) (hclosed : standing.state.handle = none)
    (handle : Handle) (claimed probed : Option Answer) (claimAccepted probeAccepted : Bool)
    (messages : List MessageId) (result : Except ClientError UInt64) :
    (standing.introduce handle claimed probed claimAccepted probeAccepted messages
      result).Holds := by
  have hclaimed : ((standing.connect handle).claim claimed claimAccepted).Holds :=
    adjust_holds (exchange_holds (connect_holds hholds hclosed handle) ..) _
  have hopen : (((standing.connect handle).claim claimed claimAccepted).mark probed
      probeAccepted).state.handle = some handle := (mark_handle ..).trans (claim_handle ..)
  exact (mark_holds hclaimed probed probeAccepted).log (.of_handle hopen.symm rfl) rfl

theorem disconnect_holds (hholds : standing.Holds) (result : Except ClientError Unit) :
    (standing.disconnect result).Holds := by
  unfold disconnect
  split
  · rename_i hclosed
    exact hholds.of_same rfl hclosed.symm
  · rename_i handle hopen
    exact ⟨⟨.of_handle (hopen.symm.trans hholds.hheld) rfl, hholds.horderly⟩, rfl⟩

theorem lose_holds (hholds : standing.Holds) : standing.lose.Holds where
  horderly := ⟨.of_apart rfl rfl _, .of_apart rfl rfl _, hholds.horderly⟩
  hheld := rfl

theorem turnOff_holds (hholds : standing.Holds) (accepted : Bool)
    (results : List (Except ClientError Unit)) : (standing.turnOff accepted results).Holds := by
  have harrived : (standing.log (.arrived (.indication (.engineState .off)))).Holds :=
    hholds.log (.of_apart rfl rfl _) rfl
  have hturned := adjust_holds harrived (.turn false)
  have hended := hturned.log
    (.of_apart (rfl : (Entry.notified (.status .sessionEnd)).handle? = none) rfl _) rfl
  have hnoticed : standing.noticeOff.Holds := hended.log (.of_apart rfl rfl _) rfl
  have hsubscribed := subscribe_holds hnoticed standing.state.requestedMask accepted
  have hemptied : Holds { standing.noticeOff.subscribe standing.state.requestedMask accepted with
      replays := [] } := hsubscribed.of_same rfl rfl
  exact (postAll_holds hemptied _).of_same rfl rfl

theorem step_holds {before after : Standing} (hstep : Step before after) (hholds : before.Holds) :
    after.Holds := by
  cases hstep with
  | exchange request answer accepted => exact exchange_holds hholds request answer accepted
  | post request result => exact post_holds hholds request result
  | subscribe requested accepted => exact subscribe_holds hholds requested accepted
  | adjust adjustment => exact adjust_holds hholds adjustment
  | start => exact adjust_holds hholds .startSession
  | stop accepted => exact stop_holds hholds accepted
  | connect handle hclosed => exact connect_holds hholds hclosed handle
  | introduce handle hclosed => exact introduce_holds hholds hclosed handle _ _ _ _ _ _
  | refuse error hclosed => exact refuse_holds hholds hclosed error
  | disconnect result => exact disconnect_holds hholds result
  | lose => exact lose_holds hholds
  | turnOff accepted results => exact turnOff_holds hholds accepted results
  | arrive event hquiet => exact hholds.log (.of_apart rfl rfl _) (heldHandle_arrived hquiet _)
  | notify | publish => exact (hholds.log (.of_apart rfl rfl _) rfl).of_same rfl rfl
  | share => exact hholds.of_same rfl rfl

end Standing

theorem Adapter.Reachable.holds {σ : Type} [Environment σ] {adapter : Adapter σ}
    (hreachable : adapter.Reachable) : adapter.standing.Holds := by
  obtain ⟨config, surroundings, shared, actions, rfl⟩ := hreachable
  exact (run_steps _ actions).preserves Standing.step_holds ⟨trivial, rfl⟩

/-! ### Workers -/

namespace Worker

variable {σ : Type} [Environment σ] {worker : Worker σ}

/-- Nothing but running out of callers and work stops a worker. -/
theorem act_eq_stop {action : WorkerAction} (hrunning : worker.stopped = false)
    (hstops : (worker.act action).stopped = true) : worker.act action = worker.stop := by
  have hno : ¬worker.stopped = true := by rw [hrunning]; exact Bool.false_ne_true
  cases action with
  | submit ticket command =>
      refine absurd hstops ?_
      change ¬(worker.submit ticket command).stopped = true
      unfold submit
      split <;> exact hno
  | deliver event =>
      refine absurd hstops ?_
      change ¬(worker.deliver event).stopped = true
      unfold deliver
      split <;> exact hno
  | hangUp | leave => exact absurd hstops hno
  | work =>
      change worker.work.stopped = true at hstops
      change worker.work = worker.stop
      unfold work at hstops ⊢
      rw [if_neg hno] at hstops ⊢
      split at hstops
      · rename_i hleaving
        exact if_pos hleaving
      · rename_i hstays
        rw [if_neg hstays]
        split at hstops
        · exact absurd hstops hno
        · exact absurd hstops hno
        · exact absurd hstops hno
        · split at hstops
          · exact absurd hstops hno
          · rename_i hlast
            exact if_neg hlast

/-- A handle that is held is closed, and nothing else is done. -/
theorem stop_history (worker : Worker σ) :
    ∃ result, worker.stop.adapter.history =
      (worker.adapter.state.handle.map (Entry.disconnected · result)).toList ++
        worker.adapter.history := by
  unfold stop
  cases hheld : worker.adapter.state.handle with
  | none => exact ⟨.ok (), rfl⟩
  | some handle =>
      refine ⟨(AdapterM.closeConnection.run worker.adapter).1, ?_⟩
      have hclosed := congrArg Standing.history
        (AdapterM.closeConnection_standing worker.adapter)
      unfold Standing.disconnect at hclosed
      rw [Adapter.standing_state, hheld] at hclosed
      exact hclosed

theorem stop_handle (worker : Worker σ) : worker.stop.adapter.state.handle = none := by
  have hclosed := congrArg (·.state.handle) (AdapterM.closeConnection_standing worker.adapter)
  unfold Standing.disconnect at hclosed
  unfold stop
  cases hheld : worker.adapter.state.handle with
  | none => exact hheld
  | some handle =>
      rw [Adapter.standing_state worker.adapter, hheld] at hclosed
      exact hclosed

/-- A worker that has stopped leaves its adapter alone, apart from counting what comes too late. -/
theorem act_of_stopped (hstopped : worker.stopped = true) (action : WorkerAction) :
    (worker.act action).stopped = true ∧
      (worker.act action).adapter.history = worker.adapter.history ∧
      (worker.act action).adapter.state = worker.adapter.state := by
  cases action with
  | submit ticket command =>
      dsimp only [act]
      unfold submit
      rw [if_pos (by rw [hstopped, Bool.true_or])]
      exact ⟨hstopped, rfl, rfl⟩
  | deliver event =>
      dsimp only [act]
      unfold deliver
      rw [if_pos hstopped]
      exact ⟨hstopped, rfl, rfl⟩
  | hangUp | leave => exact ⟨hstopped, rfl, rfl⟩
  | work =>
      dsimp only [act]
      unfold work
      rw [if_pos hstopped]
      exact ⟨hstopped, rfl, rfl⟩

theorem history_of_stopped (hstopped : worker.stopped = true) (actions : List WorkerAction) :
    (worker.run actions).adapter.history = worker.adapter.history := by
  induction actions generalizing worker with
  | nil => rfl
  | cons action rest ih =>
      obtain ⟨hstill, hhistory, -⟩ := act_of_stopped hstopped action
      exact (ih hstill).trans hhistory

theorem stopped_handle_act {worker : Worker σ}
    (hclosed : worker.stopped = true → worker.adapter.state.handle = none)
    (action : WorkerAction) (hstopped : (worker.act action).stopped = true) :
    (worker.act action).adapter.state.handle = none := by
  cases hbefore : worker.stopped with
  | false =>
      rw [act_eq_stop hbefore hstopped]
      exact stop_handle worker
  | true =>
      rw [(act_of_stopped hbefore action).2.2]
      exact hclosed hbefore

end Worker

namespace Fleet

variable {σ : Type} [Environment σ] {fleet : Fleet σ}

theorem stopped_handle (hfresh : ∀ worker ∈ fleet.workers, worker.Fresh)
    (actions : List (Nat × WorkerAction)) : ∀ worker ∈ (fleet.run actions).workers,
      worker.stopped = true → worker.adapter.state.handle = none := by
  refine run_preserves
    (fun _ _ hclosed => hclosed) (fun _ action hclosed => Worker.stopped_handle_act hclosed action)
    (fun worker hworker _ => ?_) actions
  obtain ⟨config, surroundings, rfl⟩ := hfresh worker hworker
  rfl

/-- In whatever way the workers of a process are used, each of them asks the transport about no
handle but the one that it has been given last, as long as that is neither closed nor lost, and for
a handle only while it has none. A handle that is closed has been given since the last close. A
worker that stops closes the handle it holds, and asks for nothing afterwards. -/
theorem handle_discipline (hfresh : ∀ worker ∈ fleet.workers, worker.Fresh)
    (actions : List (Nat × WorkerAction)) (worker : Worker σ)
    (hworker : worker ∈ (fleet.run actions).workers) :
    let history := worker.adapter.history
    (∀ later entry earlier, history = later ++ entry :: earlier →
        entry.Fits (heldHandle earlier)) ∧
      (∀ later second secondResult between first firstResult earlier,
        history = later ++ .disconnected second secondResult ::
            (between ++ .disconnected first firstResult :: earlier) →
          .connected (.ok second) ∈ between) ∧
      worker.adapter.state.handle = heldHandle history ∧
      (∀ action, worker.stopped = false → (worker.act action).stopped = true →
        ∃ result, (worker.act action).adapter.history =
          ((heldHandle history).map (Entry.disconnected · result)).toList ++ history) ∧
      (worker.stopped = true →
        heldHandle history = none ∧
          ∀ later, (worker.run later).adapter.history = history) := by
  intro history
  have hholds := (run_reachable hfresh actions worker hworker).holds
  have hheld : worker.adapter.state.handle = heldHandle history := hholds.hheld
  refine ⟨fun later entry earlier hsplit => hholds.horderly.fits_of_mem hsplit,
    fun later second secondResult between first firstResult earlier hsplit =>
      hholds.horderly.given_between hsplit, hheld, fun action hrunning hstops => ?_,
    fun hstopped => ⟨?_, Worker.history_of_stopped hstopped⟩⟩
  · rw [Worker.act_eq_stop hrunning hstops, ← hheld]
    exact worker.stop_history
  · exact hheld.symm.trans (stopped_handle hfresh actions worker hworker hstopped)

/-- A worker among an engine that takes everything, after some actions. -/
def obligedWorkerAfter (actions : List WorkerAction) : Worker ScriptedEngine :=
  let engine : ScriptedEngine := { clock := .first }
  Worker.run { adapter := .spawn { masterClient := false } engine {} } actions

/-- The worker is asked to connect, and its only caller goes away. -/
theorem handle_closed_at_stop :
    let worker := obligedWorkerAfter
      [.submit 0 (.connect (.single .niRequest)), .work, .work, .hangUp]
    heldHandle worker.adapter.history = some ⟨1⟩ ∧ (worker.act .work).stopped = true ∧
      ∃ result, (worker.act .work).adapter.history =
        .disconnected ⟨1⟩ result :: worker.adapter.history := by
  have hfresh : ∀ worker ∈ ({ workers := [obligedWorkerAfter []] } : Fleet ScriptedEngine).workers,
      worker.Fresh := by
    intro worker hworker
    rw [List.mem_singleton.mp hworker]
    exact ⟨_, _, rfl⟩
  obtain ⟨-, -, -, hstops, -⟩ := handle_discipline hfresh
    [(0, .submit 0 (.connect (.single .niRequest))), (0, .work), (0, .work), (0, .hangUp)]
    _ (.head _)
  exact ⟨rfl, rfl, hstops .work rfl rfl⟩

end Fleet

end GnssAdapter
