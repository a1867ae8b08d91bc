import GnssAdapter.Proofs.Renewal

/-!
The mark that a session has been started. Starting sets it before anything else and leaves it
whatever becomes of the start; only stopping and losing the connection take it away, and opening one
leaves it as it is.

Whether a start went through can be read off the history. All that comes before the request to start
is waited for, so that a request sent without waiting for it is the start.
-/

namespace GnssAdapter

/-- The connection and the session have been left as they were. -/
def State.Continues (before after : State) : Prop :=
  after.handle = before.handle ∧ after.inSession = before.inSession

namespace State.Continues

variable {before middle after : State}

theorem refl (state : State) : state.Continues state :=
  ⟨rfl, rfl⟩

theorem trans (hfirst : before.Continues middle) (hsecond : middle.Continues after) :
    before.Continues after :=
  ⟨hsecond.1.trans hfirst.1, hsecond.2.trans hfirst.2⟩

end State.Continues

/-- Nothing has been sent since but what is waited for. -/
def Unposted (earlier later : List Entry) : Prop :=
  ∃ entries, later = entries ++ earlier ∧ ∀ entry ∈ entries, entry.postedRequest? = none

namespace Unposted

variable {earlier middle later : List Entry}

theorem refl (history : List Entry) : Unposted history history :=
  ⟨[], rfl, by simp⟩

theorem trans (hfirst : Unposted earlier middle) (hsecond : Unposted middle later) :
    Unposted earlier later :=
  appended_trans hfirst hsecond

theorem cons (hunposted : Unposted earlier later) {entry : Entry}
    (hsilent : entry.postedRequest? = none) : Unposted earlier (entry :: later) :=
  hunposted.trans ⟨[entry], rfl, by simpa using hsilent⟩

theorem not_mem (hunposted : Unposted earlier later) (handle : Handle) (request : Request)
    (result : Except ClientError Unit) : .posted handle request result ∉ gained earlier later := by
  obtain ⟨entries, rfl, hsilent⟩ := hunposted
  rw [gained_append]
  intro hmem
  cases hsilent _ hmem

theorem mem_cons (hunposted : Unposted earlier later) (first : Entry) (handle : Handle)
    (request : Request) (result : Except ClientError Unit) :
    .posted handle request result ∈ gained earlier (first :: later) ↔
      first = .posted handle request result := by
  have hnone := hunposted.not_mem handle request result
  obtain ⟨entries, rfl, -⟩ := hunposted
  rw [gained_append] at hnone
  rw [← List.cons_append, gained_append, List.mem_cons]
  exact ⟨fun heither => (heither.resolve_right hnone).symm, fun hsame => .inl hsame.symm⟩

end Unposted

namespace Standing

variable {standing : Standing}

theorem exchange_unposted (standing : Standing) (request : Request) (answer : Option Answer)
    (accepted : Bool) :
    Unposted standing.history (standing.exchange request answer accepted).history := by
  have hasked (handle : Handle) : Unposted standing.history
      (standing.log (.requested handle request answer)).history := (Unposted.refl _).cons rfl
  have hexchanged := standing.exchanged request answer accepted
  generalize standing.exchange request answer accepted = after at hexchanged ⊢
  cases hexchanged with
  | closed => exact .refl _
  | asked | kept => exact hasked _
  | @watched handle => exact (hasked handle).cons rfl

theorem subscribe_unposted (standing : Standing) (requested : Mask AdapterEvent)
    (accepted : Bool) :
    Unposted standing.history (standing.subscribe requested accepted).history := by
  have hsubscribed := standing.subscribed requested accepted
  generalize standing.subscribe requested accepted = after at hsubscribed ⊢
  cases hsubscribed with
  | closed | unchanged => exact .refl _
  | registered => exact (Unposted.refl _).cons rfl

theorem exchange_continues (standing : Standing) (request : Request) (answer : Option Answer)
    (accepted : Bool) :
    standing.state.Continues (standing.exchange request answer accepted).state := by
  rw [exchange_state]
  exact ⟨rfl, rfl⟩

theorem subscribe_continues (standing : Standing) (requested : Mask AdapterEvent)
    (accepted : Bool) :
    standing.state.Continues (standing.subscribe requested accepted).state := by
  rw [subscribe_state]
  exact ⟨rfl, rfl⟩

end Standing

namespace AdapterM

variable {σ α : Type} [Environment σ]

theorem Routine.continues {operation : AdapterM σ α} (hroutine : Routine operation)
    (adapter : Adapter σ) :
    adapter.standing.state.Continues (operation.run adapter).2.standing.state := by
  have hasked (request : Request) (adapter : Adapter σ) : adapter.standing.state.Continues
      ((AdapterM.exchange request).run adapter).2.standing.state := by
    obtain ⟨answer, accepted, hstanding, -⟩ := exchange_standing request adapter
    rw [hstanding]
    exact Standing.exchange_continues ..
  induction hroutine generalizing adapter with
  | bind _ _ hfirst hnext => exact (hfirst adapter).trans (hnext _ _)
  | read _ _ hnext => exact hnext adapter adapter
  | exchangeAt hlook =>
      rw [run_bind, ← hlook.standing adapter]
      exact hasked _ _
  | notifyAt hlook =>
      rw [run_bind, ← hlook.standing adapter]
      exact .refl _
  | exchange request => exact hasked request adapter
  | post request =>
      rw [post_standing, Standing.post_eq]
      exact .refl _
  | subscribe requested =>
      obtain ⟨accepted, hstanding⟩ := subscribe_standing requested adapter
      rw [hstanding]
      exact Standing.subscribe_continues ..
  | adjust adjustment hsteady hchange =>
      rw [setState_standing, hchange]
      exact ⟨adjustment.apply_handle _, Adjustment.apply_inSession _ hsteady⟩
  | pure | notify | publish | observe | count => exact .refl _

/-! ### Starting -/

theorem startFix_inSession (criteria : FixCriteria) (adapter : Adapter σ) :
    ((startFix criteria).run adapter).2.state.inSession = true := by
  unfold startFix
  rw [run_bind]
  exact ((Routine.startMarked criteria).continues _).2

theorem query_ok_iff (request : Request) (adapter : Adapter σ) :
    ((query request).run adapter).1 = .ok () ↔ ((post request).run adapter).1 = .ok () := by
  unfold query
  rw [run_bind]
  cases ((post request).run adapter).1 with
  | ok => exact ⟨fun _ => rfl, fun _ => rfl⟩
  | error error => exact ⟨fun hok => (by cases hok), fun hok => (by cases hok)⟩

/-- A request that is not waited for has succeeded if it has been sent, and nothing else has. -/
theorem query_ok_iff_posted {earlier : List Entry} (request : Request) (adapter : Adapter σ)
    (hunposted : Unposted earlier adapter.history) :
    ((query request).run adapter).1 = .ok () ↔
      ∃ handle, .posted handle request (.ok ()) ∈
        gained earlier ((query request).run adapter).2.history := by
  have hhistory := congrArg Standing.history (query_standing request adapter)
  rw [Adapter.standing_history] at hhistory
  rw [query_ok_iff, hhistory]
  unfold Standing.post
  cases hopen : adapter.state.handle with
  | none =>
      rw [Adapter.standing_state, hopen]
      have hfailed : ((post request).run adapter).1 = .error .invalidHandle := by
        unfold post
        rw [run_bind, run_get, hopen]
        rfl
      rw [hfailed]
      refine ⟨fun hok => (by cases hok), fun ⟨handle, hmem⟩ => ?_⟩
      exact absurd hmem (hunposted.not_mem _ _ _)
  | some current =>
      rw [Adapter.standing_state, hopen]
      change _ ↔ ∃ handle, _ ∈ gained earlier (.posted current request _ :: adapter.history)
      simp only [hunposted.mem_cons]
      constructor
      · intro hok
        rw [hok]
        exact ⟨current, rfl⟩
      · rintro ⟨handle, hsame⟩
        exact (Entry.posted.inj hsame).2.2

/-- A start has succeeded if the engine has been told to start. -/
theorem startFix_ok_iff (criteria : FixCriteria) (adapter : Adapter σ) :
    ((startFix criteria).run adapter).1 = .ok () ↔
      ∃ handle, .posted handle (.start criteria.start) (.ok ()) ∈
        gained adapter.history ((startFix criteria).run adapter).2.history := by
  unfold startFix
  rw [run_bind]
  have hmarked : ((setState fun state =>
      { state with inSession := true, sessionFresh := true }).run adapter).2.history =
        adapter.history := rfl
  generalize (setState fun state =>
    { state with inSession := true, sessionFresh := true }).run adapter = marked at hmarked ⊢
  obtain ⟨_, marked⟩ := marked
  dsimp only at hmarked ⊢
  obtain ⟨accepted, hsubscribed⟩ := resubscribe_standing marked
  obtain ⟨answer, again, hasked, -⟩ :=
    exchange_standing (.setOperationMode criteria.mode.operation) (resubscribe.run marked).2
  rw [hsubscribed] at hasked
  -- Up to here everything has been waited for, so that only the start itself is sent without.
  have hunposted : Unposted adapter.history
      ((exchange (.setOperationMode criteria.mode.operation)).run
        (resubscribe.run marked).2).2.standing.history := by
    rw [hasked, ← hmarked]
    exact (Standing.subscribe_unposted marked.standing _ accepted).trans
      (Standing.exchange_unposted _ _ answer again)
  rw [run_bind, run_bind]
  generalize (exchange (.setOperationMode criteria.mode.operation)).run
    (resubscribe.run marked).2 = asked at hunposted ⊢
  obtain ⟨reply, asked⟩ := asked
  dsimp only
  by_cases hgoes : (reply.isSuccess || decide (reply.outcome = .timeout)) = true
  · rw [if_pos hgoes, run_bind]
    exact query_ok_iff_posted _ _ hunposted
  · rw [if_neg hgoes]
    refine ⟨fun hok => (by cases hok), fun ⟨handle, hmem⟩ => ?_⟩
    exact absurd hmem (hunposted.not_mem _ _ _)

/-! ### Opening -/

theorem openConnection_session {requested : Mask AdapterEvent} {adapter : Adapter σ}
    (hok : ((openConnection requested).run adapter).1 = .ok ()) :
    ((openConnection requested).run adapter).2.state.handle ≠ none ∧
      ((openConnection requested).run adapter).2.state.inSession = adapter.state.inSession := by
  obtain ⟨hconnected, hopened⟩ := Adapter.openConnection_ok hok
  obtain ⟨start, -, -, hstate, hopen, -, hmade⟩ := ensureConnected_undisturbed adapter hconnected
  have hchanged := (Plain.changeEvents (requested \
    (ensureConnected.run adapter).2.config.excludedEvents)).hroutine.continues
      (ensureConnected.run adapter).2
  rw [hopened]
  refine ⟨?_, ?_⟩
  · have hhandle := hchanged.1.trans hmade.handle_eq
    rw [Adapter.standing_state] at hhandle
    rwa [hhandle]
  · have hsession := hchanged.2.trans hmade.inSession_eq
    rw [hstate] at hsession
    exact hsession

/-! ### Every other operation -/

theorem stopFix_inSession (adapter : Adapter σ) :
    (stopFix.run adapter).2.state.inSession = false := by
  obtain ⟨accepted, hstanding⟩ := stopFix_standing adapter
  rw [← Adapter.standing_state, hstanding]
  change (Standing.stop _ accepted).state.inSession = false
  unfold Standing.stop
  split
  · rfl
  · exact (Standing.subscribe_continues (Standing.adjust _ .stopSession) _ accepted).2

theorem closeConnection_inSession (adapter : Adapter σ) :
    (closeConnection.run adapter).2.state.inSession = false := by
  rw [← Adapter.standing_state, closeConnection_standing]
  unfold Standing.disconnect
  split <;> rfl

theorem openConnection_inSession (requested : Mask AdapterEvent) (adapter : Adapter σ) :
    ((openConnection requested).run adapter).2.state.inSession =
      (adapter.state.inSession && ((openConnection requested).run adapter).1.isOk) := by
  cases hresult : ((openConnection requested).run adapter).1 with
  | error error =>
      rw [← Adapter.standing_state, Adapter.openConnection_refused hresult, Except.isOk,
        Except.toBool, Bool.and_false]
      rfl
  | ok =>
      rw [(openConnection_session hresult).2]
      exact (Bool.and_true _).symm

theorem changeCriteria_inSession (criteria : FixCriteria) (adapter : Adapter σ) :
    ((changeCriteria criteria).run adapter).2.state.inSession = adapter.state.inSession := by
  unfold changeCriteria
  rw [run_bind, run_get]
  by_cases hstarted : adapter.state.inSession = true
  · rw [if_pos hstarted, hstarted]
    exact startFix_inSession criteria adapter
  · rw [if_neg hstarted]
    rfl

theorem handleQuiet_inSession {event : TransportEvent} (hquiet : event.isQuiet = true)
    (adapter : Adapter σ) :
    ((handleEvent event).run adapter).2.state.inSession = adapter.state.inSession := by
  unfold handleEvent
  rw [run_bind]
  cases event with
  | indication indication => exact ((Routine.handleIndication indication hquiet).continues _).2
  | response reply => exact ((Plain.handleReply reply).hroutine.continues _).2
  | error failure =>
      cases failure with
      | serviceUnavailable => exact absurd hquiet (by decide)
      | other => rfl

theorem handleOff_inSession (adapter : Adapter σ) :
    ((handleEvent (.indication (.engineState .off))).run adapter).2.state.inSession =
      adapter.state.inSession := by
  obtain ⟨accepted, results, -, hstanding⟩ := handleEvent_turnOff adapter
  rw [← Adapter.standing_state, hstanding]
  unfold Standing.turnOff
  rw [Standing.drain_state]
  exact (Standing.subscribe_continues adapter.standing.noticeOff _ accepted).2

end AdapterM

theorem CommandResult.isOk_ofClient (result : Except ClientError Unit) :
    (CommandResult.ofClient result).isOk = result.isOk := by
  cases result <;> rfl

/-- Whether a session is marked as started after an action, going by what that has given back. -/
def AdapterAction.marksSession (marked : Bool) (result : Option CommandResult) :
    AdapterAction → Bool
  | .execute (.startFix _) => true
  | .execute .stopFix | .execute .disconnect | .handle (.error .serviceUnavailable) => false
  | .execute (.connect _) => marked && result.any Except.isOk
  | _ => marked

namespace Adapter

open AdapterM

variable {σ : Type} [Environment σ]

theorem act_inSession (adapter : Adapter σ) (action : AdapterAction) :
    (adapter.act action).state.inSession =
      action.marksSession adapter.state.inSession (adapter.result? action) := by
  cases action with
  | execute command =>
      by_cases hroutine : command.isRoutine = true
      · have hmarks : AdapterAction.marksSession adapter.state.inSession
            (adapter.result? (.execute command)) (.execute command) =
              adapter.state.inSession := by
          cases command with
          | connect | disconnect | startFix | stopFix | changeCriteria => cases hroutine
          | _ => rfl
        rw [hmarks]
        exact ((Routine.execute hroutine).continues adapter).2
      · cases command with
        | connect events =>
            refine (openConnection_inSession events adapter).trans ?_
            rw [← CommandResult.isOk_ofClient]
            rfl
        | disconnect => exact closeConnection_inSession adapter
        | startFix criteria => exact startFix_inSession criteria adapter
        | stopFix => exact stopFix_inSession adapter
        | changeCriteria criteria => exact changeCriteria_inSession criteria adapter
        | _ => exact absurd rfl hroutine
  | handle event =>
      by_cases hquiet : event.isQuiet = true
      · have hmarks : AdapterAction.marksSession adapter.state.inSession none (.handle event) =
            adapter.state.inSession := by
          cases event with
          | indication | response => rfl
          | error failure =>
              cases failure with
              | serviceUnavailable => cases hquiet
              | other => rfl
        exact (handleQuiet_inSession hquiet adapter).trans hmarks.symm
      · rcases event.eq_of_not_isQuiet hquiet with rfl | rfl
        · exact handleOff_inSession adapter
        · rfl
  | pickCommand | dropEvent | share => rfl

/-- A start that fails leaves the mark of a session behind, so that there is none left exactly if
the engine has been told to start. A connection that is opened is idle exactly if there was no such
mark. -/
theorem failed_start_idle_iff (adapter : Adapter σ) (criteria : FixCriteria)
    (requested : Mask AdapterEvent) :
    let started := (startFix criteria).run adapter
    let opened := (openConnection requested).run adapter
    ((∀ error, started.1 = .error error → started.2.state.inSession = false) ↔
        ∃ handle, .posted handle (.start criteria.start) (.ok ()) ∈
          gained adapter.history started.2.history) ∧
      (opened.1 = .ok () →
        (opened.2.state.phase = .openIdle ↔ adapter.state.inSession = false)) := by
  intro started opened
  constructor
  · rw [← startFix_ok_iff]
    have hmarked : started.2.state.inSession = true := startFix_inSession criteria adapter
    change _ ↔ started.1 = .ok ()
    rw [hmarked]
    cases started.1 with
    | ok => exact ⟨fun _ => rfl, fun _ _ hfailed => (by cases hfailed)⟩
    | error error =>
        exact ⟨fun hidle => absurd (hidle error rfl) (by decide),
          fun hok => (by cases hok)⟩
  · intro hok
    obtain ⟨hopen, hsession⟩ := openConnection_session hok
    rw [← hsession]
    change opened.2.state.handle ≠ none at hopen
    change opened.2.state.phase = _ ↔ opened.2.state.inSession = false
    unfold State.phase
    cases hhandle : opened.2.state.handle with
    | none => exact absurd hhandle hopen
    | some handle =>
        cases opened.2.state.inSession with
        | false => exact ⟨fun _ => rfl, fun _ => rfl⟩
        | true => exact ⟨fun hidle => (by cases hidle), fun hidle => (by cases hidle)⟩

theorem opened_idle_at_first :
    let opened := (openConnection ∅).run (obligedAfter [])
    opened.1 = .ok () ∧ opened.2.state.phase = .openIdle :=
  ⟨rfl, ((failed_start_idle_iff (obligedAfter []) {} ∅).2 rfl).mpr rfl⟩

/-- A session that could not be started without a connection is there when one is opened. -/
theorem opened_in_session_after_failed_start :
    let started := (startFix {}).run (obligedAfter [])
    let opened := (openConnection ∅).run started.2
    started.1 = .error .generalFailure ∧ started.2.state.phase = .closed ∧
      started.2.state.inSession = true ∧
      opened.1 = .ok () ∧ opened.2.state.phase = .openInSession :=
  ⟨rfl, rfl, rfl, rfl, rfl⟩

end Adapter

end GnssAdapter
