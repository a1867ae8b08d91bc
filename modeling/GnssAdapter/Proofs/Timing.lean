import GnssAdapter.Proofs.Course
import GnssAdapter.Proofs.Starting

/-!
How sessions are timed. A start marks its session as one that has not had a clock and, if it
succeeds, sets the power mode; stopping resets the power mode, and severing the connection resets
both. Apart from the clock that uses up the mark, nothing else touches them.
-/

namespace GnssAdapter

namespace Adapter

open AdapterM Standing

variable {σ : Type} [Environment σ] {adapter : Adapter σ} {action : AdapterAction}

/-- The criteria with which an action starts a session. -/
def starts? (adapter : Adapter σ) : AdapterAction → Option FixCriteria
  | .execute (.startFix criteria) => some criteria
  | .execute (.changeCriteria criteria) =>
      if adapter.state.inSession then some criteria else none
  | _ => none

/-- The action starts or stops a session or severs the connection. -/
inductive Interrupts (adapter : Adapter σ) : AdapterAction → Prop
  | start {action : AdapterAction} (criteria : FixCriteria)
      (hstarts : adapter.starts? action = some criteria) : Interrupts adapter action
  | stop : Interrupts adapter (.execute .stopFix)
  | sever {action : AdapterAction} (hsevers : adapter.Severs action) : Interrupts adapter action

theorem changeCriteria_run (criteria : FixCriteria) (adapter : Adapter σ) :
    (changeCriteria criteria).run adapter =
      if adapter.state.inSession then (startFix criteria).run adapter else (.ok (), adapter) := by
  unfold changeCriteria
  rw [run_bind, run_get]
  by_cases hsession : adapter.state.inSession = true
  · rw [if_pos hsession, if_pos hsession]
  · rw [if_neg hsession, if_neg hsession]
    rfl

theorem starts?_eq {criteria : FixCriteria} (hstarts : adapter.starts? action = some criteria) :
    (adapter.act action = ((startFix criteria).run adapter).2 ∧
      adapter.result? action =
        some (.ofLocation (fun _ => .done) ((startFix criteria).run adapter).1)) ∧
      action.fragment? = none ∧ ¬adapter.Severs action := by
  unfold starts? at hstarts
  split at hstarts
  · cases hstarts
    exact ⟨⟨rfl, rfl⟩, rfl, nofun⟩
  · split at hstarts
    · rename_i hsession
      cases hstarts
      have hrestarts := changeCriteria_run criteria adapter
      rw [if_pos hsession] at hrestarts
      refine ⟨⟨congrArg Prod.snd hrestarts, ?_⟩, rfl, nofun⟩
      change some (CommandResult.ofLocation _ ((changeCriteria criteria).run adapter).1) = _
      rw [hrestarts]
    · cases hstarts
  · cases hstarts

/-- A start that succeeds sets the power mode, and its session has not had a clock. -/
theorem timing_of_started {criteria : FixCriteria}
    (hstarts : adapter.starts? action = some criteria)
    (hok : adapter.result? action = some (.ok .done)) :
    (adapter.act action).state.timing = (true, criteria.powerMode) := by
  obtain ⟨⟨hacted, hresult⟩, -⟩ := starts?_eq hstarts
  rw [hok] at hresult
  rw [hacted]
  obtain ⟨asked, -, hasked, hstarted | hstarted⟩ := startFix_cases criteria adapter
  · rw [hstarted] at hresult
    cases hresult
  · rw [hstarted]
    refine ((Plain.query _).htiming _).trans ?_
    exact congrArg (·.1, criteria.powerMode) hasked

theorem openConnection_timing {events : Mask AdapterEvent}
    (hok : ((openConnection events).run adapter).1 = .ok ()) :
    ((openConnection events).run adapter).2.state.timing = adapter.state.timing := by
  obtain ⟨hconnected, hopened⟩ := openConnection_ok hok
  obtain ⟨start, -, -, hstart, -, -, hmade⟩ := ensureConnected_undisturbed adapter hconnected
  rw [hopened]
  refine ((Plain.changeEvents _).htiming _).trans ?_
  rw [hmade.hstate, hstart]
  rfl

theorem setNmeaTypes_timing (types : UInt32) (adapter : Adapter σ) :
    ((setNmeaTypes types).run adapter).2.standing.state.timing = adapter.state.timing := by
  rcases setNmeaTypes_cases types adapter with ⟨-, hkept⟩ | ⟨-, answer, accepted, hsent, -⟩
  · rw [hkept]
    rfl
  · rw [hsent]
    unfold Standing.sendTypes
    change (Adjustment.apply (Standing.exchange _ _ _ _).state _).timing = _
    rw [exchange_state]
    rfl

theorem turnOff_timing (standing : Standing) (accepted : Bool)
    (results : List (Except ClientError Unit)) :
    (standing.turnOff accepted results).state.timing = standing.state.timing := by
  unfold Standing.turnOff
  rw [drain_state, subscribe_state]
  rfl

/-- Only starting and stopping a session, severing the connection and taking a clock have to do with
how sessions are timed. -/
theorem timing_of_other (hother : action.fragment? = none) (hgoes : ¬adapter.Interrupts action) :
    (adapter.act action).state.timing = adapter.state.timing := by
  cases action with
  | execute command =>
      by_cases hplain : command.isPlain = true
      · exact (Plain.execute hplain).htiming adapter
      · cases command with
        | connect events =>
            cases hresult : ((openConnection events).run adapter).1 with
            | error error => exact absurd (.sever (.refuse events error hresult)) hgoes
            | ok => exact openConnection_timing hresult
        | disconnect => exact absurd (.sever .close) hgoes
        | startFix criteria => exact absurd (.start criteria rfl) hgoes
        | stopFix => exact absurd .stop hgoes
        | changeCriteria criteria =>
            by_cases hsession : adapter.state.inSession = true
            · exact absurd (.start criteria (if_pos hsession)) hgoes
            · change ((changeCriteria criteria).run adapter).2.state.timing = _
              rw [changeCriteria_run, if_neg hsession]
        | setNmeaTypes types => exact setNmeaTypes_timing types adapter
        | _ => exact absurd rfl hplain
  | handle event =>
      by_cases hquiet : event.isQuiet = true
      · obtain ⟨operation, hplain, hevent⟩ := handleEvent_plain (σ := σ) hquiet hother
        change ((handleEvent event).run adapter).2.state.timing = _
        rw [hevent, run_bind]
        exact hplain.htiming _
      · rcases event.eq_of_not_isQuiet hquiet with rfl | rfl
        · obtain ⟨accepted, results, -, hstanding⟩ := handleEvent_turnOff adapter
          change ((handleEvent _).run adapter).2.standing.state.timing = _
          rw [hstanding]
          exact turnOff_timing ..
        · exact absurd (.sever .lose) hgoes
  | pickCommand | dropEvent | share => rfl

end Adapter

end GnssAdapter
