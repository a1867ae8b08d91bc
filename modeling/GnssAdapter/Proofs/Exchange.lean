import GnssAdapter.Proofs.Opening

/-!
What one exchange comes to. The transport is asked once, and what it answers goes to the caller as it
is. A busy answer keeps the request, and the first one kept has the engine state registered before.
-/

namespace GnssAdapter

/-- A request is sent, whether its answer is waited for or not. -/
def Entry.isSent : Entry → Bool
  | .requested .. | .posted .. => true
  | _ => false

namespace Answer

theorem isBusy_iff (answer : Answer) :
    answer.isBusy = true ↔ answer = .error .engineBusy ∨
      ∃ response, answer = .ok response ∧ response.status = .engineBusy := by
  cases answer <;> simp [isBusy]

theorem isSuccess_iff (answer : Answer) :
    answer.isSuccess = true ↔ ∃ response, answer = .ok response ∧ response.status = .success := by
  cases answer <;> simp [isSuccess, Verdict.isSuccess]

end Answer

/-- An exchange on an open connection sends its request, and nothing else. -/
theorem Standing.exchange_sent {standing : Standing} {handle : Handle}
    (hopen : standing.state.handle = some handle) (request : Request) (answer : Option Answer)
    (accepted : Bool) :
    ∃ entries, (standing.exchange request answer accepted).history =
        entries ++ standing.history ∧
      entries.filter Entry.isSent = [.requested handle request answer] :=
  exchange_filter hopen accepted (fun _ _ _ _ => rfl) rfl

namespace Adapter

variable {σ : Type} [Environment σ] {adapter : Adapter σ} {action : AdapterAction}

/-- The requests that an action sends, the oldest first. -/
def sent (adapter : Adapter σ) (action : AdapterAction) : List Entry :=
  (adapter.trace action).filter Entry.isSent

theorem sent_eq {entries : List Entry}
    (hhistory : (adapter.act action).history = entries ++ adapter.history) :
    adapter.sent action = (entries.filter Entry.isSent).reverse := by
  unfold sent
  rw [trace_eq hhistory, List.filter_reverse]

end Adapter

namespace AdapterM

variable {σ : Type} [Environment σ]

/-- An exchange hands its request to the transport once, and its caller what the transport answers.
Besides, it takes one sample, counts what is no success, and keeps the request if the engine is busy;
then the engine state is registered first if this is the only request kept and the engine state is
not registered yet. Without a connection it does nothing. -/
theorem exchange_transparent (request : Request) (adapter : Adapter σ) :
    match adapter.state.handle with
    | none => (exchange request).run adapter = (.error .invalidHandle, adapter)
    | some handle =>
        let replied := Environment.request handle request adapter.config.requestTimeoutMs
          adapter.surroundings
        let answer : Answer := replied.1.answer.getD (.error .timeout)
        let listens := answer.isBusy &&
          (adapter.replays.isEmpty && !adapter.state.registeredMask.has .engineState)
        let mask := adapter.state.registeredMask ∪ .single .engineState
        let registration := Environment.register handle mask adapter.isMaster replied.2
        let accepted := listens && registration.1
        (exchange request).run adapter =
          (answer, { adapter with
            surroundings := if listens then registration.2 else replied.2
            state := { adapter.state with
              registeredMask := if accepted then mask else adapter.state.registeredMask }
            replays := if answer.isBusy then adapter.replays ++ [request] else adapter.replays
            counters := { adapter.counters with
              failures := adapter.counters.failures + if answer.isSuccess then 0 else 1
              replaysQueued := adapter.counters.replaysQueued + if answer.isBusy then 1 else 0 }
            latency := adapter.latency.push replied.1.elapsedMs
            shared := { adapter.shared with
              recorder := adapter.shared.recorder.observeAll
                (.exchange request.id answer.outcome replied.1.elapsedMs ::
                  (if accepted then [.registration mask] else []) ++
                  if answer.isBusy then [.replayQueued request.id] else []) }
            history :=
              (if listens then [.registered handle mask adapter.isMaster registration.1] else []) ++
                .requested handle request replied.1.answer :: adapter.history }) ∧
          (answer.isBusy = true ↔ answer = .error .engineBusy ∨
            ∃ response, answer = .ok response ∧ response.status = .engineBusy) ∧
          (answer.isSuccess = true ↔
            ∃ response, answer = .ok response ∧ response.status = .success) := by
  split
  · rename_i hclosed
    exact exchange_closed request hclosed
  · rename_i handle hopen
    intro replied answer listens mask registration accepted
    refine ⟨?_, answer.isBusy_iff, answer.isSuccess_iff⟩
    have hrun := exchange_run request hopen (show _ = (replied.1, replied.2) from rfl)
    -- Only a busy answer keeps the request, and only with a request kept is there any listening.
    by_cases hbusy : answer.isBusy = true
    · have hlistens : listens =
          (adapter.replays.isEmpty && !adapter.state.registeredMask.has .engineState) := by
        simp only [listens, hbusy, Bool.true_and]
      rw [if_pos hbusy, if_pos hbusy, if_pos hbusy, hrun, if_pos hbusy, queueReplay_run,
        List.cons_append]
      unfold accepted
      rw [hlistens]
      rfl
    · have hdeaf : listens = false := by simp only [listens, hbusy, Bool.false_and]
      have hunaccepted : accepted = false := by simp only [accepted, hdeaf, Bool.false_and]
      rw [hrun, if_neg hbusy, if_neg hbusy, if_neg hbusy, if_neg hbusy, hdeaf, hunaccepted]
      rfl

end AdapterM

end GnssAdapter
