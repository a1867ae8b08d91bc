import GnssAdapter.Proofs.Standing

/-!
The operations of an adapter act on its standing as the functions on standings do, for some answers
of the transport.
-/

namespace GnssAdapter

theorem Answer.isBusy_getD (answer : Option Answer) :
    (answer.getD (.error .timeout)).isBusy = answer.any Answer.isBusy := by
  cases answer <;> rfl

theorem Answer.isAccepted_getD (answer : Option Answer) :
    (answer.getD (.error .timeout)).isAccepted = answer.any Answer.isAccepted := by
  cases answer <;> rfl

/-- The observations are made one after the other. -/
def Recorder.observeAll (recorder : Recorder) (observations : List Observation) : Recorder :=
  observations.foldl observe recorder

/-- The adapter that has heard what came back for a request. -/
def Adapter.hear {σ : Type} (adapter : Adapter σ) (handle : Handle) (request : Request)
    (reply : Reply) (surroundings : σ) : Adapter σ :=
  { adapter with
    surroundings
    latency := adapter.latency.push reply.elapsedMs
    shared := { adapter.shared with
      recorder := adapter.shared.recorder.observe
        (.exchange request.id (reply.answer.getD (.error .timeout)).outcome reply.elapsedMs) }
    history := .requested handle request reply.answer :: adapter.history }

namespace AdapterM

variable {σ α β : Type}

theorem run_bind (operation : AdapterM σ α) (next : α → AdapterM σ β) (adapter : Adapter σ) :
    (operation >>= next).run adapter =
      (next (operation.run adapter).1).run (operation.run adapter).2 := rfl

theorem run_pure (value : α) (adapter : Adapter σ) :
    (pure value : AdapterM σ α).run adapter = (value, adapter) := rfl

theorem run_get (adapter : Adapter σ) :
    (get : AdapterM σ (Adapter σ)).run adapter = (adapter, adapter) := rfl

theorem setState_standing (change : State → State) (adapter : Adapter σ) :
    ((setState change).run adapter).2.standing =
      { adapter.standing with state := change adapter.standing.state } := rfl

theorem notifyAll_run (callbacks : List Callback) (adapter : Adapter σ) :
    (notifyAll callbacks).run adapter =
      ((), { adapter with
        history := (callbacks.map Entry.notified).reverse ++ adapter.history }) := by
  induction callbacks generalizing adapter with
  | nil => rfl
  | cons callback rest ih =>
      change (notifyAll rest).run ((notify callback).run adapter).2 = _
      rw [ih, List.map_cons, List.reverse_cons, List.append_assoc]
      rfl

/-- The failures are counted, and the answer goes to the caller as it is. -/
theorem settle_run (answer : Answer) (adapter : Adapter σ) :
    (if answer.isSuccess = true then pure answer
      else do
        count fun counters => { counters with failures := counters.failures + 1 }
        pure answer : AdapterM σ Answer).run adapter =
      (answer, { adapter with
        counters := { adapter.counters with
          failures := adapter.counters.failures + if answer.isSuccess then 0 else 1 } }) := by
  by_cases hsuccess : answer.isSuccess = true
  · rw [if_pos hsuccess, if_pos hsuccess]
    rfl
  · rw [if_neg hsuccess, if_neg hsuccess]
    rfl

variable [Environment σ]

/-- The transport is asked once, and the mask is stored if it has accepted it. -/
theorem register_run (handle : Handle) (mask : Mask NativeEvent) (adapter : Adapter σ) :
    let registration := Environment.register handle mask adapter.isMaster adapter.surroundings
    (register handle mask).run adapter =
      ((), { adapter with
        surroundings := registration.2
        state := { adapter.state with
          registeredMask := if registration.1 then mask else adapter.state.registeredMask }
        shared := { adapter.shared with
          recorder := adapter.shared.recorder.observeAll
            (if registration.1 then [.registration mask] else []) }
        history :=
          .registered handle mask adapter.isMaster registration.1 :: adapter.history }) := by
  intro registration
  have hasked : (registerOn handle mask).run adapter =
      (registration.1, { adapter with
        surroundings := registration.2
        history :=
          .registered handle mask adapter.isMaster registration.1 :: adapter.history }) := rfl
  unfold register
  rw [run_bind, hasked]
  cases registration.1 <;> rfl

theorem register_standing (handle : Handle) (mask : Mask NativeEvent) (adapter : Adapter σ) :
    ((register handle mask).run adapter).2.standing =
      adapter.standing.register handle mask ((registerOn handle mask).run adapter).1 := by
  have hasked : ((registerOn handle mask).run adapter).1 =
      (Environment.register handle mask adapter.isMaster adapter.surroundings).1 := rfl
  rw [register_run, hasked]
  cases (Environment.register handle mask adapter.isMaster adapter.surroundings).1 <;> rfl

/-- The request goes to the end of the queue. The first one has the engine state registered before,
unless it is. -/
theorem queueReplay_run (handle : Handle) (request : Request) (adapter : Adapter σ) :
    let listens := adapter.replays.isEmpty && !adapter.state.registeredMask.has .engineState
    let mask := adapter.state.registeredMask ∪ .single .engineState
    let registration := Environment.register handle mask adapter.isMaster adapter.surroundings
    let accepted := listens && registration.1
    (queueReplay handle request).run adapter =
      ((), { adapter with
        surroundings := if listens then registration.2 else adapter.surroundings
        state := { adapter.state with
          registeredMask := if accepted then mask else adapter.state.registeredMask }
        shared := { adapter.shared with
          recorder := adapter.shared.recorder.observeAll
            ((if accepted then [.registration mask] else []) ++ [.replayQueued request.id]) }
        replays := adapter.replays ++ [request]
        counters := { adapter.counters with
          replaysQueued := adapter.counters.replaysQueued + 1 }
        history :=
          (if listens then [.registered handle mask adapter.isMaster registration.1] else []) ++
            adapter.history }) := by
  intro listens mask registration accepted
  unfold queueReplay
  rw [run_bind, run_get]
  dsimp only
  by_cases hlistens : listens = true
  · have haccepted : accepted = registration.1 := by simp only [accepted, hlistens, Bool.true_and]
    rw [haccepted, if_pos hlistens, if_pos hlistens, if_pos hlistens, run_bind, register_run]
    cases registration.1 <;> rfl
  · have hrefused : accepted = false := by simp [accepted, hlistens]
    rw [hrefused, if_neg hlistens, if_neg hlistens, if_neg hlistens]
    rfl

theorem queueReplay_standing (handle : Handle) (request : Request) (adapter : Adapter σ) :
    ∃ accepted, ((queueReplay handle request).run adapter).2.standing =
      (adapter.standing.watch handle accepted).keep request := by
  let registration := Environment.register handle
    (adapter.state.registeredMask ∪ .single .engineState) adapter.isMaster adapter.surroundings
  refine ⟨registration.1, ?_⟩
  have hrun := queueReplay_run handle request adapter
  unfold Standing.watch
  by_cases hfirst : (adapter.replays.isEmpty &&
      !adapter.state.registeredMask.has .engineState) = true
  · simp only [hfirst, if_true, Bool.true_and] at hrun
    rw [hrun, Adapter.standing_replays, Adapter.standing_state, if_pos hfirst]
    change _ = (adapter.standing.register handle _ registration.1).keep request
    cases registration.1 <;> rfl
  · simp only [hfirst, Bool.false_and] at hrun
    rw [hrun, Adapter.standing_replays, Adapter.standing_state, if_neg hfirst]
    rfl

theorem requestOn_run (handle : Handle) (request : Request) (adapter : Adapter σ) :
    let replied := Environment.request handle request adapter.config.requestTimeoutMs
      adapter.surroundings
    (requestOn handle request).run adapter =
      (replied.1, { adapter with
        surroundings := replied.2
        history := .requested handle request replied.1.answer :: adapter.history }) := rfl

/-- Without a connection nothing happens. -/
theorem exchange_closed (request : Request) {adapter : Adapter σ}
    (hclosed : adapter.state.handle = none) :
    (exchange request).run adapter = (.error .invalidHandle, adapter) := by
  unfold exchange
  rw [run_bind, run_get, hclosed]
  rfl

/-- The transport is asked once. The caller and the queue go by what has come back, and what is
measured and counted besides hangs on neither. -/
theorem exchange_run (request : Request) {adapter : Adapter σ} {handle : Handle} {reply : Reply}
    {surroundings : σ} (hopen : adapter.state.handle = some handle)
    (hreply : Environment.request handle request adapter.config.requestTimeoutMs
      adapter.surroundings = (reply, surroundings)) :
    let answer := reply.answer.getD (.error .timeout)
    let heard := adapter.hear handle request reply surroundings
    let kept := if answer.isBusy then ((queueReplay handle request).run heard).2 else heard
    (exchange request).run adapter =
      (answer, { kept with
        counters := { kept.counters with
          failures := kept.counters.failures + if answer.isSuccess then 0 else 1 } }) := by
  intro answer heard kept
  let settle : AdapterM σ Answer :=
    if answer.isSuccess = true then pure answer
    else do
      count fun counters => { counters with failures := counters.failures + 1 }
      pure answer
  have hasked := requestOn_run handle request adapter
  rw [hreply] at hasked
  have hrun : (exchange request).run adapter =
      (if answer.isBusy = true then queueReplay handle request >>= fun _ => settle
        else settle).run heard := by
    unfold exchange
    rw [run_bind, run_get]
    dsimp only
    rw [hopen]
    dsimp only
    rw [run_bind, hasked]
    rfl
  rw [hrun]
  by_cases hbusy : answer.isBusy = true
  · rw [if_pos hbusy, run_bind, show kept = _ from if_pos hbusy]
    exact settle_run answer ((queueReplay handle request).run heard).2
  · rw [if_neg hbusy, show kept = _ from if_neg hbusy]
    exact settle_run answer heard

/-- Without a connection nothing happens. Otherwise the caller and the queue go by what came back
for the request. -/
theorem exchange_standing (request : Request) (adapter : Adapter σ) :
    ∃ answer accepted, ((exchange request).run adapter).2.standing =
        adapter.standing.exchange request answer accepted ∧
      (adapter.state.handle.isSome →
        ((exchange request).run adapter).1 = answer.getD (.error .timeout)) := by
  unfold Standing.exchange
  rw [Adapter.standing_state]
  cases hopen : adapter.state.handle with
  | none =>
      rw [exchange_closed request hopen]
      exact ⟨none, false, rfl, by simp⟩
  | some handle =>
      rcases hreply : Environment.request handle request adapter.config.requestTimeoutMs
        adapter.surroundings with ⟨reply, surroundings⟩
      have hrun := exchange_run request hopen hreply
      dsimp only at hrun ⊢
      rw [hrun]
      by_cases hbusy : reply.answer.any Answer.isBusy = true
      · obtain ⟨accepted, hqueued⟩ := queueReplay_standing handle request
          (adapter.hear handle request reply surroundings)
        refine ⟨reply.answer, accepted, ?_, fun _ => rfl⟩
        rw [if_pos hbusy, if_pos (by rwa [Answer.isBusy_getD])]
        exact hqueued
      · refine ⟨reply.answer, false, ?_, fun _ => rfl⟩
        rw [if_neg hbusy, if_neg (by rwa [Answer.isBusy_getD])]
        rfl

theorem post_standing (request : Request) (adapter : Adapter σ) :
    ((post request).run adapter).2.standing =
      adapter.standing.post request ((post request).run adapter).1 := by
  unfold post Standing.post
  simp only [run_bind, run_get, Adapter.standing_state]
  cases adapter.state.handle <;> rfl

theorem mapM_post_standing (pending : List Request) (adapter : Adapter σ) :
    ((pending.mapM post).run adapter).1.length = pending.length ∧
      ((pending.mapM post).run adapter).2.standing =
        adapter.standing.postAll (pending.zip ((pending.mapM post).run adapter).1) := by
  induction pending generalizing adapter with
  | nil => exact ⟨rfl, rfl⟩
  | cons request rest ih =>
      obtain ⟨hlength, hstanding⟩ := ih ((post request).run adapter).2
      rw [List.mapM_cons, run_bind, run_bind, run_pure]
      refine ⟨congrArg (· + 1) hlength, ?_⟩
      rw [hstanding, post_standing]
      rfl

theorem drainReplays_standing (adapter : Adapter σ) :
    ∃ results, results.length = adapter.replays.length ∧
      (drainReplays.run adapter).2.standing = adapter.standing.drain results := by
  unfold drainReplays
  rw [run_bind, run_get]
  by_cases hempty : adapter.replays.isEmpty = true
  · have hnone : adapter.standing.replays = [] := by simpa using hempty
    refine ⟨[], congrArg List.length hnone.symm, ?_⟩
    rw [if_pos hempty, Standing.drain_nil hnone]
    rfl
  · rw [if_neg hempty]
    obtain ⟨hlength, hstanding⟩ :=
      mapM_post_standing adapter.replays { adapter with replays := [] }
    refine ⟨_, hlength, ?_⟩
    unfold Standing.drain
    change (((adapter.replays.mapM post).run
      { adapter with replays := [] }).2.standing).countDrained _ = _
    rw [hstanding]
    rfl

theorem subscribe_standing (requested : Mask AdapterEvent) (adapter : Adapter σ) :
    ∃ accepted, ((subscribe requested).run adapter).2.standing =
      adapter.standing.subscribe requested accepted := by
  have hnative : registrationMask (requested \ adapter.config.excludedEvents)
      adapter.state.inSession adapter.batchedBreach = adapter.standing.nativeFor requested := rfl
  unfold subscribe Standing.subscribe
  rw [run_bind, run_get]
  dsimp only
  rw [hnative, Adapter.standing_state]
  by_cases hsame : adapter.standing.nativeFor requested = adapter.state.registeredMask
  · rw [if_neg (not_not_intro hsame)]
    cases adapter.state.handle with
    | none => exact ⟨false, rfl⟩
    | some handle =>
        refine ⟨false, ?_⟩
        dsimp only
        rw [if_pos hsame]
        rfl
  · rw [if_pos hsame]
    cases adapter.state.handle with
    | none => exact ⟨false, rfl⟩
    | some handle =>
        refine ⟨((registerOn handle (adapter.standing.nativeFor requested)).run adapter).1, ?_⟩
        dsimp only
        rw [if_neg hsame, run_bind, setState_standing, register_standing]
        rfl

theorem resubscribe_standing (adapter : Adapter σ) :
    ∃ accepted, (resubscribe.run adapter).2.standing =
      adapter.standing.subscribe adapter.state.requestedMask accepted := by
  unfold resubscribe
  rw [run_bind, run_get]
  exact subscribe_standing adapter.state.requestedMask adapter

end AdapterM

end GnssAdapter
