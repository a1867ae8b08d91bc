import GnssAdapter.Proofs.Routine

/-!
Every command comes to a sequence of steps.
-/

namespace GnssAdapter

namespace AdapterM

open Standing

variable {σ : Type} [Environment σ]

theorem closeConnection_standing (adapter : Adapter σ) :
    (closeConnection.run adapter).2.standing =
      adapter.standing.disconnect (closeConnection.run adapter).1 := by
  unfold closeConnection Standing.disconnect
  simp only [run_bind, run_get, Adapter.standing_state]
  cases adapter.state.handle <;> rfl

theorem query_standing (request : Request) (adapter : Adapter σ) :
    ((query request).run adapter).2.standing =
      adapter.standing.post request ((post request).run adapter).1 := by
  rw [← post_standing]
  unfold query
  rw [run_bind]
  cases ((post request).run adapter).1 <;> rfl

/-- A session that is stopped is given up after the request, whatever becomes of that. -/
theorem stopFix_standing (adapter : Adapter σ) :
    ∃ accepted, (stopFix.run adapter).2.standing =
      ((adapter.standing.post (.stop sessionId) ((post (.stop sessionId)).run adapter).1).stop
        accepted).adjust (.keepRaw {}) := by
  have hposted := query_standing (.stop sessionId) adapter
  unfold stopFix Standing.stop
  rw [run_bind, ← hposted]
  generalize (query (.stop sessionId)).run adapter = queried
  obtain ⟨result, queried⟩ := queried
  have hstopped : ((setState fun state =>
      { state with inSession := false, powerMode := none }).run queried).2.standing =
        queried.standing.adjust .stopSession := rfl
  rw [run_bind]
  generalize (setState fun state =>
    { state with inSession := false, powerMode := none }).run queried = stopped at hstopped ⊢
  obtain ⟨_, stopped⟩ := stopped
  have hengine : queried.standing.state.engineOn = stopped.state.engineOn :=
    congrArg (·.state.engineOn) hstopped.symm
  have hrequested : queried.standing.state.requestedMask = stopped.state.requestedMask :=
    congrArg (·.state.requestedMask) hstopped.symm
  dsimp only at hstopped ⊢
  rw [run_bind, run_get, hengine, hrequested, ← hstopped]
  by_cases hon : stopped.state.engineOn = true
  · simp only [if_pos hon]
    exact ⟨false, rfl⟩
  · obtain ⟨accepted, hsubscribed⟩ := resubscribe_standing stopped
    simp only [if_neg hon]
    refine ⟨accepted, ?_⟩
    rw [run_bind, ← hsubscribed]
    rfl

namespace Walks

theorem closeConnection :
    Walks (closeConnection : AdapterM σ (Except ClientError Unit)) := by
  refine of_step fun adapter => ?_
  rw [closeConnection_standing]
  exact .disconnect _ _

theorem startFix (criteria : FixCriteria) :
    Walks (startFix criteria : AdapterM σ (Except LocationError Unit)) := by
  have hmarked : Walks (AdapterM.setState fun state =>
      { state with inSession := true, sessionFresh := true } : AdapterM σ Unit) :=
    of_step fun adapter => .start adapter.standing
  exact hmarked.bind fun _ => (Routine.startMarked criteria).walks

theorem stopFix : Walks (stopFix : AdapterM σ (Except LocationError Unit)) := by
  intro adapter
  obtain ⟨accepted, hstanding⟩ := stopFix_standing adapter
  rw [hstanding]
  exact .head (.post ..) (.head (.stop ..) (.single (.adjust _ (.keepRaw {}) rfl)))

theorem changeCriteria (criteria : FixCriteria) :
    Walks (changeCriteria criteria : AdapterM σ (Except LocationError Unit)) := by
  refine get.bind fun adapter => ?_
  split
  · exact startFix criteria
  · exact pure _

end Walks

/-! ### Connecting -/

/-- Of the measurement events alone, the subscription asks for measurements of all constellations
and for no polynomials, whoever has master rights. -/
theorem subscribeConstellations_measurement (adapter : Adapter σ) :
    (subscribeConstellations (.single .measurementReport)).run adapter =
      (do
        let answer ← exchange measurementProbe
        return answer.isAccepted).run adapter := by
  have hmeasurement :
      (Mask.single NativeEvent.measurementReport).has .measurementReport = true := by decide
  have hpolynomial :
      (Mask.single NativeEvent.measurementReport).has .polynomialReport = false := by decide
  unfold subscribeConstellations measurementProbe
  simp only [run_bind, run_get, hmeasurement, hpolynomial, Bool.true_or]
  rfl

theorem probeMessages_standing {handle : Handle} (adapter : Adapter σ)
    (hopen : adapter.state.handle = some handle) :
    ∃ result, (probeMessages.run adapter).2.standing =
      adapter.standing.log (.probed handle probedMessages result) := by
  refine ⟨((probeOn handle probedMessages).run adapter).1, ?_⟩
  change _ = ((probeOn handle probedMessages).run adapter).2.standing
  unfold probeMessages
  simp only [run_bind, run_get, hopen]
  cases ((probeOn handle probedMessages).run adapter).1 <;> rfl

theorem probeMeasurement_standing {handle : Handle} (adapter : Adapter σ)
    (hopen : adapter.state.handle = some handle) :
    ∃ answer accepted,
      (probeMeasurement.run adapter).2.standing = adapter.standing.mark answer accepted ∧
        (probeMeasurement.run adapter).1 = answer.any Answer.isAccepted := by
  obtain ⟨answer, accepted, hstanding, hanswer⟩ := exchange_standing measurementProbe adapter
  have hvalue := hanswer (by rw [hopen]; rfl)
  refine ⟨answer, accepted, ?_⟩
  unfold probeMeasurement Standing.mark
  rw [run_bind, subscribeConstellations_measurement, run_bind, run_pure, hvalue,
    Answer.isAccepted_getD, ← hstanding]
  cases answer.any Answer.isAccepted <;> exact ⟨rfl, rfl⟩

/-- With a connection, the question whether the engine measures and the one after it are one
step. -/
theorem probe_standing {handle : Handle} (adapter : Adapter σ)
    (hopen : adapter.state.handle = some handle) :
    ∃ answer accepted result,
      (probeMessages.run (probeMeasurement.run adapter).2).2.standing =
        adapter.standing.measure handle answer accepted probedMessages result := by
  obtain ⟨answer, accepted, hmarked, -⟩ := probeMeasurement_standing adapter hopen
  have hstill : (probeMeasurement.run adapter).2.state.handle = some handle := by
    rw [← Adapter.standing_state, hmarked, Standing.mark_handle]
    exact hopen
  obtain ⟨result, hprobed⟩ := probeMessages_standing _ hstill
  refine ⟨answer, accepted, result, ?_⟩
  rw [hprobed, hmarked]
  rfl

theorem claimMaster_standing {handle : Handle} (adapter : Adapter σ)
    (hopen : adapter.state.handle = some handle) :
    ∃ answer accepted, (claimMaster.run adapter).2.standing =
      adapter.standing.claim answer accepted := by
  obtain ⟨answer, accepted, hstanding, hanswer⟩ :=
    exchange_standing (.registerMasterClient masterKey) adapter
  have hvalue := hanswer (by rw [hopen]; rfl)
  refine ⟨answer, accepted, ?_⟩
  unfold claimMaster
  rw [run_bind, setState_standing, hstanding, hvalue]
  rfl

/-- Up to the question about messages, a master that has connected goes through one step. -/
theorem introduce_standing {handle : Handle} {standing : Standing} (adapter : Adapter σ)
    (hconnected : adapter.standing = standing.connect handle) :
    ∃ claimed probed claimAccepted probeAccepted result,
      (probeMessages.run (probeMeasurement.run (claimMaster.run adapter).2).2).2.standing =
        standing.introduce handle claimed probed claimAccepted probeAccepted probedMessages
          result := by
  have hopen : adapter.state.handle = some handle := congrArg (·.state.handle) hconnected
  obtain ⟨claimed, claimAccepted, hclaimed⟩ := claimMaster_standing adapter hopen
  have hstill : (claimMaster.run adapter).2.state.handle = some handle := by
    rw [← Adapter.standing_state, hclaimed]
    exact (Standing.claim_handle ..).trans hopen
  obtain ⟨probed, probeAccepted, result, hprobed⟩ := probe_standing _ hstill
  refine ⟨claimed, probed, claimAccepted, probeAccepted, result, ?_⟩
  rw [hprobed, hclaimed, hconnected]
  rfl

theorem negotiate_steps {handle : Handle} {standing : Standing} (adapter : Adapter σ)
    (hclosed : standing.state.handle = none) (hmaster : standing.isMaster = true)
    (hconnected : adapter.standing = standing.connect handle) :
    Steps standing (negotiate.run adapter).2.standing := by
  obtain ⟨claimed, probed, claimAccepted, probeAccepted, result, hintroduced⟩ :=
    introduce_standing adapter hconnected
  have hfirst : Step standing
      (probeMessages.run (probeMeasurement.run (claimMaster.run adapter).2).2).2.standing := by
    rw [hintroduced]
    exact .introduce _ handle hclosed hmaster claimed probed claimAccepted probeAccepted _ result
  unfold negotiate
  rw [run_bind, run_bind, run_bind]
  exact .head hfirst ((Plain.publishFeatures _ _).hroutine.walks _)

/-- What connecting came to, up to the negotiation. -/
theorem connect_standing (adapter : Adapter σ) :
    (connect.run adapter).2.standing =
      adapter.standing.log (.connected (connect.run adapter).1) := rfl

/-- Without a connection, connecting fails, or succeeds, and a master negotiates. -/
theorem ensureConnected_closed (adapter : Adapter σ) (hclosed : adapter.state.handle = none) :
    (∃ error, (connect.run adapter).1 = .error error ∧
        (ensureConnected.run adapter).1 = .error error ∧
        (ensureConnected.run adapter).2.standing = adapter.standing.refuse error) ∨
      ∃ handle connected, (connect.run adapter).1 = .ok handle ∧
        connected.standing = adapter.standing.connect handle ∧
        (adapter.standing.isMaster = true ∧
            ensureConnected.run adapter = (.ok (), (negotiate.run connected).2) ∨
          adapter.standing.isMaster = false ∧
            ensureConnected.run adapter = (.ok (), connected)) := by
  unfold ensureConnected
  rw [run_bind, run_get, if_neg (by rw [hclosed]; exact Bool.false_ne_true), run_bind]
  have hlogged := connect_standing adapter
  generalize connect.run adapter = attempted at hlogged ⊢
  obtain ⟨result, attempted⟩ := attempted
  cases result with
  | error error =>
      refine .inl ⟨error, rfl, rfl, ?_⟩
      unfold Standing.refuse
      rw [← hlogged]
      rfl
  | ok handle =>
      have hconnected : ((setState fun state =>
          { state with handle := some handle }).run attempted).2.standing =
            adapter.standing.connect handle := by
        rw [setState_standing, hlogged]
        rfl
      rw [run_bind]
      generalize (setState fun state =>
        { state with handle := some handle }).run attempted = connected at hconnected ⊢
      obtain ⟨_, connected⟩ := connected
      have hsame : connected.isMaster = adapter.standing.isMaster :=
        congrArg Standing.isMaster hconnected
      refine .inr ⟨handle, connected, rfl, hconnected, ?_⟩
      rw [run_bind, run_get]
      by_cases hmaster : connected.isMaster = true
      · rw [if_pos hmaster]
        exact .inl ⟨hsame.symm.trans hmaster, rfl⟩
      · rw [if_neg hmaster]
        exact .inr ⟨by rwa [← hsame, ← Bool.not_eq_true], rfl⟩

/-- An open connection is kept, and one is made otherwise. -/
theorem ensureConnected_cases (adapter : Adapter σ) :
    (adapter.state.handle ≠ none ∧ ensureConnected.run adapter = (.ok (), adapter)) ∨
      adapter.state.handle = none ∧
        ((∃ error, (ensureConnected.run adapter).1 = .error error ∧
            (ensureConnected.run adapter).2.standing = adapter.standing.refuse error) ∨
          ∃ handle connected, connected.standing = adapter.standing.connect handle ∧
            (adapter.standing.isMaster = true ∧
                ensureConnected.run adapter = (.ok (), (negotiate.run connected).2) ∨
              adapter.standing.isMaster = false ∧
                ensureConnected.run adapter = (.ok (), connected))) := by
  by_cases hclosed : adapter.state.handle = none
  · refine .inr ⟨hclosed, ?_⟩
    rcases ensureConnected_closed adapter hclosed with
      ⟨error, -, hrefused⟩ | ⟨handle, connected, -, hmade⟩
    · exact .inl ⟨error, hrefused⟩
    · exact .inr ⟨handle, connected, hmade⟩
  · refine .inl ⟨hclosed, ?_⟩
    unfold ensureConnected
    rw [run_bind, run_get, if_pos (Option.isSome_iff_ne_none.mpr hclosed)]
    rfl

theorem Walks.ensureConnected :
    Walks (ensureConnected : AdapterM σ (Except ClientError Unit)) := by
  intro adapter
  rcases ensureConnected_cases adapter with
    ⟨-, hkept⟩ | ⟨hclosed, ⟨error, -, hrefused⟩ |
      ⟨handle, connected, hconnected, ⟨hmaster, hnegotiated⟩ | ⟨hclient, hdone⟩⟩⟩
  · rw [hkept]
  · rw [hrefused]
    exact .single (.refuse _ error hclosed)
  · rw [hnegotiated]
    exact negotiate_steps connected hclosed hmaster hconnected
  · rw [hdone, hconnected]
    exact .single (.connect _ handle hclosed hclient)

theorem Walks.openConnection (requested : Mask AdapterEvent) :
    Walks (openConnection requested : AdapterM σ (Except ClientError Unit)) := by
  refine Walks.ensureConnected.bind fun result => ?_
  cases result with
  | error error => exact pure _
  | ok => exact get.bind fun connected =>
      (Plain.changeEvents _).hroutine.walks.bind fun _ => pure _

/-! ### Commands -/

theorem execute_walks (command : Command) : Walks (execute command : AdapterM σ CommandResult) := by
  by_cases hroutine : command.isRoutine = true
  · exact (Routine.execute hroutine).walks
  · cases command with
    | connect events => exact (Walks.openConnection events).map _
    | disconnect => exact Walks.closeConnection.map _
    | startFix criteria => exact (Walks.startFix criteria).map _
    | stopFix => exact Walks.stopFix.map _
    | changeCriteria criteria => exact (Walks.changeCriteria criteria).map _
    | _ => exact absurd rfl hroutine

end AdapterM

end GnssAdapter
