import GnssAdapter.Proofs.Walk.Command

/-!
Every event comes to a sequence of steps.
-/

namespace GnssAdapter

namespace AdapterM

open Standing

variable {σ : Type} [Environment σ]

/-- An engine that turns off is told to the location engine; then the events are registered anew and
the kept requests sent, in this order. -/
theorem handleEvent_turnOff (adapter : Adapter σ) :
    ∃ accepted results, results.length = adapter.replays.length ∧
      ((handleEvent (.indication (.engineState .off))).run adapter).2.standing =
        adapter.standing.turnOff accepted results := by
  let told := ((do
    record (.arrived (.indication (.engineState .off)))
    count fun counters => { counters with indications := counters.indications + 1 }
    observe (.indication .engineState)
    setState fun state => { state with engineOn := false }
    notifyAll [.status .sessionEnd, .status .engineOff] : AdapterM σ Unit).run adapter).2
  obtain ⟨accepted, hsubscribed⟩ := resubscribe_standing told
  obtain ⟨results, hall, hdrained⟩ := drainReplays_standing (resubscribe.run told).2
  refine ⟨accepted, results, ?_, ?_⟩
  · rw [hall, ← Adapter.standing_replays, hsubscribed, subscribe_replays]
    rfl
  · change (drainReplays.run (resubscribe.run told).2).2.standing = _
    rw [hdrained, hsubscribed]
    rfl

theorem handleEvent_lose (adapter : Adapter σ) :
    ((handleEvent (.error .serviceUnavailable)).run adapter).2.standing =
      adapter.standing.lose := rfl

theorem handleQuiet_walks {event : TransportEvent} (hquiet : event.isQuiet = true) :
    Walks (handleEvent event : AdapterM σ Unit) := by
  have harrived : Walks (record (.arrived event) : AdapterM σ Unit) :=
    .of_step fun adapter => .arrive adapter.standing event hquiet
  cases event with
  | indication indication =>
      exact harrived.bind fun _ => (Routine.handleIndication indication hquiet).walks
  | response reply => exact harrived.bind fun _ => (Plain.handleReply reply).hroutine.walks
  | error failure =>
      cases failure with
      | serviceUnavailable => exact absurd hquiet (by decide)
      | other => exact harrived.bind fun _ => .pure _

theorem handleEvent_walks (event : TransportEvent) :
    Walks (handleEvent event : AdapterM σ Unit) := by
  by_cases hquiet : event.isQuiet = true
  · exact handleQuiet_walks hquiet
  · rcases event.eq_of_not_isQuiet hquiet with rfl | rfl
    · refine .of_step fun adapter => ?_
      obtain ⟨accepted, results, hall, hstanding⟩ := handleEvent_turnOff adapter
      rw [hstanding]
      exact .turnOff _ accepted results hall
    · refine .of_step fun adapter => ?_
      rw [handleEvent_lose]
      exact .lose _

end AdapterM

end GnssAdapter
