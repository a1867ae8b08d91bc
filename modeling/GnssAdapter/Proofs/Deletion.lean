import GnssAdapter.Proofs.Exchange
import GnssAdapter.Proofs.Learning
import GnssAdapter.Proofs.Relaying

/-!
The deletion of aiding data. An engine is asked to delete service data until it turns out not to know
of that. The call that finds out sends the older deletion as well; from then on, whatever becomes of
the connection, each call sends the older deletion alone.
-/

namespace GnssAdapter

/-- The answer to a deletion, of either kind, is waited for. -/
def Entry.asksDeletion : Entry → Bool
  | .requested _ (.deleteServiceData _) _ | .requested _ (.deleteAssistData _) _ => true
  | _ => false

theorem Entry.lesson?_of_asksDeletion {entry : Entry} (hasks : entry.asksDeletion = true) :
    entry.lesson? = some .deletion := by
  unfold asksDeletion at hasks
  split at hasks
  · rfl
  · rfl
  · cases hasks

theorem Answer.deniesServiceDeletion_getD (answer : Option Answer) :
    (answer.getD (.error .timeout)).deniesServiceDeletion =
      answer.any Answer.deniesServiceDeletion := by
  cases answer <;> rfl

theorem Answer.exists_of_deniesServiceDeletion {answer : Option Answer}
    (hdenied : answer.any Answer.deniesServiceDeletion = true) :
    ∃ error, (error = .unsupported ∨ error = .internal) ∧ answer = some (.error error) := by
  rcases answer with - | (error | response)
  · cases hdenied
  · refine ⟨error, ?_, rfl⟩
    cases error with
    | unsupported => exact .inl rfl
    | internal => exact .inr rfl
    | _ => cases hdenied
  · cases hdenied

namespace Standing

/-- What deleting aiding data comes to on an open connection, for the answers to both requests. -/
def erase (standing : Standing) (data : AidingData) (service assist : Option Answer)
    (accepted again : Bool) : Standing :=
  if standing.state.serviceDeletionKnown then
    let asked := standing.exchange (.deleteServiceData data.serviceDeletion) service accepted
    if service.any Answer.deniesServiceDeletion then
      (asked.adjust .forgetServiceDeletion).exchange (.deleteAssistData data.assistDeletion) assist
        again
    else asked
  else standing.exchange (.deleteAssistData data.assistDeletion) assist again

theorem exchange_serviceDeletionKnown (standing : Standing) (request : Request)
    (answer : Option Answer) (accepted : Bool) :
    (standing.exchange request answer accepted).state.serviceDeletionKnown =
      standing.state.serviceDeletionKnown := by
  rw [exchange_state]

/-- The deletion of service data is sent while it is believed to be known, and the older deletion
once it is not. -/
theorem erase_sent {standing : Standing} {handle : Handle}
    (hopen : standing.state.handle = some handle) (data : AidingData)
    (service assist : Option Answer) (accepted again : Bool) :
    let erased := standing.erase data service assist accepted again
    let asksService := Entry.requested handle (.deleteServiceData data.serviceDeletion) service
    let asksAssist := Entry.requested handle (.deleteAssistData data.assistDeletion) assist
    ∃ entries, erased.history = entries ++ standing.history ∧
      ((standing.state.serviceDeletionKnown = true ∧
          service.any Answer.deniesServiceDeletion = false ∧
          entries.filter Entry.isSent = [asksService] ∧
          erased.state.serviceDeletionKnown = true) ∨
        (standing.state.serviceDeletionKnown = true ∧
          service.any Answer.deniesServiceDeletion = true ∧
          entries.filter Entry.isSent = [asksAssist, asksService] ∧
          erased.state.serviceDeletionKnown = false) ∨
        (standing.state.serviceDeletionKnown = false ∧
          entries.filter Entry.isSent = [asksAssist] ∧
          erased.state.serviceDeletionKnown = false)) := by
  intro erased asksService asksAssist
  have herased : erased = standing.erase data service assist accepted again := rfl
  unfold erase at herased
  by_cases hknown : standing.state.serviceDeletionKnown = true
  · obtain ⟨first, hfirst, hservice⟩ :=
      exchange_sent hopen (.deleteServiceData data.serviceDeletion) service accepted
    rw [if_pos hknown] at herased
    by_cases hdenied : service.any Answer.deniesServiceDeletion = true
    · let asked := standing.exchange (.deleteServiceData data.serviceDeletion) service accepted
      have hstill : (asked.adjust .forgetServiceDeletion).state.handle = some handle :=
        ((adjust_handle ..).trans (exchange_handle ..)).trans hopen
      obtain ⟨second, hsecond, hassist⟩ :=
        exchange_sent hstill (.deleteAssistData data.assistDeletion) assist again
      rw [if_pos hdenied] at herased
      refine ⟨second ++ first, ?_, .inr (.inl ⟨hknown, hdenied, ?_, ?_⟩)⟩
      · rw [herased, hsecond, List.append_assoc]
        exact congrArg (second ++ ·) hfirst
      · rw [List.filter_append, hassist, hservice]
        rfl
      · rw [herased, exchange_serviceDeletionKnown]
        rfl
    · rw [if_neg hdenied] at herased
      refine ⟨first, ?_, .inl ⟨hknown, by simpa using hdenied, hservice, ?_⟩⟩
      · rw [herased, hfirst]
      · rw [herased, exchange_serviceDeletionKnown, hknown]
  · obtain ⟨entries, hentries, hassist⟩ :=
      exchange_sent hopen (.deleteAssistData data.assistDeletion) assist again
    rw [if_neg hknown] at herased
    rw [Bool.not_eq_true] at hknown
    refine ⟨entries, ?_, .inr (.inr ⟨hknown, hassist, ?_⟩)⟩
    · rw [herased, hentries]
    · rw [herased, exchange_serviceDeletionKnown, hknown]

end Standing

namespace AdapterM

variable {σ : Type} [Environment σ]

/-- Without a connection nothing is sent and nothing is found out. -/
theorem deleteAidingData_closed (data : AidingData) {adapter : Adapter σ}
    (hclosed : adapter.state.handle = none) :
    (deleteAidingData data).run adapter = (.error .generalFailure, adapter) := by
  unfold deleteAidingData complete
  rw [run_bind, run_get]
  split
  · rw [run_bind, exchange_closed _ hclosed]
    rfl
  · rw [run_bind, exchange_closed _ hclosed]
    rfl

theorem deleteAidingData_standing (data : AidingData) {adapter : Adapter σ}
    (hopen : adapter.state.handle.isSome) :
    ∃ service assist accepted again, ((deleteAidingData data).run adapter).2.standing =
      adapter.standing.erase data service assist accepted again := by
  have hassist (erased : Adapter σ) : ∃ assist again,
      ((complete (.deleteAssistData data.assistDeletion)).run erased).2.standing =
        erased.standing.exchange (.deleteAssistData data.assistDeletion) assist again := by
    obtain ⟨assist, again, hstanding, -⟩ :=
      exchange_standing (.deleteAssistData data.assistDeletion) erased
    exact ⟨assist, again, hstanding⟩
  unfold deleteAidingData Standing.erase
  rw [run_bind, run_get, Adapter.standing_state]
  by_cases hknown : adapter.state.serviceDeletionKnown = true
  · rw [if_pos hknown, run_bind]
    obtain ⟨service, accepted, hstanding, hanswer⟩ :=
      exchange_standing (.deleteServiceData data.serviceDeletion) adapter
    rw [hanswer hopen, Answer.deniesServiceDeletion_getD]
    by_cases hdenied : service.any Answer.deniesServiceDeletion = true
    · obtain ⟨assist, again, herased⟩ := hassist ((setState fun state =>
        { state with serviceDeletionKnown := false }).run
          ((exchange (.deleteServiceData data.serviceDeletion)).run adapter).2).2
      refine ⟨service, assist, accepted, again, ?_⟩
      rw [if_pos hdenied, if_pos hknown, if_pos hdenied, run_bind, herased, setState_standing,
        hstanding]
      rfl
    · refine ⟨service, none, accepted, false, ?_⟩
      rw [if_neg hdenied, if_pos hknown, if_neg hdenied]
      exact hstanding
  · rw [if_neg hknown]
    obtain ⟨assist, again, hstanding⟩ := hassist adapter
    refine ⟨none, assist, false, again, ?_⟩
    rw [if_neg hknown]
    exact hstanding

end AdapterM

/-! ### Calls -/

/-- A deletion of aiding data on an open connection, with what it sent. -/
structure DeletionCall where
  handle : Handle
  data : AidingData
  sent : List Entry

namespace DeletionCall

/-- The deletion of service data is sent alone, and the engine knows it as far as can be told. -/
def SendsService (call : DeletionCall) : Prop :=
  ∃ answer, answer.any Answer.deniesServiceDeletion = false ∧
    call.sent = [.requested call.handle (.deleteServiceData call.data.serviceDeletion) answer]

/-- The older deletion is sent alone. -/
def SendsAssist (call : DeletionCall) : Prop :=
  ∃ answer,
    call.sent = [.requested call.handle (.deleteAssistData call.data.assistDeletion) answer]

/-- The engine, or the transport, does not know the deletion of service data, and the older deletion
is sent after it. -/
def FallsBack (call : DeletionCall) : Prop :=
  ∃ error answer, (error = .unsupported ∨ error = .internal) ∧
    call.sent = [
      .requested call.handle (.deleteServiceData call.data.serviceDeletion) (some (.error error)),
      .requested call.handle (.deleteAssistData call.data.assistDeletion) answer]

end DeletionCall

namespace Adapter

open AdapterM

variable {σ : Type} [Environment σ] {adapter : Adapter σ} {action : AdapterAction}

def deletionCall? (adapter : Adapter σ) (action : AdapterAction) : Option DeletionCall :=
  match action with
  | .execute (.deleteAidingData data) =>
      adapter.state.handle.map fun handle => { handle, data, sent := adapter.sent action }
  | _ => none

/-- The deletions of aiding data in a run that found a connection open, the oldest first. -/
def deletionCalls (adapter : Adapter σ) : List AdapterAction → List DeletionCall
  | [] => []
  | action :: rest => (adapter.deletionCall? action).toList ++ (adapter.act action).deletionCalls rest

theorem deletionCall?_eq_some {call : DeletionCall}
    (hcall : adapter.deletionCall? action = some call) :
    ∃ data handle, action = .execute (.deleteAidingData data) ∧
      adapter.state.handle = some handle ∧ call = ⟨handle, data, adapter.sent action⟩ := by
  unfold deletionCall? at hcall
  split at hcall
  · rename_i data
    obtain ⟨handle, hopen, rfl⟩ := Option.map_eq_some_iff.mp hcall
    exact ⟨data, handle, rfl, hopen, rfl⟩
  · cases hcall

/-- As long as the deletion of service data is believed to be known, a call sends it, and sends the
older one as well if the belief turns out to be wrong; later calls send the older one alone. -/
theorem act_of_deletionCall {call : DeletionCall}
    (hcall : adapter.deletionCall? action = some call) :
    (adapter.state.serviceDeletionKnown = true ∧
      (call.SendsService ∧ (adapter.act action).state.serviceDeletionKnown = true ∨
        call.FallsBack ∧ (adapter.act action).state.serviceDeletionKnown = false)) ∨
    (adapter.state.serviceDeletionKnown = false ∧ call.SendsAssist ∧
      (adapter.act action).state.serviceDeletionKnown = false) := by
  obtain ⟨data, handle, rfl, hopen, rfl⟩ := deletionCall?_eq_some hcall
  obtain ⟨service, assist, accepted, again, hstanding⟩ :=
    deleteAidingData_standing data (Option.isSome_of_eq_some hopen)
  have hstart : adapter.standing.state.handle = some handle := hopen
  obtain ⟨entries, hgrown, hsent⟩ :=
    Standing.erase_sent hstart data service assist accepted again
  have hhistory : (adapter.act (.execute (.deleteAidingData data))).history =
      entries ++ adapter.history := (congrArg Standing.history hstanding).trans hgrown
  have hflag : (adapter.act (.execute (.deleteAidingData data))).state.serviceDeletionKnown =
      (adapter.standing.erase data service assist accepted again).state.serviceDeletionKnown :=
    congrArg (·.state.serviceDeletionKnown) hstanding
  unfold DeletionCall.SendsService DeletionCall.FallsBack DeletionCall.SendsAssist
  dsimp only
  rw [sent_eq hhistory, hflag]
  rcases hsent with ⟨hknown, hgranted, hsent, hafter⟩ | ⟨hknown, hdenied, hsent, hafter⟩ |
    ⟨hforgotten, hsent, hafter⟩
  · rw [hsent]
    exact .inl ⟨hknown, .inl ⟨⟨service, hgranted, rfl⟩, hafter⟩⟩
  · obtain ⟨error, hunknown, rfl⟩ := Answer.exists_of_deniesServiceDeletion hdenied
    rw [hsent]
    exact .inl ⟨hknown, .inr ⟨⟨error, assist, hunknown, rfl⟩, hafter⟩⟩
  · rw [hsent]
    exact .inr ⟨hforgotten, ⟨assist, rfl⟩, hafter⟩

/-! ### Everything else -/

theorem act_closed (data : AidingData) (hclosed : adapter.state.handle = none) :
    adapter.act (.execute (.deleteAidingData data)) = adapter :=
  congrArg Prod.snd (deleteAidingData_closed data hclosed)

theorem turnOff_serviceDeletionKnown (adapter : Adapter σ) :
    (adapter.act (.handle (.indication (.engineState .off)))).state.serviceDeletionKnown =
      adapter.state.serviceDeletionKnown := by
  obtain ⟨accepted, results, -, hturned⟩ := handleEvent_turnOff adapter
  have hstate : (adapter.act (.handle (.indication (.engineState .off)))).state =
      (adapter.standing.turnOff accepted results).state := congrArg Standing.state hturned
  rw [hstate]
  unfold Standing.turnOff
  rw [Standing.drain_state, Standing.subscribe_state]
  rfl

/-- What is neither a call on an open connection nor an engine that turns off has nothing to do with
deletions. -/
theorem act_skips (hother : adapter.deletionCall? action = none)
    (hon : action ≠ .handle (.indication (.engineState .off))) :
    adapter.standing.Skips .deletion (adapter.act action).standing := by
  cases action with
  | execute command =>
      cases command with
      | deleteAidingData data =>
          have hclosed : adapter.state.handle = none := Option.map_eq_none_iff.mp hother
          have hsame : adapter.act (.execute (.deleteAidingData data)) = adapter :=
            act_closed data hclosed
          rw [hsame]
          exact .refl _
      | _ => exact Omits.execute rfl adapter
  | handle event =>
      exact handleEvent_skips event adapter fun hoff => absurd (congrArg _ hoff) hon
  | pickCommand | dropEvent | share => exact .of_same rfl rfl

/-- What is not a call on an open connection waits for no deletion and finds out nothing. -/
theorem act_of_other (hother : adapter.deletionCall? action = none) :
    (adapter.act action).state.serviceDeletionKnown = adapter.state.serviceDeletionKnown ∧
      ∀ entry ∈ adapter.trace action, entry.asksDeletion = false := by
  by_cases hoff : action = .handle (.indication (.engineState .off))
  · -- Kept deletions are sent again, but nobody waits for what becomes of them.
    subst hoff
    refine ⟨adapter.turnOff_serviceDeletionKnown, fun entry hmem => ?_⟩
    obtain ⟨registration, results, hregistered, -, htrace⟩ := adapter.trace_turnOff
    rw [htrace] at hmem
    simp only [List.cons_append, List.mem_cons, List.mem_append, Option.mem_toList,
      List.mem_reverse] at hmem
    rcases hmem with rfl | rfl | rfl | hregistration | hposted
    · rfl
    · rfl
    · rfl
    · obtain ⟨_, _, _, -, rfl⟩ := hregistered entry hregistration
      rfl
    · obtain ⟨handle, request, result, rfl⟩ := Standing.exists_of_mem_postings hposted
      rfl
  · have hskips := act_skips hother hoff
    obtain ⟨entries, hhistory, hnone⟩ := hskips.hentries
    refine ⟨hskips.hlearnt, fun entry hmem => ?_⟩
    rw [trace_eq hhistory, List.mem_reverse] at hmem
    cases hasks : entry.asksDeletion with
    | false => rfl
    | true => exact absurd (Entry.lesson?_of_asksDeletion hasks) (hnone entry hmem)

/-- A deletion whose answer is not waited for is one that is sent again. -/
theorem turnOff_of_posted {handle : Handle} {request : Request} {result : Except ClientError Unit}
    (hdeletion : request.lesson? = some .deletion)
    (hposted : .posted handle request result ∈ adapter.trace action) :
    action = .handle (.indication (.engineState .off)) := by
  by_cases hoff : action = .handle (.indication (.engineState .off))
  · exact hoff
  · have hsent : .posted handle request result ∈ adapter.sent action :=
      List.mem_filter.mpr ⟨hposted, rfl⟩
    cases hcall : adapter.deletionCall? action with
    | none =>
        obtain ⟨entries, hhistory, hnone⟩ := (act_skips hcall hoff).hentries
        rw [trace_eq hhistory, List.mem_reverse] at hposted
        exact absurd hdeletion (hnone _ hposted)
    | some call =>
        obtain ⟨data, current, -, -, rfl⟩ := deletionCall?_eq_some hcall
        -- Whichever way a call goes, it waits for all that it sends.
        rcases act_of_deletionCall hcall with
          ⟨-, ⟨⟨service, -, hcalled⟩, -⟩ | ⟨⟨error, assist, -, hcalled⟩, -⟩⟩ |
            ⟨-, ⟨assist, hcalled⟩, -⟩
        all_goals
          dsimp only at hcalled
          rw [hcalled] at hsent
          simp at hsent

/-! ### Runs -/

theorem deletionCalls_of_forgotten (hforgotten : adapter.state.serviceDeletionKnown = false)
    (actions : List AdapterAction) :
    (∀ call ∈ adapter.deletionCalls actions, call.SendsAssist) ∧
      (adapter.run actions).state.serviceDeletionKnown = false := by
  induction actions generalizing adapter with
  | nil => exact ⟨List.forall_mem_nil _, hforgotten⟩
  | cons action rest ih =>
      rw [run_cons]
      unfold deletionCalls
      cases hcall : adapter.deletionCall? action with
      | none =>
          obtain ⟨hsame, -⟩ := act_of_other hcall
          exact ih (hsame.trans hforgotten)
      | some call =>
          rcases act_of_deletionCall hcall with ⟨hknown, -⟩ | ⟨-, hassist, hafter⟩
          · rw [hforgotten] at hknown
            cases hknown
          · obtain ⟨hrest, hend⟩ := ih hafter
            exact ⟨List.forall_mem_cons.mpr ⟨hassist, hrest⟩, hend⟩

/-- Either every call has sent the deletion of service data alone, or one has fallen back and all
calls since have sent the older deletion alone. -/
theorem deletionCalls_of_known (hknown : adapter.state.serviceDeletionKnown = true)
    (actions : List AdapterAction) :
    let calls := adapter.deletionCalls actions
    ((∀ call ∈ calls, call.SendsService) ∧
        (adapter.run actions).state.serviceDeletionKnown = true) ∨
      ((∃ before fallback after, calls = before ++ fallback :: after ∧
          (∀ call ∈ before, call.SendsService) ∧ fallback.FallsBack ∧
          ∀ call ∈ after, call.SendsAssist) ∧
        (adapter.run actions).state.serviceDeletionKnown = false) := by
  intro calls
  induction actions generalizing adapter with
  | nil => exact .inl ⟨List.forall_mem_nil _, hknown⟩
  | cons action rest ih =>
      rw [run_cons]
      have hcalls : calls =
          (adapter.deletionCall? action).toList ++ (adapter.act action).deletionCalls rest := rfl
      cases hcall : adapter.deletionCall? action with
      | none =>
          obtain ⟨hsame, -⟩ := act_of_other hcall
          rw [hcall] at hcalls
          rw [hcalls]
          exact ih (hsame.trans hknown)
      | some call =>
          rw [hcall] at hcalls
          have hfirst : calls = call :: (adapter.act action).deletionCalls rest := hcalls
          rcases act_of_deletionCall hcall with
            ⟨-, ⟨hservice, hstill⟩ | ⟨hfallback, hforgotten⟩⟩ | ⟨hforgotten, -⟩
          · -- The call is one more before whatever the rest of the run comes to.
            rw [hfirst]
            rcases ih hstill with ⟨hall, hend⟩ |
              ⟨⟨before, fallback, after, hsplit, hall, hfalls, hassist⟩, hend⟩
            · exact .inl ⟨List.forall_mem_cons.mpr ⟨hservice, hall⟩, hend⟩
            · refine .inr ⟨⟨call :: before, fallback, after, ?_,
                List.forall_mem_cons.mpr ⟨hservice, hall⟩, hfalls, hassist⟩, hend⟩
              rw [hsplit]
              rfl
          · obtain ⟨hassist, hend⟩ := deletionCalls_of_forgotten hforgotten rest
            exact .inr ⟨⟨[], call, (adapter.act action).deletionCalls rest, hfirst,
              List.forall_mem_nil _, hfallback, hassist⟩, hend⟩
          · rw [hknown] at hforgotten
            cases hforgotten

/-- An answer to a deletion is waited for only by the calls: to that of service data while it is
believed to be known, to the older one once it is not. -/
theorem serviceDeletionKnown_of_mem_trace {handle : Handle} {answer : Option Answer}
    (adapter : Adapter σ) (action : AdapterAction) :
    (∀ content, .requested handle (.deleteServiceData content) answer ∈ adapter.trace action →
        adapter.state.serviceDeletionKnown = true) ∧
      ∀ content, .requested handle (.deleteAssistData content) answer ∈ adapter.trace action →
        (adapter.act action).state.serviceDeletionKnown = false := by
  cases hcall : adapter.deletionCall? action with
  | none =>
      obtain ⟨-, hnone⟩ := act_of_other hcall
      exact ⟨fun content hmem => absurd (hnone _ hmem) Bool.noConfusion,
        fun content hmem => absurd (hnone _ hmem) Bool.noConfusion⟩
  | some call =>
      obtain ⟨data, current, -, -, rfl⟩ := deletionCall?_eq_some hcall
      have hsent {entry : Entry} (hmem : entry ∈ adapter.trace action)
          (hsends : entry.isSent = true) : entry ∈ adapter.sent action :=
        List.mem_filter.mpr ⟨hmem, hsends⟩
      rcases act_of_deletionCall hcall with ⟨hknown, ⟨⟨service, -, hservice⟩, -⟩ | ⟨-, hafter⟩⟩ |
        ⟨-, ⟨assist, hassist⟩, hafter⟩
      · refine ⟨fun _ _ => hknown, fun content hmem => ?_⟩
        have hone := hsent hmem rfl
        dsimp only at hservice
        rw [hservice] at hone
        simp at hone
      · exact ⟨fun _ _ => hknown, fun _ _ => hafter⟩
      · refine ⟨fun content hmem => ?_, fun _ _ => hafter⟩
        have hone := hsent hmem rfl
        dsimp only at hassist
        rw [hassist] at hone
        simp at hone

/-- Over the life of an adapter, the deletion of service data is believed to be known until one call
finds otherwise, and not again after that. Each call on an open connection sends one request, that
one apart, which sends both; a call without a connection does nothing. -/
theorem deletion_falls_back_once (config : Config) (surroundings : σ) (shared : Shared)
    (actions : List AdapterAction) :
    let start := Adapter.spawn config surroundings shared
    let adapter := start.run actions
    let calls := start.deletionCalls actions
    (((∀ call ∈ calls, call.SendsService) ∧ adapter.state.serviceDeletionKnown = true) ∨
      ((∃ before fallback after, calls = before ++ fallback :: after ∧
          (∀ call ∈ before, call.SendsService) ∧ fallback.FallsBack ∧
          ∀ call ∈ after, call.SendsAssist) ∧
        adapter.state.serviceDeletionKnown = false)) ∧
    (∀ rest, adapter.state.serviceDeletionKnown = false →
      (adapter.run rest).state.serviceDeletionKnown = false) ∧
    (∀ action handle answer,
      (∀ content, .requested handle (.deleteServiceData content) answer ∈ adapter.trace action →
        adapter.state.serviceDeletionKnown = true) ∧
      ∀ content, .requested handle (.deleteAssistData content) answer ∈ adapter.trace action →
        (adapter.act action).state.serviceDeletionKnown = false) ∧
    (∀ action handle request result, request.lesson? = some .deletion →
      .posted handle request result ∈ adapter.trace action →
        action = .handle (.indication (.engineState .off))) ∧
    ∀ data, adapter.state.handle = none →
      adapter.act (.execute (.deleteAidingData data)) = adapter := by
  intro start adapter calls
  refine ⟨deletionCalls_of_known rfl actions, ?_, ?_, ?_, fun data => act_closed data⟩
  · intro rest hforgotten
    exact (deletionCalls_of_forgotten hforgotten rest).2
  · intro action handle answer
    exact adapter.serviceDeletionKnown_of_mem_trace action
  · intro action handle request result hdeletion hposted
    exact turnOff_of_posted hdeletion hposted

end Adapter

end GnssAdapter
