import GnssAdapter.Proofs.History
import GnssAdapter.Proofs.Run

/-!
The replay of requests that found the engine busy. When the engine turns off, what is sent again is
what the history tells to be owed, in the order in which it was first sent.
-/

namespace GnssAdapter

namespace Entry

/-- A request that the engine, or the transport, was too busy for. -/
def busyRequest? : Entry → Option (Handle × Request)
  | .requested handle request answer =>
      if answer.any Answer.isBusy then some (handle, request) else none
  | _ => none

def postedRequest? : Entry → Option (Handle × Request)
  | .posted handle request _ => some (handle, request)
  | _ => none

def awaitsAnswer : Entry → Bool
  | .requested .. => true
  | _ => false

/-- The engine has turned off, or the connection has ended or not come about. -/
def endsReplays : Entry → Bool
  | .arrived (.indication (.engineState .off)) => true
  | .arrived (.error .serviceUnavailable) => true
  | .disconnected .. => true
  | .connected (.error _) => true
  | _ => false

/-- The entries at which a connection ends with requests still kept for it. -/
def endsConnection : Entry → Bool
  | .arrived (.error .serviceUnavailable) => true
  | .disconnected .. => true
  | _ => false

/-- Neither a request nor an event. -/
def isAside : Entry → Bool
  | .registered .. => true
  | .notified _ => true
  | _ => false

/-- Nothing to do with replays. -/
def isIdle (entry : Entry) : Bool :=
  entry.busyRequest?.isNone && !entry.endsReplays && !entry.opensConnection

theorem endsReplays_of_endsConnection {entry : Entry} (hends : entry.endsConnection = true) :
    entry.endsReplays = true := by
  unfold endsConnection at hends
  split at hends
  · rfl
  · rfl
  · cases hends

theorem not_opensConnection_of_endsReplays {entry : Entry} (hends : entry.endsReplays = true) :
    entry.opensConnection = false := by
  unfold endsReplays at hends
  split at hends
  case h_5 => cases hends
  all_goals rfl

theorem isIdle_of_isAside {entry : Entry} (haside : entry.isAside = true) :
    entry.isIdle = true := by
  cases entry <;> first | rfl | cases haside

theorem isIdle_arrived {event : TransportEvent} (hquiet : event.isQuiet = true) :
    (arrived event).isIdle = true := by
  have hgoes : (arrived event).endsReplays = false := by
    unfold endsReplays
    split
    case h_1 heq | h_2 heq =>
      cases heq
      cases hquiet
    case h_3 heq | h_4 heq => cases heq
    case h_5 => rfl
  unfold isIdle
  rw [hgoes]
  rfl

end Entry

/-- The requests that found the engine busy since it last turned off or the connection ended, the
oldest first. -/
def owedRequests (history : List Entry) : List (Handle × Request) :=
  ((history.takeWhile (!·.endsReplays)).filterMap Entry.busyRequest?).reverse

/-- The requests sent without waiting, the oldest first. -/
def postedRequests (entries : List Entry) : List (Handle × Request) :=
  (entries.filterMap Entry.postedRequest?).reverse

/-- How many requests were still owed when their connection ended. -/
def discardedCount : List Entry → Nat
  | [] => 0
  | entry :: earlier =>
      discardedCount earlier + if entry.endsConnection then (owedRequests earlier).length else 0

section History

variable {entry : Entry} (history : List Entry)

theorem owedRequests_ends (hends : entry.endsReplays = true) :
    owedRequests (entry :: history) = [] := by
  simp [owedRequests, hends]

theorem owedRequests_cons (hgoes : entry.endsReplays = false) :
    owedRequests (entry :: history) = owedRequests history ++ entry.busyRequest?.toList := by
  unfold owedRequests
  rw [List.takeWhile_cons_of_pos (by simpa using hgoes), List.filterMap_cons]
  cases entry.busyRequest? <;> simp

theorem discardedCount_cons (hgoes : entry.endsConnection = false) :
    discardedCount (entry :: history) = discardedCount history := by
  simp [discardedCount, hgoes]

theorem discardedCount_ends (hends : entry.endsConnection = true) :
    discardedCount (entry :: history) =
      discardedCount history + (owedRequests history).length := by
  simp [discardedCount, hends]

theorem postedRequests_append (later earlier : List Entry) :
    postedRequests (later ++ earlier) = postedRequests earlier ++ postedRequests later := by
  simp [postedRequests]

end History

/-- The kept requests are the owed ones of the open connection, and the counters account for all. -/
structure Accounts (history : List Entry) (handle : Option Handle) (replays : List Request)
    (queued settled : Nat) : Prop where
  hreplays : replays = (owedRequests history).map Prod.snd
  hhandle : ∀ owed ∈ owedRequests history, handle = some owed.1
  hconnection : owedRequests (connectionOf history) = owedRequests history
  hbalance : queued = settled + (owedRequests history).length + discardedCount history

namespace Accounts

variable {history : List Entry} {handle : Option Handle} {replays : List Request}
  {queued settled : Nat} {entry : Entry}

theorem start : Accounts [] none [] 0 0 :=
  ⟨rfl, by simp [owedRequests], rfl, rfl⟩

theorem owed_of_closed (haccounts : Accounts history none replays queued settled) :
    owedRequests history = [] :=
  List.eq_nil_iff_forall_not_mem.mpr fun owed howed => nomatch haccounts.hhandle owed howed

theorem replays_of_closed (haccounts : Accounts history none replays queued settled) :
    replays = [] := by
  rw [haccounts.hreplays, haccounts.owed_of_closed]
  rfl

theorem length_eq (haccounts : Accounts history handle replays queued settled) :
    replays.length = (owedRequests history).length := by
  rw [haccounts.hreplays, List.length_map]

theorem idle (haccounts : Accounts history handle replays queued settled)
    (hidle : entry.isIdle = true) : Accounts (entry :: history) handle replays queued settled := by
  simp only [Entry.isIdle, Bool.and_eq_true, Option.isNone_iff_eq_none, Bool.not_eq_true'] at hidle
  obtain ⟨⟨hfree, hgoes⟩, hopens⟩ := hidle
  have hsame (earlier : List Entry) : owedRequests (entry :: earlier) = owedRequests earlier := by
    rw [owedRequests_cons earlier hgoes, hfree]
    simp
  have hlasts : entry.endsConnection = false :=
    Bool.eq_false_iff.mpr fun hends =>
      Bool.false_ne_true (hgoes.symm.trans (Entry.endsReplays_of_endsConnection hends))
  refine ⟨?_, ?_, ?_, ?_⟩
  · rw [hsame]
    exact haccounts.hreplays
  · rw [hsame]
    exact haccounts.hhandle
  · rw [connectionOf_cons history hopens, hsame, hsame]
    exact haccounts.hconnection
  · rw [hsame, discardedCount_cons history hlasts]
    exact haccounts.hbalance

theorem idles (haccounts : Accounts history handle replays queued settled) (entries : List Entry)
    (hidle : ∀ entry ∈ entries, entry.isIdle = true) :
    Accounts (entries ++ history) handle replays queued settled := by
  induction entries with
  | nil => exact haccounts
  | cons entry rest ih =>
      exact (ih fun other hother => hidle other (.tail _ hother)).idle (hidle entry (.head _))

/-- A busy engine makes one more request owed. -/
theorem busy {current : Handle} {request : Request} {answer : Option Answer}
    (haccounts : Accounts history (some current) replays queued settled)
    (hbusy : answer.any Answer.isBusy = true) :
    Accounts (.requested current request answer :: history) (some current) (replays ++ [request])
      (queued + 1) settled := by
  have howed (earlier : List Entry) :
      owedRequests (.requested current request answer :: earlier) =
        owedRequests earlier ++ [(current, request)] := by
    rw [owedRequests_cons earlier rfl, Entry.busyRequest?, if_pos hbusy]
    rfl
  refine ⟨?_, ?_, ?_, ?_⟩
  · rw [howed, haccounts.hreplays, List.map_append]
    rfl
  · intro owed hmem
    rw [howed, List.mem_append, List.mem_singleton] at hmem
    rcases hmem with hearlier | rfl
    · exact haccounts.hhandle owed hearlier
    · rfl
  · rw [connectionOf_cons history rfl, howed, howed, haccounts.hconnection]
  · rw [howed, discardedCount_cons history rfl, List.length_append, haccounts.hbalance]
    simp
    omega

/-- After an entry that ends the replays nothing is owed, whatever the connection. -/
theorem ends (hends : entry.endsReplays = true) (handle : Option Handle)
    (hbalance : queued = settled + discardedCount (entry :: history)) :
    Accounts (entry :: history) handle [] queued settled := by
  have hnone (earlier : List Entry) : owedRequests (entry :: earlier) = [] :=
    owedRequests_ends earlier hends
  refine ⟨?_, ?_, ?_, ?_⟩
  · rw [hnone]
    rfl
  · simp [hnone]
  · rw [connectionOf_cons history (Entry.not_opensConnection_of_endsReplays hends), hnone, hnone]
  · rwa [hnone]

/-- When the connection ends, what is owed is discarded. -/
theorem discard (haccounts : Accounts history handle replays queued settled)
    (hends : entry.endsConnection = true) : Accounts (entry :: history) none [] queued settled := by
  refine ends (Entry.endsReplays_of_endsConnection hends) none ?_
  rw [discardedCount_ends history hends, haccounts.hbalance]
  omega

/-- When the engine turns off, what is owed is settled. -/
theorem settle (haccounts : Accounts history handle replays queued settled) :
    Accounts (.arrived (.indication (.engineState .off)) :: history) handle [] queued
      (settled + replays.length) := by
  refine ends rfl handle ?_
  rw [discardedCount_cons history rfl, haccounts.hbalance, haccounts.length_eq]

theorem refuse (haccounts : Accounts history none replays queued settled) (error : ClientError) :
    Accounts (.connected (.error error) :: history) none [] queued settled := by
  refine ends rfl none ?_
  rw [discardedCount_cons history rfl, haccounts.hbalance, haccounts.owed_of_closed]
  rfl

theorem connect (haccounts : Accounts history none replays queued settled) (current : Handle) :
    Accounts (.connected (.ok current) :: history) (some current) replays queued settled := by
  have hnone : owedRequests (.connected (.ok current) :: history) = [] := by
    rw [owedRequests_cons history rfl, haccounts.owed_of_closed]
    rfl
  refine ⟨?_, ?_, ?_, ?_⟩
  · rw [hnone, haccounts.hreplays, haccounts.owed_of_closed]
  · simp [hnone]
  · rw [hnone]
    rfl
  · rw [hnone, discardedCount_cons history rfl, haccounts.hbalance, haccounts.owed_of_closed]

end Accounts

namespace Standing

variable {standing : Standing}

def Accounted (standing : Standing) : Prop :=
  Accounts standing.history standing.state.handle standing.replays standing.queued
    (standing.sent + standing.failed)

theorem register_accounted (haccounted : standing.Accounted) (handle : Handle)
    (mask : Mask NativeEvent) (accepted : Bool) :
    (standing.register handle mask accepted).Accounted := by
  cases accepted <;> exact haccounted.idle rfl

theorem exchange_accounted (haccounted : standing.Accounted) (request : Request)
    (answer : Option Answer) (accepted : Bool) :
    (standing.exchange request answer accepted).Accounted := by
  have hkept {handle : Handle} (hopen : standing.state.handle = some handle)
      (hbusy : answer.any Answer.isBusy = true) :
      ((standing.log (.requested handle request answer)).keep request).Accounted := by
    unfold Accounted at haccounted ⊢
    change Accounts _ standing.state.handle _ _ _
    rw [hopen] at haccounted ⊢
    exact haccounted.busy hbusy
  have hexchanged := standing.exchanged request answer accepted
  generalize standing.exchange request answer accepted = after at hexchanged ⊢
  cases hexchanged with
  | closed => exact haccounted
  | asked hopen hfree =>
      refine Accounts.idle haccounted ?_
      simp [Entry.isIdle, Entry.busyRequest?, Entry.endsReplays, Entry.opensConnection, hfree]
  | kept hopen hbusy => exact hkept hopen hbusy
  | watched hopen hbusy =>
      -- Whether it is kept before or after the registration makes no difference to the accounts.
      cases accepted <;> exact (hkept hopen hbusy).idle rfl

theorem mark_accounted (haccounted : standing.Accounted) (answer : Option Answer)
    (accepted : Bool) : (standing.mark answer accepted).Accounted := by
  have hasked := exchange_accounted haccounted measurementProbe answer accepted
  unfold mark
  split <;> exact hasked

theorem post_accounted (haccounted : standing.Accounted) (request : Request)
    (result : Except ClientError Unit) : (standing.post request result).Accounted := by
  unfold post
  split
  · exact haccounted
  · exact haccounted.idle rfl

theorem subscribe_accounted (haccounted : standing.Accounted) (requested : Mask AdapterEvent)
    (accepted : Bool) : (standing.subscribe requested accepted).Accounted := by
  have hsubscribed := standing.subscribed requested accepted
  generalize standing.subscribe requested accepted = after at hsubscribed ⊢
  cases hsubscribed with
  | closed | unchanged => exact haccounted
  | @registered handle => exact register_accounted haccounted handle _ accepted

theorem adjust_accounted (haccounted : standing.Accounted) (adjustment : Adjustment) :
    (standing.adjust adjustment).Accounted := by
  unfold Accounted
  rw [adjust_handle]
  exact haccounted

theorem stop_accounted (haccounted : standing.Accounted) (accepted : Bool) :
    (standing.stop accepted).Accounted := by
  have hstopped := adjust_accounted haccounted .stopSession
  unfold stop
  split
  · exact hstopped
  · exact subscribe_accounted hstopped ..

theorem claim_accounted (haccounted : standing.Accounted) (answer : Option Answer)
    (accepted : Bool) : (standing.claim answer accepted).Accounted :=
  adjust_accounted (exchange_accounted haccounted ..) _

theorem connect_accounted (haccounted : standing.Accounted)
    (hclosed : standing.state.handle = none) (handle : Handle) :
    (standing.connect handle).Accounted := by
  unfold Accounted at haccounted
  rw [hclosed] at haccounted
  exact haccounted.connect handle

theorem disconnect_accounted (haccounted : standing.Accounted)
    (result : Except ClientError Unit) : (standing.disconnect result).Accounted := by
  unfold disconnect
  split
  · rename_i hclosed
    unfold Accounted at haccounted
    rw [hclosed] at haccounted
    rw [haccounted.replays_of_closed] at haccounted
    exact haccounted
  · exact haccounted.discard rfl

theorem subscribe_eq (standing : Standing) (requested : Mask AdapterEvent) (accepted : Bool) :
    ∃ state entries,
      standing.subscribe requested accepted =
        { standing with state, history := entries ++ standing.history } ∧
      state.handle = standing.state.handle ∧ ∀ entry ∈ entries, entry.isAside = true := by
  have hsubscribed := standing.subscribed requested accepted
  generalize standing.subscribe requested accepted = after at hsubscribed ⊢
  cases hsubscribed with
  | closed | unchanged => exact ⟨_, [], rfl, rfl, by simp⟩
  | @registered handle =>
      refine ⟨_, [.registered handle (standing.nativeFor requested) standing.isMaster accepted],
        rfl, ?_, by simp [Entry.isAside]⟩
      exact register_handle ..

/-- An engine that turns off has the kept requests sent, after all else. -/
theorem turnOff_eq (standing : Standing) (accepted : Bool)
    (results : List (Except ClientError Unit)) :
    ∃ state entries,
      standing.turnOff accepted results =
        { standing with
          state
          replays := []
          sent := standing.sent + results.countP (·.isOk)
          failed := standing.failed + results.countP (!·.isOk)
          history := postings standing.state.handle (standing.replays.zip results) ++
            (entries ++ .arrived (.indication (.engineState .off)) :: standing.history) } ∧
      state.handle = standing.state.handle ∧ ∀ entry ∈ entries, entry.isAside = true := by
  obtain ⟨state, entries, hsubscribed, hhandle, haside⟩ :=
    subscribe_eq standing.noticeOff standing.state.requestedMask accepted
  refine ⟨state, entries ++ [.notified (.status .engineOff), .notified (.status .sessionEnd)],
    ?_, hhandle, ?_⟩
  · unfold turnOff drain
    rw [hsubscribed, postAll_eq]
    dsimp only
    rw [hhandle, List.append_assoc]
    rfl
  · intro entry hentry
    rcases List.mem_append.mp hentry with hsubscription | hnotice
    · exact haside entry hsubscription
    · simp only [List.mem_cons, List.not_mem_nil, or_false] at hnotice
      rcases hnotice with rfl | rfl <;> rfl

theorem postings_idle (handle : Option Handle)
    (sendings : List (Request × Except ClientError Unit)) :
    ∀ entry ∈ postings handle sendings, entry.isIdle = true := by
  intro entry hentry
  obtain ⟨_, _, _, rfl⟩ := exists_of_mem_postings hentry
  rfl

theorem turnOff_accounted (haccounted : standing.Accounted) (accepted : Bool)
    (results : List (Except ClientError Unit)) (hall : results.length = standing.replays.length) :
    (standing.turnOff accepted results).Accounted := by
  obtain ⟨state, entries, hturned, hhandle, haside⟩ := turnOff_eq standing accepted results
  have hcounted : standing.sent + results.countP (·.isOk) +
      (standing.failed + results.countP (!·.isOk)) =
        standing.sent + standing.failed + standing.replays.length := by
    have hparts := List.length_eq_countP_add_countP
      (fun result : Except ClientError Unit => result.isOk) (l := results)
    simp only [Bool.not_eq_true, Bool.decide_eq_false] at hparts
    omega
  rw [hturned]
  unfold Accounted
  dsimp only
  rw [hhandle, hcounted]
  exact (haccounted.settle.idles entries fun entry hentry =>
    Entry.isIdle_of_isAside (haside entry hentry)).idles _ (postings_idle _ _)

theorem step_accounted {before after : Standing} (hstep : Step before after)
    (haccounted : before.Accounted) : after.Accounted := by
  cases hstep with
  | exchange request answer accepted => exact exchange_accounted haccounted request answer accepted
  | post request result => exact post_accounted haccounted request result
  | subscribe requested accepted => exact subscribe_accounted haccounted requested accepted
  | adjust adjustment => exact adjust_accounted haccounted adjustment
  | start => exact adjust_accounted haccounted .startSession
  | stop accepted => exact stop_accounted haccounted accepted
  | connect handle hclosed => exact connect_accounted haccounted hclosed handle
  | introduce handle hclosed _ claimed probed claimAccepted probeAccepted =>
      have hconnected := connect_accounted haccounted hclosed handle
      have hclaimed := claim_accounted hconnected claimed claimAccepted
      exact (mark_accounted hclaimed probed probeAccepted).idle rfl
  | refuse error hclosed =>
      unfold Accounted at haccounted
      rw [hclosed] at haccounted
      exact haccounted.refuse error
  | disconnect result => exact disconnect_accounted haccounted result
  | arrive event hquiet =>
      exact haccounted.idle (Entry.isIdle_arrived hquiet)
  | lose => exact (haccounted.discard rfl).idle rfl
  | turnOff accepted results hall => exact turnOff_accounted haccounted accepted results hall
  | notify | publish => exact haccounted.idle rfl
  | share => exact haccounted

theorem postedRequests_postings (handle : Handle)
    (sendings : List (Request × Except ClientError Unit)) :
    postedRequests (postings (some handle) sendings) =
      (sendings.map Prod.fst).map (handle, ·) := by
  unfold postedRequests postings
  rw [List.filterMap_reverse, List.reverse_reverse, List.filterMap_map, List.map_map]
  exact congrFun List.filterMap_eq_map sendings

theorem postedRequests_of_aside {entries : List Entry}
    (haside : ∀ entry ∈ entries, entry.isAside = true) : postedRequests entries = [] := by
  unfold postedRequests
  rw [List.reverse_eq_nil_iff, List.filterMap_eq_nil_iff]
  intro entry hentry
  have hself := haside entry hentry
  cases entry <;> first | rfl | cases hself

/-- Each owed request has been kept for the open connection. -/
theorem Accounted.owedRequests_eq (haccounted : standing.Accounted) {handle : Handle}
    (hopen : standing.state.handle = some handle) :
    owedRequests standing.history = standing.replays.map (handle, ·) := by
  rw [haccounted.hreplays, List.map_map]
  refine (List.map_id _).symm.trans (List.map_congr_left fun owed howed => ?_)
  have hcurrent := haccounted.hhandle owed howed
  rw [hopen, Option.some.injEq] at hcurrent
  rw [hcurrent]
  rfl

theorem turnOff_resends (haccounted : standing.Accounted) (accepted : Bool)
    (results : List (Except ClientError Unit)) (hall : results.length = standing.replays.length) :
    ∃ entries, (standing.turnOff accepted results).history = entries ++ standing.history ∧
      postedRequests entries = owedRequests standing.history ∧
      ∀ entry ∈ entries, entry.awaitsAnswer = false := by
  obtain ⟨state, entries, hturned, hhandle, haside⟩ := turnOff_eq standing accepted results
  refine ⟨postings standing.state.handle (standing.replays.zip results) ++
    (entries ++ [.arrived (.indication (.engineState .off))]), ?_, ?_, ?_⟩
  · rw [hturned]
    simp
  · rw [postedRequests_append, postedRequests_append, postedRequests_of_aside haside]
    cases hopen : standing.state.handle with
    | none =>
        unfold Accounted at haccounted
        rw [hopen] at haccounted
        rw [haccounted.owed_of_closed]
        rfl
    | some handle =>
        rw [postedRequests_postings, List.map_fst_zip (Nat.le_of_eq hall.symm),
          haccounted.owedRequests_eq hopen]
        rfl
  · intro entry hentry
    simp only [List.mem_append, List.mem_singleton] at hentry
    rcases hentry with hposting | hother | rfl
    · obtain ⟨_, _, _, rfl⟩ := exists_of_mem_postings hposting
      rfl
    · have hself := haside entry hother
      cases entry <;> first | rfl | cases hself
    · rfl

end Standing

namespace Adapter

variable {σ : Type} [Environment σ]

theorem run_accounted (config : Config) (surroundings : σ) (shared : Shared)
    (actions : List AdapterAction) :
    ((Adapter.spawn config surroundings shared).run actions).standing.Accounted :=
  (run_steps _ actions).preserves Standing.step_accounted Accounts.start

/-- Whenever the engine turns off, the requests that found it busy since the last time, on this
connection, are sent again: all of them, in order, once each and without waiting, whatever becomes
of the ones before. The counters tell what became of every request that was ever kept. -/
theorem engineOff_resends_owedRequests (config : Config) (surroundings : σ) (shared : Shared)
    (actions : List AdapterAction) :
    let adapter := (Adapter.spawn config surroundings shared).run actions
    let handled := adapter.act (.handle (.indication (.engineState .off)))
    (∃ entries, handled.history = entries ++ adapter.history ∧
        postedRequests entries = owedRequests adapter.history ∧
        ∀ entry ∈ entries, entry.awaitsAnswer = false) ∧
      handled.replays = [] ∧ handled.counters.replaysQueued = adapter.counters.replaysQueued ∧
      owedRequests adapter.history = owedRequests (connectionOf adapter.history) ∧
      (∀ owed ∈ owedRequests adapter.history, adapter.state.handle = some owed.1) ∧
      adapter.replays = (owedRequests adapter.history).map Prod.snd ∧
      adapter.counters.replaysQueued =
        adapter.counters.replaysSent + adapter.counters.replaysFailed + adapter.replays.length +
          discardedCount adapter.history := by
  intro adapter handled
  have haccounted : adapter.standing.Accounted := run_accounted config surroundings shared actions
  obtain ⟨accepted, results, hall, hhandled⟩ := AdapterM.handleEvent_turnOff adapter
  change handled.standing = _ at hhandled
  obtain ⟨state, asides, hturned, -, -⟩ :=
    Standing.turnOff_eq adapter.standing accepted results
  obtain ⟨entries, hhistory, hposted, hnone⟩ :=
    Standing.turnOff_resends haccounted accepted results hall
  have hrest := hhandled.trans hturned
  refine ⟨⟨entries, ?_, hposted, hnone⟩, congrArg Standing.replays hrest,
    congrArg Standing.queued hrest, haccounted.hconnection.symm, haccounted.hhandle,
    haccounted.hreplays, ?_⟩
  · exact (congrArg Standing.history hhandled).trans hhistory
  · have hbalance := haccounted.hbalance
    rw [← haccounted.length_eq] at hbalance
    exact hbalance

end Adapter

end GnssAdapter
