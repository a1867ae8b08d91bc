import GnssAdapter.Proofs.Run

/-!
Two adapters side by side. Adapters that decide alike, among surroundings that answer alike, do the
same and are told the same, whatever either has been through before; only what they have counted may
differ, and the times that they read as far as their clocks do not agree.

Operations are related together with their values, as replies and stamps are not the same but only
the same in a way. Routine operations need nothing but their shape; those that open and end
connections and sessions follow below them, one by one.
-/

namespace GnssAdapter

variable {σ α β : Type}

namespace Environment

/-- Two calls whose answers are the same in a way, and that lead from like surroundings to like
ones. -/
def Respects (alike : σ → σ → Prop) (same : α → α → Prop) (one other : σ → α × σ) : Prop :=
  ∀ first second : σ, alike first second →
    same (one first).1 (other second).1 ∧ alike (one first).2 (other second).2

/-- The transport answers alike, also if requests differ in times in which the clocks do, and the
clocks agree as well as they are said to. How long an answer took is left open. -/
structure Alike [Environment σ] (synchrony : Synchrony) (alike : σ → σ → Prop) : Prop where
  hconnect : Respects alike Eq connect connect
  hdisconnect (handle : Handle) : Respects alike Eq (disconnect handle) (disconnect handle)
  hpost (handle : Handle) {one other : Request} (hblur : one.blur synchrony = other.blur synchrony) :
    Respects alike Eq (post handle one) (post handle other)
  hrequest (handle : Handle) {one other : Request}
    (hblur : one.blur synchrony = other.blur synchrony) (timeoutMs : UInt64) :
    Respects alike (fun first second => first.answer = second.answer)
      (request handle one timeoutMs) (request handle other timeoutMs)
  hregister (handle : Handle) (mask : Mask NativeEvent) (isMaster : Bool) :
    Respects alike Eq (register handle mask isMaster) (register handle mask isMaster)
  hprobe (handle : Handle) (messages : List MessageId) :
    Respects alike Eq (probe handle messages) (probe handle messages)
  hbootTime : Respects alike synchrony.BootTimes readBootTime readBootTime
  hutc : Respects alike synchrony.UtcTimes readUtc readUtc

end Environment

/-- Adapters that decide alike among like surroundings. The second has been through nothing else
than the first since a past of the first. -/
structure Adapter.Twins (synchrony : Synchrony) (alike : σ → σ → Prop) (past : List Entry)
    (first second : Adapter σ) : Prop where
  hagree : first.Agree second
  hreplays : first.replays.map (·.blur synchrony) = second.replays.map (·.blur synchrony)
  hsurroundings : alike first.surroundings second.surroundings
  hhistory : first.history.map (Entry.blur synchrony) =
    second.history.map (Entry.blur synchrony) ++ past

theorem Adapter.Twins.isEmpty_replays {synchrony : Synchrony} {alike : σ → σ → Prop}
    {past : List Entry} {first second : Adapter σ} (htwins : first.Twins synchrony alike past second) :
    first.replays.isEmpty = second.replays.isEmpty := by
  rw [← List.isEmpty_map, htwins.hreplays, List.isEmpty_map]

namespace AdapterM

/-- Twins stay twins by two operations, whose values are the same in a way. -/
def Matches (synchrony : Synchrony) (alike : σ → σ → Prop) (past : List Entry)
    (same : α → α → Prop) (first second : AdapterM σ α) : Prop :=
  ∀ one other : Adapter σ, one.Twins synchrony alike past other →
    same (first.run one).1 (second.run other).1 ∧
      (first.run one).2.Twins synchrony alike past (second.run other).2

/-- An operation that does the same in twins. -/
abbrev Oblivious (synchrony : Synchrony) (alike : σ → σ → Prop) (past : List Entry)
    (operation : AdapterM σ α) : Prop :=
  Matches synchrony alike past Eq operation operation

variable {synchrony : Synchrony} {alike : σ → σ → Prop} {past : List Entry}

namespace Matches

variable {same : α → α → Prop} {first second : AdapterM σ α}

theorem pure {one other : α} (hsame : same one other) :
    Matches synchrony alike past same (pure one) (pure other) :=
  fun _ _ htwins => ⟨hsame, htwins⟩

theorem bind {sameNext : β → β → Prop} {next following : α → AdapterM σ β}
    (hfirst : Matches synchrony alike past same first second)
    (hnext : ∀ one other, same one other →
      Matches synchrony alike past sameNext (next one) (following other)) :
    Matches synchrony alike past sameNext (first >>= next) (second >>= following) := by
  intro one other htwins
  obtain ⟨hsame, hstill⟩ := hfirst one other htwins
  exact hnext _ _ hsame _ _ hstill

theorem get : Matches synchrony alike past (Adapter.Twins synchrony alike past) get get :=
  fun _ _ htwins => ⟨htwins, htwins⟩

theorem consult {one other : σ → α × σ} (hcall : Environment.Respects alike same one other) :
    Matches synchrony alike past same (consult one) (consult other) := by
  intro before after htwins
  obtain ⟨hsame, hsurroundings⟩ := hcall _ _ htwins.hsurroundings
  obtain ⟨hconfig, hcapabilities, hstate⟩ := htwins.hagree
  exact ⟨hsame, ⟨hconfig, hcapabilities, hstate⟩, htwins.hreplays, hsurroundings,
    htwins.hhistory⟩

theorem record {one other : Entry} (hblur : one.blur synchrony = other.blur synchrony) :
    Matches synchrony alike past Eq (record one) (record other) := by
  intro before after htwins
  obtain ⟨hconfig, hcapabilities, hstate⟩ := htwins.hagree
  refine ⟨rfl, ⟨hconfig, hcapabilities, hstate⟩, htwins.hreplays, htwins.hsurroundings, ?_⟩
  change one.blur _ :: before.history.map _ = other.blur _ :: (after.history.map _ ++ past)
  rw [hblur, htwins.hhistory]

/-- A call is noted together with its answer. -/
theorem noted {one other : σ → α × σ} (hcall : Environment.Respects alike same one other)
    {entry again : α → Entry}
    (hblur : ∀ first second, same first second →
      (entry first).blur synchrony = (again second).blur synchrony) :
    Matches synchrony alike past same
      (do
        let answer ← AdapterM.consult one
        AdapterM.record (entry answer)
        return answer)
      (do
        let answer ← AdapterM.consult other
        AdapterM.record (again answer)
        return answer) :=
  (consult hcall).bind fun _ _ hsame =>
    (record (hblur _ _ hsame)).bind fun _ _ _ => .pure hsame

theorem observe (one other : Observation) :
    Matches synchrony alike past Eq (observe one) (observe other) := by
  intro before after htwins
  obtain ⟨hconfig, hcapabilities, hstate⟩ := htwins.hagree
  exact ⟨rfl, ⟨hconfig, hcapabilities, hstate⟩, htwins.hreplays, htwins.hsurroundings,
    htwins.hhistory⟩

theorem sampleLatency (one other : Float) :
    Matches synchrony alike past Eq (sampleLatency one) (sampleLatency other) := by
  intro before after htwins
  obtain ⟨hconfig, hcapabilities, hstate⟩ := htwins.hagree
  exact ⟨rfl, ⟨hconfig, hcapabilities, hstate⟩, htwins.hreplays, htwins.hsurroundings,
    htwins.hhistory⟩

theorem setReplays (one other : List Request → List Request)
    (hblur : ∀ first second : List Request,
      first.map (·.blur synchrony) = second.map (·.blur synchrony) →
        (one first).map (·.blur synchrony) = (other second).map (·.blur synchrony)) :
    Matches synchrony alike past Eq
      (modify fun adapter => { adapter with replays := one adapter.replays } : AdapterM σ Unit)
      (modify fun adapter => { adapter with replays := other adapter.replays }) := by
  intro before after htwins
  obtain ⟨hconfig, hcapabilities, hstate⟩ := htwins.hagree
  exact ⟨rfl, ⟨hconfig, hcapabilities, hstate⟩, hblur _ _ htwins.hreplays, htwins.hsurroundings,
    htwins.hhistory⟩

theorem notify {one other : Callback} (hblur : one.blur synchrony = other.blur synchrony) :
    Matches synchrony alike past Eq (notify one : AdapterM σ Unit) (notify other) :=
  record (congrArg Entry.notified hblur)

end Matches

namespace Oblivious

/-- Operations that give back the very same go on from the same value. -/
theorem bind {operation : AdapterM σ α} {next : α → AdapterM σ β}
    (hoperation : Oblivious synchrony alike past operation)
    (hnext : ∀ value, Oblivious synchrony alike past (next value)) :
    Oblivious synchrony alike past (operation >>= next) := by
  refine Matches.bind hoperation fun _ value hsame => ?_
  rw [hsame]
  exact hnext value

theorem count (change : Counters → Counters) : Oblivious synchrony alike past (count change) := by
  intro one other htwins
  obtain ⟨hconfig, hcapabilities, hstate⟩ := htwins.hagree
  exact ⟨rfl, ⟨hconfig, hcapabilities, hstate⟩, htwins.hreplays, htwins.hsurroundings,
    htwins.hhistory⟩

theorem setState (change : State → State) : Oblivious synchrony alike past (setState change) := by
  intro one other htwins
  obtain ⟨hconfig, hcapabilities, hstate⟩ := htwins.hagree
  exact ⟨rfl, ⟨hconfig, hcapabilities, congrArg change hstate⟩, htwins.hreplays,
    htwins.hsurroundings, htwins.hhistory⟩

theorem resetConnection : Oblivious synchrony alike past (resetConnection : AdapterM σ Unit) :=
  (setState State.reset).bind fun _ =>
    Matches.setReplays (fun _ => []) (fun _ => []) fun _ _ _ => rfl

theorem publish (capabilities : EngineCapabilities) :
    Oblivious synchrony alike past (publish capabilities : AdapterM σ Unit) := by
  intro one other htwins
  obtain ⟨hconfig, hcapabilities, hstate⟩ := htwins.hagree
  refine ⟨rfl, ⟨hconfig, ?_, hstate⟩, htwins.hreplays, htwins.hsurroundings, ?_⟩
  · change (one.shared.capabilities.publish _).1 = (other.shared.capabilities.publish _).1
    rw [hcapabilities]
  · change Entry.published _ (one.shared.capabilities.publish _).2 :: one.history.map _ =
      Entry.published _ (other.shared.capabilities.publish _).2 :: (other.history.map _ ++ past)
    rw [hcapabilities, htwins.hhistory]

variable [Environment σ]

section

variable (halike : Environment.Alike synchrony alike)

include halike

theorem registerOn (handle : Handle) (mask : Mask NativeEvent) :
    Oblivious synchrony alike past (registerOn handle mask : AdapterM σ Bool) := by
  refine Matches.get.bind fun one other htwins => ?_
  rw [htwins.hagree.isMaster]
  exact Matches.noted (halike.hregister handle mask _) (by rintro accepted _ rfl; rfl)

theorem register (handle : Handle) (mask : Mask NativeEvent) :
    Oblivious synchrony alike past (register handle mask : AdapterM σ Unit) := by
  refine (registerOn halike handle mask).bind fun accepted => ?_
  cases accepted with
  | false => exact .pure rfl
  | true => exact (setState _).bind fun _ => .observe _ _

theorem subscribe (requested : Mask AdapterEvent) :
    Oblivious synchrony alike past (subscribe requested : AdapterM σ Unit) := by
  refine Matches.get.bind fun one other htwins => ?_
  rw [htwins.hagree.hconfig, htwins.hagree.hstate, htwins.hagree.batchedBreach]
  dsimp only
  split
  · cases other.state.handle with
    | none => exact setState _
    | some handle => exact (register halike handle _).bind fun _ => setState _
  · exact setState _

end

end Oblivious

variable [Environment σ]

/-! ### Requests

Requests that differ in nothing but times are answered alike, and are kept alike. -/

namespace Matches

section

variable (halike : Environment.Alike synchrony alike) {one other : Request}
  (hblur : one.blur synchrony = other.blur synchrony)

include halike hblur

theorem requestOn (handle : Handle) :
    Matches synchrony alike past (fun first second => first.answer = second.answer)
      (requestOn handle one : AdapterM σ Reply) (requestOn handle other) := by
  refine Matches.get.bind fun before after htwins => ?_
  rw [htwins.hagree.hconfig]
  refine Matches.noted (halike.hrequest handle hblur _) fun first second hsame => ?_
  change Entry.requested handle (one.blur synchrony) first.answer =
    .requested handle (other.blur synchrony) second.answer
  rw [hblur, hsame]

theorem postOn (handle : Handle) :
    Matches synchrony alike past Eq
      (postOn handle one : AdapterM σ (Except ClientError Unit)) (postOn handle other) := by
  refine Matches.noted (halike.hpost handle hblur) fun first second hsame => ?_
  change Entry.posted handle (one.blur synchrony) first =
    .posted handle (other.blur synchrony) second
  rw [hblur, hsame]

theorem queueReplay (handle : Handle) :
    Matches synchrony alike past Eq (queueReplay handle one : AdapterM σ Unit)
      (queueReplay handle other) := by
  have hkept : Matches synchrony alike past Eq
      (do
        modify fun adapter => { adapter with replays := adapter.replays ++ [one] }
        AdapterM.count fun counters => { counters with replaysQueued := counters.replaysQueued + 1 }
        AdapterM.observe (.replayQueued one.id) : AdapterM σ Unit)
      (do
        modify fun adapter => { adapter with replays := adapter.replays ++ [other] }
        AdapterM.count fun counters => { counters with replaysQueued := counters.replaysQueued + 1 }
        AdapterM.observe (.replayQueued other.id)) := by
    refine (setReplays (· ++ [one]) (· ++ [other]) ?_).bind fun _ _ _ =>
      Matches.bind (Oblivious.count _) fun _ _ _ => .observe _ _
    intro first second hsame
    rw [List.map_append, List.map_append, hsame, List.map_singleton, List.map_singleton, hblur]
  refine Matches.get.bind fun before after htwins => ?_
  rw [htwins.hagree.hstate, htwins.isEmpty_replays]
  dsimp only
  split
  · exact Matches.bind (Oblivious.register halike handle _) fun _ _ _ => hkept
  · exact hkept

theorem exchange :
    Matches synchrony alike past Eq (exchange one : AdapterM σ Answer) (exchange other) := by
  refine Matches.get.bind fun before after htwins => ?_
  rw [htwins.hagree.hstate]
  cases after.state.handle with
  | none => exact .pure rfl
  | some handle =>
      -- The replies may differ in how long they took, which is recorded and nothing else.
      refine (requestOn halike hblur handle).bind fun reply again hanswer => ?_
      dsimp only
      rw [hanswer]
      have hsettled (answer : Answer) : Oblivious synchrony alike past
          (if answer.isSuccess = true then Pure.pure answer
            else do
              AdapterM.count fun counters => { counters with failures := counters.failures + 1 }
              Pure.pure answer : AdapterM σ Answer) := by
        split
        · exact .pure rfl
        · exact (Oblivious.count _).bind fun _ => .pure rfl
      refine (Matches.sampleLatency _ _).bind fun _ _ _ =>
        (Matches.observe _ _).bind fun _ _ _ => ?_
      split
      · exact (queueReplay halike hblur handle).bind fun _ _ _ => hsettled _
      · exact hsettled _

theorem post :
    Matches synchrony alike past Eq (post one : AdapterM σ (Except ClientError Unit))
      (post other) := by
  refine Matches.get.bind fun before after htwins => ?_
  rw [htwins.hagree.hstate]
  cases after.state.handle with
  | none => exact .pure rfl
  | some handle => exact postOn halike hblur handle

end

variable (halike : Environment.Alike synchrony alike)

include halike

theorem postAll {one other : List Request}
    (hblur : one.map (·.blur synchrony) = other.map (·.blur synchrony)) :
    Matches synchrony alike past Eq
      (one.mapM AdapterM.post : AdapterM σ (List (Except ClientError Unit)))
      (other.mapM AdapterM.post) := by
  induction one generalizing other with
  | nil =>
      rw [List.map_eq_nil_iff.mp hblur.symm]
      exact .pure rfl
  | cons request rest ih =>
      obtain ⟨again, remaining, rfl, hfirst, hrest⟩ := List.map_eq_cons_iff.mp hblur.symm
      rw [List.mapM_cons, List.mapM_cons]
      refine (post halike hfirst.symm).bind fun _ _ hresult =>
        (ih hrest.symm).bind fun _ _ hresults => .pure ?_
      rw [hresult, hresults]

theorem look {look : AdapterM σ α} {same : Synchrony → α → α → Prop} (hlook : Look look same) :
    Matches synchrony alike past (same synchrony) look look := by
  cases hlook with
  | bootTime => exact .consult halike.hbootTime
  | utc => exact .consult halike.hutc
  | timestamp =>
      refine (Matches.consult halike.hbootTime).bind fun _ _ hsame =>
        Matches.get.bind fun before after htwins => ?_
      rw [htwins.hagree.hconfig]
      exact .pure ⟨hsame, rfl⟩

end Matches

/-! ### Routine operations -/

theorem Routine.oblivious (halike : Environment.Alike synchrony alike) {operation : AdapterM σ α}
    (hroutine : Routine operation) : Oblivious synchrony alike past operation := by
  induction hroutine with
  | pure value => exact .pure rfl
  | bind _ _ hfirst hnext => exact hfirst.bind hnext
  | read hagree _ hnext =>
      refine Matches.get.bind fun one other htwins => ?_
      rw [hagree one other htwins.hagree]
      exact hnext other
  | exchangeAt hlook _ hblur =>
      exact (Matches.look halike hlook).bind fun _ _ hsame => .exchange halike (hblur hsame)
  | notifyAt hlook _ hblur =>
      exact (Matches.look halike hlook).bind fun _ _ hsame => .notify (hblur hsame)
  | exchange request => exact .exchange halike rfl
  | post request => exact .post halike rfl
  | subscribe requested => exact .subscribe halike requested
  | adjust => exact .setState _
  | notify callback => exact .notify rfl
  | publish capabilities => exact .publish capabilities
  | observe observation => exact .observe observation observation
  | count change => exact .count change

/-! ### Connections, sessions and events -/

namespace Oblivious

section

variable (halike : Environment.Alike synchrony alike)

include halike

theorem connect :
    Oblivious synchrony alike past (connect : AdapterM σ (Except ClientError Handle)) :=
  Matches.noted halike.hconnect (by rintro result _ rfl; rfl)

theorem disconnect (handle : Handle) :
    Oblivious synchrony alike past (disconnect handle : AdapterM σ (Except ClientError Unit)) :=
  Matches.noted (halike.hdisconnect handle) (by rintro result _ rfl; rfl)

theorem probeOn (handle : Handle) (messages : List MessageId) :
    Oblivious synchrony alike past (probeOn handle messages :
      AdapterM σ (Except ClientError UInt64)) :=
  Matches.noted (halike.hprobe handle messages) (by rintro result _ rfl; rfl)

theorem probeMessages :
    Oblivious synchrony alike past (probeMessages : AdapterM σ (Mask EngineFeature)) := by
  refine Matches.get.bind fun one other htwins => ?_
  rw [htwins.hagree.hstate]
  cases other.state.handle with
  | none => exact .pure rfl
  | some handle =>
      refine (probeOn halike handle probedMessages).bind fun result => ?_
      cases result <;> exact .pure rfl

theorem probeMeasurement : Oblivious synchrony alike past (probeMeasurement : AdapterM σ Bool) := by
  refine ((Plain.subscribeConstellations _).hroutine.oblivious halike).bind fun supported => ?_
  cases supported with
  | false => exact .pure rfl
  | true => exact (setState _).bind fun _ => .pure rfl

theorem negotiate : Oblivious synchrony alike past (negotiate : AdapterM σ Unit) := by
  refine (Plain.claimMaster.hroutine.oblivious halike).bind fun _ => ?_
  refine (probeMeasurement halike).bind fun supported => ?_
  refine (probeMessages halike).bind fun features => ?_
  exact (Plain.publishFeatures supported features).hroutine.oblivious halike

theorem ensureConnected :
    Oblivious synchrony alike past (ensureConnected : AdapterM σ (Except ClientError Unit)) := by
  refine Matches.get.bind fun one other htwins => ?_
  rw [htwins.hagree.hstate]
  split
  · exact .pure rfl
  · refine (connect halike).bind fun result => ?_
    cases result with
    | error error => exact resetConnection.bind fun _ => .pure rfl
    | ok handle =>
        refine (setState _).bind fun _ => Matches.get.bind fun one other htwins => ?_
        rw [htwins.hagree.isMaster]
        split
        · exact (negotiate halike).bind fun _ => .pure rfl
        · exact .pure rfl

theorem openConnection (requested : Mask AdapterEvent) :
    Oblivious synchrony alike past (openConnection requested :
      AdapterM σ (Except ClientError Unit)) := by
  refine (ensureConnected halike).bind fun result => ?_
  cases result with
  | error error => exact .pure rfl
  | ok =>
      refine Matches.get.bind fun one other htwins => ?_
      rw [htwins.hagree.hconfig]
      exact ((Plain.changeEvents _).hroutine.oblivious halike).bind fun _ => .pure rfl

theorem closeConnection :
    Oblivious synchrony alike past (closeConnection : AdapterM σ (Except ClientError Unit)) := by
  refine Matches.get.bind fun one other htwins => ?_
  rw [htwins.hagree.hstate]
  cases other.state.handle with
  | none => exact resetConnection.bind fun _ => .pure rfl
  | some handle =>
      exact (disconnect halike handle).bind fun _ => resetConnection.bind fun _ => .pure rfl

theorem startFix (criteria : FixCriteria) :
    Oblivious synchrony alike past (startFix criteria : AdapterM σ (Except LocationError Unit)) :=
  (setState _).bind fun _ => (Routine.startMarked criteria).oblivious halike

theorem stopFix :
    Oblivious synchrony alike past (stopFix : AdapterM σ (Except LocationError Unit)) := by
  refine ((Plain.query _).hroutine.oblivious halike).bind fun result => ?_
  refine (setState _).bind fun _ => Matches.get.bind fun one other htwins => ?_
  rw [htwins.hagree.hstate]
  split
  · exact (setState _).bind fun _ => .pure rfl
  · exact (Plain.resubscribe.hroutine.oblivious halike).bind fun _ =>
      (setState _).bind fun _ => .pure rfl

theorem changeCriteria (criteria : FixCriteria) :
    Oblivious synchrony alike past (changeCriteria criteria :
      AdapterM σ (Except LocationError Unit)) := by
  refine Matches.get.bind fun one other htwins => ?_
  rw [htwins.hagree.hstate]
  split
  · exact startFix halike criteria
  · exact .pure rfl

theorem drainReplays : Oblivious synchrony alike past (drainReplays : AdapterM σ Unit) := by
  refine Matches.get.bind fun one other htwins => ?_
  dsimp only
  rw [htwins.isEmpty_replays]
  split
  · exact .pure rfl
  · refine (Matches.setReplays _ _ fun _ _ _ => rfl).bind fun _ _ _ => ?_
    refine (Matches.postAll halike htwins.hreplays).bind fun _ results hsame => ?_
    rw [hsame]
    exact (count _).bind fun _ => .observe _ _

theorem engineTurnedOff : Oblivious synchrony alike past (engineTurnedOff : AdapterM σ Unit) :=
  (setState _).bind fun _ => ((Plain.notifyAll rfl).hroutine.oblivious halike).bind
    fun _ => (Plain.resubscribe.hroutine.oblivious halike).bind
      fun _ => drainReplays halike

omit halike [Environment σ] in
theorem loseService : Oblivious synchrony alike past (loseService : AdapterM σ Unit) :=
  resetConnection.bind fun _ => .notify rfl

theorem handleEvent (event : TransportEvent) :
    Oblivious synchrony alike past (handleEvent event : AdapterM σ Unit) := by
  refine (Matches.record rfl).bind fun _ _ _ => ?_
  by_cases hquiet : event.isQuiet = true
  · cases event with
    | indication indication =>
        exact (Routine.handleIndication indication hquiet).oblivious halike
    | response reply => exact (Plain.handleReply reply).hroutine.oblivious halike
    | error failure =>
        cases failure with
        | serviceUnavailable => exact absurd hquiet (by decide)
        | other => exact .pure rfl
  · rcases event.eq_of_not_isQuiet hquiet with rfl | rfl
    · exact (count _).bind fun _ => (Matches.observe _ _).bind fun _ _ _ =>
        engineTurnedOff halike
    · exact loseService

theorem execute (command : Command) :
    Oblivious synchrony alike past (execute command : AdapterM σ CommandResult) := by
  have hmap {ε : Type} {operation : AdapterM σ ε} (change : ε → CommandResult)
      (hoperation : Oblivious synchrony alike past operation) :
      Oblivious synchrony alike past (change <$> operation) :=
    hoperation.bind fun _ => .pure rfl
  by_cases hroutine : command.isRoutine = true
  · exact (Routine.execute hroutine).oblivious halike
  · cases command with
    | connect events => exact hmap _ (openConnection halike events)
    | disconnect => exact hmap _ (closeConnection halike)
    | startFix criteria => exact hmap _ (startFix halike criteria)
    | stopFix => exact hmap _ (stopFix halike)
    | changeCriteria criteria => exact hmap _ (changeCriteria halike criteria)
    | _ => exact absurd rfl hroutine

end

end Oblivious

end AdapterM

end GnssAdapter
