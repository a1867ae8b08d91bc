import GnssAdapter.Proofs.Course

/-!
Events that are only relayed. Three kinds of events concern the adapter itself: the engine state,
measurement fragments and the loss of the service. Every other event is told to the location engine
in words that are taken from the event and the configured uncertainty, and from a clock if it is
dated on arrival; it leaves no other trace. The transport hears of the adapter only when the engine
turns off.
-/

namespace GnssAdapter

namespace TransportEvent

/-- The event does not concern the adapter itself. -/
def isRelayed : TransportEvent → Bool
  | .indication (.engineState _) | .indication (.measurement _)
  | .error .serviceUnavailable => false
  | _ => true

/-- The event is dated on arrival. A position is stamped with the time since the first reading, and
a reply without a time gets that of the wall clock. -/
def isDated : TransportEvent → Bool
  | .indication (.position _) | .indication (.unpropagatedPosition _) => true
  | .response reply => reply.timestampUtcMs.isNone
  | _ => false

/-- What the location engine is told of an event that is relayed at some time. -/
def reports (event : TransportEvent) (uncertaintyMs : Float32) (bootTime : Duration)
    (utcMs : UInt64) : List Callback :=
  match event with
  | .indication (.position content) => [content.callback { bootTime, uncertaintyMs } false]
  | .indication (.unpropagatedPosition content) =>
      [content.callback { bootTime, uncertaintyMs } true]
  | .indication content => content.callbacks
  | .response reply => [reply.callback (reply.timestampUtcMs.getD utcMs)]
  | .error _ => []

/-- An event that is not dated on arrival is told alike at all times. -/
theorem reports_of_undated {event : TransportEvent} (hundated : event.isDated = false)
    (uncertaintyMs : Float32) (bootTime other : Duration) (utcMs otherMs : UInt64) :
    event.reports uncertaintyMs bootTime utcMs = event.reports uncertaintyMs other otherMs := by
  cases event with
  | error failure => rfl
  | indication content =>
      cases content with
      | position | unpropagatedPosition => cases hundated
      | _ => rfl
  | response reply =>
      have hdated : reply.timestampUtcMs.isSome = true := Option.isNone_eq_false_iff.mp hundated
      obtain ⟨timestampMs, htime⟩ := Option.isSome_iff_exists.mp hdated
      unfold reports
      dsimp only
      rw [htime]
      rfl

/-- What is told of an event differs between two times by no more than these do. -/
theorem reports_blur (event : TransportEvent) (uncertaintyMs : Float32) {synchrony : Synchrony}
    {bootTime other : Duration} (hbootTime : synchrony.BootTimes bootTime other)
    {utcMs otherMs : UInt64} (hutc : synchrony.UtcTimes utcMs otherMs) :
    (event.reports uncertaintyMs bootTime utcMs).map (·.blur synchrony) =
      (event.reports uncertaintyMs other otherMs).map (·.blur synchrony) := by
  have hstamp : synchrony.Stamps { bootTime, uncertaintyMs } { bootTime := other, uncertaintyMs } :=
    ⟨hbootTime, rfl⟩
  cases event with
  | error failure => rfl
  | indication content =>
      cases content with
      | position content =>
          change [Callback.blur _ _] = [Callback.blur _ _]
          rw [content.callback_blur false hstamp]
      | unpropagatedPosition content =>
          change [Callback.blur _ _] = [Callback.blur _ _]
          rw [content.callback_blur true hstamp]
      | _ => rfl
  | response reply =>
      change [Callback.blur _ _] = [Callback.blur _ _]
      cases reply.timestampUtcMs with
      | some timestampMs => rfl
      | none =>
          rw [Option.getD_none, Option.getD_none, reply.callback_blur hutc]

end TransportEvent

/-- A call of the transport. -/
def Entry.isTraffic : Entry → Bool
  | .connected _ | .disconnected .. => true
  | .posted .. | .requested .. | .registered .. | .probed .. => true
  | .notified _ | .published .. | .arrived _ => false

/-- An engine that turns off is told, has its mask registered at most once, and is then sent what has
been kept. -/
theorem Standing.turnOff_history (standing : Standing) (accepted : Bool)
    (results : List (Except ClientError Unit)) :
    ∃ registration : Option Entry,
      (∀ entry ∈ registration, ∃ handle mask, standing.state.handle = some handle ∧
        entry = .registered handle mask standing.isMaster accepted) ∧
      (standing.turnOff accepted results).history =
        postings standing.state.handle (standing.replays.zip results) ++
          (registration.toList ++ [.notified (.status .engineOff), .notified (.status .sessionEnd),
            .arrived (.indication (.engineState .off))] ++ standing.history) := by
  have hdrained (subscribed : Standing) (hhandle : subscribed.state.handle = standing.state.handle)
      (hreplays : subscribed.replays = standing.replays) :
      (subscribed.drain results).history =
        postings standing.state.handle (standing.replays.zip results) ++ subscribed.history := by
    unfold drain
    rw [postAll_eq, ← hhandle, ← hreplays]
    rfl
  have hhistory := hdrained (standing.noticeOff.subscribe standing.state.requestedMask accepted)
    (by rw [subscribe_state]; rfl) (subscribe_replays ..)
  unfold turnOff
  rw [hhistory]
  have hsubscribed := standing.noticeOff.subscribed standing.state.requestedMask accepted
  generalize standing.noticeOff.subscribe standing.state.requestedMask accepted = after
    at hsubscribed ⊢
  cases hsubscribed with
  | closed | unchanged => exact ⟨none, by simp, rfl⟩
  | @registered handle hopen =>
      let mask := standing.noticeOff.nativeFor standing.state.requestedMask
      refine ⟨some (.registered handle mask standing.isMaster accepted), ?_, rfl⟩
      intro entry hentry
      exact ⟨handle, mask, hopen, (Option.mem_some.mp hentry).symm⟩

namespace Environment

variable {σ α : Type}

theorem respects_eq {same : α → α → Prop} (hsame : ∀ value, same value value) (call : σ → α × σ) :
    Respects Eq same call call := by
  rintro first _ rfl
  exact ⟨hsame _, rfl⟩

theorem alike_eq [Environment σ] : Alike .exact (Eq : σ → σ → Prop) where
  hconnect := respects_eq (fun _ => rfl) _
  hdisconnect _ := respects_eq (fun _ => rfl) _
  hpost _ one other hblur := by
    rw [show one = other from hblur]
    exact respects_eq (fun _ => rfl) _
  hrequest _ one other hblur _ := by
    rw [show one = other from hblur]
    apply respects_eq
    intro reply
    rfl
  hregister _ _ _ := respects_eq (fun _ => rfl) _
  hprobe _ _ := respects_eq (fun _ => rfl) _
  hbootTime := respects_eq (fun _ => rfl) _
  hutc := respects_eq (fun _ => rfl) _

/-- The surroundings once a clock has been read to date an event. -/
def dated [Environment σ] (surroundings : σ) (event : TransportEvent) : σ :=
  match event with
  | .indication _ => if event.isDated then (readBootTime surroundings).2 else surroundings
  | .response _ => if event.isDated then (readUtc surroundings).2 else surroundings
  | .error _ => surroundings

theorem dated_of_undated [Environment σ] {event : TransportEvent} (hundated : event.isDated = false)
    (surroundings : σ) : dated surroundings event = surroundings := by
  cases event <;> simp [dated, hundated]

/-- Surroundings stay alike when a clock is read. -/
structure TimeApart [Environment σ] (alike : σ → σ → Prop) : Prop where
  hbootTime (surroundings : σ) : alike (readBootTime surroundings).2 surroundings
  hutc (surroundings : σ) : alike (readUtc surroundings).2 surroundings

theorem TimeApart.alike_dated [Environment σ] {alike : σ → σ → Prop} (happart : TimeApart alike)
    {event : TransportEvent} (hdated : event.isDated = true) (surroundings : σ) :
    alike (dated surroundings event) surroundings := by
  cases event with
  | indication => simpa [dated, hdated] using happart.hbootTime surroundings
  | response => simpa [dated, hdated] using happart.hutc surroundings
  | error => cases hdated

end Environment

namespace Adapter

open AdapterM

variable {σ : Type} [Environment σ] {adapter other : Adapter σ} {event : TransportEvent}

/-- What would be read as the time since the first reading. -/
def bootTime (adapter : Adapter σ) : Duration :=
  (Environment.readBootTime adapter.surroundings).1

/-- What would be read from the wall clock. -/
def utcMs (adapter : Adapter σ) : UInt64 :=
  (Environment.readUtc adapter.surroundings).1

/-! ### What a relayed event leaves -/

/-- What a relayed event makes of an adapter: it is told, and nothing else comes of it. -/
structure Leaves (adapter : Adapter σ) (event : TransportEvent) (handled : Adapter σ) : Prop where
  hagree : handled.Agree adapter
  hreplays : handled.replays = adapter.replays
  hsurroundings : handled.surroundings = Environment.dated adapter.surroundings event
  hhistory : handled.history =
    ((event.reports adapter.config.timestampUncertaintyMs adapter.bootTime
      adapter.utcMs).map Entry.notified).reverse ++ .arrived event :: adapter.history

theorem handle_reply (reply : PositionReply) (adapter : Adapter σ) :
    adapter.Leaves (.response reply) (adapter.act (.handle (.response reply))) := by
  let arrived := ((record (.arrived (.response reply)) : AdapterM σ Unit).run adapter).2
  have hreported : adapter.act (.handle (.response reply)) = ((do
      let timestampMs ← timeReply reply
      notify (reply.callback timestampMs) : AdapterM σ Unit).run arrived).2 := rfl
  unfold timeReply at hreported
  rw [hreported]
  have hdated : (TransportEvent.response reply).isDated = reply.timestampUtcMs.isNone := rfl
  have hreports : (TransportEvent.response reply).reports adapter.config.timestampUncertaintyMs
      adapter.bootTime adapter.utcMs =
        [reply.callback (reply.timestampUtcMs.getD adapter.utcMs)] := rfl
  cases htime : reply.timestampUtcMs with
  | some timestampMs =>
      rw [htime] at hdated hreports
      refine ⟨⟨rfl, rfl, rfl⟩, rfl, (Environment.dated_of_undated hdated _).symm, ?_⟩
      rw [hreports]
      rfl
  | none =>
      rw [htime] at hdated hreports
      refine ⟨⟨rfl, rfl, rfl⟩, rfl, (if_pos hdated).symm, ?_⟩
      rw [hreports]
      rfl

theorem handle_told {content : Indication}
    (hrelayed : (TransportEvent.indication content).isRelayed = true)
    (hundated : (TransportEvent.indication content).isDated = false) (adapter : Adapter σ) :
    adapter.Leaves (.indication content) (adapter.act (.handle (.indication content))) := by
  let counted := ((do
    record (.arrived (.indication content))
    count fun counters => { counters with indications := counters.indications + 1 }
    observe (.indication content.kind) : AdapterM σ Unit).run adapter).2
  have htold : adapter.act (.handle (.indication content)) =
      ((notifyAll content.callbacks).run counted).2 := by
    cases content with
    | engineState | measurement => cases hrelayed
    | position | unpropagatedPosition => cases hundated
    | _ => rfl
  have hreports : (TransportEvent.indication content).reports
      adapter.config.timestampUncertaintyMs adapter.bootTime adapter.utcMs = content.callbacks := by
    cases content with
    | position | unpropagatedPosition => cases hundated
    | _ => rfl
  rw [htold, notifyAll_run]
  refine ⟨⟨rfl, rfl, rfl⟩, rfl, (Environment.dated_of_undated hundated _).symm, ?_⟩
  rw [hreports]
  rfl

/-- A relayed event is told to the location engine, for which a clock may be read; nothing else comes
of it. -/
theorem handle_relayed (hrelayed : event.isRelayed = true) (adapter : Adapter σ) :
    adapter.Leaves event (adapter.act (.handle event)) := by
  cases event with
  | error failure =>
      cases failure with
      | serviceUnavailable => cases hrelayed
      | other => exact ⟨⟨rfl, rfl, rfl⟩, rfl, rfl, rfl⟩
  | response reply => exact handle_reply reply adapter
  | indication content =>
      cases hdated : (TransportEvent.indication content).isDated with
      | false => exact handle_told hrelayed hdated adapter
      | true =>
          cases content with
          | position | unpropagatedPosition => exact ⟨⟨rfl, rfl, rfl⟩, rfl, rfl, rfl⟩
          | _ => cases hdated

theorem trace_relayed (hrelayed : event.isRelayed = true) (adapter : Adapter σ) :
    adapter.trace (.handle event) = .arrived event ::
      (event.reports adapter.config.timestampUncertaintyMs adapter.bootTime
        adapter.utcMs).map Entry.notified := by
  let told := (event.reports adapter.config.timestampUncertaintyMs adapter.bootTime
    adapter.utcMs).map Entry.notified
  have hhistory : (adapter.act (.handle event)).history =
      (told.reverse ++ [.arrived event]) ++ adapter.history := by
    rw [(handle_relayed hrelayed adapter).hhistory, List.append_assoc]
    rfl
  rw [trace_eq hhistory, List.reverse_append, List.reverse_reverse]
  rfl

/-! ### What goes to the transport -/

theorem trace_turnOn (adapter : Adapter σ) :
    adapter.trace (.handle (.indication (.engineState .on))) =
      .arrived (.indication (.engineState .on)) ::
        if adapter.state.inSession then
          [.notified (.status .engineOn), .notified (.status .sessionBegin)]
        else [] := by
  let entries : List Entry :=
    if adapter.state.inSession then
      [.notified (.status .sessionBegin), .notified (.status .engineOn)]
    else []
  have hhistory : (adapter.act (.handle (.indication (.engineState .on)))).history =
      (entries ++ [.arrived (.indication (.engineState .on))]) ++ adapter.history := by
    let turned := ((do
      record (.arrived (.indication (.engineState .on)))
      count fun counters => { counters with indications := counters.indications + 1 }
      observe (.indication .engineState)
      setState fun state => { state with engineOn := true } : AdapterM σ Unit).run adapter).2
    change ((if adapter.state.inSession then
      notifyAll [.status .engineOn, .status .sessionBegin] else pure () :
        AdapterM σ Unit).run turned).2.history = _
    dsimp only [entries]
    split <;> rfl
  rw [trace_eq hhistory]
  dsimp only [entries]
  split <;> rfl

/-- The location engine hears of the events that are kept track of; the transport does not, unless the
engine turns off. -/
theorem mem_trace_of_kept (hkept : event.isRelayed = false)
    (hother : event ≠ .indication (.engineState .off)) (adapter : Adapter σ) {entry : Entry}
    (hmem : entry ∈ adapter.trace (.handle event)) :
    (∃ event, entry = .arrived event) ∨ ∃ callback, entry = .notified callback := by
  unfold TransportEvent.isRelayed at hkept
  split at hkept
  · rename_i state
    cases state with
    | off => exact absurd rfl hother
    | on =>
        rw [trace_turnOn, List.mem_cons] at hmem
        rcases hmem with rfl | htold
        · exact .inl ⟨_, rfl⟩
        · split at htold
          · simp only [List.mem_cons, List.not_mem_nil, or_false] at htold
            rcases htold with rfl | rfl <;> exact .inr ⟨_, rfl⟩
          · cases htold
  · rename_i fragment
    obtain ⟨timestamp, hcollected⟩ := handleMeasurement_standing fragment adapter
    rw [Standing.collect_eq] at hcollected
    have hhistory : (adapter.act (.handle (.indication (.measurement fragment)))).history =
        adapter.standing.collectEntries fragment timestamp ++ adapter.history :=
      congrArg Standing.history hcollected
    rw [trace_eq hhistory, List.mem_reverse] at hmem
    exact Standing.mem_collectEntries hmem
  · have hhistory : (adapter.act (.handle (.error .serviceUnavailable))).history =
        [.notified .engineDown, .arrived (.error .serviceUnavailable)] ++ adapter.history := rfl
    rw [trace_eq hhistory] at hmem
    simp only [List.mem_reverse, List.mem_cons, List.not_mem_nil, or_false] at hmem
    rcases hmem with rfl | rfl
    · exact .inr ⟨_, rfl⟩
    · exact .inl ⟨_, rfl⟩
  · cases hkept

theorem trace_not_isTraffic (hother : event ≠ .indication (.engineState .off))
    (adapter : Adapter σ) {entry : Entry} (hmem : entry ∈ adapter.trace (.handle event)) :
    entry.isTraffic = false := by
  have htold : (∃ event, entry = .arrived event) ∨ ∃ callback, entry = .notified callback := by
    cases hrelayed : event.isRelayed with
    | false => exact mem_trace_of_kept hrelayed hother adapter hmem
    | true =>
        rw [trace_relayed hrelayed, List.mem_cons, List.mem_map] at hmem
        rcases hmem with rfl | ⟨callback, -, rfl⟩
        · exact .inl ⟨event, rfl⟩
        · exact .inr ⟨callback, rfl⟩
  rcases htold with ⟨arrived, rfl⟩ | ⟨callback, rfl⟩ <;> rfl

theorem trace_turnOff (adapter : Adapter σ) :
    ∃ (registration : Option Entry) (results : List (Except ClientError Unit)),
      (∀ entry ∈ registration, ∃ handle mask accepted, adapter.state.handle = some handle ∧
        entry = .registered handle mask adapter.isMaster accepted) ∧
      results.length = adapter.replays.length ∧
      adapter.trace (.handle (.indication (.engineState .off))) =
        .arrived (.indication (.engineState .off)) :: .notified (.status .sessionEnd) ::
          .notified (.status .engineOff) :: registration.toList ++
          (Standing.postings adapter.state.handle (adapter.replays.zip results)).reverse := by
  obtain ⟨accepted, results, hall, hturned⟩ := handleEvent_turnOff adapter
  obtain ⟨registration, hregistered, hhistory⟩ :=
    adapter.standing.turnOff_history accepted results
  rw [← hturned] at hhistory
  refine ⟨registration, results, ?_, hall, ?_⟩
  · intro entry hentry
    obtain ⟨handle, mask, hopen, hsame⟩ := hregistered entry hentry
    exact ⟨handle, mask, accepted, hopen, hsame⟩
  · have hgrown : (adapter.act (.handle (.indication (.engineState .off)))).history =
        (Standing.postings adapter.state.handle (adapter.replays.zip results) ++
          (registration.toList ++ [.notified (.status .engineOff), .notified (.status .sessionEnd),
            .arrived (.indication (.engineState .off))])) ++ adapter.history := by
      rw [List.append_assoc]
      exact hhistory
    rw [trace_eq hgrown]
    cases registration <;> simp

/-! ### Runs around a relayed event -/

/-- Adapters that take the same actions alike. The commands give back the same, and what is asked and
told is the same but for times in which the clocks do not agree. -/
structure GoesLike (synchrony : Synchrony) (adapter other : Adapter σ)
    (actions : List AdapterAction) : Prop where
  hresults : adapter.results actions = other.results actions
  hagree : (adapter.run actions).Agree (other.run actions)
  hreplays : (adapter.run actions).replays.map (·.blur synchrony) =
    (other.run actions).replays.map (·.blur synchrony)
  hgained : (gained adapter.history (adapter.run actions).history).map (Entry.blur synchrony) =
    (gained other.history (other.run actions).history).map (Entry.blur synchrony)

variable {synchrony : Synchrony} {alike : σ → σ → Prop}

/-- Nothing is blurred where the clocks agree. -/
theorem GoesLike.eq_of_exact {actions : List AdapterAction}
    (hlike : adapter.GoesLike .exact other actions) :
    (adapter.run actions).replays = (other.run actions).replays ∧
      gained adapter.history (adapter.run actions).history =
        gained other.history (other.run actions).history := by
  obtain ⟨-, -, hreplays, hgained⟩ := hlike
  rw [Entry.blur_exact, List.map_id, List.map_id] at hgained
  exact ⟨by simpa [Request.blur] using hreplays, hgained⟩

/-- An adapter goes on as one without a past that decides alike, among surroundings that answer
alike. -/
theorem Agree.goesLike_new (halike : Environment.Alike synchrony alike)
    (hagree : adapter.Agree other) (hreplays : adapter.replays = other.replays)
    (hsame : alike adapter.surroundings other.surroundings) (hnew : other.history = [])
    (actions : List AdapterAction) : adapter.GoesLike synchrony other actions := by
  have htwins : adapter.Twins synchrony alike (adapter.history.map (Entry.blur synchrony)) other :=
    ⟨hagree, by rw [hreplays], hsame, by rw [hnew]; rfl⟩
  obtain ⟨hresults, hend⟩ := htwins.run halike actions
  have hall : gained other.history (other.run actions).history = (other.run actions).history := by
    rw [hnew]
    exact List.take_length
  refine ⟨hresults, hend.hagree, hend.hreplays, ?_⟩
  rw [hend.gained_blur, hall]

/-- Adapters that decide alike go on alike, whatever either has been through before. -/
theorem Agree.goesLike (halike : Environment.Alike synchrony alike) (hagree : adapter.Agree other)
    (hreplays : adapter.replays = other.replays)
    (hsame : alike adapter.surroundings other.surroundings) (actions : List AdapterAction) :
    adapter.GoesLike synchrony other actions := by
  -- Both go on as an adapter without a past does, the other one among the very same surroundings.
  let fresh : Adapter σ := { other with history := [] }
  have hfresh : other.Agree fresh := ⟨rfl, rfl, rfl⟩
  have hone := (hagree.trans hfresh).goesLike_new halike hreplays hsame rfl actions
  have hother := hfresh.goesLike_new Environment.alike_eq rfl rfl rfl actions
  obtain ⟨hkept, hgained⟩ := hother.eq_of_exact
  refine ⟨hone.hresults.trans hother.hresults.symm, hone.hagree.trans hother.hagree.symm, ?_, ?_⟩
  · rw [hone.hreplays, hkept]
  · rw [hone.hgained, hgained]

/-! ### Any event -/

/-- How an adapter takes an event. Only engine states, fragments and the loss of the service change
it, and only an engine that turns off makes it turn to the transport. -/
structure Relays (adapter : Adapter σ) (event : TransportEvent) : Prop where
  hsilent : event ≠ .indication (.engineState .off) →
    ∀ entry ∈ adapter.trace (.handle event), entry.isTraffic = false
  /-- One mask is registered at most, and then the kept requests are sent. -/
  hturnedOff : event = .indication (.engineState .off) →
    ∃ (registration : Option Entry) (results : List (Except ClientError Unit)),
      (∀ entry ∈ registration, ∃ handle mask accepted, adapter.state.handle = some handle ∧
        entry = .registered handle mask adapter.isMaster accepted) ∧
      results.length = adapter.replays.length ∧
      adapter.trace (.handle event) =
        .arrived event :: .notified (.status .sessionEnd) ::
          .notified (.status .engineOff) :: registration.toList ++
          (Standing.postings adapter.state.handle (adapter.replays.zip results)).reverse
  hunchanged : event.isRelayed = true →
    (adapter.act (.handle event)).Agree adapter ∧
      (adapter.act (.handle event)).replays = adapter.replays
  htold : event.isRelayed = true →
    adapter.trace (.handle event) = .arrived event ::
      (event.reports adapter.config.timestampUncertaintyMs adapter.bootTime
        adapter.utcMs).map Entry.notified
  /-- Every adapter tells it in the same words, but for the time if it is dated on arrival. -/
  heverywhere : event.isRelayed = true → ∀ other : Adapter σ,
    other.config.timestampUncertaintyMs = adapter.config.timestampUncertaintyMs →
      (event.isDated = false → other.trace (.handle event) = adapter.trace (.handle event)) ∧
      ∀ synchrony : Synchrony, synchrony.BootTimes other.bootTime adapter.bootTime →
        synchrony.UtcTimes other.utcMs adapter.utcMs →
          (other.trace (.handle event)).map (Entry.blur synchrony) =
            (adapter.trace (.handle event)).map (Entry.blur synchrony)
  /-- What comes after is as it would have been without the event, had a clock been read if one is to
  date it. -/
  hafter : event.isRelayed = true → ∀ rest,
    (adapter.act (.handle event)).GoesLike .exact
      { adapter with surroundings := Environment.dated adapter.surroundings event } rest
  /-- If none is, what comes after is as it would have been without the event. -/
  hundated : event.isRelayed = true → event.isDated = false →
    ∀ rest, (adapter.act (.handle event)).GoesLike .exact adapter rest
  /-- If one is, so is what comes after but for the times that the clocks then show. -/
  hdated : event.isRelayed = true → event.isDated = true →
    ∀ (synchrony : Synchrony) (alike : σ → σ → Prop), Environment.Alike synchrony alike →
      Environment.TimeApart alike →
        ∀ rest, (adapter.act (.handle event)).GoesLike synchrony adapter rest

/-- Every adapter takes every event so, whatever it has been through. -/
theorem handle_relays (adapter : Adapter σ) (event : TransportEvent) : adapter.Relays event where
  hsilent hother _ := adapter.trace_not_isTraffic hother
  hturnedOff := by
    rintro rfl
    exact adapter.trace_turnOff
  hunchanged hrelayed :=
    ⟨(handle_relayed hrelayed adapter).hagree, (handle_relayed hrelayed adapter).hreplays⟩
  htold hrelayed := trace_relayed hrelayed adapter
  heverywhere hrelayed other huncertainty := by
    rw [trace_relayed hrelayed, trace_relayed hrelayed, huncertainty]
    refine ⟨fun hundated => ?_, fun synchrony hbootTime hutc => ?_⟩
    · rw [event.reports_of_undated hundated _ _ adapter.bootTime _ adapter.utcMs]
    · have hreports := congrArg (List.map Entry.notified)
        (event.reports_blur adapter.config.timestampUncertaintyMs hbootTime hutc)
      rw [List.map_map, List.map_map] at hreports
      rw [List.map_cons, List.map_cons, List.map_map, List.map_map]
      exact congrArg (List.cons _) hreports
  hafter hrelayed := by
    obtain ⟨⟨hconfig, hcapabilities, hstate⟩, hreplays, hsurroundings, -⟩ :=
      handle_relayed hrelayed adapter
    exact Agree.goesLike Environment.alike_eq ⟨hconfig, hcapabilities, hstate⟩ hreplays
      hsurroundings
  hundated hrelayed hundated := by
    have hleaves := handle_relayed hrelayed adapter
    have hsame := hleaves.hsurroundings.trans (Environment.dated_of_undated hundated _)
    exact hleaves.hagree.goesLike Environment.alike_eq hleaves.hreplays hsame
  hdated hrelayed hdated synchrony alike halike happart := by
    have hleaves := handle_relayed hrelayed adapter
    refine hleaves.hagree.goesLike halike hleaves.hreplays ?_
    rw [hleaves.hsurroundings]
    exact happart.alike_dated hdated _

end Adapter

/-- A scripted engine beside a clock that starts when it is first read, and goes on by a second with
each reading. -/
structure TimedEngine where
  engine : ScriptedEngine
  readings : Nat := 0

namespace TimedEngine

/-- A call that the clock takes no part in. -/
def pass {α : Type} (call : ScriptedEngine → α × ScriptedEngine) (timed : TimedEngine) :
    α × TimedEngine :=
  let (answer, engine) := call timed.engine
  (answer, { timed with engine })

instance : Environment TimedEngine where
  connect := pass Environment.connect
  disconnect handle := pass (Environment.disconnect handle)
  post handle request := pass (Environment.post handle request)
  request handle message timeoutMs := pass (Environment.request handle message timeoutMs)
  register handle mask isMaster := pass (Environment.register handle mask isMaster)
  probe handle messages := pass (Environment.probe handle messages)
  readBootTime timed :=
    ({ seconds := .ofNat timed.readings }, { timed with readings := timed.readings + 1 })
  readUtc := pass Environment.readUtc

/-- The engines are the same but for their clocks and the requests they have noted. -/
def Alike (one other : TimedEngine) : Prop :=
  ∃ clock requests, other.engine = one.engine.retimed clock requests

theorem respects_pass {α : Type} {same : α → α → Prop}
    {one other : ScriptedEngine → α × ScriptedEngine}
    (hcall : Environment.Respects (fun one other : ScriptedEngine =>
      ∃ clock requests, other = one.retimed clock requests) same one other) :
    Environment.Respects Alike same (pass one) (pass other) :=
  fun first second hsame => hcall first.engine second.engine hsame

theorem alike_alike : Environment.Alike .absent Alike where
  hconnect := respects_pass ScriptedEngine.retimed_alike.hconnect
  hdisconnect handle := respects_pass (ScriptedEngine.retimed_alike.hdisconnect handle)
  hpost handle _ _ hblur := respects_pass (ScriptedEngine.retimed_alike.hpost handle hblur)
  hrequest handle _ _ hblur timeoutMs :=
    respects_pass (ScriptedEngine.retimed_alike.hrequest handle hblur timeoutMs)
  hregister handle mask isMaster :=
    respects_pass (ScriptedEngine.retimed_alike.hregister handle mask isMaster)
  hprobe handle messages := respects_pass (ScriptedEngine.retimed_alike.hprobe handle messages)
  hbootTime _ _ hsame := ⟨trivial, hsame⟩
  hutc := respects_pass ScriptedEngine.retimed_alike.hutc

theorem alike_timeApart : Environment.TimeApart Alike where
  hbootTime timed := ⟨timed.engine.clock, timed.engine.requests, rfl⟩
  hutc timed := ⟨timed.engine.clock, timed.engine.requests, rfl⟩

end TimedEngine

namespace Adapter

/-- The UTC time that the engine is given by a request. -/
def injectedUtcMs? : Entry → Option UInt64
  | .requested _ (.injectTime injection) _ => some injection.timeUtcMs
  | _ => none

/-- A position starts the clock of a process. The time that is injected after it is a second later
than it would have been; but for that, the adapter goes on as if the position had not come. -/
theorem handle_relays_position :
    let adapter : Adapter TimedEngine :=
      (spawn { masterClient := false } { engine := { clock := .first } } {}).run
        [.execute (.connect (.single .niRequest))]
    let event : TransportEvent := .indication (.position {})
    let handled := adapter.act (.handle event)
    let rest : List AdapterAction := [.execute (.injectTime 1000 0 10), .execute .disconnect]
    handled.GoesLike .absent adapter rest ∧
      (handled.run rest).history.filterMap injectedUtcMs? = [2000] ∧
      (adapter.run rest).history.filterMap injectedUtcMs? = [1000] := by
  intro adapter event handled rest
  have hrelays := adapter.handle_relays event
  exact ⟨hrelays.hdated rfl rfl _ _ TimedEngine.alike_alike TimedEngine.alike_timeApart rest,
    by decide, by decide⟩

end Adapter

end GnssAdapter
