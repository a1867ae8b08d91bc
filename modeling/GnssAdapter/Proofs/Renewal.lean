import GnssAdapter.Proofs.Oblivious
import GnssAdapter.Proofs.Opening

/-!
Adapters without a connection. However an adapter has lost its connection, it goes on as a new one
would that has been told what has been learnt about the engine.
-/

namespace GnssAdapter

namespace Adapter

variable {σ : Type} [Environment σ]

/-! ### Runs of twins -/

/-- What a command gives back; events give nothing back. -/
def result? (adapter : Adapter σ) : AdapterAction → Option CommandResult
  | .execute command => some ((AdapterM.execute command).run adapter).1
  | _ => none

def results (adapter : Adapter σ) : List AdapterAction → List CommandResult
  | [] => []
  | action :: rest => (adapter.result? action).toList ++ (adapter.act action).results rest

variable {synchrony : Synchrony} {alike : σ → σ → Prop} {past : List Entry} {one other : Adapter σ}

theorem Twins.act (halike : Environment.Alike synchrony alike)
    (htwins : one.Twins synchrony alike past other) (action : AdapterAction) :
    one.result? action = other.result? action ∧
      (one.act action).Twins synchrony alike past (other.act action) := by
  obtain ⟨hconfig, hcapabilities, hstate⟩ := htwins.hagree
  cases action with
  | execute command =>
      obtain ⟨hresult, hstill⟩ := AdapterM.Oblivious.execute halike command one other htwins
      exact ⟨congrArg some hresult, hstill⟩
  | handle event =>
      exact ⟨rfl, (AdapterM.Oblivious.handleEvent halike event one other htwins).2⟩
  | pickCommand | dropEvent =>
      exact ⟨rfl, ⟨hconfig, hcapabilities, hstate⟩, htwins.hreplays, htwins.hsurroundings,
        htwins.hhistory⟩
  | share shared =>
      exact ⟨rfl, ⟨hconfig, rfl, hstate⟩, htwins.hreplays, htwins.hsurroundings, htwins.hhistory⟩

theorem Twins.run (halike : Environment.Alike synchrony alike)
    (htwins : one.Twins synchrony alike past other) (actions : List AdapterAction) :
    one.results actions = other.results actions ∧
      (one.run actions).Twins synchrony alike past (other.run actions) := by
  induction actions generalizing one other with
  | nil => exact ⟨rfl, htwins⟩
  | cons action rest ih =>
      obtain ⟨hresult, hstill⟩ := htwins.act halike action
      obtain ⟨hresults, hend⟩ := ih hstill
      refine ⟨?_, hend⟩
      unfold results
      rw [hresult, hresults]

/-- If the past is all that an adapter has been through before a run, its twin has been through what
the run has brought. -/
theorem Twins.gained_blur {adapter : Adapter σ} {actions : List AdapterAction}
    (htwins : (adapter.run actions).Twins synchrony alike
      (adapter.history.map (Entry.blur synchrony)) other) :
    (gained adapter.history (adapter.run actions).history).map (Entry.blur synchrony) =
      other.history.map (Entry.blur synchrony) := by
  obtain ⟨entries, hgrown⟩ := adapter.history_suffix_run actions
  have hhistory := htwins.hhistory
  rw [← hgrown, List.map_append] at hhistory
  rw [← hgrown, gained_append]
  exact List.append_cancel_right hhistory

/-! ### Ways to lose a connection -/

/-- Closing, losing the service and being refused a connection. -/
inductive Severs (adapter : Adapter σ) : AdapterAction → Prop
  | close : Severs adapter (.execute .disconnect)
  | lose : Severs adapter (.handle (.error .serviceUnavailable))
  | refuse (events : Mask AdapterEvent) (error : ClientError)
      (hrefused : ((AdapterM.openConnection events).run adapter).1 = .error error) :
      Severs adapter (.execute (.connect events))

/-- A new adapter that has been told what another has learnt about its engine. -/
def renewed (adapter : Adapter σ) (surroundings : σ) (recorder : Recorder) : Adapter σ :=
  { Adapter.spawn adapter.config surroundings
      { capabilities := adapter.shared.capabilities, recorder } with
    state :=
      { masterUnsupported := adapter.state.masterUnsupported
        serviceDeletionKnown := adapter.state.serviceDeletionKnown } }

variable {adapter : Adapter σ} {action : AdapterAction}

theorem openConnection_refused {events : Mask AdapterEvent} {error : ClientError}
    (hrefused : ((AdapterM.openConnection events).run adapter).1 = .error error) :
    ((AdapterM.openConnection events).run adapter).2.standing = adapter.standing.refuse error := by
  have hcases := AdapterM.ensureConnected_cases adapter
  unfold AdapterM.openConnection at hrefused ⊢
  rw [AdapterM.run_bind] at hrefused ⊢
  generalize AdapterM.ensureConnected.run adapter = made at hrefused hcases ⊢
  obtain ⟨result, connected⟩ := made
  cases result with
  | ok => cases hrefused
  | error other =>
      cases hrefused
      rcases hcases with ⟨-, hkept⟩ | ⟨-, ⟨again, hfailed, hstanding⟩ | ⟨_, _, -, hmade⟩⟩
      · cases hkept
      · cases hfailed
        exact hstanding
      · rcases hmade with ⟨-, hnegotiated⟩ | ⟨-, hdone⟩
        · cases hnegotiated
        · cases hdone

/-- Of the standing, only the counts and the history tell that there has been a connection. -/
theorem Severs.standing (hsevers : adapter.Severs action) :
    ∃ entries, (∀ entry ∈ entries, entry.isPlain = true) ∧ (adapter.act action).standing =
      { adapter.standing.reset with history := entries ++ adapter.history } := by
  cases hsevers with
  | close =>
      have hclosed : (adapter.act (.execute .disconnect)).standing =
          adapter.standing.disconnect (AdapterM.closeConnection.run adapter).1 :=
        AdapterM.closeConnection_standing adapter
      rw [hclosed]
      unfold Standing.disconnect
      split
      · exact ⟨[], by simp, rfl⟩
      · exact ⟨[_], by simp [Entry.isPlain, Entry.opensConnection], rfl⟩
  | lose =>
      exact ⟨[.notified .engineDown, .arrived (.error .serviceUnavailable)], by decide, rfl⟩
  | refuse events error hrefused =>
      have hstanding : (adapter.act (.execute (.connect events))).standing =
          adapter.standing.refuse error := openConnection_refused hrefused
      rw [hstanding]
      exact ⟨[_], by simp [Entry.isPlain, Entry.opensConnection], rfl⟩

theorem Severs.twins (hsevers : adapter.Severs action) {surroundings : σ}
    (hsame : alike (adapter.act action).surroundings surroundings) (synchrony : Synchrony)
    (recorder : Recorder) :
    (adapter.act action).Twins synchrony alike
      ((adapter.act action).history.map (Entry.blur synchrony))
      (adapter.renewed surroundings recorder) := by
  obtain ⟨entries, -, hstanding⟩ := hsevers.standing
  have hreplays : (adapter.act action).replays = [] := congrArg Standing.replays hstanding
  refine ⟨⟨?_, ?_, ?_⟩, ?_, hsame, rfl⟩
  · exact congrArg Standing.config hstanding
  · exact congrArg Standing.capabilities hstanding
  · exact congrArg Standing.state hstanding
  · rw [hreplays]
    rfl

/-- However an adapter has lost its connection, nothing is left of its state but what has been
learnt about the engine. Among surroundings that answer alike, it goes on as a new adapter that has
been told that much: the commands give back the same, and the transport and the location engine are
told the same, but for times in which the clocks do not agree. -/
theorem severed_like_renewed (hsevers : adapter.Severs action)
    (halike : Environment.Alike synchrony alike) {surroundings : σ}
    (hsame : alike (adapter.act action).surroundings surroundings) (recorder : Recorder)
    (actions : List AdapterAction) :
    let severed := adapter.act action
    let fresh := adapter.renewed surroundings recorder
    severed.state = fresh.state ∧ severed.replays = [] ∧
      severed.results actions = fresh.results actions ∧
      (gained severed.history (severed.run actions).history).map (Entry.blur synchrony) =
        (fresh.run actions).history.map (Entry.blur synchrony) := by
  intro severed fresh
  have htwins := hsevers.twins hsame synchrony recorder
  obtain ⟨hresults, hend⟩ := htwins.run halike actions
  exact ⟨htwins.hagree.hstate, List.map_eq_nil_iff.mp htwins.hreplays, hresults, hend.gained_blur⟩

end Adapter

theorem Request.timeless_id (request : Request) : request.timeless.id = request.id := by
  cases request <;> rfl

namespace ScriptedEngine

/-- The same engine, but for its clock and the requests it has noted. -/
def retimed (engine : ScriptedEngine) (clock : ClockReading) (requests : List Request) :
    ScriptedEngine :=
  { engine with clock, requests }

section

variable {one other : Request} (htimeless : one.timeless = other.timeless)

include htimeless

theorem receive_retimed (engine : ScriptedEngine) (clock : ClockReading)
    (requests : List Request) :
    (engine.retimed clock requests).receive other =
      ((engine.receive one).1, (engine.receive one).2.retimed clock (other :: requests)) := by
  have hid : other.id = one.id := by
    rw [← Request.timeless_id, ← htimeless, Request.timeless_id]
  unfold receive retimed
  dsimp only
  rw [hid]
  split <;> rfl

theorem response?_retimed (engine : ScriptedEngine) (clock : ClockReading)
    (requests : List Request) :
    (engine.retimed clock requests).response? other = engine.response? one := by
  have hid : other.id = one.id := by
    rw [← Request.timeless_id, ← htimeless, Request.timeless_id]
  have hplain (request : Request) : plainResponse request.timeless = plainResponse request := by
    cases request <;> rfl
  unfold response?
  rw [hid, ← hplain other, ← htimeless, hplain]
  rfl

end

theorem retimed_alike : Environment.Alike .absent fun one other : ScriptedEngine =>
    ∃ clock requests, other = one.retimed clock requests where
  hconnect := by
    rintro engine _ ⟨clock, requests, rfl⟩
    change (connect _).1 = (connect _).1 ∧
      ∃ clock requests, (connect _).2 = (connect _).2.retimed clock requests
    unfold connect retimed
    dsimp only
    split <;> exact ⟨rfl, clock, requests, rfl⟩
  hdisconnect _ := by
    rintro engine _ ⟨clock, requests, rfl⟩
    exact ⟨rfl, clock, requests, rfl⟩
  hpost _ one other hblur := by
    rintro engine _ ⟨clock, requests, rfl⟩
    have hreceived := receive_retimed hblur engine clock requests
    exact ⟨(congrArg Prod.fst hreceived).symm, clock, other :: requests,
      congrArg Prod.snd hreceived⟩
  hrequest _ one other hblur _ := by
    rintro engine _ ⟨clock, requests, rfl⟩
    change (request _ _).1.answer = (request _ _).1.answer ∧
      ∃ clock requests, (request _ _).2 = (request _ _).2.retimed clock requests
    unfold request
    rw [receive_retimed hblur]
    obtain ⟨result, received⟩ := engine.receive one
    cases result with
    | error error => exact ⟨rfl, clock, other :: requests, rfl⟩
    | ok =>
        dsimp only
        rw [response?_retimed hblur]
        exact ⟨rfl, clock, other :: requests, rfl⟩
  hregister _ mask _ := by
    rintro engine _ ⟨clock, requests, rfl⟩
    change (register _ _).1 = (register _ _).1 ∧
      ∃ clock requests, (register _ _).2 = (register _ _).2.retimed clock requests
    unfold register retimed
    dsimp only
    split <;> exact ⟨rfl, clock, requests, rfl⟩
  hprobe _ _ := by
    rintro engine _ ⟨clock, requests, rfl⟩
    exact ⟨rfl, clock, requests, rfl⟩
  hbootTime := by
    rintro engine _ ⟨clock, requests, rfl⟩
    exact ⟨trivial, clock, requests, rfl⟩
  hutc := by
    rintro engine _ ⟨clock, requests, rfl⟩
    exact ⟨trivial, clock, requests, rfl⟩

end ScriptedEngine

namespace Adapter

/-- A client that closes its connection goes on as a new one does with an engine whose clock is a
minute ahead; the time that is injected is another one then. -/
theorem closed_like_renewed :
    let adapter := obligedAfter
      [.execute (.connect (.single .niRequest)), .execute (.setNmeaTypes 1)]
    let severed := adapter.act (.execute .disconnect)
    let clock : ClockReading := { bootTime := { seconds := 60 }, uptimeMs := 60000, utcMs := 0 }
    let fresh := adapter.renewed (severed.surroundings.retimed clock []) {}
    let actions : List AdapterAction :=
      [.execute (.connect (.single .niRequest)), .execute (.injectTime 1000 0 10),
        .execute (.setNmeaTypes 1)]
    severed.state = fresh.state ∧ severed.replays = [] ∧
      severed.results actions = fresh.results actions ∧
      (gained severed.history (severed.run actions).history).map (Entry.blur .absent) =
        (fresh.run actions).history.map (Entry.blur .absent) :=
  severed_like_renewed .close ScriptedEngine.retimed_alike ⟨_, _, rfl⟩ {} _

end Adapter

end GnssAdapter
