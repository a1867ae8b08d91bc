import GnssAdapter.Proofs.Learning
import GnssAdapter.Proofs.Opening
import GnssAdapter.Transport.Scripted

/-!
Masters and clients around one capability store. A client never gets to what is left to masters, as
only masters ask whether masters are known, so that its rights stay what its configuration says. The
store is written by the first negotiation that completes, and by no later one.
-/

namespace GnssAdapter

theorem exists_of_mem_owedRequests {history : List Entry} {owed : Handle × Request}
    (hmem : owed ∈ owedRequests history) :
    ∃ answer, .requested owed.1 owed.2 answer ∈ history := by
  unfold owedRequests at hmem
  rw [List.mem_reverse, List.mem_filterMap] at hmem
  obtain ⟨entry, htaken, hbusy⟩ := hmem
  have hentry := (List.takeWhile_sublist _).subset htaken
  unfold Entry.busyRequest? at hbusy
  split at hbusy
  · split at hbusy
    · rw [← Option.some.inj hbusy]
      exact ⟨_, hentry⟩
    · cases hbusy
  · cases hbusy

namespace Standing

variable {lesson : Lesson} {before after : Standing}

theorem Skips.isMaster_eq (hskips : Skips .mastery before after)
    (hconfig : after.config = before.config) : after.isMaster = before.isMaster := by
  have hsame : after.state.masterUnsupported = before.state.masterUnsupported := hskips.hlearnt
  unfold isMaster
  rw [hconfig, hsame]

/-- An adapter that has done nothing that is left to masters. -/
structure Abstains (standing : Standing) : Prop where
  hmastery : standing.state.masterUnsupported = false
  hentries : ∀ entry ∈ standing.history,
    entry.lesson? ≠ some .mastery ∧ entry.lesson? ≠ some .capabilities

/-- What an adapter keeps that abstains has not been left to masters either. -/
theorem Abstains.replays (habstains : before.Abstains) (haccounted : before.Accounted)
    {request : Request} (hmem : request ∈ before.replays) : request.lesson? ≠ some .mastery := by
  rw [haccounted.hreplays, List.mem_map] at hmem
  obtain ⟨owed, howed, rfl⟩ := hmem
  obtain ⟨answer, hasked⟩ := exists_of_mem_owedRequests howed
  exact (habstains.hentries _ hasked).1

theorem Abstains.of_skips (habstains : before.Abstains) (hmastery : Skips .mastery before after)
    (hcapabilities : Skips .capabilities before after) : after.Abstains := by
  obtain ⟨entries, hgrown, hunmastered⟩ := hmastery.hentries
  obtain ⟨others, hothers, hunpublished⟩ := hcapabilities.hentries
  have hsame : entries = others := List.append_cancel_right (hgrown.symm.trans hothers)
  refine ⟨hmastery.hlearnt.trans habstains.hmastery, fun entry hmem => ?_⟩
  rw [hgrown] at hmem
  rcases List.mem_append.mp hmem with hnew | hold
  · exact ⟨hunmastered entry hnew, hunpublished entry (hsame ▸ hnew)⟩
  · exact habstains.hentries entry hold

end Standing

namespace AdapterM

open Standing

variable {σ : Type} [Environment σ] {lesson : Lesson}

/-- A client leaves the constellations alone when events change. -/
theorem changeEvents_client (requested : Mask AdapterEvent) {adapter : Adapter σ}
    (hclient : adapter.isMaster = false) :
    adapter.standing.Skips lesson ((changeEvents requested).run adapter).2.standing := by
  have hcases := changeEvents_cases requested adapter
  let native := nativeEvents requested adapter.batchedBreach
  have hannounced (lesson : Lesson) :
      adapter.standing.Skips lesson ((announceWifi native).run adapter).2.standing :=
    Omits.announceWifi native adapter
  have hconfig := (Asks.announceWifi native adapter).hconfig
  change _ ∧ _ = ((announceWifi native).run adapter).2.standing ∨
    _ ≠ ((announceWifi native).run adapter).2.standing.state.requestedMask ∧ _ at hcases
  generalize ((announceWifi native).run adapter).2.standing = announced
    at hannounced hconfig hcases
  rcases hcases with ⟨-, hleft⟩ | ⟨-, accepted, ⟨-, hfinal⟩ | ⟨hchanged, -⟩⟩
  · rw [hleft]
    exact hannounced lesson
  · rw [hfinal]
    exact (hannounced lesson).trans (.subscribe ..)
  · have hsubscribed : adapter.standing.Skips .mastery (announced.subscribe requested accepted) :=
      (hannounced .mastery).trans (.subscribe ..)
    have hstill := hsubscribed.isMaster_eq ((subscribe_config ..).trans hconfig)
    rw [hstill, show adapter.standing.isMaster = false from hclient] at hchanged
    cases hchanged

/-- A client that opens a connection does nothing that is left to masters. -/
theorem openConnection_client (requested : Mask AdapterEvent) {adapter : Adapter σ}
    (hclient : adapter.isMaster = false) :
    adapter.standing.Skips lesson ((openConnection requested).run adapter).2.standing := by
  have hchanged (connected : Adapter σ) (hmade : connected.isMaster = false) :
      connected.standing.Skips lesson ((changeEvents (requested \ connected.config.excludedEvents)).run
        connected).2.standing :=
    changeEvents_client _ hmade
  unfold openConnection
  rw [run_bind]
  rcases ensureConnected_cases adapter with
    ⟨-, hkept⟩ | ⟨-, ⟨error, hfailed, hrefused⟩ |
      ⟨handle, connected, hconnected, ⟨hmaster, -⟩ | ⟨-, hdone⟩⟩⟩
  · rw [hkept]
    exact hchanged adapter hclient
  · have hskips : adapter.standing.Skips lesson (ensureConnected.run adapter).2.standing := by
      rw [hrefused]
      exact .refuse ..
    rw [hfailed]
    exact hskips
  · rw [show adapter.standing.isMaster = false from hclient] at hmaster
    cases hmaster
  · have hmade : connected.isMaster = false :=
      (congrArg Standing.isMaster hconnected).trans hclient
    have hskips : adapter.standing.Skips lesson connected.standing := by
      rw [hconnected]
      exact .connect ..
    rw [hdone]
    exact hskips.trans (hchanged connected hmade)

end AdapterM

namespace Adapter

open AdapterM Standing

variable {σ : Type} [Environment σ] {adapter : Adapter σ}

/-- What a client does has nothing to do with a lesson that is left to masters, unless it sends again
what has. -/
theorem act_client {lesson : Lesson} (hclient : adapter.isMaster = false)
    (hother : lesson ≠ .deletion)
    (hreplays : ∀ request ∈ adapter.replays, request.lesson? ≠ some lesson)
    {action : AdapterAction} (hown : ∀ shared, action ≠ .share shared) :
    adapter.standing.Skips lesson (adapter.act action).standing := by
  cases action with
  | execute command =>
      by_cases hteaches : command.teaches lesson = false
      · exact Omits.execute hteaches adapter
      · cases command with
        | connect events => exact openConnection_client events hclient
        | deleteAidingData data => exact Omits.deleteAidingData hother data adapter
        | _ => exact absurd rfl hteaches
  | handle event => exact handleEvent_skips event adapter fun _ => hreplays
  | pickCommand | dropEvent => exact .of_same (by cases lesson <;> rfl) rfl
  | share shared => exact absurd rfl (hown shared)

theorem act_abstains (hclient : adapter.config.masterClient = false)
    (haccounted : adapter.standing.Accounted) (habstains : adapter.standing.Abstains)
    (action : AdapterAction) : (adapter.act action).standing.Abstains := by
  have hmaster : adapter.isMaster = false := by
    unfold isMaster
    rw [hclient, show adapter.state.masterUnsupported = false from habstains.hmastery]
    rfl
  by_cases hown : ∀ shared, action ≠ .share shared
  · refine habstains.of_skips ?_ ?_
    · exact act_client hmaster (by decide) (fun _ hmem => habstains.replays haccounted hmem) hown
    · exact act_client hmaster (by decide) (fun request _ => request.lesson?_ne_capabilities) hown
  · -- What other adapters publish changes what is shared, and nothing of the client itself.
    obtain ⟨shared, rfl⟩ : ∃ shared, action = .share shared := by simpa using hown
    exact ⟨habstains.hmastery, habstains.hentries⟩

/-- A client stays one, and never gets to what is left to masters. -/
theorem Reachable.abstains (hreachable : adapter.Reachable)
    (hclient : adapter.config.masterClient = false) : adapter.standing.Abstains := by
  have hkept : adapter.standing.Accounted ∧
      (adapter.config.masterClient = false → adapter.standing.Abstains) := by
    refine hreachable.induction (motive := fun adapter => adapter.standing.Accounted ∧
      (adapter.config.masterClient = false → adapter.standing.Abstains)) ?_ ?_
    · intro config surroundings shared
      exact ⟨Accounts.start, fun _ => ⟨rfl, List.forall_mem_nil _⟩⟩
    · rintro earlier ⟨haccounted, habstains⟩ action
      have hsteps := earlier.act_steps action
      refine ⟨hsteps.preserves step_accounted haccounted, fun hstill => ?_⟩
      have hearlier : earlier.config.masterClient = false := by
        rwa [show (earlier.act action).config = earlier.config from hsteps.config_eq] at hstill
      exact act_abstains hearlier haccounted (habstains hearlier) action
  exact hkept.2 hclient

theorem Reachable.isMaster_eq (hreachable : adapter.Reachable) :
    adapter.isMaster = adapter.config.masterClient := by
  unfold isMaster
  cases hconfigured : adapter.config.masterClient with
  | true => rfl
  | false =>
      have habstains := hreachable.abstains hconfigured
      rw [show adapter.state.masterUnsupported = false from habstains.hmastery]
      rfl

end Adapter

/-! ### The store -/

/-- The capabilities with which a negotiation completes. -/
def Entry.offer? : Entry → Option EngineCapabilities
  | .published capabilities _ => some capabilities
  | _ => none

/-- The capabilities offered in the course of some entries, the latest of which comes first. The first
to be offered comes first. -/
def offersAmong (entries : List Entry) : List EngineCapabilities :=
  entries.reverse.filterMap Entry.offer?

theorem offersAmong_append (later earlier : List Entry) :
    offersAmong (later ++ earlier) = offersAmong earlier ++ offersAmong later := by
  unfold offersAmong
  rw [List.reverse_append, List.filterMap_append]

namespace Standing

variable {before middle after : Standing}

/-- Of what has been offered in between, an empty store has taken the first. -/
def Follows (before after : Standing) : Prop :=
  ∃ entries, after.history = entries ++ before.history ∧
    after.capabilities.published = before.capabilities.published.or (offersAmong entries).head?

theorem Follows.trans (hfirst : Follows before middle) (hsecond : Follows middle after) :
    Follows before after := by
  obtain ⟨earlier, hearlier, hmiddle⟩ := hfirst
  obtain ⟨later, hlater, hafter⟩ := hsecond
  refine ⟨later ++ earlier, by rw [hlater, hearlier, List.append_assoc], ?_⟩
  rw [hafter, hmiddle, Option.or_assoc, offersAmong_append, List.head?_append]

theorem Skips.follows (hskips : Skips .capabilities before after) : Follows before after := by
  obtain ⟨entries, hgrown, hnone⟩ := hskips.hentries
  have hempty : offersAmong entries = [] := by
    refine List.filterMap_eq_nil_iff.mpr fun entry hmem => ?_
    have hother := hnone entry (List.mem_reverse.mp hmem)
    cases entry with
    | published capabilities accepted => exact absurd rfl hother
    | _ => rfl
  refine ⟨entries, hgrown, ?_⟩
  have hstore : after.capabilities = before.capabilities := hskips.hlearnt
  rw [hempty, hstore]
  exact (Option.or_none ..).symm

theorem Follows.publish (standing : Standing) (capabilities : EngineCapabilities) :
    Follows standing (standing.publish capabilities) := by
  refine ⟨[.published capabilities (standing.capabilities.publish capabilities).2], rfl, ?_⟩
  exact standing.capabilities.published_publish capabilities

theorem Follows.announce (standing : Standing) :
    Follows standing (standing.log (.notified .featuresKnown)) :=
  ⟨[.notified .featuresKnown], rfl, (Option.or_none ..).symm⟩

end Standing

namespace AdapterM

open Standing

variable {σ : Type} [Environment σ]

/-- A negotiation offers what it finds at its end. -/
theorem negotiate_follows (adapter : Adapter σ) :
    adapter.standing.Follows (negotiate.run adapter).2.standing := by
  have hasked : adapter.standing.Skips .capabilities (inquire.run adapter).2.standing :=
    Omits.inquire (by decide) adapter
  rw [negotiate_eq, run_bind, run_bind]
  exact (hasked.follows.trans (.publish ..)).trans (.announce _)

theorem openConnection_follows (requested : Mask AdapterEvent) (adapter : Adapter σ) :
    adapter.standing.Follows ((openConnection requested).run adapter).2.standing := by
  have hconnected : adapter.standing.Follows (ensureConnected.run adapter).2.standing := by
    rcases ensureConnected_cases adapter with
      ⟨-, hkept⟩ | ⟨-, ⟨error, -, hrefused⟩ |
        ⟨handle, connected, hconnected, ⟨-, hnegotiated⟩ | ⟨-, hdone⟩⟩⟩
    · rw [hkept]
      exact (Skips.refl _).follows
    · rw [hrefused]
      exact (Skips.refuse ..).follows
    · rw [hnegotiated]
      refine Follows.trans ?_ (negotiate_follows connected)
      rw [hconnected]
      exact (Skips.connect ..).follows
    · rw [hdone, hconnected]
      exact (Skips.connect ..).follows
  unfold openConnection
  rw [run_bind]
  cases (ensureConnected.run adapter).1 with
  | error error => exact hconnected
  | ok => exact hconnected.trans (Omits.changeEvents (by decide) _ _).follows

end AdapterM

namespace Adapter

open AdapterM Standing

variable {σ : Type} [Environment σ]

theorem act_follows (adapter : Adapter σ) {action : AdapterAction}
    (hown : ∀ shared, action ≠ .share shared) :
    adapter.standing.Follows (adapter.act action).standing := by
  cases action with
  | execute command =>
      by_cases hteaches : command.teaches .capabilities = false
      · exact Skips.follows (Omits.execute hteaches adapter)
      · cases command with
        | connect events => exact openConnection_follows events adapter
        | _ => exact absurd rfl hteaches
  | handle event =>
      exact Skips.follows (handleEvent_skips event adapter fun _ request _ =>
        request.lesson?_ne_capabilities)
  | pickCommand | dropEvent => exact (Skips.refl _).follows
  | share shared => exact absurd rfl (hown shared)

end Adapter

/-! ### Workers and fleets -/

theorem Worker.stop_adapter {σ : Type} [Environment σ] (worker : Worker σ) :
    worker.stop.adapter = worker.adapter ∨
      worker.stop.adapter = worker.adapter.act (.execute .disconnect) := by
  unfold stop
  split
  · exact .inr rfl
  · exact .inl rfl

/-- What a worker does to its adapter is an action of the adapter's own. -/
theorem Worker.act_adapter {σ : Type} [Environment σ] (worker : Worker σ) (action : WorkerAction) :
    (worker.act action).adapter = worker.adapter ∨
      ∃ own : AdapterAction, (∀ shared, own ≠ .share shared) ∧
        (worker.act action).adapter = worker.adapter.act own := by
  cases action with
  | submit ticket command => exact .inl (submit_adapter ticket command)
  | hangUp | leave => exact .inl rfl
  | deliver event =>
      dsimp only [act]
      unfold deliver
      split
      · exact .inr ⟨.dropEvent, nofun, rfl⟩
      · exact .inl rfl
  | work =>
      have hstop : worker.stop.adapter = worker.adapter ∨
          ∃ own : AdapterAction, (∀ shared, own ≠ .share shared) ∧
            worker.stop.adapter = worker.adapter.act own :=
        worker.stop_adapter.imp_right fun hclosed => ⟨.execute .disconnect, nofun, hclosed⟩
      dsimp only [act]
      unfold work
      split
      · exact .inl rfl
      · split
        · exact hstop
        · split
          · exact .inr ⟨.execute _, nofun, rfl⟩
          · exact .inr ⟨.handle _, nofun, rfl⟩
          · exact .inr ⟨.pickCommand, nofun, rfl⟩
          · split
            · exact .inl rfl
            · exact hstop

namespace Fleet

variable {σ : Type} [Environment σ] {fleet : Fleet σ}

def historyOf (fleet : Fleet σ) (index : Nat) : List Entry :=
  match fleet.workers[index]? with
  | some worker => worker.adapter.history
  | none => []

/-- The capabilities with which the negotiations of a run complete, in the order of completion. -/
def offers (fleet : Fleet σ) : List (Nat × WorkerAction) → List EngineCapabilities
  | [] => []
  | (index, action) :: rest =>
      offersAmong (gained (fleet.historyOf index) ((fleet.act index action).historyOf index)) ++
        (fleet.act index action).offers rest

theorem act_published (fleet : Fleet σ) (index : Nat) (action : WorkerAction) :
    (fleet.act index action).shared.capabilities.published =
      fleet.shared.capabilities.published.or
        (offersAmong
          (gained (fleet.historyOf index) ((fleet.act index action).historyOf index))).head? := by
  cases hchosen : fleet.workers[index]? with
  | none =>
      have hsame : fleet.act index action = fleet := by
        unfold act update
        rw [hchosen]
      rw [hsame, show gained (fleet.historyOf index) (fleet.historyOf index) = [] from
        gained_append [] _]
      exact (Option.or_none ..).symm
  | some worker =>
      -- The worker acts on what is shared, and gives it back.
      let lent : Worker σ := { worker with adapter := { worker.adapter with shared := fleet.shared } }
      let moved := lent.act action
      have hact : fleet.act index action =
          { shared := moved.adapter.shared, workers := fleet.workers.set index moved } := by
        unfold act update
        rw [hchosen]
      have hfollows : lent.adapter.standing.Follows moved.adapter.standing := by
        rcases lent.act_adapter action with hkept | ⟨own, hown, hmoved⟩
        · rw [show moved.adapter = lent.adapter from hkept]
          exact (Standing.Skips.refl _).follows
        · rw [show moved.adapter = lent.adapter.act own from hmoved]
          exact lent.adapter.act_follows hown
      obtain ⟨entries, hgrown, hstored⟩ := hfollows
      have hbefore : fleet.historyOf index = worker.adapter.history := by
        unfold historyOf
        rw [hchosen]
      have hafter : (fleet.act index action).historyOf index =
          entries ++ worker.adapter.history := by
        obtain ⟨hindex, -⟩ := List.getElem?_eq_some_iff.mp hchosen
        unfold historyOf
        rw [hact, List.getElem?_set_self hindex]
        exact hgrown
      rw [hbefore, hafter, gained_append, hact]
      exact hstored

theorem run_published (fleet : Fleet σ) (actions : List (Nat × WorkerAction)) :
    (fleet.run actions).shared.capabilities.published =
      fleet.shared.capabilities.published.or (fleet.offers actions).head? := by
  induction actions generalizing fleet with
  | nil => exact (Option.or_none ..).symm
  | cons action rest ih =>
      obtain ⟨index, action⟩ := action
      change ((fleet.act index action).run rest).shared.capabilities.published = _
      rw [ih, act_published, Option.or_assoc, ← List.head?_append]
      rfl

/-- In whatever way the workers of a process are used, each adapter has the rights that its
configuration gives it, and a client neither asks what is left to masters nor publishes anything nor
tells of capabilities. Unless there are capabilities in the store already, those of the first
negotiation to complete get there; once there are some, they stay. -/
theorem single_writer (hfresh : ∀ worker ∈ fleet.workers, worker.Fresh)
    (actions : List (Nat × WorkerAction)) :
    let later := fleet.run actions
    (∀ worker ∈ later.workers, worker.adapter.isMaster = worker.adapter.config.masterClient ∧
      (worker.adapter.config.masterClient = false → ∀ entry ∈ worker.adapter.history,
        entry.lesson? ≠ some .mastery ∧ entry.lesson? ≠ some .capabilities)) ∧
    later.shared.capabilities.published =
      fleet.shared.capabilities.published.or (fleet.offers actions).head? ∧
    ∀ capabilities, later.shared.capabilities.published = some capabilities →
      ∀ rest, (later.run rest).shared.capabilities.published = some capabilities := by
  intro later
  refine ⟨?_, fleet.run_published actions, ?_⟩
  · intro worker hworker
    have hreachable := run_reachable hfresh actions worker hworker
    exact ⟨hreachable.isMaster_eq, fun hclient => (hreachable.abstains hclient).hentries⟩
  · intro capabilities hstored rest
    rw [later.run_published rest, hstored]
    rfl

/-- Two masters among engines with different features, and a client. -/
def crew : Fleet ScriptedEngine :=
  let engine (features : List UInt8) : ScriptedEngine :=
    { clock := .first
      responses := [(.getSupportedFeatures, { payload := .supportedFeatures features })] }
  { workers := [
      { adapter := .spawn { masterClient := true } (engine [1]) {} },
      { adapter := .spawn { masterClient := true } (engine [2]) {} },
      { adapter := .spawn { masterClient := false } (engine [3]) {} }] }

/-- All of them connect; both masters complete a negotiation. -/
theorem single_writer_crew :
    let actions := [0, 1, 2].flatMap fun index =>
      [(index, .submit 0 (.connect ∅)), (index, .work), (index, .work)]
    let later := crew.run actions
    (crew.offers actions).map (·.features) = [[1], [2]] ∧
      later.shared.capabilities.published.map (·.features) = some [1] ∧
      ∀ worker ∈ later.workers, worker.adapter.isMaster = worker.adapter.config.masterClient := by
  intro actions later
  have hfresh : ∀ worker ∈ crew.workers, worker.Fresh := by
    intro worker hworker
    simp only [crew, List.mem_cons, List.not_mem_nil, or_false] at hworker
    rcases hworker with rfl | rfl | rfl <;> exact ⟨_, _, rfl⟩
  obtain ⟨hrights, hstored, -⟩ := single_writer hfresh actions
  have hoffers : (crew.offers actions).map (·.features) = [[1], [2]] := rfl
  refine ⟨hoffers, ?_, fun worker hworker => (hrights worker hworker).1⟩
  have hfirst : (crew.offers actions).head?.map (·.features) = some [1] := by
    rw [← List.head?_map, hoffers]
    rfl
  rw [hstored]
  exact hfirst

end Fleet

end GnssAdapter
