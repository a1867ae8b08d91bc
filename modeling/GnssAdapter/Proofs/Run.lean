import GnssAdapter.Fleet
import GnssAdapter.Proofs.Walk.Event

/-!
Runs of an adapter. Commands, events and what other adapters of the process publish come in any
order; the adapters of every fleet are adapters after such runs.
-/

namespace GnssAdapter

/-- What can happen to an adapter. -/
inductive AdapterAction where
  | execute (command : Command)
  | handle (event : TransportEvent)
  /-- The worker has picked a command. -/
  | pickCommand
  /-- An event came after the worker had stopped. -/
  | dropEvent
  /-- Other adapters of the process have changed what is shared. -/
  | share (shared : Shared)

namespace Adapter

variable {σ : Type}

def spawn (config : Config) (surroundings : σ) (shared : Shared) : Adapter σ :=
  { config, surroundings, shared }

variable [Environment σ]

def act (adapter : Adapter σ) : AdapterAction → Adapter σ
  | .execute command => ((AdapterM.execute command).run adapter).2
  | .handle event => ((AdapterM.handleEvent event).run adapter).2
  | .pickCommand =>
      { adapter with
        counters := { adapter.counters with commands := adapter.counters.commands + 1 } }
  | .dropEvent =>
      { adapter with
        counters := { adapter.counters with
          droppedEvents := adapter.counters.droppedEvents + 1 } }
  | .share shared => { adapter with shared }

def run (adapter : Adapter σ) (actions : List AdapterAction) : Adapter σ :=
  actions.foldl act adapter

@[simp]
theorem run_nil (adapter : Adapter σ) : adapter.run [] = adapter := rfl

@[simp]
theorem run_cons (adapter : Adapter σ) (action : AdapterAction) (rest : List AdapterAction) :
    adapter.run (action :: rest) = (adapter.act action).run rest := rfl

theorem run_append (adapter : Adapter σ) (first second : List AdapterAction) :
    adapter.run (first ++ second) = (adapter.run first).run second :=
  List.foldl_append

theorem run_concat (adapter : Adapter σ) (actions : List AdapterAction) (action : AdapterAction) :
    adapter.run (actions ++ [action]) = (adapter.run actions).act action :=
  adapter.run_append actions [action]

/-- Each action of a run finds the adapter in a certain way. -/
def Throughout (holds : Adapter σ → AdapterAction → Prop) (adapter : Adapter σ) :
    List AdapterAction → Prop
  | [] => True
  | action :: rest => holds adapter action ∧ (adapter.act action).Throughout holds rest

theorem throughout_append {holds : Adapter σ → AdapterAction → Prop} {adapter : Adapter σ}
    {first second : List AdapterAction} :
    adapter.Throughout holds (first ++ second) ↔
      adapter.Throughout holds first ∧ (adapter.run first).Throughout holds second := by
  induction first generalizing adapter with
  | nil => exact ⟨fun hsecond => ⟨trivial, hsecond⟩, fun hboth => hboth.2⟩
  | cons action rest ih => exact (and_congr_right fun _ => ih).trans and_assoc.symm

theorem throughout_concat {holds : Adapter σ → AdapterAction → Prop} {adapter : Adapter σ}
    {actions : List AdapterAction} {action : AdapterAction} :
    adapter.Throughout holds (actions ++ [action]) ↔
      adapter.Throughout holds actions ∧ holds (adapter.run actions) action :=
  throughout_append.trans
    (and_congr_right fun _ => ⟨fun hlast => hlast.1, fun hlast => ⟨hlast, trivial⟩⟩)

theorem Throughout.imp {holds weaker : Adapter σ → AdapterAction → Prop}
    (himp : ∀ adapter action, holds adapter action → weaker adapter action) {adapter : Adapter σ}
    {actions : List AdapterAction} (hall : adapter.Throughout holds actions) :
    adapter.Throughout weaker actions := by
  induction actions generalizing adapter with
  | nil => trivial
  | cons action rest ih => exact ⟨himp adapter action hall.1, ih hall.2⟩

/-- A run either never finds the adapter in a certain way, or there is a last time. -/
theorem throughout_not_or_latest (holds : Adapter σ → AdapterAction → Prop) (adapter : Adapter σ)
    (actions : List AdapterAction) :
    adapter.Throughout (fun adapter action => ¬holds adapter action) actions ∨
      ∃ earlier latest rest, actions = earlier ++ latest :: rest ∧
        holds (adapter.run earlier) latest ∧
        ((adapter.run earlier).act latest).Throughout
          (fun adapter action => ¬holds adapter action) rest := by
  induction actions generalizing adapter with
  | nil => exact .inl trivial
  | cons action rest ih =>
      rcases ih (adapter.act action) with hnever | ⟨earlier, latest, after, rfl, hlatest⟩
      · by_cases hfirst : holds adapter action
        · exact .inr ⟨[], action, rest, rfl, hfirst, hnever⟩
        · exact .inl ⟨hfirst, hnever⟩
      · exact .inr ⟨action :: earlier, latest, after, rfl, hlatest⟩

theorem act_steps (adapter : Adapter σ) (action : AdapterAction) :
    Standing.Steps adapter.standing (adapter.act action).standing := by
  cases action with
  | execute command => exact AdapterM.execute_walks command adapter
  | handle event => exact AdapterM.handleEvent_walks event adapter
  | pickCommand | dropEvent => exact .refl
  | share shared => exact .single (.share adapter.standing shared.capabilities)

theorem run_steps (adapter : Adapter σ) (actions : List AdapterAction) :
    Standing.Steps adapter.standing (adapter.run actions).standing := by
  induction actions generalizing adapter with
  | nil => exact .refl
  | cons action rest ih => exact (adapter.act_steps action).trans (ih _)

theorem history_suffix_run (adapter : Adapter σ) (actions : List AdapterAction) :
    adapter.history <:+ (adapter.run actions).history :=
  (adapter.run_steps actions).history_suffix

end Adapter

/-- An adapter after some run. -/
def Adapter.Reachable {σ : Type} [Environment σ] (adapter : Adapter σ) : Prop :=
  ∃ config surroundings shared actions,
    adapter = (Adapter.spawn config surroundings shared).run actions

namespace Adapter.Reachable

variable {σ : Type} [Environment σ] {adapter : Adapter σ}

theorem spawn (config : Config) (surroundings : σ) (shared : Shared) :
    (Adapter.spawn config surroundings shared).Reachable :=
  ⟨config, surroundings, shared, [], rfl⟩

theorem act (hreachable : adapter.Reachable) (action : AdapterAction) :
    (adapter.act action).Reachable := by
  obtain ⟨config, surroundings, shared, actions, rfl⟩ := hreachable
  refine ⟨config, surroundings, shared, actions ++ [action], ?_⟩
  rw [run_concat]

theorem induction {motive : Adapter σ → Prop} (hreachable : adapter.Reachable)
    (hspawn : ∀ config surroundings shared,
      motive (Adapter.spawn config surroundings shared))
    (hact : ∀ {earlier : Adapter σ}, motive earlier → ∀ action, motive (earlier.act action)) :
    motive adapter := by
  obtain ⟨config, surroundings, shared, actions, rfl⟩ := hreachable
  have hstart := hspawn config surroundings shared
  generalize Adapter.spawn config surroundings shared = start at hstart
  induction actions generalizing start with
  | nil => exact hstart
  | cons action rest ih => exact ih _ (hact hstart action)

end Adapter.Reachable

/-! ### Workers and fleets -/

namespace Worker

variable {σ : Type} [Environment σ] {worker : Worker σ}

omit [Environment σ] in
theorem submit_adapter (ticket : Ticket) (command : Command) :
    (worker.submit ticket command).adapter = worker.adapter := by
  unfold submit
  split <;> rfl

theorem deliver_reachable (hreachable : worker.adapter.Reachable) (event : TransportEvent) :
    (worker.deliver event).adapter.Reachable := by
  unfold deliver
  split
  · exact hreachable.act .dropEvent
  · exact hreachable

theorem stop_reachable (hreachable : worker.adapter.Reachable) :
    worker.stop.adapter.Reachable := by
  unfold stop
  split
  · exact hreachable.act (.execute .disconnect)
  · exact hreachable

theorem work_reachable (hreachable : worker.adapter.Reachable) :
    worker.work.adapter.Reachable := by
  unfold work
  split
  · exact hreachable
  · split
    · exact stop_reachable hreachable
    · split
      · exact hreachable.act (.execute _)
      · exact hreachable.act (.handle _)
      · exact hreachable.act .pickCommand
      · split
        · exact hreachable
        · exact stop_reachable hreachable

theorem act_reachable (hreachable : worker.adapter.Reachable) (action : WorkerAction) :
    (worker.act action).adapter.Reachable := by
  cases action with
  | submit ticket command =>
      change (worker.submit ticket command).adapter.Reachable
      rwa [submit_adapter]
  | deliver event => exact deliver_reachable hreachable event
  | hangUp | leave => exact hreachable
  | work => exact work_reachable hreachable

/-- Nothing has happened to the worker yet. -/
def Fresh (worker : Worker σ) : Prop :=
  ∃ config surroundings, worker = { adapter := .spawn config surroundings {} }

omit [Environment σ] in
theorem fresh_of_spawn {config : Config} {surroundings : σ}
    (hspawn : Worker.spawn config surroundings {} = .ok worker) : worker.Fresh := by
  unfold Worker.spawn at hspawn
  split at hspawn
  · cases hspawn
    exact ⟨config, surroundings, rfl⟩
  · cases hspawn

theorem Fresh.reachable (hfresh : worker.Fresh) : worker.adapter.Reachable := by
  obtain ⟨config, surroundings, rfl⟩ := hfresh
  exact .spawn config surroundings {}

end Worker

theorem exists_ok_of_bind {ε α β : Type} {first : Except ε α} {next : α → Except ε β} {result : β}
    (hresult : first >>= next = .ok result) :
    ∃ value, first = .ok value ∧ next value = .ok result := by
  cases first with
  | error error => cases hresult
  | ok value => exact ⟨value, rfl, hresult⟩

theorem exists_ok_of_mapM {ε α β : Type} {change : α → Except ε β} {items : List α}
    {results : List β} (hresults : items.mapM change = .ok results) {result : β}
    (hmem : result ∈ results) : ∃ item, change item = .ok result := by
  induction items generalizing results with
  | nil =>
      cases hresults
      cases hmem
  | cons item rest ih =>
      rw [List.mapM_cons] at hresults
      obtain ⟨first, hfirst, hresults⟩ := exists_ok_of_bind hresults
      obtain ⟨others, hothers, hresults⟩ := exists_ok_of_bind hresults
      cases hresults
      rcases List.mem_cons.mp hmem with rfl | hother
      · exact ⟨item, hfirst⟩
      · exact ih hothers hother

namespace Fleet

variable {σ : Type} [Environment σ]

omit [Environment σ] in
theorem fresh_of_spawn {crew : List (Config × σ)} {fleet : Fleet σ}
    (hspawn : Fleet.spawn crew = .ok fleet) : ∀ worker ∈ fleet.workers, worker.Fresh := by
  obtain ⟨workers, hworkers, hfleet⟩ := exists_ok_of_bind hspawn
  cases hfleet
  intro worker hworker
  obtain ⟨_, hspawned⟩ := exists_ok_of_mapM hworkers hworker
  exact Worker.fresh_of_spawn hspawned

section

variable {invariant : Worker σ → Prop}

/-- What each worker keeps by itself, whatever is shared, every worker of a fleet keeps. -/
theorem act_preserves
    (hlend : ∀ worker shared, invariant worker →
      invariant { worker with adapter := worker.adapter.act (.share shared) })
    (hact : ∀ worker action, invariant worker → invariant (worker.act action)) {fleet : Fleet σ}
    (hall : ∀ worker ∈ fleet.workers, invariant worker) (index : Nat) (action : WorkerAction) :
    ∀ worker ∈ (fleet.act index action).workers, invariant worker := by
  unfold act update
  split
  · exact hall
  · rename_i chosen hchosen
    intro worker hworker
    rcases List.mem_or_eq_of_mem_set hworker with hother | rfl
    · exact hall worker hother
    · exact hact _ action (hlend chosen fleet.shared (hall chosen (List.mem_of_getElem? hchosen)))

theorem run_preserves
    (hlend : ∀ worker shared, invariant worker →
      invariant { worker with adapter := worker.adapter.act (.share shared) })
    (hact : ∀ worker action, invariant worker → invariant (worker.act action)) {fleet : Fleet σ}
    (hall : ∀ worker ∈ fleet.workers, invariant worker) (actions : List (Nat × WorkerAction)) :
    ∀ worker ∈ (fleet.run actions).workers, invariant worker := by
  induction actions generalizing fleet with
  | nil => exact hall
  | cons action rest ih => exact ih (act_preserves hlend hact hall action.1 action.2)

end

/-- Whatever happens in a fleet, each of its adapters is one after a run of its own. -/
theorem run_reachable {fleet : Fleet σ} (hfresh : ∀ worker ∈ fleet.workers, worker.Fresh)
    (actions : List (Nat × WorkerAction)) :
    ∀ worker ∈ (fleet.run actions).workers, worker.adapter.Reachable :=
  run_preserves
    (fun _ shared hreachable => hreachable.act (.share shared))
    (fun _ action hreachable => Worker.act_reachable hreachable action)
    (fun worker hworker => (hfresh worker hworker).reachable) actions

end Fleet

end GnssAdapter
