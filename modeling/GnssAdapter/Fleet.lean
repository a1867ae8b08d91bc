import GnssAdapter.Worker

/-!
Several adapters of one process, which share what has been found out about the engine and the
metrics of the process.

Their workers take turns. What one of them does in a turn, be it a whole negotiation, is done before
another has its turn, so that no two negotiations overlap.
-/

namespace GnssAdapter

structure Fleet (σ : Type) where
  shared : Shared := {}
  workers : List (Worker σ) := []

namespace Fleet

variable {σ : Type}

/-- A worker for each configuration; one that is not valid leaves none. -/
def spawn (crew : List (Config × σ)) : Except AdapterError (Fleet σ) := do
  let workers ← crew.mapM fun (config, surroundings) => Worker.spawn config surroundings {}
  return { workers }

/-- Lends what is shared to one worker for a change of it, for all the time that the change takes. -/
def update (fleet : Fleet σ) (index : Nat) (change : Worker σ → Worker σ) : Fleet σ :=
  match fleet.workers[index]? with
  | none => fleet
  | some worker =>
      let worker :=
        change { worker with adapter := { worker.adapter with shared := fleet.shared } }
      { shared := worker.adapter.shared, workers := fleet.workers.set index worker }

variable [Environment σ]

/-- Something happens to one of the workers. -/
def act (fleet : Fleet σ) (index : Nat) (action : WorkerAction) : Fleet σ :=
  fleet.update index (·.act action)

def run (fleet : Fleet σ) (actions : List (Nat × WorkerAction)) : Fleet σ :=
  actions.foldl (fun fleet (index, action) => fleet.act index action) fleet

end Fleet

end GnssAdapter
