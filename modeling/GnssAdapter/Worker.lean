import GnssAdapter.Adapter.Inbound
import GnssAdapter.Command

/-!
The worker that owns an adapter.

Callers queue commands and the transport delivers events, at any time. The worker takes one thing at
a time: events first, in the order of their arrival, then the next command. When no caller is left
it finishes the queued commands, closes an open connection and stops; events that come in while it
closes are queued but handled no more.
-/

namespace GnssAdapter

/-- What a caller recognises its answer by. -/
abbrev Ticket := Nat

structure Worker (σ : Type) where
  adapter : Adapter σ
  /-- Events that wait, the oldest first. -/
  events : List TransportEvent := []
  /-- Commands that wait, the oldest first. The queue holds as many of them as it has room for; the
  callers of the others wait for room, in this order. -/
  commands : List (Ticket × Command) := []
  /-- The command that has been picked; events that arrive meanwhile wait. -/
  running : Option (Ticket × Command) := none
  /-- Some caller is left. -/
  hasCallers : Bool := true
  /-- No caller and no work has been found left; all that remains is to close. -/
  leaving : Bool := false
  stopped : Bool := false
  /-- The answers given, the latest first. -/
  answers : List (Ticket × CommandResult) := []

/-- What can happen to a worker. -/
inductive WorkerAction where
  | submit (ticket : Ticket) (command : Command)
  | deliver (event : TransportEvent)
  /-- The last caller goes away, unless it waits for room in the queue. -/
  | hangUp
  /-- A worker without callers and work turns to closing. -/
  | leave
  /-- The worker does the next thing. -/
  | work

namespace Worker

variable {σ : Type}

/-- A worker for a valid configuration. -/
def spawn (config : Config) (surroundings : σ) (shared : Shared) :
    Except AdapterError (Worker σ) :=
  match config.check with
  | .ok () => .ok { adapter := { config, surroundings, shared } }
  | .error error => .error (.config error)

def perform {α : Type} (worker : Worker σ) (operation : AdapterM σ α) : α × Worker σ :=
  let (value, adapter) := operation.run worker.adapter
  (value, { worker with adapter })

/-- Puts a command in line. While the queue is full its caller waits for room; room goes to those
who wait in the order in which they came, so that waiting costs a command no place. Nobody is there
to answer once the worker has stopped. -/
def submit (worker : Worker σ) (ticket : Ticket) (command : Command) : Worker σ :=
  if worker.stopped || !worker.hasCallers then
    { worker with answers := (ticket, .error .workerGone) :: worker.answers }
  else { worker with commands := worker.commands ++ [(ticket, command)] }

/-- An event waits its turn; after the end it is only counted. -/
def deliver (worker : Worker σ) (event : TransportEvent) : Worker σ :=
  if worker.stopped then
    (worker.perform (AdapterM.count fun counters =>
      { counters with droppedEvents := counters.droppedEvents + 1 })).2
  else { worker with events := worker.events ++ [event] }

/-- The queue holds all commands in line, so that no caller waits for room. -/
def holdsAll (worker : Worker σ) : Bool :=
  worker.commands.length ≤ worker.adapter.config.queueCapacity.toNat

def hangUp (worker : Worker σ) : Worker σ :=
  { worker with hasCallers := worker.hasCallers && !worker.holdsAll }

/-- There is nothing to do, and nobody left to do it for. -/
def isDone (worker : Worker σ) : Bool :=
  !worker.hasCallers && worker.running.isNone && worker.events.isEmpty && worker.commands.isEmpty

def leave (worker : Worker σ) : Worker σ :=
  { worker with leaving := worker.leaving || worker.isDone }

variable [Environment σ]

/-- Runs the command that has been picked and answers its caller. -/
def finish (worker : Worker σ) (ticket : Ticket) (command : Command) : Worker σ :=
  let (result, worker) := worker.perform (AdapterM.execute command)
  { worker with running := none, answers := (ticket, result) :: worker.answers }

def pick (worker : Worker σ) (ticket : Ticket) (command : Command)
    (rest : List (Ticket × Command)) : Worker σ :=
  let (_, worker) := worker.perform (AdapterM.count fun counters =>
    { counters with commands := counters.commands + 1 })
  { worker with commands := rest, running := some (ticket, command) }

/-- Closes an open connection and discards what is left of the events. -/
def stop (worker : Worker σ) : Worker σ :=
  let worker :=
    if worker.adapter.state.handle.isSome then (worker.perform AdapterM.closeConnection).2
    else worker
  { worker with events := [], stopped := true }

/-- The next thing to do: the command that runs, then events, then a new command, then the end.
Looking for an event and picking a command are one step: an event that comes in between is one that
comes after the pick, and waits until the command has run. -/
def work (worker : Worker σ) : Worker σ :=
  if worker.stopped then worker
  else if worker.leaving then worker.stop
  else
    match worker.running, worker.events, worker.commands with
    | some (ticket, command), _, _ => worker.finish ticket command
    | none, event :: rest, _ =>
        ({ worker with events := rest }.perform (AdapterM.handleEvent event)).2
    | none, [], (ticket, command) :: rest => worker.pick ticket command rest
    | none, [], [] => if worker.hasCallers then worker else worker.stop

def act (worker : Worker σ) : WorkerAction → Worker σ
  | .submit ticket command => worker.submit ticket command
  | .deliver event => worker.deliver event
  | .hangUp => worker.hangUp
  | .leave => worker.leave
  | .work => worker.work

def run (worker : Worker σ) (actions : List WorkerAction) : Worker σ :=
  actions.foldl act worker

/-- Steps until nothing is left to do, if nothing more comes in. -/
def workload (worker : Worker σ) : Nat :=
  worker.events.length + 2 * worker.commands.length + worker.running.toList.length +
    (if worker.hasCallers then 0 else 1)

/-- Works until nothing is left to do. -/
def settle (worker : Worker σ) : Worker σ :=
  worker.run (List.replicate worker.workload .work)

end Worker

end GnssAdapter
