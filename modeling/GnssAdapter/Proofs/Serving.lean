import GnssAdapter.Proofs.Handle

/-!
How a worker serves. Callers and the transport act at any time, and the worker finds what they left
in two lines. Whatever the schedule, it comes to one serial run of the adapter: the commands that
callers have put in line, in their order, and the events, in the order of their arrival. The
accounting is the same for both lines: what waits and what comes in is what is done and what still
waits. It is kept by each action, and so by a run.
-/

namespace GnssAdapter

/-- Something that a worker gets done. -/
inductive Deed where
  | handle (event : TransportEvent)
  /-- A command is run, and its caller gets the result. -/
  | serve (ticket : Ticket) (command : Command)
  /-- Nobody works for this caller any more. -/
  | refuse (ticket : Ticket)

namespace Deed

def job? : Deed → Option (Ticket × Command)
  | .serve ticket command => some (ticket, command)
  | _ => none

def event? : Deed → Option TransportEvent
  | .handle event => some event
  | _ => none

def refused? : Deed → Option Ticket
  | .refuse ticket => some ticket
  | _ => none

/-- What the adapter does for a deed. -/
def actions : Deed → List AdapterAction
  | .handle event => [.handle event]
  | .serve _ command => [.pickCommand, .execute command]
  | .refuse _ => []

end Deed

namespace Adapter

variable {σ : Type} [Environment σ]

/-- The adapter after some deeds, done one after another. -/
def afterDeeds (adapter : Adapter σ) (deeds : List Deed) : Adapter σ :=
  adapter.run (deeds.flatMap Deed.actions)

def answer? (adapter : Adapter σ) : Deed → Option (Ticket × CommandResult)
  | .handle _ => none
  | .serve ticket command =>
      some (ticket, ((AdapterM.execute command).run (adapter.act .pickCommand)).1)
  | .refuse ticket => some (ticket, .error .workerGone)

/-- What the callers get if the deeds are done one after another. -/
def answers (adapter : Adapter σ) : List Deed → List (Ticket × CommandResult)
  | [] => []
  | deed :: rest => (adapter.answer? deed).toList ++ (adapter.run deed.actions).answers rest

theorem afterDeeds_append (adapter : Adapter σ) (first second : List Deed) :
    adapter.afterDeeds (first ++ second) = (adapter.afterDeeds first).afterDeeds second := by
  unfold afterDeeds
  rw [List.flatMap_append, run_append]

theorem answers_concat (adapter : Adapter σ) (deeds : List Deed) (deed : Deed) :
    adapter.answers (deeds ++ [deed]) =
      adapter.answers deeds ++ ((adapter.afterDeeds deeds).answer? deed).toList := by
  induction deeds generalizing adapter with
  | nil => exact List.append_nil _
  | cons first rest ih =>
      have hafter : adapter.afterDeeds (first :: rest) =
          (adapter.run first.actions).afterDeeds rest := run_append ..
      rw [List.cons_append, answers, answers, ih, hafter, List.append_assoc]

end Adapter

namespace Worker

variable {σ : Type}

/-- The worker handles no event and starts no command any more. -/
def isOver (worker : Worker σ) : Bool :=
  worker.leaving || worker.stopped

/-- Commands that have been taken and not been answered, in the order of their turn. -/
def pending (worker : Worker σ) : List (Ticket × Command) :=
  worker.running.toList ++ worker.commands

/-- Events that are still to be handled. -/
def waiting (worker : Worker σ) : List TransportEvent :=
  if worker.isOver then [] else worker.events

/-- A command that is put in line. -/
def admitted? (worker : Worker σ) : WorkerAction → Option (Ticket × Command)
  | .submit ticket command =>
      if !worker.stopped && worker.hasCallers then some (ticket, command) else none
  | _ => none

/-- A caller for whom nobody works any more. -/
def refused? (worker : Worker σ) : WorkerAction → Option Ticket
  | .submit ticket _ => if worker.stopped || !worker.hasCallers then some ticket else none
  | _ => none

/-- An event that comes while the worker still handles what comes. -/
def heard? (worker : Worker σ) : WorkerAction → Option TransportEvent
  | .deliver event => if worker.isOver then none else some event
  | _ => none

/-- What an action gets done. -/
def deed? (worker : Worker σ) : WorkerAction → Option Deed
  | .submit ticket command => (worker.refused? (.submit ticket command)).map .refuse
  | .work =>
      if worker.isOver then none
      else
        match worker.running, worker.events with
        | some (ticket, command), _ => some (.serve ticket command)
        | none, event :: _ => some (.handle event)
        | none, [] => none
  | _ => none

end Worker

namespace WorkerAction

def isWork : WorkerAction → Bool
  | .work => true
  | _ => false

def isDelivery : WorkerAction → Bool
  | .deliver _ => true
  | _ => false

end WorkerAction

namespace Worker

variable {σ : Type} [Environment σ]

/-- All that a look at each action of a run gives, in order. -/
def gathered {α : Type} (look : Worker σ → WorkerAction → Option α) (worker : Worker σ) :
    List WorkerAction → List α
  | [] => []
  | action :: rest => (look worker action).toList ++ (worker.act action).gathered look rest

/-- What the worker gets done in a run. -/
def deeds (worker : Worker σ) (actions : List WorkerAction) : List Deed :=
  worker.gathered deed? actions

omit [Environment σ] in
theorem filterMap_toList {α β : Type} (part : α → Option β) (item : Option α) :
    item.toList.filterMap part = (item.bind part).toList := by
  cases item with
  | none => rfl
  | some item => cases hpart : part item <;> simp [hpart]

theorem gathered_filterMap {α β : Type} (look : Worker σ → WorkerAction → Option α)
    (part : α → Option β) (worker : Worker σ) (actions : List WorkerAction) :
    (worker.gathered look actions).filterMap part =
      worker.gathered (fun worker action => (look worker action).bind part) actions := by
  induction actions generalizing worker with
  | nil => rfl
  | cons action rest ih =>
      rw [gathered, gathered, List.filterMap_append, filterMap_toList, ih]

/-- What waits and what comes in is what goes out and what still waits, over a run as at each
action of it. -/
theorem gathered_balance {α : Type} {view : Worker σ → List α}
    {enters leaves : Worker σ → WorkerAction → Option α}
    (hstep : ∀ worker action, view worker ++ (enters worker action).toList =
      (leaves worker action).toList ++ view (worker.act action))
    (worker : Worker σ) (actions : List WorkerAction) :
    view worker ++ worker.gathered enters actions =
      worker.gathered leaves actions ++ view (worker.run actions) := by
  induction actions generalizing worker with
  | nil => exact List.append_nil _
  | cons action rest ih =>
      calc
        view worker ++ worker.gathered enters (action :: rest) =
            (leaves worker action).toList ++
              (view (worker.act action) ++ (worker.act action).gathered enters rest) := by
          rw [gathered, ← List.append_assoc, hstep, List.append_assoc]
        _ = worker.gathered leaves (action :: rest) ++ view (worker.run (action :: rest)) := by
          rw [ih, gathered, List.append_assoc]
          rfl

/-- What an action comes to. -/
inductive Turn (worker : Worker σ) : WorkerAction → Worker σ → Prop where
  | refuse (ticket : Ticket) (command : Command)
      (hgone : worker.stopped = true ∨ worker.hasCallers = false) :
      Turn worker (.submit ticket command)
        { worker with answers := (ticket, .error .workerGone) :: worker.answers }
  | enter (ticket : Ticket) (command : Command) (hruns : worker.stopped = false)
      (hcallers : worker.hasCallers = true) :
      Turn worker (.submit ticket command)
        { worker with commands := worker.commands ++ [(ticket, command)] }
  | drop (event : TransportEvent) (hstopped : worker.stopped = true) :
      Turn worker (.deliver event) { worker with adapter := worker.adapter.act .dropEvent }
  | hear (event : TransportEvent) (hruns : worker.stopped = false) :
      Turn worker (.deliver event) { worker with events := worker.events ++ [event] }
  | hangUp (hroom : worker.holdsAll = true) : Turn worker .hangUp { worker with hasCallers := false }
  | linger (hfull : worker.holdsAll = false) : Turn worker .hangUp worker
  | leave (hdone : worker.isDone = true) : Turn worker .leave { worker with leaving := true }
  | stay (hbusy : worker.isDone = false) : Turn worker .leave worker
  | rest (hstopped : worker.stopped = true) : Turn worker .work worker
  | close (hruns : worker.stopped = false)
      (hends : worker.leaving = true ∨ worker.isDone = true) :
      Turn worker .work worker.stop
  | finish {ticket : Ticket} {command : Command} (hruns : worker.stopped = false)
      (hstays : worker.leaving = false) (hrunning : worker.running = some (ticket, command)) :
      Turn worker .work
        { worker with
          adapter := worker.adapter.act (.execute command)
          running := none
          answers :=
            (ticket, ((AdapterM.execute command).run worker.adapter).1) :: worker.answers }
  | handle {event : TransportEvent} {others : List TransportEvent}
      (hruns : worker.stopped = false) (hstays : worker.leaving = false)
      (hrunning : worker.running = none) (hevents : worker.events = event :: others) :
      Turn worker .work
        { worker with adapter := worker.adapter.act (.handle event), events := others }
  | pick {ticket : Ticket} {command : Command} {others : List (Ticket × Command)}
      (hruns : worker.stopped = false) (hstays : worker.leaving = false)
      (hrunning : worker.running = none) (hevents : worker.events = [])
      (hcommands : worker.commands = (ticket, command) :: others) :
      Turn worker .work
        { worker with
          adapter := worker.adapter.act .pickCommand
          commands := others
          running := some (ticket, command) }
  | idle (hruns : worker.stopped = false) (hstays : worker.leaving = false)
      (hrunning : worker.running = none) (hevents : worker.events = [])
      (hcommands : worker.commands = []) (hcallers : worker.hasCallers = true) :
      Turn worker .work worker

theorem work_turn (worker : Worker σ) : worker.Turn .work worker.work := by
  unfold work
  split
  · rename_i hstopped
    exact .rest hstopped
  · rename_i hruns
    have hruns : worker.stopped = false := Bool.eq_false_iff.mpr hruns
    split
    · rename_i hleaving
      exact .close hruns (.inl hleaving)
    · rename_i hstays
      have hstays : worker.leaving = false := Bool.eq_false_iff.mpr hstays
      split
      · rename_i hrunning
        exact .finish hruns hstays hrunning
      · rename_i hrunning hevents
        exact .handle hruns hstays hrunning hevents
      · rename_i hrunning hevents hcommands
        exact .pick hruns hstays hrunning hevents hcommands
      · rename_i hrunning hevents hcommands
        split
        · rename_i hcallers
          exact .idle hruns hstays hrunning hevents hcommands hcallers
        · rename_i hnobody
          refine .close hruns (.inr ?_)
          simp [isDone, hrunning, hevents, hcommands, hnobody]

theorem act_turn (worker : Worker σ) (action : WorkerAction) :
    worker.Turn action (worker.act action) := by
  cases action with
  | submit ticket command =>
      dsimp only [act]
      unfold submit
      split
      · rename_i hgone
        exact .refuse ticket command (by simpa using hgone)
      · rename_i hstays
        obtain ⟨hruns, hcallers⟩ : worker.stopped = false ∧ worker.hasCallers = true := by
          simpa using hstays
        exact .enter ticket command hruns hcallers
  | deliver event =>
      dsimp only [act]
      unfold deliver
      split
      · rename_i hstopped
        exact .drop event hstopped
      · rename_i hruns
        exact .hear event (Bool.eq_false_iff.mpr hruns)
  | hangUp =>
      dsimp only [act]
      unfold hangUp
      cases hroom : worker.holdsAll with
      | true =>
          rw [Bool.not_true, Bool.and_false]
          exact .hangUp hroom
      | false =>
          rw [Bool.not_false, Bool.and_true]
          exact .linger hroom
  | leave =>
      dsimp only [act]
      unfold leave
      cases hdone : worker.isDone with
      | true =>
          rw [Bool.or_true]
          exact .leave hdone
      | false =>
          rw [Bool.or_false]
          exact .stay hdone
  | work => exact worker.work_turn

theorem stop_eq (worker : Worker σ) :
    worker.stop =
      { worker with adapter := worker.stop.adapter, events := [], stopped := true } := by
  unfold stop
  split <;> rfl

/-! ### The two queues -/

theorem pending_act (worker : Worker σ) (action : WorkerAction) :
    worker.pending ++ (worker.admitted? action).toList =
      ((worker.deed? action).bind Deed.job?).toList ++ (worker.act action).pending := by
  have hturn := worker.act_turn action
  generalize worker.act action = after at hturn
  cases hturn with
  | refuse ticket command hgone =>
      rcases hgone with hgone | hgone <;>
        simp [pending, admitted?, deed?, refused?, hgone, Deed.job?]
  | enter ticket command hruns hcallers =>
      simp [pending, admitted?, deed?, refused?, hruns, hcallers]
  | drop | hear | hangUp | linger | leave | stay => simp [pending, admitted?, deed?]
  | rest hstopped => simp [pending, admitted?, deed?, isOver, hstopped]
  | close hruns hends =>
      rw [stop_eq]
      rcases hends with hleaving | hdone
      · simp [pending, admitted?, deed?, isOver, hleaving]
      · simp [isDone] at hdone
        simp [pending, admitted?, deed?, hdone]
  | finish hruns hstays hrunning =>
      simp [pending, admitted?, deed?, isOver, hruns, hstays, hrunning, Deed.job?]
  | handle hruns hstays hrunning hevents =>
      simp [pending, admitted?, deed?, isOver, hruns, hstays, hrunning, hevents, Deed.job?]
  | pick hruns hstays hrunning hevents hcommands =>
      simp [pending, admitted?, deed?, isOver, hruns, hstays, hrunning, hevents, hcommands]
  | idle hruns hstays hrunning hevents hcommands =>
      simp [pending, admitted?, deed?, hrunning, hevents, hcommands]

theorem waiting_act (worker : Worker σ) (action : WorkerAction) :
    worker.waiting ++ (worker.heard? action).toList =
      ((worker.deed? action).bind Deed.event?).toList ++ (worker.act action).waiting := by
  have hturn := worker.act_turn action
  generalize worker.act action = after at hturn
  cases hturn with
  | refuse ticket command hgone =>
      rcases hgone with hgone | hgone <;>
        simp [waiting, heard?, deed?, refused?, hgone, Deed.event?, isOver]
  | enter ticket command hruns hcallers =>
      simp [waiting, heard?, deed?, refused?, hruns, hcallers, isOver]
  | drop event hstopped => simp [waiting, heard?, deed?, isOver, hstopped]
  | hear event hruns =>
      cases hleaving : worker.leaving <;> simp [waiting, heard?, deed?, isOver, hruns, hleaving]
  | hangUp | linger | stay => simp [waiting, heard?, deed?, isOver]
  | leave hdone =>
      simp [isDone] at hdone
      simp [waiting, heard?, deed?, isOver, hdone]
  | rest hstopped => simp [waiting, heard?, deed?, isOver, hstopped]
  | close hruns hends =>
      rw [stop_eq]
      rcases hends with hleaving | hdone
      · simp [waiting, heard?, deed?, isOver, hleaving]
      · simp [isDone] at hdone
        simp [waiting, heard?, deed?, isOver, hdone]
  | finish hruns hstays hrunning =>
      simp [waiting, heard?, deed?, isOver, hruns, hstays, hrunning, Deed.event?]
  | handle hruns hstays hrunning hevents =>
      simp [waiting, heard?, deed?, isOver, hruns, hstays, hrunning, hevents, Deed.event?]
  | pick hruns hstays hrunning hevents | idle hruns hstays hrunning hevents =>
      simp [waiting, heard?, deed?, hrunning, hevents]

omit [Environment σ] in
theorem refused?_eq (worker : Worker σ) (action : WorkerAction) :
    worker.refused? action = (worker.deed? action).bind Deed.refused? := by
  cases action with
  | submit ticket command => by_cases hgone : worker.stopped || !worker.hasCallers <;>
      simp [deed?, refused?, hgone, Deed.refused?]
  | deliver | hangUp | leave => rfl
  | work =>
      change none = (ite _ _ _ : Option Deed).bind Deed.refused?
      split
      · rfl
      · split <;> rfl

/-! ### One after another -/

omit [Environment σ] in
theorem pending_eq_nil {worker : Worker σ} :
    worker.pending = [] ↔ worker.running = none ∧ worker.commands = [] := by
  simp [pending]

omit [Environment σ] in
theorem isDone_eq_true {worker : Worker σ} :
    worker.isDone = true ↔
      worker.hasCallers = false ∧ worker.pending = [] ∧ worker.events = [] := by
  rw [pending_eq_nil]
  simp only [isDone, Bool.and_eq_true, Bool.not_eq_true', Option.isNone_iff_eq_none,
    List.isEmpty_iff]
  exact ⟨fun ⟨⟨⟨hcallers, hrunning⟩, hevents⟩, hcommands⟩ =>
      ⟨hcallers, ⟨hrunning, hcommands⟩, hevents⟩,
    fun ⟨hcallers, ⟨hrunning, hcommands⟩, hevents⟩ =>
      ⟨⟨⟨hcallers, hrunning⟩, hevents⟩, hcommands⟩⟩

/-- The worker is what some deeds have made of it, and they are all that has been done. -/
structure Serves (start : Adapter σ) (deeds : List Deed) (worker : Worker σ) : Prop where
  hanswers : worker.answers.reverse = start.answers deeds
  hadapter : worker.stopped = false →
    worker.adapter =
      (start.afterDeeds deeds).run (worker.running.toList.map fun _ => .pickCommand)
  hover : worker.isOver = true → worker.hasCallers = false ∧ worker.pending = []
  hclosed : worker.stopped = true → worker.events = [] ∧
    worker.adapter.state.handle = none ∧
    ∃ result, worker.adapter.history =
      ((start.afterDeeds deeds).state.handle.map (Entry.disconnected · result)).toList ++
        (start.afterDeeds deeds).history

theorem Serves.of_lasting {start : Adapter σ} {deeds : List Deed} {worker : Worker σ}
    (hlasts : worker.isOver = false) (hanswers : worker.answers.reverse = start.answers deeds)
    (hadapter : worker.adapter =
      (start.afterDeeds deeds).run (worker.running.toList.map fun _ => .pickCommand)) :
    worker.Serves start deeds where
  hanswers := hanswers
  hadapter _ := hadapter
  hover hends := nomatch hlasts.symm.trans hends
  hclosed hstopped := by simp [isOver, hstopped] at hlasts

/-! A step refuses a caller, ends a command, handles an event, or is quiet: then it gets nothing done,
as when it picks a command or closes. -/

section

variable {start : Adapter σ} {deeds : List Deed} {worker : Worker σ}

omit [Environment σ] in
theorem deed?_submit_of_gone {ticket : Ticket} {command : Command}
    (hgone : worker.stopped = true ∨ worker.hasCallers = false) :
    worker.deed? (.submit ticket command) = some (.refuse ticket) := by
  rcases hgone with hgone | hgone <;> simp [deed?, refused?, hgone]

omit [Environment σ] in
theorem deed?_submit_of_served {ticket : Ticket} {command : Command}
    (hruns : worker.stopped = false) (hcallers : worker.hasCallers = true) :
    worker.deed? (.submit ticket command) = none := by
  simp [deed?, refused?, hruns, hcallers]

omit [Environment σ] in
theorem deed?_work_of_ends (hends : worker.leaving = true ∨ worker.isDone = true) :
    worker.deed? .work = none := by
  rcases hends with hleaving | hdone
  · simp [deed?, isOver, hleaving]
  · obtain ⟨-, hpending, hevents⟩ := isDone_eq_true.mp hdone
    simp [deed?, (pending_eq_nil.mp hpending).1, hevents]

/-- A quiet step leaves the deeds as they are. -/
theorem Serves.of_quiet {action : WorkerAction} {after : Worker σ}
    (hdeed : worker.deed? action = none) (hafter : after.Serves start deeds) :
    after.Serves start (deeds ++ (worker.deed? action).toList) := by
  rwa [hdeed, Option.toList_none, List.append_nil]

/-- Between commands the adapter is what the deeds have made of it. -/
theorem Serves.adapter_eq (hserves : worker.Serves start deeds) (hruns : worker.stopped = false)
    (hrunning : worker.running = none) : worker.adapter = start.afterDeeds deeds := by
  rw [hserves.hadapter hruns, hrunning]
  rfl

theorem Serves.refuse (hserves : worker.Serves start deeds) (ticket : Ticket) :
    Serves start (deeds ++ [.refuse ticket])
      { worker with answers := (ticket, .error .workerGone) :: worker.answers } := by
  have hafter : start.afterDeeds (deeds ++ [.refuse ticket]) = start.afterDeeds deeds :=
    start.afterDeeds_append deeds [.refuse ticket]
  refine ⟨?_, ?_, hserves.hover, ?_⟩
  · rw [List.reverse_cons, hserves.hanswers, Adapter.answers_concat]
    rfl
  · rw [hafter]
    exact hserves.hadapter
  · rw [hafter]
    exact hserves.hclosed

theorem Serves.finish (hserves : worker.Serves start deeds) (hlasts : worker.isOver = false)
    {ticket : Ticket} {command : Command} (hrunning : worker.running = some (ticket, command)) :
    Serves start (deeds ++ [.serve ticket command])
      { worker with
        adapter := worker.adapter.act (.execute command)
        running := none
        answers :=
          (ticket, ((AdapterM.execute command).run worker.adapter).1) :: worker.answers } := by
  obtain ⟨-, hruns⟩ := Bool.or_eq_false_iff.mp hlasts
  have hfound : worker.adapter = (start.afterDeeds deeds).act .pickCommand := by
    rw [hserves.hadapter hruns, hrunning]
    rfl
  refine .of_lasting hlasts ?_ ?_
  · rw [List.reverse_cons, hserves.hanswers, Adapter.answers_concat, hfound]
    rfl
  · rw [Adapter.afterDeeds_append, hfound]
    rfl

theorem Serves.handle (hserves : worker.Serves start deeds) (hlasts : worker.isOver = false)
    (hrunning : worker.running = none) (event : TransportEvent) (others : List TransportEvent) :
    Serves start (deeds ++ [.handle event])
      { worker with adapter := worker.adapter.act (.handle event), events := others } := by
  obtain ⟨-, hruns⟩ := Bool.or_eq_false_iff.mp hlasts
  refine .of_lasting hlasts ?_ ?_
  · rw [hserves.hanswers, Adapter.answers_concat]
    exact (List.append_nil _).symm
  · rw [Adapter.afterDeeds_append, hserves.adapter_eq hruns hrunning, hrunning]
    rfl

theorem Serves.close (hserves : worker.Serves start deeds) (hruns : worker.stopped = false)
    (hends : worker.leaving = true ∨ worker.isDone = true) : worker.stop.Serves start deeds := by
  have hdone : worker.hasCallers = false ∧ worker.pending = [] := by
    rcases hends with hleaving | hdone
    · exact hserves.hover (by simp [isOver, hleaving])
    · exact (isDone_eq_true.mp hdone).imp_right And.left
  refine ⟨?_, ?_, ?_, fun _ => ⟨?_, worker.stop_handle, ?_⟩⟩
  · rw [stop_eq]
    exact hserves.hanswers
  · rw [stop_eq]
    exact nofun
  · rw [stop_eq]
    exact fun _ => hdone
  · rw [stop_eq]
  · rw [← hserves.adapter_eq hruns (pending_eq_nil.mp hdone.2).1]
    exact worker.stop_history

theorem Serves.act (hserves : worker.Serves start deeds) (action : WorkerAction) :
    (worker.act action).Serves start (deeds ++ (worker.deed? action).toList) := by
  have ⟨hanswers, hadapter, hover, hclosed⟩ := hserves
  have hturn := worker.act_turn action
  generalize worker.act action = after at hturn
  cases hturn with
  | refuse ticket command hgone =>
      rw [deed?_submit_of_gone hgone]
      exact hserves.refuse ticket
  | enter ticket command hruns hcallers =>
      refine .of_quiet (deed?_submit_of_served hruns hcallers) ?_
      refine ⟨hanswers, hadapter, fun hends => ?_, hclosed⟩
      exact nomatch hcallers.symm.trans (hover hends).1
  | drop event hstopped =>
      refine .of_quiet rfl ⟨hanswers, fun hruns => ?_, hover, hclosed⟩
      exact nomatch hstopped.symm.trans hruns
  | hear event hruns =>
      refine .of_quiet rfl ⟨hanswers, hadapter, hover, fun hstopped => ?_⟩
      exact nomatch hruns.symm.trans hstopped
  | hangUp =>
      exact .of_quiet rfl ⟨hanswers, hadapter, fun hends => ⟨rfl, (hover hends).2⟩, hclosed⟩
  | leave hdone =>
      obtain ⟨hcallers, hpending, -⟩ := isDone_eq_true.mp hdone
      exact .of_quiet rfl ⟨hanswers, hadapter, fun _ => ⟨hcallers, hpending⟩, hclosed⟩
  | linger | stay => exact .of_quiet rfl hserves
  | rest hstopped => exact .of_quiet (by simp [deed?, isOver, hstopped]) hserves
  | close hruns hends => exact .of_quiet (deed?_work_of_ends hends) (hserves.close hruns hends)
  | @finish ticket command hruns hstays hrunning =>
      have hlasts : worker.isOver = false := by simp [isOver, hruns, hstays]
      have hdeed : worker.deed? .work = some (.serve ticket command) := by
        simp [deed?, hlasts, hrunning]
      rw [hdeed]
      exact hserves.finish hlasts hrunning
  | @handle event others hruns hstays hrunning hevents =>
      have hlasts : worker.isOver = false := by simp [isOver, hruns, hstays]
      have hdeed : worker.deed? .work = some (.handle event) := by
        simp [deed?, hlasts, hrunning, hevents]
      rw [hdeed]
      exact hserves.handle hlasts hrunning event others
  | pick hruns hstays hrunning hevents =>
      have hlasts : worker.isOver = false := by simp [isOver, hruns, hstays]
      refine .of_quiet (by simp [deed?, hrunning, hevents]) (.of_lasting hlasts hanswers ?_)
      rw [hserves.adapter_eq hruns hrunning]
      rfl
  | idle hruns hstays hrunning hevents =>
      exact .of_quiet (by simp [deed?, hrunning, hevents]) hserves

end

theorem Serves.run {start : Adapter σ} {deeds : List Deed} {worker : Worker σ}
    (hserves : worker.Serves start deeds) (actions : List WorkerAction) :
    (worker.run actions).Serves start (deeds ++ worker.deeds actions) := by
  induction actions generalizing worker deeds with
  | nil =>
      change worker.Serves start (deeds ++ [])
      rwa [List.append_nil]
  | cons action rest ih =>
      have hrest := ih (hserves.act action)
      rwa [List.append_assoc] at hrest

theorem serves_start (start : Adapter σ) : Serves start [] { adapter := start } :=
  ⟨rfl, fun _ => rfl, nofun, nofun⟩

/-! ### Everything has its turn -/

/-- The work that lies ahead until the first few of the pending commands have been answered. -/
def ahead (worker : Worker σ) (count : Nat) : Nat :=
  if count = 0 then 0 else worker.events.length + 2 * count - worker.running.toList.length

/-- How many callers an action answers with a result. -/
def served (worker : Worker σ) (action : WorkerAction) : Nat :=
  ((worker.deed? action).bind Deed.job?).toList.length

/-- Only deliveries put off a command that is pending. -/
theorem ahead_act {worker : Worker σ} (hover : worker.isOver = true → worker.pending = [])
    {count : Nat} (hpositive : 0 < count) (hcount : count ≤ worker.pending.length)
    (action : WorkerAction) :
    (worker.act action).ahead (count - worker.served action) +
        (if action.isWork then 1 else 0) ≤
      worker.ahead count + (if action.isDelivery then 1 else 0) := by
  have hwaits : worker.pending ≠ [] := List.ne_nil_of_length_pos (by omega)
  have hlasts : worker.isOver = false := Bool.eq_false_iff.mpr fun hends => hwaits (hover hends)
  have hsome : ¬count = 0 := by omega
  have hturn := worker.act_turn action
  generalize worker.act action = after at hturn
  cases hturn with
  | refuse ticket command hgone =>
      rcases hgone with hgone | hgone <;>
        simp [served, deed?, refused?, hgone, Deed.job?, ahead, WorkerAction.isWork]
  | enter ticket command hruns hcallers =>
      simp [served, deed?, refused?, hruns, hcallers, ahead, WorkerAction.isWork]
  | drop event hstopped => simp [isOver, hstopped] at hlasts
  | hear event =>
      simp only [served, deed?, ahead, hsome, WorkerAction.isWork, WorkerAction.isDelivery,
        List.length_append, List.length_singleton, Option.bind_none, Option.toList_none,
        List.length_nil, Nat.sub_zero, if_false, if_true, Bool.false_eq_true]
      omega
  | hangUp | linger | stay => exact Nat.le_refl _
  | leave hdone => exact absurd (isDone_eq_true.mp hdone).2.1 hwaits
  | rest hstopped => simp [isOver, hstopped] at hlasts
  | close hruns hends =>
      rcases hends with hleaving | hdone
      · simp [isOver, hleaving] at hlasts
      · exact absurd (isDone_eq_true.mp hdone).2.1 hwaits
  | finish hruns hstays hrunning =>
      simp only [served, deed?, ahead, hlasts, hrunning, hsome, Deed.job?, WorkerAction.isWork,
        WorkerAction.isDelivery, Option.bind_some, Option.toList_some, Option.toList_none,
        List.length_singleton, List.length_nil, if_false, if_true, Bool.false_eq_true]
      split <;> omega
  | handle hruns hstays hrunning hevents =>
      simp only [served, deed?, ahead, hlasts, hrunning, hevents, hsome, Deed.job?,
        WorkerAction.isWork, WorkerAction.isDelivery, Option.bind_some, Option.toList_none,
        List.length_cons, List.length_nil, Nat.sub_zero, if_false, if_true, Bool.false_eq_true]
      omega
  | pick hruns hstays hrunning hevents hcommands =>
      simp only [served, deed?, ahead, hlasts, hrunning, hevents, hsome, WorkerAction.isWork,
        WorkerAction.isDelivery, Option.bind_none, Option.toList_none, Option.toList_some,
        List.length_singleton, List.length_nil, Nat.sub_zero, if_false, if_true,
        Bool.false_eq_true]
      omega
  | idle hruns hstays hrunning hevents hcommands =>
      exact absurd (pending_eq_nil.mpr ⟨hrunning, hcommands⟩) hwaits

/-- With enough work, the first few of the pending commands are answered. -/
theorem le_length_served {start : Adapter σ} {done : List Deed} {worker : Worker σ}
    (hserves : worker.Serves start done) {count : Nat} (hcount : count ≤ worker.pending.length)
    {later : List WorkerAction} (henough : worker.ahead count + later.countP (·.isDelivery) ≤
      later.countP (·.isWork)) :
    count ≤ ((worker.deeds later).filterMap Deed.job?).length := by
  induction later generalizing worker done count with
  | nil =>
      rcases Nat.eq_zero_or_pos count with hzero | hpositive
      · omega
      · have hrunning : worker.running.toList.length ≤ 1 := by cases worker.running <;> simp
        simp only [ahead, List.countP_nil, Nat.ne_of_gt hpositive, if_false] at henough
        omega
  | cons action rest ih =>
      rcases Nat.eq_zero_or_pos count with hzero | hpositive
      · omega
      have hfewer : count - worker.served action ≤ (worker.act action).pending.length := by
        have hlengths := congrArg List.length (worker.pending_act action)
        simp only [List.length_append] at hlengths
        unfold served
        omega
      have hless := ahead_act (fun hends => (hserves.hover hends).2) hpositive hcount action
      have hrest := ih (hserves.act action) hfewer (by
        simp only [List.countP_cons] at henough
        omega)
      have hsplit : ((worker.deeds (action :: rest)).filterMap Deed.job?).length =
          worker.served action + (((worker.act action).deeds rest).filterMap Deed.job?).length := by
        rw [deeds, gathered, List.filterMap_append, filterMap_toList, List.length_append]
        rfl
      omega

theorem pending_prefix_served {start : Adapter σ} {done : List Deed} {worker : Worker σ}
    (hserves : worker.Serves start done) {later : List WorkerAction}
    (henough : worker.workload + later.countP (·.isDelivery) ≤ later.countP (·.isWork)) :
    worker.pending <+: (worker.deeds later).filterMap Deed.job? := by
  have hahead : worker.ahead worker.pending.length ≤ worker.workload := by
    unfold ahead workload pending
    rw [List.length_append]
    split <;> omega
  have hserved : worker.pending.length ≤ ((worker.deeds later).filterMap Deed.job?).length :=
    le_length_served hserves (Nat.le_refl _) (by omega)
  have hbalance := worker.gathered_balance pending_act later
  rw [← gathered_filterMap] at hbalance
  have hpending := List.prefix_append worker.pending (worker.gathered admitted? later)
  rw [hbalance] at hpending
  exact List.prefix_of_prefix_length_le hpending (List.prefix_append ..) hserved

/-- Without callers, each thing that is done brings the worker nearer to its end, and only
deliveries put it off. -/
theorem workload_act {worker : Worker σ} (hcallers : worker.hasCallers = false)
    (hruns : worker.stopped = false) (action : WorkerAction) :
    (worker.act action).hasCallers = false ∧
      ((worker.act action).stopped = true ∨
        (worker.act action).workload + (if action.isWork then 1 else 0) ≤
          worker.workload + (if action.isDelivery then 1 else 0)) := by
  have hturn := worker.act_turn action
  generalize worker.act action = after at hturn
  cases hturn with
  | refuse ticket command => exact ⟨hcallers, .inr (by simp [workload, WorkerAction.isWork])⟩
  | enter ticket command hruns hbusy => exact nomatch hbusy.symm.trans hcallers
  | drop event hstopped => exact nomatch hruns.symm.trans hstopped
  | hear event =>
      refine ⟨hcallers, .inr ?_⟩
      simp [workload, WorkerAction.isWork, WorkerAction.isDelivery]
      omega
  | hangUp => exact ⟨rfl, .inr (by simp [workload, hcallers, WorkerAction.isWork])⟩
  | linger | leave | stay => exact ⟨hcallers, .inr (by simp [workload, WorkerAction.isWork])⟩
  | rest hstopped => exact nomatch hruns.symm.trans hstopped
  | close hruns hends =>
      rw [stop_eq]
      exact ⟨hcallers, .inl rfl⟩
  | finish hruns hstays hrunning =>
      refine ⟨hcallers, .inr ?_⟩
      simp only [workload, hrunning, WorkerAction.isWork, WorkerAction.isDelivery,
        Option.toList_none, Option.toList_some, List.length_nil, List.length_cons, if_true,
        Bool.false_eq_true, if_false]
      omega
  | handle hruns hstays hrunning hevents =>
      refine ⟨hcallers, .inr ?_⟩
      simp only [workload, hevents, WorkerAction.isWork, WorkerAction.isDelivery, List.length_cons,
        if_true, Bool.false_eq_true, if_false]
      omega
  | pick hruns hstays hrunning hevents hcommands =>
      refine ⟨hcallers, .inr ?_⟩
      simp [workload, hrunning, hevents, hcommands, WorkerAction.isWork, WorkerAction.isDelivery]
      omega
  | idle hruns hstays hrunning hevents hcommands hbusy =>
      exact nomatch hbusy.symm.trans hcallers

theorem stopped_of_stopped {worker : Worker σ} (hstopped : worker.stopped = true)
    (later : List WorkerAction) : (worker.run later).stopped = true := by
  induction later generalizing worker with
  | nil => exact hstopped
  | cons action rest ih => exact ih (act_of_stopped hstopped action).1

/-- With enough work, a worker without callers stops. -/
theorem stopped_of_enough {worker : Worker σ} (hcallers : worker.hasCallers = false)
    {later : List WorkerAction} (henough : worker.workload + later.countP (·.isDelivery) ≤
      later.countP (·.isWork)) : (worker.run later).stopped = true := by
  induction later generalizing worker with
  | nil => simp [workload, hcallers] at henough
  | cons action rest ih =>
      cases hruns : worker.stopped with
      | true => exact stopped_of_stopped hruns _
      | false =>
          obtain ⟨hstill, hstopped | hless⟩ := workload_act hcallers hruns action
          · exact stopped_of_stopped hstopped rest
          · refine ih hstill ?_
            simp only [List.countP_cons] at henough
            omega

/-- A command is picked if nothing else runs and no event waits, and it is the next of the queue. -/
theorem running_act {worker : Worker σ} {action : WorkerAction} {job : Ticket × Command}
    (hrunning : (worker.act action).running = some job) :
    worker.running = some job ∨
      worker.running = none ∧ worker.events = [] ∧
        worker.commands = job :: (worker.act action).commands := by
  have hturn := worker.act_turn action
  generalize worker.act action = after at hturn hrunning
  cases hturn with
  | pick hruns hstays hnone hevents hcommands =>
      cases hrunning
      exact .inr ⟨hnone, hevents, hcommands⟩
  | finish => cases hrunning
  | close =>
      rw [stop_eq] at hrunning
      exact .inl hrunning
  | _ => exact .inl hrunning

/-- A worker to which nothing has happened yet has its callers and the transport served in turn. What
it makes of the adapter and tells the callers is what its deeds come to if they are done one after
another. -/
structure ServesInTurn (fresh : Worker σ) (actions : List WorkerAction) : Prop where
  /-- Commands are served in the order in which they have been put in line, each once. -/
  hcommands : fresh.gathered admitted? actions =
    (fresh.deeds actions).filterMap Deed.job? ++ (fresh.run actions).pending
  /-- Events are handled in the order of their arrival, each once. -/
  hevents : fresh.gathered heard? actions =
    (fresh.deeds actions).filterMap Deed.event? ++ (fresh.run actions).waiting
  hrefused : fresh.gathered refused? actions = (fresh.deeds actions).filterMap Deed.refused?
  /-- Each caller gets the result of its own command. -/
  hanswers : (fresh.run actions).answers.reverse = fresh.adapter.answers (fresh.deeds actions)
  hadapter : (fresh.run actions).stopped = false →
    (fresh.run actions).adapter = (fresh.adapter.afterDeeds (fresh.deeds actions)).run
      ((fresh.run actions).running.toList.map fun _ => .pickCommand)
  /-- A command is picked only if no event waits. -/
  hpicked : ∀ earlier action later job, actions = earlier ++ action :: later →
    ((fresh.run earlier).act action).running = some job →
      (fresh.run earlier).running = some job ∨
        (fresh.run earlier).running = none ∧ (fresh.run earlier).events = [] ∧
          (fresh.run earlier).commands = job :: ((fresh.run earlier).act action).commands
  /-- With enough work, all that has been put in line is served. -/
  hserved : ∀ later, (fresh.run actions).workload + later.countP (·.isDelivery) ≤
    later.countP (·.isWork) →
      (fresh.run actions).pending <+: ((fresh.run actions).deeds later).filterMap Deed.job?
  /-- With enough work, the worker stops once the last caller has gone. -/
  hstops : ∀ later, (fresh.run actions).workload + later.countP (·.isDelivery) ≤
    later.countP (·.isWork) → (fresh.run actions).hasCallers = false →
      ((fresh.run actions).run later).stopped = true
  /-- By then everything in line has been served; events that came too late are gone. -/
  hdone : (fresh.run actions).stopped = true →
    (fresh.run actions).hasCallers = false ∧ (fresh.run actions).pending = [] ∧
      (fresh.run actions).events = []
  /-- A connection that is open is closed at the end, once, and nothing is done after that. -/
  hclosed : (fresh.run actions).stopped = true →
    (fresh.run actions).adapter.state.handle = none ∧
      ∃ result, (fresh.run actions).adapter.history =
        ((fresh.adapter.afterDeeds (fresh.deeds actions)).state.handle.map
          (Entry.disconnected · result)).toList ++
            (fresh.adapter.afterDeeds (fresh.deeds actions)).history

/-- In whatever order callers, events and work come, a worker serves in turn. -/
theorem serves_in_turn (start : Adapter σ) (actions : List WorkerAction) :
    ServesInTurn { adapter := start } actions := by
  let fresh : Worker σ := { adapter := start }
  have hserves : (fresh.run actions).Serves start (fresh.deeds actions) :=
    (serves_start start).run actions
  have hjobs := fresh.gathered_balance pending_act actions
  have hevents := fresh.gathered_balance waiting_act actions
  rw [← gathered_filterMap] at hjobs hevents
  exact
    { hcommands := hjobs
      hevents := hevents
      hrefused := by
        rw [show (refused? : Worker σ → WorkerAction → Option Ticket) = fun worker action =>
            (worker.deed? action).bind Deed.refused? from funext₂ refused?_eq]
        exact (gathered_filterMap ..).symm
      hanswers := hserves.hanswers
      hadapter := hserves.hadapter
      hpicked := fun _ _ _ _ _ hrunning => running_act hrunning
      hserved := fun _ henough => pending_prefix_served hserves henough
      hstops := fun _ henough hcallers => stopped_of_enough hcallers henough
      hdone := fun hstopped => by
        obtain ⟨hcallers, hpending⟩ := hserves.hover (by
          rw [isOver, show (fresh.run actions).stopped = true from hstopped, Bool.or_true])
        exact ⟨hcallers, hpending, (hserves.hclosed hstopped).1⟩
      hclosed := fun hstopped => (hserves.hclosed hstopped).2 }

/-- Nothing has happened yet to a worker among an engine that takes everything. -/
def obligedStart : Adapter ScriptedEngine :=
  (Fleet.obligedWorkerAfter []).adapter

/-- Two callers, an event that comes before the first of their commands is picked, one that comes
while it runs, and one that comes too late. -/
def overtakenSchedule : List WorkerAction :=
  [.submit 0 (.connect (.single .niRequest)), .deliver (.indication (.engineState .on)), .work,
    .work, .deliver (.error .other), .submit 1 (.connect (.single .niRequest)), .work, .hangUp,
    .work, .work, .work, .leave, .deliver (.indication (.engineState .off)), .work]

/-- The second event overtakes the second command, the third is never handled, and the connection is
closed at the end. -/
theorem serves_in_turn_overtaken :
    let fresh : Worker ScriptedEngine := { adapter := obligedStart }
    let worker := fresh.run overtakenSchedule
    let deeds := fresh.deeds overtakenSchedule
    deeds = [.handle (.indication (.engineState .on)), .serve 0 (.connect (.single .niRequest)),
        .handle (.error .other), .serve 1 (.connect (.single .niRequest))] ∧
      fresh.gathered heard? overtakenSchedule =
        [.indication (.engineState .on), .error .other] ∧
      worker.stopped = true ∧ (obligedStart.afterDeeds deeds).state.handle = some ⟨1⟩ ∧
      ∃ result, worker.adapter.history =
        ((obligedStart.afterDeeds deeds).state.handle.map (Entry.disconnected · result)).toList ++
          (obligedStart.afterDeeds deeds).history := by
  have hstopped : (Worker.run { adapter := obligedStart } overtakenSchedule).stopped = true := rfl
  obtain ⟨-, hdisconnected⟩ := (serves_in_turn obligedStart overtakenSchedule).hclosed hstopped
  exact ⟨rfl, rfl, hstopped, rfl, hdisconnected⟩

end Worker

end GnssAdapter
