import Coactor.Foundation.Rounds
import Coactor.Runtime.Deliveries

/-!
# The callbacks an actor has received and is going to receive

What an actor has been called with and what waits in its mailbox form one log
for each Session.  A step of the actor itself moves messages from the second
part to the first and leaves the log as it is; only a delivery makes it longer.
-/

namespace Coactor.Runtime

open Coactor.Foundation
open Coactor.Foundation.Transition
open Coactor.Coordination
open Server

variable {server after : Server} {config : RuntimeConfig}

/-! ## The log of a Session -/

/-- The Session that a callback is for. -/
def MailboxMessage.session : MailboxMessage → SessionId
  | .sessionOpened opening => opening.session
  | .action session _ => session
  | .sessionClosed session => session

/-- The mark that a callback leaves in the log of its Session. -/
def MailboxMessage.mark : MailboxMessage → Mark
  | .sessionOpened _ => .opens
  | .action _ _ => .goesOn
  | .sessionClosed _ => .closes

/-- The log of one Session. -/
def marks (session : SessionId) (messages : List MailboxMessage) : List Mark :=
  (messages.filter fun message => message.session = session).map MailboxMessage.mark

theorem marks_concat (session : SessionId) (messages : List MailboxMessage)
    (message : MailboxMessage) :
    marks session (messages ++ [message]) =
      if message.session = session then marks session messages ++ [message.mark]
      else marks session messages := by
  by_cases same : message.session = session <;> simp [marks, List.filter_append, same]

/-- What waits in the mailbox of a generation. -/
def Server.mailboxOf (server : Server) (generation : Nat) : List MailboxMessage :=
  match server.tasks generation with
  | some task => task.mailbox
  | none => []

/-- The task of a generation takes no more messages. -/
def Server.halted (server : Server) (generation : Nat) : Bool :=
  (server.tasks generation).any fun task => !task.pc.mayExecute

/-- The route of the address leads to this generation, and its mailbox is open. -/
def Server.Serves (server : Server) (address : ActorAddress) (generation : Nat) : Prop :=
  server.routes address = some ⟨generation, .active⟩ ∧
    ∃ task, server.tasks generation = some task ∧ task.closed = false

/-- The generation that the active route of an address leads to. -/
def Server.activeAt (server : Server) (address : ActorAddress) : Option Nat :=
  match server.routes address with
  | some ⟨generation, .active⟩ => some generation
  | _ => none

/-- What a generation has been called with and what it has in its mailbox. -/
def Recorded.script (recorded : Recorded) (generation : Nat) : List MailboxMessage :=
  recorded.history.callsOf generation ++ recorded.server.mailboxOf generation

/-- Whether a Session is open at the end of the log of a generation; the log
can be out of order. -/
def Recorded.phase? (recorded : Recorded) (generation : Nat) (session : SessionId) : Option Bool :=
  Rounds.run? false (marks session (recorded.script generation))

theorem Server.Serves.activeAt {address : ActorAddress} {generation : Nat}
    (serves : server.Serves address generation) : server.activeAt address = some generation := by
  simp [Server.activeAt, serves.1]

theorem halted_eq_false {generation : Nat} {task : ActorTask}
    (found : server.tasks generation = some task) :
    server.halted generation = false ↔ task.pc.mayExecute = true := by
  simp [Server.halted, found]

theorem mailboxOf_eq {generation : Nat} {task : ActorTask}
    (found : server.tasks generation = some task) :
    server.mailboxOf generation = task.mailbox := by
  simp [Server.mailboxOf, found]

theorem mailboxOf_of_tasks (tasks : after.tasks = server.tasks) (generation : Nat) :
    after.mailboxOf generation = server.mailboxOf generation := by
  simp only [Server.mailboxOf, tasks]

theorem halted_of_tasks (tasks : after.tasks = server.tasks) (generation : Nat) :
    after.halted generation = server.halted generation := by
  simp only [Server.halted, tasks]

/-! ## Deliveries -/

section

variable {address : ActorAddress} {message : MailboxMessage}

/-- A delivery adds its message at the end of one mailbox. -/
theorem Delivery.mailboxOf (delivery : Delivery server after address message)
    (ok : RoutesOk server) (generation : Nat) :
    after.mailboxOf generation =
      if generation = server.target address then server.mailboxOf generation ++ [message]
      else server.mailboxOf generation := by
  cases delivery with
  | appended target task appended =>
      rw [appended.target]
      by_cases same : generation = target
      · subst same
        simp [Server.mailboxOf, appended.tasks, appended.found]
      · simp [Server.mailboxOf, appended.tasks, same]
  | spawned spawned =>
      rw [spawned.target]
      by_cases same : generation = server.nextGeneration
      · subst same
        simp [Server.mailboxOf, spawned.tasks, ok.fresh_generation]
      · simp [Server.mailboxOf, spawned.tasks, same]

theorem Delivery.halted (delivery : Delivery server after address message)
    (ok : RoutesOk server) (generation : Nat) :
    after.halted generation = server.halted generation := by
  cases delivery with
  | appended target task appended =>
      by_cases same : generation = target
      · subst same
        simp [Server.halted, appended.tasks, appended.found]
      · simp [Server.halted, appended.tasks, same]
  | spawned spawned =>
      by_cases same : generation = server.nextGeneration
      · subst same
        simp [Server.halted, spawned.tasks, ok.fresh_generation, TaskPc.mayExecute]
      · simp [Server.halted, spawned.tasks, same]

/-- A delivery to a new actor makes it serve its address. -/
theorem Delivery.serves (delivery : Delivery server after address message)
    {other : ActorAddress} {generation : Nat} (serves : after.Serves other generation) :
    server.Serves other generation ∨
      (generation = server.nextGeneration ∧ server.target address = server.nextGeneration) := by
  obtain ⟨route, task, found, isOpen⟩ := serves
  cases delivery with
  | appended target old appended =>
      refine .inl ⟨appended.routes ▸ route, ?_⟩
      rw [appended.tasks] at found
      by_cases same : generation = target
      · subst same
        exact ⟨old, appended.found, appended.isOpen⟩
      · rw [Function.update_of_ne same] at found
        exact ⟨task, found, isOpen⟩
  | spawned spawned =>
      by_cases same : generation = server.nextGeneration
      · exact .inr ⟨same, spawned.target⟩
      · refine .inl ⟨?_, task, ?_, isOpen⟩
        · rw [spawned.routes] at route
          by_cases here : other = address
          · rw [here, Function.update_self, Option.some.injEq] at route
            cases route
            exact absurd rfl same
          · rwa [Function.update_of_ne here] at route
        · rwa [spawned.tasks, Function.update_of_ne same] at found

/-- A message that spawns no actor goes to the generation that serves the address. -/
theorem Delivery.serves_target (delivery : Delivery server after address message)
    (stays : server.wouldSpawn address = false) :
    server.Serves address (server.target address) := by
  cases delivery with
  | appended target task appended =>
      rw [appended.target]
      exact ⟨appended.route, task, appended.found, appended.isOpen⟩
  | spawned spawned =>
      rw [spawned.spawns] at stays
      cases stays

end

/-- Without a delivery an address is served as before. -/
theorem serves_of_tasks (tasks : after.tasks = server.tasks)
    (routes : ∀ address route, after.routes address = some route →
      server.routes address = some route)
    {address : ActorAddress} {generation : Nat} (serves : after.Serves address generation) :
    server.Serves address generation := by
  obtain ⟨route, task, found, isOpen⟩ := serves
  exact ⟨routes address _ route, task, tasks ▸ found, isOpen⟩

theorem Refusal.keeps_routes {address other : ActorAddress} {route : Route}
    (refusal : Refusal server after address) (present : after.routes other = some route) :
    server.routes other = some route := by
  rcases refusal.routes with same | ⟨-, removed⟩
  · rwa [same] at present
  · rw [removed] at present
    by_cases here : other = address
    · rw [here, Function.update_self] at present
      cases present
    · rwa [Function.update_of_ne here] at present

/-! ## Steps of a connection task -/

section

variable {history : History} {id : Nat} {event : ConnEvent}

@[simp]
theorem record_conn_callsOf (generation : Nat) :
    (history.record server after (.conn id event)).callsOf generation =
      history.callsOf generation := by
  simp [History.callsOf]

/-- A delivery adds one mark to one log. -/
theorem Delivery.phase? {address : ActorAddress} {message : MailboxMessage}
    (delivery : Delivery server after address message) (ok : RoutesOk server)
    (generation : Nat) (session : SessionId) :
    Recorded.phase? ⟨after, history.record server after (.conn id event)⟩ generation session =
      if generation = server.target address ∧ message.session = session then
        (Recorded.phase? ⟨server, history⟩ generation session).bind (Rounds.step? · message.mark)
      else Recorded.phase? ⟨server, history⟩ generation session := by
  simp only [Recorded.phase?, Recorded.script, record_conn_callsOf, delivery.mailboxOf ok]
  by_cases here : generation = server.target address
  · rw [if_pos here, ← List.append_assoc, marks_concat]
    by_cases same : message.session = session
    · rw [if_pos same, if_pos ⟨here, same⟩, Rounds.run?_concat]
    · rw [if_neg same, if_neg (by simp [same])]
  · rw [if_neg here, if_neg (by simp [here])]

theorem phase?_of_tasks (tasks : after.tasks = server.tasks) (generation : Nat)
    (session : SessionId) :
    Recorded.phase? ⟨after, history.record server after (.conn id event)⟩ generation session =
      Recorded.phase? ⟨server, history⟩ generation session := by
  simp only [Recorded.phase?, Recorded.script, record_conn_callsOf, mailboxOf_of_tasks tasks]

/-- A connection task comes to the end of a Session by ending its registration. -/
theorem ConnMove.record_closing
    (move : ConnMove config server after id (server.conns id).pc (after.conns id).pc) :
    ((history.record server after (.conn id event)).closing = history.closing ∧
      ∀ address session onward, (after.conns id).pc = .closeDispatch address session onward →
        (server.conns id).pc = .closeDispatch address session onward) ∨
    ∃ address session onward, (server.conns id).pc = .closeUnregister address session onward ∧
      (after.conns id).pc = .closeDispatch address session onward ∧
      after.registry = server.registry.unregisterActor address session ∧
      after.tasks = server.tasks ∧ after.routes = server.routes ∧
      after.nextGeneration = server.nextGeneration ∧
      (history.record server after (.conn id event)).closing =
        Function.update history.closing id
          ((server.registry.lookup address session).map SessionEntry.opening) := by
  generalize here : (server.conns id).pc = pc at move
  generalize there : (after.conns id).pc = next at move
  cases move with
  | close present registry routes tasks completions nextOpening nextGeneration =>
      exact .inr ⟨_, _, _, rfl, rfl, registry, tasks, routes, nextGeneration,
        by simp [History.record, closedBy, here, there]⟩
  | quiet same move =>
      refine .inl ?_
      cases move with
      | receive envelope =>
          refine ⟨by simp [History.record, closedBy, here], ?_⟩
          intro address session onward ended
          have keys := inbound_keys true envelope
          rw [ended] at keys
          cases onward <;> cases keys
      | noted =>
          refine ⟨?_, fun _ _ _ ended => ended⟩
          cases pc <;> simp [History.record, closedBy, here, there]
      | aborted awaiting =>
          refine ⟨?_, fun _ _ _ ended => by cases ended⟩
          cases pc <;> simp [History.record, closedBy, here, there]
      | @unclosed _ _ onward =>
          cases onward <;> exact ⟨by simp [History.record, closedBy, here, there, AfterClose.pc],
            fun _ _ _ ended => by cases ended⟩
      | _ => exact ⟨by simp [History.record, closedBy, here, there], fun _ _ _ ended => by cases ended⟩
  | unopened _ _ _ _ onward =>
      refine .inl ⟨by simp [History.record, closedBy, here], ?_⟩
      rcases onward with ⟨error, rfl⟩ | rfl <;> exact fun _ _ _ ended => by cases ended
  | unacted _ _ _ _ onward =>
      refine .inl ⟨by simp [History.record, closedBy, here], ?_⟩
      rcases onward with rfl | rfl <;> exact fun _ _ _ ended => by cases ended
  | @closed _ _ onward | @unheard _ _ onward =>
      refine .inl ⟨by simp [History.record, closedBy, here], ?_⟩
      cases onward <;> exact fun _ _ _ ended => by cases ended
  | _ =>
      exact .inl ⟨by simp [History.record, closedBy, here], fun _ _ _ ended => by cases ended⟩

/-- An actor is activated for an opening, or for an Action that finds no actor. -/
theorem ConnMove.activatedBy
    (move : ConnMove config server after id (server.conns id).pc (after.conns id).pc)
    {generation : Nat} {message : MailboxMessage}
    (activated : Runtime.activatedBy server after (.conn id event) = some (generation, message)) :
    (∃ opening, message = .sessionOpened opening) ∨
      ∃ address session payload, (server.conns id).pc = .actionDispatch address session payload .actors ∧
        server.wouldSpawn address = true := by
  have new : server.tasks server.nextGeneration = none ∧ ∃ task rest,
      after.tasks server.nextGeneration = some task ∧ task.mailbox = message :: rest := by
    simp only [Runtime.activatedBy] at activated
    split at activated
    · rename_i first _ _ rest _ _ _ _ absent present
      cases activated
      exact ⟨absent, _, rest, present, rfl⟩
    · cases activated
  obtain ⟨absent, task, rest, present, mailbox⟩ := new
  have kept : after.tasks = server.tasks → False := by
    intro same
    rw [same, absent] at present
    cases present
  have delivered : ∀ {address other}, Delivery server after address other →
      message = other ∧ server.wouldSpawn address = true := by
    intro address other delivery
    cases delivery with
    | appended target old appended =>
        rw [appended.tasks] at present
        by_cases same : server.nextGeneration = target
        · rw [same, appended.found] at absent
          cases absent
        · rw [Function.update_of_ne same, absent] at present
          cases present
    | spawned spawned =>
        rw [spawned.tasks, Function.update_self, Option.some.injEq] at present
        subst present
        cases mailbox
        exact ⟨rfl, spawned.spawns⟩
  generalize (server.conns id).pc = pc at move
  generalize (after.conns id).pc = next at move
  cases move with
  | quiet same | unheard same => exact (kept same.tasks).elim
  | register _ _ _ tasks | unregister _ _ tasks | close _ _ _ tasks => exact (kept tasks).elim
  | unopened refusal | unacted refusal => exact (kept refusal.tasks).elim
  | opened delivery => exact .inl ⟨_, (delivered delivery).1⟩
  | acted delivery => exact .inr ⟨_, _, _, rfl, (delivered delivery).2⟩
  | @closed _ _ _ target old appended =>
      have spawns := (delivered (.appended target old appended)).2
      simp [wouldSpawn, appended.route, appended.found, appended.isOpen] at spawns

end

/-! ## Steps of an actor task -/

section

variable {history : History} {generation : Nat} {event : TaskEvent} {task next : ActorTask}

theorem callsOf_concat {calls : List (Nat × MailboxMessage)} {message : MailboxMessage}
    (other : Nat) :
    ((calls ++ [(generation, message)]).filter fun call => call.1 == other).map Prod.snd =
      (calls.filter fun call => call.1 == other).map Prod.snd ++
        if other = generation then [message] else [] := by
  by_cases same : other = generation
  · simp [List.filter_append, same]
  · simp [List.filter_append, same, Ne.symm same]

/-- A callback begins with the first message of the mailbox. -/
theorem TaskMove.calledBy (move : TaskMove server after generation task next)
    (found : server.tasks generation = some task)
    (effect : TaskEffect server after generation task next) :
    (∃ message, Runtime.calledBy server after (.task generation event) = some (generation, message) ∧
      task.mailbox = message :: next.mailbox ∧ next.pc.mayExecute = true) ∨
    (Runtime.calledBy server after (.task generation event) = none ∧
      (next.mailbox = task.mailbox ∨ next.pc.mayExecute = false)) := by
  obtain ⟨address, pc, mailbox, closed, shutdownSignal, abortRequested, completed⟩ := next
  have present := effect.tasks
  rcases move.call with ⟨message, draining, taken, rfl, idle⟩ | ⟨idle, rest⟩
  · exact .inl ⟨message, by simp [Runtime.calledBy, found, present, idle], taken, rfl⟩
  · refine .inr ⟨?_, rest⟩
    cases pc with
    | executing message draining => cases idle
    | _ => simp [Runtime.calledBy, found, present]

/-- A step of an actor leaves its log as it is, as long as it goes on. -/
theorem TaskMove.script (move : TaskMove server after generation task next)
    (found : server.tasks generation = some task)
    (effect : TaskEffect server after generation task next) (other : Nat)
    (alive : after.halted other = false) :
    server.halted other = false ∧
      Recorded.script ⟨after, history.record server after (.task generation event)⟩ other =
        Recorded.script ⟨server, history⟩ other := by
  by_cases same : other = generation
  · subst same
    have present : after.tasks other = some next := by rw [effect.tasks, Function.update_self]
    rw [halted_eq_false present] at alive
    refine ⟨(halted_eq_false found).mpr (move.executes alive), ?_⟩
    simp only [Recorded.script, mailboxOf_eq present, mailboxOf_eq found, History.callsOf,
      History.record]
    rcases @TaskMove.calledBy _ _ _ event _ _ move found effect with ⟨message, called, taken, -⟩ | ⟨called, kept⟩
    · simp only [called, Option.toList_some]
      rw [callsOf_concat]
      simp [taken]
    · simp only [called, Option.toList_none, List.append_nil]
      rcases kept with same | stopped
      · rw [same]
      · rw [stopped] at alive
        cases alive
  · have kept : after.tasks other = server.tasks other := by
      rw [effect.tasks, Function.update_of_ne same]
    refine ⟨by simpa only [Server.halted, kept] using alive, ?_⟩
    simp only [Recorded.script, Server.mailboxOf, kept, History.callsOf, History.record]
    rcases @TaskMove.calledBy _ _ _ event _ _ move found effect with ⟨message, called, -⟩ | ⟨called, -⟩
    · simp only [called, Option.toList_some]
      rw [callsOf_concat]
      simp [same]
    · simp [called]

/-- What an actor has been called with was in its log before. -/
theorem TaskMove.callsOf (move : TaskMove server after generation task next)
    (found : server.tasks generation = some task)
    (effect : TaskEffect server after generation task next) (other : Nat) :
    (history.record server after (.task generation event)).callsOf other = history.callsOf other ∨
      (server.halted other = false ∧
        (history.record server after (.task generation event)).callsOf other <+:
          Recorded.script ⟨server, history⟩ other) := by
  simp only [History.callsOf, History.record]
  rcases @TaskMove.calledBy _ _ _ event _ _ move found effect with
    ⟨message, called, taken, executes⟩ | ⟨called, -⟩
  · simp only [called, Option.toList_some]
    rw [callsOf_concat]
    by_cases same : other = generation
    · subst same
      refine .inr ⟨(halted_eq_false found).mpr (move.executes executes), next.mailbox, ?_⟩
      simp [Recorded.script, History.callsOf, mailboxOf_eq found, taken]
    · simp [same]
  · simp [called]

/-- A step of an actor neither opens a mailbox nor brings a route back. -/
theorem TaskEffect.serves (effect : TaskEffect server after generation task next)
    (found : server.tasks generation = some task)
    (closed : next.closed = false → task.closed = false) {address : ActorAddress} {other : Nat}
    (serves : after.Serves address other) : server.Serves address other := by
  obtain ⟨route, current, present, isOpen⟩ := serves
  constructor
  · cases effect.route with
    | kept routes _ => rwa [routes] at route
    | removed _ _ _ routes _ =>
        rw [routes] at route
        by_cases same : address = task.address
        · rw [same, Function.update_self] at route
          cases route
        · rwa [Function.update_of_ne same] at route
    | deactivated _ _ _ routes =>
        rw [routes] at route
        by_cases same : address = task.address
        · rw [same, Function.update_self, Option.some.injEq] at route
          cases route
        · rwa [Function.update_of_ne same] at route
  · rw [effect.tasks] at present
    by_cases same : other = generation
    · subst same
      rw [Function.update_self, Option.some.injEq] at present
      exact ⟨task, found, closed (present ▸ isOpen)⟩
    · rw [Function.update_of_ne same] at present
      exact ⟨current, present, isOpen⟩

theorem closed_of_set {middle : Server} {moved : ActorTask}
    (present : (middle.setTask generation moved).tasks generation = some next)
    (closed : moved.closed = task.closed ∨ moved.closed = true) (isOpen : next.closed = false) :
    task.closed = false := by
  simp only [setTask, Function.update_self, Option.some.injEq] at present
  subst present
  rcases closed with same | closed
  · rw [← same, isOpen]
  · rw [isOpen] at closed
    cases closed

/-- No step of an actor opens its mailbox again. -/
theorem taskStep?_closed
    (stepped : server.taskStep? config generation task task.pc event = some after)
    (present : after.tasks generation = some next) (isOpen : next.closed = false) :
    task.closed = false := by
  obtain ⟨middle, moved, rfl, step⟩ := taskStep?_case stepped
  cases step with
  | failClosed | shutdownClosed | receiverDropped | unpolled =>
      exact closed_of_set present (.inr rfl) isOpen
  | _ => exact closed_of_set present (.inl rfl) isOpen

end

/-! ## `shutdown` and `fence` -/

/-- The call of `shutdown` has begun to end the Sessions that are left. -/
def ShutdownPc.hasSwept : ShutdownPc → Bool
  | .terminating _ _ | .abortInbound _ | .storing _ | .returned _ => true
  | _ => false

def FencePc.hasSwept : FencePc → Bool
  | .terminating _ | .abortInbound | .returned => true
  | _ => false

def Server.hasSwept (server : Server) : Bool :=
  server.shutdown.hasSwept || server.fence.hasSwept

/-- A call that is not sweeping after its step was not before, and has ended no
Session. -/
theorem unswept_of_same (registry : after.registry = server.registry)
    (fence : after.fence = server.fence) (early : server.shutdown.hasSwept = false)
    (unswept : after.hasSwept = false) :
    server.hasSwept = false ∧ after.registry = server.registry := by
  simp only [Server.hasSwept, fence, Bool.or_eq_false_iff] at unswept
  exact ⟨by simp [Server.hasSwept, early, unswept.2], registry⟩

theorem shutdownStep?_sweeps {expired : Bool}
    (stepped : server.shutdownStep? expired server.shutdown = some after)
    (unswept : after.hasSwept = false) :
    server.hasSwept = false ∧ after.registry = server.registry := by
  have swept : ∀ {pc : ShutdownPc}, pc.hasSwept = true → after.shutdown = pc → False := by
    intro pc late here
    simp [Server.hasSwept, here, late] at unswept
  generalize here : server.shutdown = pc at stepped
  unfold shutdownStep? at stepped
  split at stepped
  case h_1 =>
    split at stepped <;> cases stepped <;>
      exact unswept_of_same rfl rfl (by rw [here]; rfl) unswept
  case h_2 =>
    split at stepped
    · cases stepped
      exact unswept_of_same rfl rfl (by rw [here]; rfl) unswept
    · split at stepped
      · cases stepped
        exact absurd rfl (swept rfl)
      · split at stepped <;> cases stepped
        exact unswept_of_same rfl rfl (by rw [here]; rfl) unswept
  case h_3 =>
    cases stepped
    exact unswept_of_same rfl rfl (by rw [here]; rfl) unswept
  case h_5 =>
    split at stepped <;> cases stepped <;> exact absurd rfl (swept rfl)
  case h_8 | h_9 => cases stepped
  all_goals
    cases stepped
    exact absurd rfl (swept rfl)

theorem fenceStep?_sweeps (stepped : server.fenceStep? server.fence = some after)
    (unswept : after.hasSwept = false) :
    server.hasSwept = false ∧ after.registry = server.registry := by
  have swept : ∀ {pc : FencePc}, pc.hasSwept = true → after.fence = pc → False := by
    intro pc late here
    simp [Server.hasSwept, here, late] at unswept
  have kept : after.shutdown = server.shutdown → server.fence.hasSwept = false →
      server.hasSwept = false := by
    intro shutdown early
    simp only [Server.hasSwept, shutdown, Bool.or_eq_false_iff] at unswept
    simp [Server.hasSwept, early, unswept.1]
  generalize here : server.fence = pc at stepped kept
  unfold fenceStep? at stepped
  split at stepped
  case h_1 | h_2 =>
    cases stepped
    exact ⟨kept rfl rfl, rfl⟩
  case h_3 =>
    split at stepped <;> cases stepped
    exact ⟨kept rfl rfl, rfl⟩
  case h_5 =>
    split at stepped <;> cases stepped <;> exact absurd rfl (swept rfl)
  case h_7 => cases stepped
  all_goals
    cases stepped
    exact absurd rfl (swept rfl)

theorem ControlEffect.script {history : History} (effect : ControlEffect server after)
    (generation : Nat) :
    after.halted generation = server.halted generation ∧
      Recorded.script ⟨after, history⟩ generation = Recorded.script ⟨server, history⟩ generation := by
  obtain ⟨mark, keeps, marked⟩ := effect.tasks generation
  simp only [Server.halted, Recorded.script, Server.mailboxOf, marked]
  cases server.tasks generation with
  | none => exact ⟨rfl, rfl⟩
  | some task => simp [(keeps task).pc, (keeps task).mailbox]

theorem ControlEffect.serves (effect : ControlEffect server after) {address : ActorAddress}
    {generation : Nat} (serves : after.Serves address generation) :
    server.Serves address generation := by
  obtain ⟨route, task, found, isOpen⟩ := serves
  obtain ⟨mark, keeps, marked⟩ := effect.tasks generation
  rw [marked] at found
  obtain ⟨old, stored, rfl⟩ := Option.map_eq_some_iff.mp found
  exact ⟨effect.routes address _ route, old, stored, (keeps old).closed.symm.trans isOpen⟩

end Coactor.Runtime
