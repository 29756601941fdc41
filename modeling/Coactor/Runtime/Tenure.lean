import Coactor.Foundation.Waiting
import Coactor.Runtime.Deliveries

/-!
# Nothing is lost on the way

A resolution lock on record is held: whoever the map names stands at a program
point of the call it took the lock for.  An opening that is waited for is in a
mailbox, is being executed, or is answered.  A router call that is under way has
a request out.  An ended task has no mailbox any more.  So whatever a task waits
for is still there.
-/

namespace Coactor.Runtime

open Coactor.Foundation
open Coactor.Foundation.Transition
open Coactor.Coordination
open Server

variable {server after : Server} {config : RuntimeConfig}

/-! ## Actor tasks -/

/-- An ended task has dropped its receiver. -/
def ActorTask.Emptied (task : ActorTask) : Prop :=
  task.pc = .ended → task.closed = true ∧ task.mailbox = []

/-- What a step of an actor task does to the openings it carries and to its
mailbox. -/
structure TaskKeeps (after : Server) (task next : ActorTask) : Prop where
  carried : ∀ opening, task.Carries opening →
    next.Carries opening ∨ after.completions opening ≠ .pending
  emptied : next.Emptied

namespace Server

variable {generation : Nat} {task : ActorTask}

/-- Between callbacks a task carries what its mailbox holds. -/
theorem carries_kept {next : ActorTask} (mailbox : next.mailbox = task.mailbox)
    (outside : task.pc.isExecuting = false) (opening : Opening) (carries : task.Carries opening) :
    next.Carries opening ∨ after.completions opening ≠ .pending := by
  rcases carries with waiting | ⟨draining, here⟩
  · exact .inl (.inl (mailbox ▸ waiting))
  · rw [here] at outside
    cases outside

/-- A task that moves on between callbacks, with its mailbox as it is. -/
theorem keeps_goto {closed shutdownSignal abortRequested completed : Bool} {pc : TaskPc}
    (outside : task.pc.isExecuting = false) (goes : pc ≠ .ended) :
    TaskKeeps after task
      ⟨task.address, pc, task.mailbox, closed, shutdownSignal, abortRequested, completed⟩ where
  carried := carries_kept rfl outside
  emptied := fun ended => absurd ended goes

/-- A task that leaves the callback for a message that is no opening. -/
theorem keeps_handled {message : MailboxMessage} {draining : Bool} {next : ActorTask}
    (here : task.pc = .executing message draining)
    (plain : ∀ opening, message ≠ .sessionOpened opening) (mailbox : next.mailbox = task.mailbox)
    (goes : next.pc ≠ .ended) : TaskKeeps after task next where
  carried := by
    rintro opening (waiting | ⟨draining', executing⟩)
    · exact .inl (.inl (mailbox ▸ waiting))
    · rw [here] at executing
      cases executing
      exact absurd rfl (plain opening)
  emptied := fun ended => absurd ended goes

/-- A task that answers all it carries. -/
theorem keeps_answered {middle : Server} {completion : Completion} {pc : TaskPc}
    {closed shutdownSignal abortRequested completed : Bool} {mailbox messages : List MailboxMessage}
    (answers : middle.completions = (server.completeAll completion messages).completions)
    (sent : completion ≠ .pending)
    (all : ∀ opening, task.Carries opening →
      .sessionOpened opening ∈ mailbox ∨ .sessionOpened opening ∈ messages)
    (emptied : pc = .ended → closed = true ∧ mailbox = []) :
    TaskKeeps middle task
      ⟨task.address, pc, mailbox, closed, shutdownSignal, abortRequested, completed⟩ where
  carried := by
    intro opening carries
    rcases all opening carries with waiting | member
    · exact .inl (.inl waiting)
    · refine .inr ?_
      rw [answers, completeAll_completions, if_pos member]
      exact sent
  emptied := emptied

/-- A task that takes its next message. -/
theorem keeps_received {message : MailboxMessage} {rest : List MailboxMessage}
    {draining closed shutdownSignal abortRequested completed : Bool}
    (waiting : task.mailbox = message :: rest) (outside : task.pc.isExecuting = false) :
    TaskKeeps after task
      ⟨task.address, .executing message draining, rest, closed, shutdownSignal, abortRequested,
        completed⟩ where
  carried := by
    rintro opening (member | ⟨draining', here⟩)
    · rw [waiting] at member
      rcases List.mem_cons.mp member with first | later
      · exact .inl (.inr ⟨draining, by rw [first]⟩)
      · exact .inl (.inl later)
    · rw [here] at outside
      cases outside
  emptied := by rintro ⟨⟩

theorem afterMessage_ne_ended {draining completed : Bool} :
    TaskPc.afterMessage draining completed ≠ .ended := by
  cases completed <;> cases draining <;> simp [TaskPc.afterMessage]

theorem passage_keeps {event : TaskEvent} {onward : TaskPc}
    (passage : TaskPassage server generation task event onward) :
    TaskKeeps after task { task with pc := onward } := by
  cases passage with
  | handled here plain => exact keeps_handled here plain rfl afterMessage_ne_ended
  | aborted quiet =>
      refine keeps_goto ?_ (by simp)
      cases here : task.pc <;> rw [here] at quiet <;> first | rfl | cases quiet
  | polled here | activated here | activationFailed here | activationPanicked here | listed here
  | left here | swept here | told here | closed here | idled here | unused here | used here
  | retained here | deactivated here | asked here | drained here | stopped here =>
      exact keeps_goto (by rw [here]; rfl) (by simp)

variable {next : ActorTask}

/-- A step of an actor task loses no opening. -/
theorem taskStep?_keeps {event : TaskEvent}
    (stepped : server.taskStep? config generation task task.pc event = some after)
    (tasks : after.tasks = Function.update server.tasks generation (some next)) :
    TaskKeeps after task next := by
  obtain ⟨middle, moved, rfl, step⟩ := taskStep?_case stepped
  rw [next_of_tasks tasks]
  have empties : ∀ {messages : List MailboxMessage}, task.pc.isExecuting = false → ∀ opening, task.Carries opening →
      .sessionOpened opening ∈ messages ∨ .sessionOpened opening ∈ task.mailbox := by
    rintro messages outside opening (waiting | ⟨draining, executing⟩)
    · exact .inr waiting
    · rw [executing] at outside
      cases outside
  have leaves : ∀ {message : MailboxMessage} {draining : Bool}, task.pc = .executing message draining →
      ∀ opening, task.Carries opening →
        .sessionOpened opening ∈ task.mailbox ∨ .sessionOpened opening ∈ [message] := by
    rintro message draining here opening (waiting | ⟨draining', executing⟩)
    · exact .inl waiting
    · rw [here] at executing
      cases executing
      exact .inr (List.mem_singleton_self _)
  cases step with
  | passed passage => exact passage_keeps passage
  | failAnswered here =>
      exact keeps_answered rfl (by simp) (empties (by rw [here]; rfl)) (by simp)
  | receiverDropped here | unpolled here =>
      exact keeps_answered rfl (by simp) (empties (by rw [here]; rfl)) fun _ => ⟨rfl, rfl⟩
  | received here _ _ first | drained here first => exact keeps_received first (by rw [here]; rfl)
  | @opened opening draining completed here =>
      have answers : (server.complete opening (.sent (some generation)
          (if completed then none else some .actorStopped))).completions =
        (server.completeAll (.sent (some generation)
          (if completed then none else some .actorStopped)) [.sessionOpened opening]).completions :=
        rfl
      exact keeps_answered answers (by simp) (leaves here)
        fun ended => absurd ended afterMessage_ne_ended
  | interrupted here => exact keeps_answered rfl (by simp) (leaves here) (by simp)
  | failClosed here | failRemoved here | terminated here | begun here | locked here
  | released here | shutdownClosed here | removed here | guardDropped here | guardCompleted here
  | unlocked here => exact keeps_goto (by rw [here]; rfl) (by simp)

end Server

/-! ## Tasks that a connection feeds -/

/-- What a step of a connection task does to the task of a generation. -/
inductive Grown (before after : Server) (generation : Nat) : Prop where
  | same (tasks : after.tasks generation = before.tasks generation)
  | fed (task : ActorTask) (message : MailboxMessage)
      (found : before.tasks generation = some task) (isOpen : task.closed = false)
      (tasks : after.tasks generation = some { task with mailbox := task.mailbox ++ [message] })
  | born (address : ActorAddress) (message : MailboxMessage)
      (absent : before.tasks generation = none)
      (tasks : after.tasks generation =
        some ⟨address, .spawned, [message], false, false, false, false⟩)

theorem Delivery.grown {address : ActorAddress} {message : MailboxMessage}
    (delivery : Delivery server after address message) (ok : RoutesOk server) (generation : Nat) :
    Grown server after generation := by
  cases delivery with
  | appended target task appended =>
      by_cases here : generation = target
      · subst here
        exact .fed task message appended.found appended.isOpen
          (by rw [appended.tasks, Function.update_self])
      · exact .same (by rw [appended.tasks, Function.update_of_ne here])
  | spawned spawned =>
      by_cases here : generation = server.nextGeneration
      · subst here
        exact .born address message ok.fresh_generation
          (by rw [spawned.tasks, Function.update_self])
      · exact .same (by rw [spawned.tasks, Function.update_of_ne here])

theorem ConnMove.grown {id : Nat} {pc next : ConnPc} (move : ConnMove config server after id pc next)
    (ok : RoutesOk server) (generation : Nat) : Grown server after generation := by
  cases move with
  | quiet same | unheard same => exact .same (congrFun same.tasks generation)
  | register _ _ _ tasks | unregister _ _ tasks | close _ _ _ tasks =>
      exact .same (congrFun tasks generation)
  | unopened refusal | unacted refusal => exact .same (congrFun refusal.tasks generation)
  | opened delivery | acted delivery => exact delivery.grown ok generation
  | @closed _ _ _ target task appended =>
      exact (Delivery.appended target task appended).grown ok generation

namespace Grown

variable {generation : Nat}

theorem guards (grown : Grown server after generation) :
    after.guards (.task generation) = server.guards (.task generation) := by
  cases grown with
  | same tasks => simp only [Server.guards, tasks]
  | fed task message found isOpen tasks =>
      simp only [Server.guards, tasks, found, Option.bind_some]
      rfl
  | born address message absent tasks =>
      simp only [Server.guards, tasks, absent, Option.bind_some, Option.bind_none]
      rfl

theorem carries (grown : Grown server after generation) {task : ActorTask} {opening : Opening}
    (found : server.tasks generation = some task) (carries : task.Carries opening) :
    ∃ later, after.tasks generation = some later ∧ later.Carries opening := by
  cases grown with
  | same tasks => exact ⟨task, tasks.trans found, carries⟩
  | fed old message known isOpen tasks =>
      rw [found, Option.some.injEq] at known
      subst known
      exact ⟨_, tasks, carries.imp (fun waiting => List.mem_append_left _ waiting) id⟩
  | born address message absent tasks =>
      rw [found] at absent
      cases absent

theorem emptied (grown : Grown server after generation) {task : ActorTask}
    (found : after.tasks generation = some task)
    (before : ∀ old, server.tasks generation = some old → old.Emptied) : task.Emptied := by
  cases grown with
  | same tasks => exact before task (tasks.symm.trans found)
  | fed old message known isOpen tasks =>
      rw [tasks, Option.some.injEq] at found
      subst found
      intro ended
      have closed := (before old known ended).1
      rw [isOpen] at closed
      cases closed
  | born address message absent tasks =>
      rw [tasks, Option.some.injEq] at found
      subst found
      rintro ⟨⟩

/-- A task that releases its record did so before. -/
theorem releasing (grown : Grown server after generation) {task : ActorTask}
    {program : ClusterRouter.ReleaseProgram} (found : after.tasks generation = some task)
    (here : task.pc = .releasing program) :
    ∃ old, server.tasks generation = some old ∧ old.pc = .releasing program := by
  cases grown with
  | same tasks => exact ⟨task, tasks.symm.trans found, here⟩
  | fed old message known isOpen tasks =>
      rw [tasks, Option.some.injEq] at found
      subst found
      exact ⟨old, known, here⟩
  | born address message absent tasks =>
      rw [tasks, Option.some.injEq] at found
      subst found
      cases here

end Grown

/-! ## The invariant -/

/-- What is waited for is there. -/
structure WaitsOk (server : Server) : Prop where
  tenure : Tenure server.resolutions server.guards
  resolving : ∀ id address session program reserved,
    (server.conns id).pc = .resolving address session program reserved →
      program.request?.isSome = true
  releasing : ∀ generation task program, server.tasks generation = some task →
    task.pc = .releasing program → program.request?.isSome = true
  emptied : ∀ generation task, server.tasks generation = some task → task.Emptied
  awaited : ∀ id opening, (server.conns id).pc = .openAwait opening →
    server.completions opening ≠ .pending ∨
      ∃ generation task, server.tasks generation = some task ∧ task.Carries opening

theorem waitsOk_fresh (config : RuntimeConfig) : WaitsOk (.fresh config) where
  tenure := by
    intro address holder recorded
    cases recorded
  resolving := by
    intro id address session program reserved here
    cases here
  releasing := by
    intro generation task program found
    cases found
  emptied := by
    intro generation task found
    cases found
  awaited := by
    intro id opening here
    cases here

theorem ConnPc.afterReply_resolving {address other : ActorAddress} {session other' : SessionId}
    {reserved reserved' : Bool} {next program : ClusterRouter.ResolveProgram}
    (here : ConnPc.afterReply address session reserved next = .resolving other other' program reserved') :
    program.request?.isSome = true := by
  rcases next with (error | ⟨reservation⟩ | _) | ⟨request, resume⟩
  · cases here
  · cases here
  · cases here
  · cases here
    rfl

/-- A call of `resolve` that goes on has a request out. -/
theorem ResolveMove.request {pc next : ConnPc} {event : ConnEvent}
    (move : ResolveMove config pc event next) {address : ActorAddress} {session : SessionId}
    {program : ClusterRouter.ResolveProgram} {reserved : Bool}
    (here : next = .resolving address session program reserved) :
    pc = next ∨ program.request?.isSome = true := by
  cases move with
  | kept same => exact .inl same.symm
  | begun other session' waiting moved =>
      rw [moved] at here
      cases here
      exact .inr rfl
  | replied other session' old resumed reserved' reserved'' reply before answered continued moved =>
      rw [moved] at here
      exact .inr (ConnPc.afterReply_resolving here)
  | carried other held still =>
      rw [here] at still
      cases still
  | freed free =>
      rw [here] at free
      cases free

theorem ReleaseMove.request {pc next : TaskPc} {event : TaskEvent}
    (move : ReleaseMove config pc event next) {program : ClusterRouter.ReleaseProgram}
    (here : next = .releasing program) : program.request?.isSome = true := by
  cases move with
  | begun waiting moved =>
      rw [moved] at here
      cases here
      rfl
  | replied old resumed reply before answered continued moved =>
      rw [moved] at here
      cases resumed with
      | ret result => cases here
      | call request resume =>
          cases here
          rfl
  | freed free =>
      rw [here] at free
      cases free

/-- A connection task that waits for an answer waited before, or its opening has
just entered a mailbox. -/
theorem ConnMove.awaiting {id : Nat} {pc next : ConnPc} (move : ConnMove config server after id pc next)
    {opening : Opening} (here : next = .openAwait opening) :
    pc = .openAwait opening ∨
      Delivery server after opening.address (.sessionOpened opening) := by
  cases move with
  | quiet _ move =>
      cases move with
      | noted => exact .inl here
      | receive envelope =>
          have keys := inbound_keys false envelope
          rw [here] at keys
          cases keys
      | @unclosed _ _ onward => cases onward <;> cases here
      | _ => cases here
  | opened delivery =>
      cases here
      exact .inr delivery
  | unopened _ _ _ _ onward => rcases onward with ⟨error, rfl⟩ | rfl <;> cases here
  | unacted _ _ _ _ onward => rcases onward with rfl | rfl <;> cases here
  | @closed _ _ onward | @unheard _ _ onward => cases onward <;> cases here
  | _ => cases here

theorem Delivery.carried {address : ActorAddress} {opening : Opening}
    (delivery : Delivery server after address (.sessionOpened opening)) :
    ∃ generation task, after.tasks generation = some task ∧ task.Carries opening := by
  cases delivery with
  | appended generation task appended =>
      exact ⟨generation, _, by rw [appended.tasks, Function.update_self],
        .inl (List.mem_append_right _ (List.mem_singleton_self _))⟩
  | spawned spawned =>
      exact ⟨server.nextGeneration, _, by rw [spawned.tasks, Function.update_self],
        .inl (List.mem_singleton_self _)⟩

namespace WaitsOk

theorem connected (ok : WaitsOk server) (routes : RoutesOk server) {authorityValid : Bool}
    {id : Nat} {event : ConnEvent}
    (stepped : server.connStep? config authorityValid id (server.conns id).pc event = some after) :
    WaitsOk after := by
  obtain ⟨conn, conns, -⟩ := connStep?_conns stepped
  have others : ∀ other, other ≠ id → after.conns other = server.conns other := by
    intro other different
    rw [conns, Function.update_of_ne different]
  have move := connStep?_moves rfl stepped
  have grown := move.grown routes
  constructor
  · refine ok.tenure.step ?_ (connStep?_lock rfl stepped)
    intro holder different
    cases holder with
    | conn other =>
        simp only [Server.guards, others other fun same => different (by rw [same])]
    | task generation => exact (grown generation).guards
  · intro other address session program reserved here
    by_cases own : other = id
    · subst own
      rcases (connStep?_move rfl stepped).request here with same | busy
      · exact ok.resolving other address session program reserved (same.trans here)
      · exact busy
    · rw [others other own] at here
      exact ok.resolving other address session program reserved here
  · intro generation task program found here
    obtain ⟨old, known, before⟩ := (grown generation).releasing found here
    exact ok.releasing generation old program known before
  · intro generation task found
    exact (grown generation).emptied found fun old known => ok.emptied generation old known
  · intro other opening here
    have before : (server.conns other).pc = .openAwait opening →
        after.completions opening ≠ .pending ∨
          ∃ generation task, after.tasks generation = some task ∧ task.Carries opening := by
      intro waiting
      rcases ok.awaited other opening waiting with answered | ⟨generation, task, found, carries⟩
      · refine .inl ?_
        rcases move.completions opening with same | ⟨-, -, error, sent⟩
        · rw [same]
          exact answered
        · simp [sent]
      · obtain ⟨later, there, still⟩ := (grown generation).carries found carries
        exact .inr ⟨generation, later, there, still⟩
    by_cases own : other = id
    · subst own
      rcases move.awaiting here with waiting | delivery
      · exact before waiting
      · exact .inr delivery.carried
    · rw [others other own] at here
      exact before here

theorem moved (ok : WaitsOk server) {generation : Nat} {task : ActorTask} {event : TaskEvent}
    (found : server.tasks generation = some task)
    (stepped : server.taskStep? config generation task task.pc event = some after) :
    WaitsOk after := by
  obtain ⟨next, effect⟩ := taskStep?_effect stepped
  have keeps := taskStep?_keeps stepped effect.tasks
  have move := taskStep?_moves stepped effect.tasks
  have mine : after.tasks generation = some next := by rw [effect.tasks, Function.update_self]
  have others : ∀ other, other ≠ generation → after.tasks other = server.tasks other := by
    intro other different
    rw [effect.tasks, Function.update_of_ne different]
  constructor
  · have lock : LockMove server.resolutions after.resolutions (.task generation)
        (server.guards (.task generation)) (after.guards (.task generation)) := by
      simpa only [Server.guards, mine, found, Option.bind_some] using
        taskStep?_lock stepped effect.tasks
    refine ok.tenure.step ?_ lock
    intro holder different
    cases holder with
    | conn id => simp only [Server.guards, effect.conns]
    | task other =>
        simp only [Server.guards, others other fun same => different (by rw [same])]
  · intro id address session program reserved here
    rw [effect.conns] at here
    exact ok.resolving id address session program reserved here
  · intro other known program there here
    by_cases own : other = generation
    · subst own
      exact (taskStep?_move stepped there).request here
    · rw [others other own] at there
      exact ok.releasing other known program there here
  · intro other known there
    by_cases own : other = generation
    · subst own
      rw [mine, Option.some.injEq] at there
      exact there ▸ keeps.emptied
    · rw [others other own] at there
      exact ok.emptied other known there
  · intro id opening here
    rw [effect.conns] at here
    rcases ok.awaited id opening here with answered | ⟨other, known, there, carries⟩
    · refine .inl ?_
      rcases move.completions opening with same | ⟨-, sent⟩ | ⟨-, -, dropped | ⟨error, sent⟩⟩
      · rw [same]
        exact answered
      · simp [sent]
      · simp [dropped]
      · simp [sent]
    · by_cases own : other = generation
      · subst own
        rw [found, Option.some.injEq] at there
        subst there
        rcases keeps.carried opening carries with still | answered
        · exact .inr ⟨other, next, mine, still⟩
        · exact .inl answered
      · exact .inr ⟨other, known, (others other own).trans there, carries⟩

theorem controlled (ok : WaitsOk server) (effect : ControlEffect server after) :
    WaitsOk after := by
  have origin : ∀ generation task, after.tasks generation = some task →
      ∃ old, server.tasks generation = some old ∧ SameTask old task := by
    intro generation task found
    obtain ⟨mark, keeps, same⟩ := effect.tasks generation
    rw [same, Option.map_eq_some_iff] at found
    obtain ⟨old, known, rfl⟩ := found
    exact ⟨old, known, keeps old⟩
  constructor
  · intro address holder recorded
    rw [effect.resolutions] at recorded
    rw [effect.guards holder]
    exact ok.tenure address holder recorded
  · intro id address session program reserved here
    rw [effect.conns] at here
    exact ok.resolving id address session program reserved here
  · intro generation task program found here
    obtain ⟨old, known, same⟩ := origin generation task found
    exact ok.releasing generation old program known (same.pc ▸ here)
  · intro generation task found ended
    obtain ⟨old, known, same⟩ := origin generation task found
    rw [same.closed, same.mailbox]
    exact ok.emptied generation old known (same.pc ▸ ended)
  · intro id opening here
    rw [effect.conns] at here
    rw [effect.completions]
    rcases ok.awaited id opening here with answered | ⟨generation, task, found, carries⟩
    · exact .inl answered
    · obtain ⟨mark, keeps, same⟩ := effect.tasks generation
      refine .inr ⟨generation, mark task, by rw [same, found]; rfl, ?_⟩
      unfold ActorTask.Carries
      rw [(keeps task).mailbox, (keeps task).pc]
      exact carries

theorem step? (ok : WaitsOk server) (routes : RoutesOk server) {authorityValid : Bool}
    {event : ServerEvent} (stepped : server.step? config authorityValid event = some after) :
    WaitsOk after := by
  cases event with
  | conn id event => exact ok.connected routes stepped
  | task generation event =>
      obtain ⟨task, found, moved⟩ := Option.bind_eq_some_iff.mp stepped
      exact ok.moved found moved
  | shutdown expired => exact ok.controlled (shutdownStep?_cases stepped)
  | fence => exact ok.controlled (fenceStep?_cases stepped)

end WaitsOk

theorem waitsOk_of_reachable (reach : (serverSystem config).Reachable server) :
    WaitsOk server := by
  refine invariant_of_reachable_step WaitsOk ?_ ?_ reach
  · rintro start rfl
    exact waitsOk_fresh config
  · intro before label after earlier ok _ stepped
    exact ok.step? (routesOk_of_reachable earlier) stepped

end Coactor.Runtime
