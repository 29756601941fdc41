import Coactor.Foundation.Conveyor
import Coactor.Runtime.Draining
import Coactor.Runtime.Moves

/-!
# One task after the other

A message stays with the task whose mailbox it entered.  As long as no dispatch
starts a task beside another one of its address that can still take messages, at
most one task of an address can, and it takes them in the order of their arrival.
-/

namespace Coactor.Runtime

open Coactor.Coordination
open Coactor.Foundation
open Coactor.Foundation.Transition

variable {server after : Server} {config : RuntimeConfig} {id generation : Nat}
  {address : ActorAddress} {session : SessionId} {pc next : ConnPc}

/-! ## Tasks that can still take messages -/

/-- A dispatch that spawns an actor after the status has left `RUNNING` finds no
task of its address that can still take messages. -/
def Unrivaled (server : Server) (label : Bool × ServerEvent) : Prop :=
  lateActivation server label = true → ∀ id event address generation task,
    label.2 = .conn id event → Server.Activates server id event address →
    server.tasks generation = some task → task.address = address → task.pc.mayExecute = false

/-- At most one task of an address can still take messages. -/
def Server.Succeeding (server : Server) : Prop :=
  ∀ first second one two, server.tasks first = some one → server.tasks second = some two →
    one.address = two.address → one.pc.mayExecute = true → two.pc.mayExecute = true →
    first = second

theorem TaskPc.relies_of_mayExecute {pc : TaskPc} (may : pc.mayExecute = true)
    (calm : pc.isDraining = false) : ∃ state, pc.routeState? = some state := by
  cases pc with
  | executing message draining =>
      cases draining with
      | false => exact ⟨_, rfl⟩
      | true => cases calm
  | shutdownClose | draining => cases calm
  | spawned | activating | receiving | idleCount | idleBegin => exact ⟨_, rfl⟩
  | _ => cases may

/-- While the status is `RUNNING`, a new actor never has a rival. -/
theorem RoutesOk.free (ok : RoutesOk server) (running : server.status = .running)
    (spawns : server.wouldSpawn address = true) {task : ActorTask}
    (found : server.tasks generation = some task) (here : task.address = address) :
    task.pc.mayExecute = false := by
  rw [Bool.eq_false_iff]
  intro may
  obtain ⟨state, relies⟩ :=
    TaskPc.relies_of_mayExecute may (ok.calm running generation task found).2.2
  exact ok.replaceable running spawns found relies here

namespace Server

theorem wouldSpawn_of_wouldActivate {reservation : Bool}
    (activates : server.wouldActivate address reservation = true) :
    server.wouldSpawn address = true := by
  unfold wouldActivate at activates
  split at activates
  · rename_i absent
    rw [wouldSpawn, absent]
  · exact activates

theorem Activates.wouldSpawn {event : ConnEvent} (activates : Activates server id event address) :
    server.wouldSpawn address = true := by
  cases activates with
  | opening opening reservation panics here advanced spawns
  | action address session payload panics here advanced spawns =>
      exact wouldSpawn_of_wouldActivate spawns

namespace Succeeding

/-- Tasks at the same program points. -/
theorem same (succeeding : server.Succeeding)
    (origin : ∀ generation task, after.tasks generation = some task →
      ∃ old, server.tasks generation = some old ∧ old.address = task.address ∧
        (task.pc.mayExecute = true → old.pc.mayExecute = true)) : after.Succeeding := by
  intro first second one two foundOne foundTwo shared mayOne mayTwo
  obtain ⟨oldOne, knownOne, addressOne, stillOne⟩ := origin first one foundOne
  obtain ⟨oldTwo, knownTwo, addressTwo, stillTwo⟩ := origin second two foundTwo
  exact succeeding first second oldOne oldTwo knownOne knownTwo
    ((addressOne.trans shared).trans addressTwo.symm) (stillOne mayOne) (stillTwo mayTwo)

/-- A message that enters a mailbox, perhaps that of a new actor. -/
theorem delivery (succeeding : server.Succeeding) {message : MailboxMessage}
    (delivery : Delivery server after address message)
    (free : ∀ generation task, server.tasks generation = some task → task.address = address →
      task.pc.mayExecute = false) : after.Succeeding := by
  cases delivery with
  | appended target task appended =>
      refine succeeding.same fun generation known found => ?_
      rw [appended.tasks] at found
      by_cases own : generation = target
      · subst own
        rw [Function.update_self, Option.some.injEq] at found
        subst found
        exact ⟨task, appended.found, rfl, fun may => may⟩
      · rw [Function.update_of_ne own] at found
        exact ⟨known, found, rfl, fun may => may⟩
  | spawned spawned =>
      have origin : ∀ generation task, after.tasks generation = some task →
          (generation = server.nextGeneration ∧ task.address = address) ∨
            server.tasks generation = some task := by
        intro generation task found
        rw [spawned.tasks] at found
        by_cases new : generation = server.nextGeneration
        · rw [new, Function.update_self, Option.some.injEq] at found
          exact .inl ⟨new, found ▸ rfl⟩
        · rw [Function.update_of_ne new] at found
          exact .inr found
      have busy : ∀ generation task, server.tasks generation = some task →
          task.address = address → task.pc.mayExecute ≠ true :=
        fun generation task found here => Bool.eq_false_iff.mp (free generation task found here)
      intro first second one two foundOne foundTwo shared mayOne mayTwo
      rcases origin first one foundOne with ⟨rfl, here⟩ | knownOne
      · rcases origin second two foundTwo with ⟨rfl, -⟩ | knownTwo
        · rfl
        · exact absurd mayTwo (busy second two knownTwo (shared.symm.trans here))
      · rcases origin second two foundTwo with ⟨rfl, here⟩ | knownTwo
        · exact absurd mayOne (busy first one knownOne (shared.trans here))
        · exact succeeding first second one two knownOne knownTwo shared mayOne mayTwo

theorem of_tasks (succeeding : server.Succeeding) (tasks : after.tasks = server.tasks) :
    after.Succeeding :=
  succeeding.same fun _ task found => ⟨task, tasks ▸ found, rfl, fun may => may⟩

/-- A connection task starts at most one task, which has no rival. -/
theorem conn (succeeding : server.Succeeding) {authorityValid : Bool} {event : ConnEvent}
    (free : ∀ address, Activates server id event address → ∀ generation task,
      server.tasks generation = some task → task.address = address → task.pc.mayExecute = false)
    (stepped : server.step? config authorityValid (.conn id event) = some after) :
    after.Succeeding := by
  rcases connStep?_delivers stepped with delivered | ⟨address, activates, -⟩
  · refine succeeding.same fun generation task found => ?_
    obtain ⟨mailbox, tasks⟩ := delivered.tasks generation
    rw [tasks] at found
    obtain ⟨old, known, rfl⟩ := Option.map_eq_some_iff.mp found
    exact ⟨old, known, rfl, fun may => may⟩
  · have unrivaled := free address activates
    cases step?_moves stepped with
    | conn control others move =>
        cases activates with
        | opening opening reservation panics here advanced spawns =>
            rw [here] at move
            generalize (after.conns id).pc = next at move
            cases move with
            | quiet same move => exact succeeding.of_tasks same.tasks
            | opened delivery => exact succeeding.delivery delivery unrivaled
            | unopened refusal => exact succeeding.of_tasks refusal.tasks
        | action address session payload panics here advanced spawns =>
            rw [here] at move
            generalize (after.conns id).pc = next at move
            cases move with
            | quiet same move => exact succeeding.of_tasks same.tasks
            | acted delivery => exact succeeding.delivery delivery unrivaled
            | unacted refusal => exact succeeding.of_tasks refusal.tasks

theorem step (succeeding : server.Succeeding) (ok : RoutesOk server) {authorityValid : Bool}
    {event : ServerEvent} (met : Unrivaled server (authorityValid, event))
    (stepped : server.step? config authorityValid event = some after) : after.Succeeding := by
  have controlled : ControlEffect server after → after.Succeeding := by
    intro effect
    refine succeeding.same fun generation task found => ?_
    obtain ⟨mark, marked, tasks⟩ := effect.tasks generation
    rw [tasks] at found
    obtain ⟨old, known, rfl⟩ := Option.map_eq_some_iff.mp found
    exact ⟨old, known, (marked old).address.symm, fun may => (marked old).pc ▸ may⟩
  cases step?_moves stepped with
  | @conn id event control others move =>
      refine succeeding.conn (fun address activates generation task found shared => ?_) stepped
      by_cases running : server.status = .running
      · exact ok.free running activates.wouldSpawn found shared
      · refine met ?_ id event address generation task rfl activates found shared
        cases activates with
        | opening opening reservation panics here advanced spawns
        | action address session payload panics here advanced spawns =>
            subst advanced
            simp [lateActivation, running, here, spawns]
  | @task target event task next found effect move =>
      refine succeeding.same fun generation known present => ?_
      rw [effect.tasks] at present
      by_cases own : generation = target
      · subst own
        rw [Function.update_self, Option.some.injEq] at present
        subst present
        exact ⟨task, found, effect.address.symm, move.executes⟩
      · rw [Function.update_of_ne own] at present
        exact ⟨known, present, rfl, fun may => may⟩
  | shutdown effect | fence effect => exact controlled effect

end Succeeding

end Server

theorem succeeding_of_reachable
    (reach : (serverSystem config).ReachableWhile Unrivaled server) : server.Succeeding := by
  refine invariant_of_reachable_step Server.Succeeding ?_ ?_ reach
  · rintro _ rfl first second one two ⟨⟩
  · intro before label after earlier succeeding met stepped
    exact succeeding.step (routesOk_of_reachable (reachable_of_reachableWhile earlier)) met stepped

/-! ## Actions in the hand of a connection task -/

/-- The Action that a connection task has in hand. -/
def ConnPc.action? : ConnPc → Option (ActorAddress × SessionId × List UInt8)
  | .actionBound address session payload | .actionSink address session payload
  | .actionDispatch address session payload _ => some (address, session, payload)
  | _ => none

/-- Its payload, if it is of this Session. -/
def ConnPc.payloadFor (session : SessionId) (pc : ConnPc) : List (List UInt8) :=
  (pc.action?.bind fun action => if action.2.1 = session then some action.2.2 else none).toList

theorem ConnPc.payloadFor_of_action (same : next.action? = none ∨ next.action? = pc.action?) :
    (next.payloadFor session).Sublist (pc.payloadFor session) := by
  rcases same with none | same
  · rw [payloadFor, none]
    exact List.nil_sublist _
  · rw [payloadFor, payloadFor, same]

theorem AfterClose.action? (after : AfterClose) : after.pc.action? = none := by
  cases after <;> rfl

/-- A connection task takes an Action in hand only where it receives an Envelope. -/
theorem QuietMove.action (move : QuietMove server id pc next)
    (silent : pc = .receiving → next.action? = none) :
    next.action? = none ∨ next.action? = pc.action? := by
  cases move with
  | receive envelope => exact .inl (silent rfl)
  | bound | sink | acting | noted => exact .inr rfl
  | unclosed => exact .inl (AfterClose.action? _)
  | _ => exact .inl rfl

theorem ConnMove.action (move : ConnMove config server after id pc next)
    (silent : pc = .receiving → next.action? = none) :
    next.action? = none ∨ next.action? = pc.action? := by
  cases move with
  | quiet same move => exact move.action silent
  | unopened refusal registry completions nextOpening onward =>
      rcases onward with ⟨error, rfl⟩ | rfl <;> exact .inl rfl
  | unacted refusal registry completions nextOpening onward =>
      rcases onward with rfl | rfl <;> exact .inl rfl
  | closed | unheard => exact .inl (AfterClose.action? _)
  | _ => exact .inl rfl

/-! ## Actions in a mailbox -/

/-- The payload of an Action of this Session. -/
def MailboxMessage.payloadOf? (session : SessionId) : MailboxMessage → Option (List UInt8)
  | .action own payload => if own = session then some payload else none
  | _ => none

/-- The Actions of a Session that the task of a generation can still take. -/
def Server.backlog (server : Server) (generation : Nat) (session : SessionId) :
    List (List UInt8) :=
  (server.tasks generation).elim [] fun task =>
    if task.pc.mayExecute then task.mailbox.filterMap (MailboxMessage.payloadOf? session) else []

theorem Server.backlog_of_tasks (same : after.tasks generation = server.tasks generation) :
    after.backlog generation session = server.backlog generation session := by
  rw [backlog, backlog, same]

theorem Server.backlog_append (same : after.tasks generation = server.tasks generation)
    (new : List (List UInt8)) :
    (after.backlog generation session).Sublist (server.backlog generation session ++ new) := by
  have kept := @backlog_of_tasks server after generation session same
  rw [kept]
  exact List.sublist_append_left _ _

theorem Server.backlog_of_task {task : ActorTask} (found : server.tasks generation = some task) :
    server.backlog generation session = if task.pc.mayExecute then
      task.mailbox.filterMap (MailboxMessage.payloadOf? session) else [] := by
  rw [backlog, found, Option.elim_some]

/-- A message that enters a mailbox comes last there. -/
theorem Delivery.backlog {message : MailboxMessage}
    (delivery : Delivery server after address message) :
    (after.backlog generation session).Sublist (server.backlog generation session ++
      if generation = server.target address then (message.payloadOf? session).toList else []) := by
  cases delivery with
  | appended target task appended =>
      by_cases here : generation = target
      · subst here
        rw [if_pos appended.target.symm, Server.backlog_of_task appended.found,
          Server.backlog_of_task (by rw [appended.tasks, Function.update_self])]
        by_cases may : task.pc.mayExecute = true
        · rw [if_pos may, if_pos may, filterMap_enter]
        · rw [if_neg may]
          exact List.nil_sublist _
      · exact Server.backlog_append (by rw [appended.tasks, Function.update_of_ne here]) _
  | spawned spawned =>
      by_cases here : generation = server.nextGeneration
      · subst here
        rw [if_pos spawned.target.symm,
          Server.backlog_of_task (by rw [spawned.tasks, Function.update_self])]
        simp only [TaskPc.mayExecute, if_true, filterMap_singleton]
        exact List.sublist_append_right _ _
      · exact Server.backlog_append (by rw [spawned.tasks, Function.update_of_ne here]) _

/-- A connection task passes at most what it has in hand on to one mailbox. -/
theorem ConnMove.backlog (move : ConnMove config server after id pc next)
    (silent : pc = .receiving → next.action? = none) :
    ∃ (target : Nat) (given : List (List UInt8)),
      (given ++ next.payloadFor session).Sublist (pc.payloadFor session) ∧
      (after.backlog target session).Sublist (server.backlog target session ++ given) ∧
      ∀ generation, generation ≠ target →
        (after.backlog generation session).Sublist (server.backlog generation session) := by
  have kept : (∀ generation,
        (after.backlog generation session).Sublist (server.backlog generation session)) →
      ∃ (target : Nat) (given : List (List UInt8)),
        (given ++ next.payloadFor session).Sublist (pc.payloadFor session) ∧
        (after.backlog target session).Sublist (server.backlog target session ++ given) ∧
        ∀ generation, generation ≠ target →
          (after.backlog generation session).Sublist (server.backlog generation session) := by
    intro kept
    refine ⟨0, [], ConnPc.payloadFor_of_action (move.action silent), ?_, fun generation _ =>
      kept generation⟩
    rw [List.append_nil]
    exact kept 0
  have same : after.tasks = server.tasks → ∀ generation,
      (after.backlog generation session).Sublist (server.backlog generation session) := by
    intro tasks generation
    have same := @Server.backlog_of_tasks server after generation session (by rw [tasks])
    rw [same]
  have unread : ∀ {address : ActorAddress} {message : MailboxMessage},
      Delivery server after address message → message.payloadOf? session = none →
      ∀ generation,
        (after.backlog generation session).Sublist (server.backlog generation session) := by
    intro address message delivery none generation
    have entered := @Delivery.backlog server after generation address session message delivery
    rw [none, Option.toList_none, ite_self, List.append_nil] at entered
    exact entered
  cases move with
  | quiet others | unheard others => exact kept (same others.tasks)
  | register absent registry routes tasks => exact kept (same tasks)
  | opened delivery => exact kept (unread delivery rfl)
  | unopened refusal | unacted refusal => exact kept (same refusal.tasks)
  | unregister registry routes tasks => exact kept (same tasks)
  | @acted address own payload delivery =>
      refine ⟨server.target address, ConnPc.payloadFor session
        (.actionDispatch address own payload .actors), ?_, ?_, ?_⟩
      · exact (List.append_nil _).symm ▸ .refl _
      · have entered := @Delivery.backlog server after (server.target address) address session _
          delivery
        rwa [if_pos rfl] at entered
      · intro generation other
        have entered := @Delivery.backlog server after generation address session _ delivery
        rwa [if_neg other, List.append_nil] at entered
  | close present registry routes tasks => exact kept (same tasks)
  | closed appended => exact kept (unread (.appended _ _ appended) rfl)

/-- A connection task that waits leaves the mailboxes alone. -/
theorem ConnMove.tasks_of_receiving (move : ConnMove config server after id .receiving next) :
    after.tasks = server.tasks := by
  cases move with
  | quiet same => exact same.tasks

/-- What a task takes from its mailbox is the first of what it can still take. -/
theorem TaskMove.backlog {task later : ActorTask} (move : TaskMove server after generation task later)
    (found : server.tasks generation = some task)
    (tasks : after.tasks = Function.update server.tasks generation (some later)) :
    (∃ message draining, later.pc = .executing message draining ∧ task.pc.isExecuting = false ∧
      server.backlog generation session =
        (message.payloadOf? session).toList ++ after.backlog generation session) ∨
    (later.pc.isExecuting = false ∧
      (after.backlog generation session).Sublist (server.backlog generation session)) := by
  have there : after.tasks generation = some later := by rw [tasks, Function.update_self]
  rcases move.call with ⟨message, draining, first, executing, idle⟩ | ⟨idle, kept⟩
  · refine .inl ⟨message, draining, executing, idle, ?_⟩
    have may : later.pc.mayExecute = true := by rw [executing]; rfl
    rw [Server.backlog_of_task found, Server.backlog_of_task there, if_pos may,
      if_pos (move.executes may), first, ← filterMap_singleton, ← List.filterMap_append,
      List.singleton_append]
  · refine .inr ⟨idle, ?_⟩
    rw [Server.backlog_of_task found, Server.backlog_of_task there]
    by_cases may : later.pc.mayExecute = true
    · rw [if_pos may, if_pos (move.executes may)]
      rcases kept with same | never
      · rw [same]
      · rw [never] at may
        cases may
    · rw [if_neg may]
      exact List.nil_sublist _

theorem ControlEffect.backlog (effect : ControlEffect server after) :
    after.backlog generation session = server.backlog generation session := by
  obtain ⟨mark, marked, tasks⟩ := effect.tasks generation
  rw [Server.backlog, Server.backlog, tasks]
  cases server.tasks generation with
  | none => rfl
  | some task =>
      rw [Option.map_some, Option.elim_some, Option.elim_some, (marked task).pc,
        (marked task).mailbox]

/-! ## Where an Action in a mailbox comes from -/

/-- An Action waits in the mailbox of a task of this address. -/
def Server.Holds (server : Server) (generation : Nat) (address : ActorAddress)
    (session : SessionId) (payload : List UInt8) : Prop :=
  ∃ task, server.tasks generation = some task ∧ task.address = address ∧
    .action session payload ∈ task.mailbox

theorem Delivery.holds {own : ActorAddress} {message : MailboxMessage} {payload : List UInt8}
    (ok : RoutesOk server) (delivery : Delivery server after own message)
    (holds : after.Holds generation address session payload) :
    server.Holds generation address session payload ∨
      (own = address ∧ message = .action session payload) := by
  obtain ⟨task, found, here, member⟩ := holds
  cases delivery with
  | appended target old appended =>
      rw [appended.tasks] at found
      by_cases same : generation = target
      · subst same
        rw [Function.update_self, Option.some.injEq] at found
        subst found
        rcases List.mem_append.mp member with waited | last
        · exact .inl ⟨old, appended.found, here, waited⟩
        · obtain ⟨known, there, rfl⟩ := ok.task own _ appended.route
          obtain rfl := Option.some.inj (appended.found.symm.trans there)
          exact .inr ⟨here, (List.mem_singleton.mp last).symm⟩
      · rw [Function.update_of_ne same] at found
        exact .inl ⟨task, found, here, member⟩
  | spawned spawned =>
      rw [spawned.tasks] at found
      by_cases same : generation = server.nextGeneration
      · rw [same, Function.update_self, Option.some.injEq] at found
        subst found
        exact .inr ⟨here, (List.mem_singleton.mp member).symm⟩
      · rw [Function.update_of_ne same] at found
        exact .inl ⟨task, found, here, member⟩

theorem ConnMove.holds {payload : List UInt8} (ok : RoutesOk server)
    (move : ConnMove config server after id pc next)
    (holds : after.Holds generation address session payload) :
    server.Holds generation address session payload ∨
      pc.action? = some (address, session, payload) := by
  have kept : after.tasks = server.tasks → server.Holds generation address session payload := by
    rintro tasks
    rwa [Server.Holds, tasks] at holds
  cases move with
  | quiet same | unheard same => exact .inl (kept same.tasks)
  | register absent registry routes tasks => exact .inl (kept tasks)
  | opened delivery =>
      rcases delivery.holds ok holds with earlier | ⟨-, ⟨⟩⟩
      exact .inl earlier
  | unopened refusal | unacted refusal => exact .inl (kept refusal.tasks)
  | unregister registry routes tasks => exact .inl (kept tasks)
  | acted delivery =>
      rcases delivery.holds ok holds with earlier | ⟨rfl, ⟨⟩⟩
      · exact .inl earlier
      · exact .inr rfl
  | close present registry routes tasks => exact .inl (kept tasks)
  | closed appended =>
      rcases (Delivery.appended _ _ appended).holds ok holds with earlier | ⟨-, ⟨⟩⟩
      exact .inl earlier

/-- An Action in a mailbox has been there before, or was in the hand of the
connection task that moved. -/
theorem ServerMove.holds {event : ServerEvent} {payload : List UInt8} (ok : RoutesOk server)
    (move : ServerMove config server after event)
    (holds : after.Holds generation address session payload) :
    server.Holds generation address session payload ∨
      ∃ id connEvent, event = .conn id connEvent ∧
        (server.conns id).pc.action? = some (address, session, payload) := by
  have marked : ControlEffect server after → server.Holds generation address session payload := by
    intro effect
    obtain ⟨task, found, here, member⟩ := holds
    obtain ⟨mark, same, tasks⟩ := effect.tasks generation
    rw [tasks] at found
    obtain ⟨old, known, rfl⟩ := Option.map_eq_some_iff.mp found
    exact ⟨old, known, (same old).address ▸ here, (same old).mailbox ▸ member⟩
  cases move with
  | @conn id connEvent control others move =>
      exact (move.holds ok holds).imp_right fun inHand => ⟨id, connEvent, rfl, inHand⟩
  | @task target taskEvent task later found effect move =>
      obtain ⟨known, present, here, member⟩ := holds
      rw [effect.tasks] at present
      by_cases same : generation = target
      · subst same
        rw [Function.update_self, Option.some.injEq] at present
        subst present
        exact .inl ⟨task, found, effect.address ▸ here, effect.mailbox.subset member⟩
      · rw [Function.update_of_ne same] at present
        exact .inl ⟨known, present, here, member⟩
  | shutdown effect | fence effect => exact .inl (marked effect)

end Coactor.Runtime
