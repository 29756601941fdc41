import Coactor.Runtime.Calls
import Coactor.Runtime.Openings

/-!
# What one step does to Sessions and mailboxes

Every step of a connection task is a move between two program points with one
effect on the registry, on a mailbox or on an opening; most have none.  Every
step of an actor task takes a message, drops a registration, or moves on.  The
results about Sessions are proved from these moves and not from the step
functions.
-/

namespace Coactor.Runtime

open Coactor.Coordination
open Server

variable {server after : Server} {config : RuntimeConfig}

/-! ## Deliveries -/

/-- A message enters the mailbox of the active route. -/
structure Appended (before after : Server) (address : ActorAddress) (message : MailboxMessage)
    (generation : Nat) (task : ActorTask) : Prop where
  route : before.routes address = some ⟨generation, .active⟩
  found : before.tasks generation = some task
  isOpen : task.closed = false
  routes : after.routes = before.routes
  tasks : after.tasks = Function.update before.tasks generation
    (some { task with mailbox := task.mailbox ++ [message] })
  nextGeneration : after.nextGeneration = before.nextGeneration

/-- A message is the first one of a new actor. -/
structure Spawned (before after : Server) (address : ActorAddress) (message : MailboxMessage) :
    Prop where
  spawns : before.wouldSpawn address = true
  routes : after.routes = Function.update before.routes address
    (some ⟨before.nextGeneration, .active⟩)
  tasks : after.tasks = Function.update before.tasks before.nextGeneration
    (some ⟨address, .spawned, [message], false, false, false, false⟩)
  nextGeneration : after.nextGeneration = before.nextGeneration + 1

/-- A message enters a mailbox. -/
inductive Delivery (before after : Server) (address : ActorAddress) (message : MailboxMessage) :
    Prop where
  | appended (generation : Nat) (task : ActorTask)
      (appended : Appended before after address message generation task)
  | spawned (spawned : Spawned before after address message)

/-- A message enters no mailbox; a closed route may be gone. -/
structure Refusal (before after : Server) (address : ActorAddress) : Prop where
  routes : after.routes = before.routes ∨ (before.wouldSpawn address = true ∧
    after.routes = Function.update before.routes address none)
  tasks : after.tasks = before.tasks
  nextGeneration : before.nextGeneration ≤ after.nextGeneration

/-- The generation whose mailbox a dispatch to this address goes to. -/
def Server.target (server : Server) (address : ActorAddress) : Nat :=
  if server.wouldSpawn address then server.nextGeneration
  else match server.routes address with
    | some route => route.generation
    | none => server.nextGeneration

theorem Appended.target {address : ActorAddress} {message : MailboxMessage} {generation : Nat}
    {task : ActorTask} (appended : Appended server after address message generation task) :
    server.target address = generation := by
  have stays : server.wouldSpawn address = false := by
    simp [wouldSpawn, appended.route, appended.found, appended.isOpen]
  simp [Server.target, stays, appended.route]

theorem Spawned.target {address : ActorAddress} {message : MailboxMessage}
    (spawned : Spawned server after address message) :
    server.target address = server.nextGeneration := by
  simp [Server.target, spawned.spawns]

/-- Every task after a delivery was there before, at the same program point, or
is the new one. -/
theorem Delivery.task_origin {address : ActorAddress} {message : MailboxMessage}
    (delivery : Delivery server after address message) {generation : Nat} {task : ActorTask}
    (found : after.tasks generation = some task) :
    (∃ old, server.tasks generation = some old ∧ old.pc = task.pc ∧
      old.address = task.address) ∨ generation = server.nextGeneration := by
  cases delivery with
  | appended target old appended =>
      by_cases same : generation = target
      · subst same
        rw [appended.tasks, Function.update_self, Option.some.injEq] at found
        exact .inl ⟨old, appended.found, by rw [← found], by rw [← found]⟩
      · rw [appended.tasks, Function.update_of_ne same] at found
        exact .inl ⟨task, found, rfl, rfl⟩
  | spawned spawned =>
      by_cases same : generation = server.nextGeneration
      · exact .inr same
      · rw [spawned.tasks, Function.update_of_ne same] at found
        exact .inl ⟨task, found, rfl, rfl⟩

theorem Delivery.target_lt {address : ActorAddress} {message : MailboxMessage}
    (delivery : Delivery server after address message) (ok : RoutesOk server) :
    server.target address < after.nextGeneration := by
  cases delivery with
  | appended target old appended =>
      rw [appended.target, appended.nextGeneration]
      exact ok.generation _ _ appended.found
  | spawned spawned =>
      rw [spawned.target, spawned.nextGeneration]
      exact Nat.lt_succ_self _

theorem Delivery.nextGeneration_le {address : ActorAddress} {message : MailboxMessage}
    (delivery : Delivery server after address message) :
    server.nextGeneration ≤ after.nextGeneration := by
  cases delivery with
  | appended target old appended => exact Nat.le_of_eq appended.nextGeneration.symm
  | spawned spawned =>
      rw [spawned.nextGeneration]
      exact Nat.le_succ _

namespace Server

theorem spawn_moves {before : Server} {address : ActorAddress} {message : MailboxMessage}
    {panics : Bool} (spawns : before.wouldSpawn address = true)
    (routes : server.routes = before.routes ∨
      server.routes = Function.update before.routes address none)
    (tasks : server.tasks = before.tasks)
    (next : server.nextGeneration = before.nextGeneration) :
    match server.spawn config address message panics with
    | (after, .enqueued) => Spawned before after address message
    | (after, _) => Refusal before after address := by
  unfold spawn
  split
  · rename_i ended
    split at ended
    · cases ended
      refine ⟨spawns, ?_, by simp [tasks, next], by simp [next]⟩
      rcases routes with same | removed
      · simp [same, next]
      · simp [removed, next]
    · cases ended
  · rename_i after ending enqueued ended
    split at ended
    · cases ended
      simp at enqueued
    · cases ended
      exact ⟨routes.imp id fun removed => ⟨spawns, removed⟩, tasks, by simp [next]⟩

theorem activate_moves {before : Server} {address : ActorAddress} {message : MailboxMessage}
    {reservation panics : Bool} (spawns : before.wouldSpawn address = true)
    (routes : server.routes = before.routes ∨
      server.routes = Function.update before.routes address none)
    (tasks : server.tasks = before.tasks)
    (next : server.nextGeneration = before.nextGeneration) :
    match server.activate config address message reservation panics with
    | (after, .enqueued) => Delivery before after address message
    | (after, _) => Refusal before after address := by
  have spawning : ∀ middle : Server, middle.routes = server.routes →
      middle.tasks = server.tasks → middle.nextGeneration = server.nextGeneration →
      match middle.spawn config address message panics with
      | (after, .enqueued) => Delivery before after address message
      | (after, _) => Refusal before after address := by
    intro middle sameRoutes sameTasks sameNext
    have moves := @spawn_moves middle config before address message panics spawns
      (sameRoutes ▸ routes) (sameTasks.trans tasks) (sameNext.trans next)
    revert moves
    split
    · exact .spawned
    · exact id
  unfold activate
  cases reservation with
  | true => exact spawning server rfl rfl rfl
  | false =>
      by_cases free : 0 < server.available
      · simp only [Bool.false_eq_true, if_false, free, if_true]
        exact spawning _ rfl rfl rfl
      · simp only [Bool.false_eq_true, if_false, free]
        refine ⟨?_, by simp [tasks], by simp [next]⟩
        simpa [spawns] using routes

/-- The section of `dispatch_message` under the actors lock puts its message
into one mailbox, or fails. -/
theorem dispatchActors_moves {address : ActorAddress} {message : MailboxMessage}
    {reservation panics : Bool} :
    match server.dispatchActors config address message reservation panics with
    | (after, .enqueued) => Delivery server after address message
    | (after, _) => Refusal server after address := by
  unfold dispatchActors
  cases route : server.routes address with
  | none =>
      exact activate_moves (by simp [wouldSpawn, route]) (.inl rfl) rfl rfl
  | some route' =>
      obtain ⟨generation, state⟩ := route'
      cases state with
      | deactivating => exact ⟨.inl rfl, rfl, Nat.le_refl _⟩
      | active =>
          simp only
          cases found : server.tasks generation with
          | none => exact ⟨.inl rfl, rfl, Nat.le_refl _⟩
          | some task =>
              simp only
              by_cases closed : task.closed = true
              · rw [if_pos closed]
                refine activate_moves (by simp [wouldSpawn, route, found, closed]) (.inr ?_) ?_ ?_
                all_goals simp [removeRoute, route]
              · rw [if_neg closed]
                by_cases room :
                    task.mailbox.length < (config.mailboxCapacity address.actorType).getD 0
                · rw [if_pos room]
                  exact .appended generation task
                    ⟨route, found, by simpa using closed, rfl, rfl, rfl⟩
                · rw [if_neg room]
                  exact ⟨.inl (by simp [refund]), by simp [refund], by simp [refund]⟩

/-- Whether a message to an active actor at this address would be accepted. -/
def hasRoom (config : RuntimeConfig) (server : Server) (address : ActorAddress) : Bool :=
  match server.routes address with
  | some { generation := generation, state := .active } =>
      match server.tasks generation with
      | some task => !task.closed &&
          decide (task.mailbox.length < (config.mailboxCapacity address.actorType).getD 0)
      | none => false
  | _ => false

theorem dispatchIfActive_moves {address : ActorAddress} {message : MailboxMessage} :
    (server.hasRoom config address = false ∧
      server.dispatchIfActive config address message = server) ∨
    ∃ generation task, server.hasRoom config address = true ∧ Appended server (server.dispatchIfActive config address message) address
      message generation task := by
  unfold dispatchIfActive hasRoom
  cases route : server.routes address with
  | none => exact .inl ⟨rfl, rfl⟩
  | some route' =>
      obtain ⟨generation, state⟩ := route'
      cases state with
      | deactivating => exact .inl ⟨rfl, rfl⟩
      | active =>
          simp only
          cases found : server.tasks generation with
          | none => exact .inl ⟨rfl, rfl⟩
          | some task =>
              simp only
              by_cases closed : task.closed = true
              · exact .inl ⟨by simp [closed], by simp [closed]⟩
              · rw [if_neg closed]
                by_cases room :
                    task.mailbox.length < (config.mailboxCapacity address.actorType).getD 0
                · rw [if_pos room]
                  exact .inr ⟨generation, task, by simp [closed, room],
                    ⟨route, found, by simpa using closed, rfl, rfl, rfl⟩⟩
                · exact .inl ⟨by simp [room], by simp [room]⟩

end Server

/-! ## Moves of a connection task -/

/-- A step that touches neither Sessions nor actors. -/
structure SameSessions (before after : Server) : Prop where
  registry : after.registry = before.registry
  routes : after.routes = before.routes
  tasks : after.tasks = before.tasks
  completions : after.completions = before.completions
  nextOpening : after.nextOpening = before.nextOpening
  nextGeneration : after.nextGeneration = before.nextGeneration

theorem SameSessions.refl (server : Server) : SameSessions server server :=
  ⟨rfl, rfl, rfl, rfl, rfl, rfl⟩

/-- The await points at which a connection task can be dropped. -/
def ConnPc.isAwaiting : ConnPc → Bool
  | .receiving | .openLock _ _ | .resolving _ _ _ _ | .openAwait _ => true
  | _ => false

/-- The program points between two await points of `dispatch_inbound`. -/
def ConnPc.isWorking : ConnPc → Bool
  | .unaccepted | .receiving | .openLock _ _ | .resolving _ _ _ _ | .openAwait _ | .ended => false
  | _ => true

/-- The moves between program points without such an effect. -/
inductive QuietMove (before : Server) (id : Nat) : ConnPc → ConnPc → Prop where
  | accept : QuietMove before id .unaccepted .receiving
  | receive (envelope : Envelope) : QuietMove before id .receiving envelope.inbound
  | disconnect : QuietMove before id .receiving (.disconnecting (before.registry.bySender id))
  | lock {address session program reserved} :
      QuietMove before id (.openLock address session) (.resolving address session program reserved)
  | resolve {address session program program' reserved reserved'} :
      QuietMove before id (.resolving address session program reserved)
        (.resolving address session program' reserved')
  | resolved {address session program reserved reservation} :
      QuietMove before id (.resolving address session program reserved)
        (.openRegister address session reservation)
  | unresolved {address session program reserved error} :
      QuietMove before id (.resolving address session program reserved)
        (.openAck session (some error))
  | unregistrable {address session reservation error} :
      QuietMove before id (.openRegister address session reservation)
        (.openAck session (some error))
  | dispatching {opening reservation stage stage'} (early : stage ≠ .actors) :
      QuietMove before id (.openDispatch opening reservation stage)
        (.openDispatch opening reservation stage')
  | undispatched {opening reservation stage error} (early : stage ≠ .actors) :
      QuietMove before id (.openDispatch opening reservation stage) (.openUnregister opening error)
  | answered {opening generation} (sent : before.completions opening = .sent generation none) :
      QuietMove before id (.openAwait opening) (.openAck opening.session none)
  | turnedDown {opening generation error}
      (sent : before.completions opening = .sent generation (some error)) :
      QuietMove before id (.openAwait opening) (.openUnregister opening error)
  | unanswered {opening} (dropped : before.completions opening = .dropped) :
      QuietMove before id (.openAwait opening) (.openUnregister opening .actorStopped)
  | acknowledge {session failure} : QuietMove before id (.openAck session failure) .receiving
  | bound {address session payload}
      (bound : before.registry.isBoundTo address session id = true) :
      QuietMove before id (.actionBound address session payload)
        (.actionSink address session payload)
  | unbound {address session payload} :
      QuietMove before id (.actionBound address session payload) .receiving
  | sink {address session payload} (present : before.registry.contains address session = true) :
      QuietMove before id (.actionSink address session payload)
        (.actionDispatch address session payload .authority)
  | sinkless {address session payload} :
      QuietMove before id (.actionSink address session payload) .receiving
  | acting {address session payload stage stage'} (early : stage ≠ .actors) :
      QuietMove before id (.actionDispatch address session payload stage)
        (.actionDispatch address session payload stage')
  | inactive {address session payload stage} (early : stage ≠ .actors) :
      QuietMove before id (.actionDispatch address session payload stage) .receiving
  | closing {address session} (bound : before.registry.isBoundTo address session id = true) :
      QuietMove before id (.closeBound address session) (.closeUnregister address session none)
  | foreign {address session} : QuietMove before id (.closeBound address session) .receiving
  | unclosed {address session next} (absent : before.registry.contains address session = false) :
      QuietMove before id (.closeUnregister address session next) next.pc
  | lost {address session rest} :
      QuietMove before id (.disconnecting ((address, session) :: rest))
        (.closeUnregister address session (some rest))
  | disconnected : QuietMove before id (.disconnecting []) .ended
  | noted {pc} : QuietMove before id pc pc
  | aborted {pc} (awaiting : pc.isAwaiting = true) : QuietMove before id pc .ended

/-- What one step of a connection task does. -/
inductive ConnMove (config : RuntimeConfig) (before after : Server) (id : Nat) :
    ConnPc → ConnPc → Prop where
  | quiet {pc next} (same : SameSessions before after) (move : QuietMove before id pc next) :
      ConnMove config before after id pc next
  | register {address session reservation}
      (absent : before.registry.contains address session = false)
      (registry : after.registry =
        before.registry ++ [⟨⟨address, session, before.nextOpening⟩, id⟩])
      (routes : after.routes = before.routes) (tasks : after.tasks = before.tasks)
      (completions : after.completions = before.completions)
      (nextOpening : after.nextOpening = before.nextOpening + 1)
      (nextGeneration : after.nextGeneration = before.nextGeneration) :
      ConnMove config before after id (.openRegister address session reservation)
        (.openDispatch ⟨address, session, before.nextOpening⟩ reservation .authority)
  | opened {opening reservation}
      (delivery : Delivery before after opening.address (.sessionOpened opening))
      (registry : after.registry = before.registry)
      (completions : after.completions = before.completions)
      (nextOpening : after.nextOpening = before.nextOpening) :
      ConnMove config before after id (.openDispatch opening reservation .actors) (.openAwait opening)
  | unopened {opening reservation next} (refusal : Refusal before after opening.address)
      (registry : after.registry = before.registry)
      (completions : TurnsDown before after (.sessionOpened opening))
      (nextOpening : after.nextOpening = before.nextOpening)
      (onward : (∃ error, next = .openUnregister opening error) ∨ next = .ended) :
      ConnMove config before after id (.openDispatch opening reservation .actors) next
  | unregister {opening error}
      (registry : after.registry =
        before.registry.unregisterActor opening.address opening.session)
      (routes : after.routes = before.routes) (tasks : after.tasks = before.tasks)
      (completions : after.completions = before.completions)
      (nextOpening : after.nextOpening = before.nextOpening)
      (nextGeneration : after.nextGeneration = before.nextGeneration) :
      ConnMove config before after id (.openUnregister opening error)
        (.openAck opening.session (some error))
  | acted {address session payload}
      (delivery : Delivery before after address (.action session payload))
      (registry : after.registry = before.registry)
      (completions : after.completions = before.completions)
      (nextOpening : after.nextOpening = before.nextOpening) :
      ConnMove config before after id (.actionDispatch address session payload .actors) .receiving
  | unacted {address session payload next} (refusal : Refusal before after address)
      (registry : after.registry = before.registry)
      (completions : after.completions = before.completions)
      (nextOpening : after.nextOpening = before.nextOpening)
      (onward : next = .receiving ∨ next = .ended) :
      ConnMove config before after id (.actionDispatch address session payload .actors) next
  | close {address session next}
      (present : before.registry.contains address session = true)
      (registry : after.registry = before.registry.unregisterActor address session)
      (routes : after.routes = before.routes) (tasks : after.tasks = before.tasks)
      (completions : after.completions = before.completions)
      (nextOpening : after.nextOpening = before.nextOpening)
      (nextGeneration : after.nextGeneration = before.nextGeneration) :
      ConnMove config before after id (.closeUnregister address session next)
        (.closeDispatch address session next)
  | closed {address session next generation task}
      (appended : Appended before after address (.sessionClosed session) generation task)
      (registry : after.registry = before.registry)
      (completions : after.completions = before.completions)
      (nextOpening : after.nextOpening = before.nextOpening) :
      ConnMove config before after id (.closeDispatch address session next) next.pc
  | unheard {address session next} (same : SameSessions before after)
      (deaf : before.hasRoom config address = false) :
      ConnMove config before after id (.closeDispatch address session next) next.pc

namespace ConnMove

variable {id : Nat} {pc next : ConnPc}

theorem task_origin (move : ConnMove config server after id pc next) {generation : Nat}
    {task : ActorTask} (found : after.tasks generation = some task) :
    (∃ old, server.tasks generation = some old ∧ old.pc = task.pc ∧
      old.address = task.address) ∨ generation = server.nextGeneration := by
  have kept : after.tasks = server.tasks → ∃ old, server.tasks generation = some old ∧
      old.pc = task.pc ∧ old.address = task.address :=
    fun same => ⟨task, same ▸ found, rfl, rfl⟩
  cases move with
  | quiet same | unheard same => exact .inl (kept same.tasks)
  | register _ _ _ tasks | unregister _ _ tasks | close _ _ _ tasks => exact .inl (kept tasks)
  | unopened refusal | unacted refusal => exact .inl (kept refusal.tasks)
  | opened delivery | acted delivery => exact delivery.task_origin found
  | @closed _ _ _ target task appended =>
      exact (Delivery.appended target task appended).task_origin found

theorem nextGeneration_le (move : ConnMove config server after id pc next) :
    server.nextGeneration ≤ after.nextGeneration := by
  cases move with
  | quiet same | unheard same => exact Nat.le_of_eq same.nextGeneration.symm
  | register _ _ _ _ _ _ same | unregister _ _ _ _ _ same | close _ _ _ _ _ _ same =>
      exact Nat.le_of_eq same.symm
  | unopened refusal | unacted refusal => exact refusal.nextGeneration
  | opened delivery | acted delivery => exact delivery.nextGeneration_le
  | closed appended => exact Nat.le_of_eq appended.nextGeneration.symm

/-- A registration is old, or it has the next serial number. -/
theorem registry_origin (move : ConnMove config server after id pc next) {entry : SessionEntry}
    (present : entry ∈ after.registry) :
    entry ∈ server.registry ∨
      (entry.opening.serial = server.nextOpening ∧
        after.nextOpening = server.nextOpening + 1) := by
  cases move with
  | quiet same | unheard same => exact .inl (same.registry ▸ present)
  | register absent registry _ _ _ nextOpening =>
      rw [registry, List.mem_append, List.mem_singleton] at present
      rcases present with old | rfl
      · exact .inl old
      · exact .inr ⟨rfl, nextOpening⟩
  | unopened _ registry | unacted _ registry | opened _ registry | acted _ registry
  | closed _ registry => exact .inl (registry ▸ present)
  | unregister registry | close _ registry =>
      rw [registry] at present
      exact .inl (List.mem_filter.mp present).1

/-- An answered opening was answered before, or its own dispatch turned it down. -/
theorem completions (move : ConnMove config server after id pc next) (opening : Opening) :
    after.completions opening = server.completions opening ∨
      ((∃ reservation, pc = .openDispatch opening reservation .actors) ∧
        ((∃ error, next = .openUnregister opening error) ∨ next = .ended) ∧
        ∃ error, after.completions opening = .sent none (some error)) := by
  cases move with
  | quiet same | unheard same => exact .inl (congrFun same.completions opening)
  | register _ _ _ _ same | unregister _ _ _ same | close _ _ _ _ same =>
      exact .inl (congrFun same opening)
  | opened _ _ same | acted _ _ same | unacted _ _ same | closed _ _ same =>
      exact .inl (congrFun same opening)
  | unopened _ _ down _ onward =>
      rcases down opening with same | ⟨own, error, sent⟩
      · exact .inl same
      · cases own
        exact .inr ⟨⟨_, rfl⟩, onward, error, sent⟩

/-- A task carries an opening it carried before, or one just delivered to it. -/
theorem carries (move : ConnMove config server after id pc next) {generation : Nat}
    {task : ActorTask} {opening : Opening} (found : after.tasks generation = some task)
    (carries : task.Carries opening) :
    (∃ old, server.tasks generation = some old ∧ old.Carries opening) ∨
      (∃ reservation, pc = .openDispatch opening reservation .actors ∧
        next = .openAwait opening ∧ server.target opening.address = generation) := by
  have kept : after.tasks = server.tasks →
      ∃ old, server.tasks generation = some old ∧ old.Carries opening :=
    fun same => ⟨task, same ▸ found, carries⟩
  have delivered : ∀ {address message}, Delivery server after address message →
      (∃ old, server.tasks generation = some old ∧ old.Carries opening) ∨
        (message = .sessionOpened opening ∧ server.target address = generation) := by
    intro address message delivery
    cases delivery with
    | appended target old appended =>
        rw [appended.tasks] at found
        by_cases here : generation = target
        · subst here
          rw [Function.update_self, Option.some.injEq] at found
          subst found
          rcases carries with member | executing
          · rcases List.mem_append.mp member with earlier | last
            · exact .inl ⟨old, appended.found, .inl earlier⟩
            · exact .inr ⟨(List.mem_singleton.mp last).symm, appended.target⟩
          · exact .inl ⟨old, appended.found, .inr executing⟩
        · rw [Function.update_of_ne here] at found
          exact .inl ⟨task, found, carries⟩
    | spawned spawned =>
        rw [spawned.tasks] at found
        by_cases here : generation = server.nextGeneration
        · rw [here, Function.update_self, Option.some.injEq] at found
          subst found
          rcases carries with member | ⟨draining, executing⟩
          · exact .inr ⟨(List.mem_singleton.mp member).symm, spawned.target.trans here.symm⟩
          · cases executing
        · rw [Function.update_of_ne here] at found
          exact .inl ⟨task, found, carries⟩
  cases move with
  | quiet same | unheard same => exact .inl (kept same.tasks)
  | register _ _ _ tasks | unregister _ _ tasks | close _ _ _ tasks => exact .inl (kept tasks)
  | unopened refusal | unacted refusal => exact .inl (kept refusal.tasks)
  | opened delivery =>
      rcases delivered delivery with old | ⟨own, target⟩
      · exact .inl old
      · cases own
        exact .inr ⟨_, rfl, rfl, target⟩
  | acted delivery =>
      rcases delivered delivery with old | ⟨own, -⟩
      · exact .inl old
      · cases own
  | @closed _ _ _ target task appended =>
      rcases delivered (.appended target task appended) with old | ⟨own, -⟩
      · exact .inl old
      · cases own

theorem nextOpening_le (move : ConnMove config server after id pc next) :
    server.nextOpening ≤ after.nextOpening := by
  cases move with
  | quiet same | unheard same => exact Nat.le_of_eq same.nextOpening.symm
  | register _ _ _ _ _ nextOpening => exact nextOpening ▸ Nat.le_succ _
  | unregister _ _ _ _ same | close _ _ _ _ _ same => exact Nat.le_of_eq same.symm
  | unopened _ _ _ same | unacted _ _ _ same | opened _ _ _ same | acted _ _ _ same
  | closed _ _ _ same => exact Nat.le_of_eq same.symm

end ConnMove

theorem Delivery.of_same {middle : Server} {address : ActorAddress} {message : MailboxMessage}
    (delivery : Delivery server middle address message) (routes : after.routes = middle.routes)
    (tasks : after.tasks = middle.tasks)
    (next : after.nextGeneration = middle.nextGeneration) :
    Delivery server after address message := by
  cases delivery with
  | appended generation task appended =>
      exact .appended generation task { appended with
        routes := routes.trans appended.routes
        tasks := tasks.trans appended.tasks
        nextGeneration := next.trans appended.nextGeneration }
  | spawned spawned =>
      exact .spawned { spawned with
        routes := routes.trans spawned.routes
        tasks := tasks.trans spawned.tasks
        nextGeneration := next.trans spawned.nextGeneration }

theorem Refusal.of_same {middle : Server} {address : ActorAddress}
    (refusal : Refusal server middle address) (routes : after.routes = middle.routes)
    (tasks : after.tasks = middle.tasks)
    (next : after.nextGeneration = middle.nextGeneration) : Refusal server after address :=
  ⟨by rw [routes]; exact refusal.routes, tasks.trans refusal.tasks, next ▸ refusal.nextGeneration⟩

namespace Server

/-- An accepted message leaves the oneshots alone. -/
theorem dispatchActors_completions {address : ActorAddress} {message : MailboxMessage}
    {reservation panics : Bool}
    (accepted : (server.dispatchActors config address message reservation panics).2 =
      .enqueued) :
    (server.dispatchActors config address message reservation panics).1.completions =
      server.completions := by
  have spawning : ∀ middle : Server,
      (middle.spawn config address message panics).1.completions = middle.completions := by
    intro middle
    unfold spawn
    split <;> rfl
  have activating : ∀ middle : Server,
      (middle.activate config address message reservation panics).2 = .enqueued →
      (middle.activate config address message reservation panics).1.completions =
        middle.completions := by
    intro middle
    unfold activate
    split
    · exact fun _ => spawning middle
    · split
      · exact fun _ => spawning { middle with available := middle.available - 1 }
      · exact fun ended => by cases ended
  revert accepted
  unfold dispatchActors
  split
  · exact activating server
  · exact fun ended => by cases ended
  · split
    · split
      · intro ended
        rw [activating _ ended, removeRoute_completions]
      · split
        · exact fun _ => rfl
        · exact fun ended => by cases ended
    · exact fun ended => by cases ended

/-- A connection task moves on without touching Sessions or actors. -/
theorem quiet_move {middle : Server} {id : Nat} {pc next : ConnPc}
    (same : SameSessions server middle) (move : QuietMove server id pc next) :
    ConnMove config server (middle.setConn id next) id pc
      ((middle.setConn id next).conns id).pc := by
  rw [setConn_pc]
  exact .quiet ⟨same.registry, same.routes, same.tasks, same.completions, same.nextOpening,
    same.nextGeneration⟩ move

theorem capacityReply?_same {reserved reserved' : Bool} {reply : RouterReply}
    (replied : server.capacityReply? reserved reply = some (after, reserved')) :
    SameSessions server after := by
  unfold capacityReply? at replied
  split at replied
  · split at replied
    · cases replied
      exact ⟨rfl, rfl, rfl, rfl, rfl, rfl⟩
    · cases replied
  · cases replied
    exact ⟨rfl, rfl, rfl, rfl, rfl, rfl⟩
  · cases replied
    exact .refl _

theorem closeDispatch_move {id : Nat} {address : ActorAddress} {session : SessionId}
    {next : AfterClose} :
    ConnMove config server
      ((server.dispatchIfActive config address (.sessionClosed session)).setConn id next.pc) id
      (.closeDispatch address session next)
      (((server.dispatchIfActive config address (.sessionClosed session)).setConn id
        next.pc).conns id).pc := by
  rw [setConn_pc]
  rcases @dispatchIfActive_moves server config address (.sessionClosed session) with
    ⟨deaf, same⟩ | ⟨generation, task, -, appended⟩
  · rw [same]
    exact .unheard ⟨rfl, rfl, rfl, rfl, rfl, rfl⟩ deaf
  · have outside := @dispatchIfActive_outside server config address (.sessionClosed session)
    exact .closed ⟨appended.route, appended.found, appended.isOpen, appended.routes,
      appended.tasks, appended.nextGeneration⟩ outside.registry dispatchIfActive_completions
      outside.nextOpening

/-- A step that changes nothing but the program point is a quiet move. -/
theorem passage_move {authorityValid : Bool} {id : Nat} {pc next : ConnPc} {event : ConnEvent}
    (passage : ConnPassage authorityValid server id pc event next) :
    QuietMove server id pc next := by
  cases passage with
  | accepted => exact .accept
  | received envelope => exact .receive envelope
  | disconnected => exact .disconnect
  | authorized | running => exact .dispatching (by decide)
  | answered sent => exact .answered sent
  | turnedDown sent => exact .turnedDown sent
  | unanswered dropped => exact .unanswered dropped
  | acknowledged => exact .acknowledge
  | bound bound => exact .bound bound
  | unbound => exact .unbound
  | present present => exact .sink present
  | absent => exact .sinkless
  | actionAuthorized | actionRunning => exact .acting (by decide)
  | actionUnauthorized | actionStopped => exact .inactive (by decide)
  | closing bound => exact .closing bound
  | foreign => exact .foreign
  | unclosed absent => exact .unclosed absent
  | left => exact .disconnected
  | lost => exact .lost
  | aborted quiet =>
      refine .aborted ?_
      cases pc <;> first | rfl | cases quiet

/-- Every step of a connection task is one of these moves. -/
theorem connStep?_moves {authorityValid : Bool} {id : Nat} {pc : ConnPc} {event : ConnEvent}
    (here : (server.conns id).pc = pc)
    (stepped : server.connStep? config authorityValid id pc event = some after) :
    ConnMove config server after id pc (after.conns id).pc := by
  cases connStep?_case stepped with
  | passed passage => exact quiet_move (.refl _) (passage_move passage)
  | locked => exact quiet_move ⟨rfl, rfl, rfl, rfl, rfl, rfl⟩ .lock
  | asked _ replied => exact quiet_move (capacityReply?_same replied) .resolve
  | resolvedHere _ replied => exact quiet_move (capacityReply?_same replied) .resolved
  | resolvedAway _ _ replied =>
      have same := capacityReply?_same replied
      exact quiet_move ⟨same.registry, same.routes, same.tasks, same.completions,
        same.nextOpening, same.nextGeneration⟩ .unresolved
  | unregistrable => exact quiet_move ⟨rfl, rfl, rfl, rfl, rfl, rfl⟩ .unregistrable
  | registered absent =>
      rw [setConn_pc]
      exact .register absent rfl rfl rfl rfl rfl rfl
  | @undispatched opening reservation panics stage error refused =>
      refine quiet_move ⟨rfl, rfl, rfl, rfl, rfl, rfl⟩ (.undispatched ?_)
      rcases refused with ⟨rfl, -⟩ | ⟨rfl, -⟩ <;> decide
  | @dispatched opening reservation panics middle ending dispatched =>
      have moves := @dispatchActors_moves server config opening.address (.sessionOpened opening)
        reservation panics
      have outside := @dispatchActors_outside server config opening.address
        (.sessionOpened opening) reservation panics
      have down := @dispatchActors_turnsDown server config opening.address
        (.sessionOpened opening) reservation panics
      have kept := @dispatchActors_completions server config opening.address
        (.sessionOpened opening) reservation panics
      rw [dispatched] at moves outside down kept
      rw [setConn_pc]
      cases ending with
      | enqueued =>
          exact .opened (moves.of_same rfl rfl rfl) outside.registry (kept rfl)
            outside.nextOpening
      | failed error =>
          exact .unopened (moves.of_same rfl rfl rfl) outside.registry down outside.nextOpening
            (.inl ⟨error, rfl⟩)
      | panicked =>
          exact .unopened (moves.of_same rfl rfl rfl) outside.registry down outside.nextOpening
            (.inr rfl)
  | unregistered =>
      rw [setConn_pc]
      exact .unregister rfl rfl rfl rfl rfl rfl
  | @actionDispatched address session payload panics middle ending dispatched =>
      have moves := @dispatchActors_moves server config address (.action session payload)
        false panics
      have outside := @dispatchActors_outside server config address
        (.action session payload) false panics
      have down := @dispatchActors_turnsDown server config address
        (.action session payload) false panics
      rw [dispatched] at moves outside down
      have kept : middle.completions = server.completions := by
        funext opening
        exact (down opening).resolve_right fun turned => by cases turned.1
      rw [setConn_pc]
      cases ending with
      | enqueued =>
          exact .acted (moves.of_same rfl rfl rfl) outside.registry kept outside.nextOpening
      | failed error =>
          exact .unacted (moves.of_same rfl rfl rfl) outside.registry kept outside.nextOpening
            (.inl rfl)
      | panicked =>
          exact .unacted (moves.of_same rfl rfl rfl) outside.registry kept outside.nextOpening
            (.inr rfl)
  | closed present =>
      rw [setConn_pc]
      exact .close present rfl rfl rfl rfl rfl rfl
  | closeDispatched => exact closeDispatch_move
  | noted =>
      simp only [Function.update_self, here]
      exact .quiet ⟨rfl, rfl, rfl, rfl, rfl, rfl⟩ .noted
  | unlocked => exact quiet_move ⟨rfl, rfl, rfl, rfl, rfl, rfl⟩ (.aborted rfl)

/-- Between two await points a connection task only goes on, apart from having
its handle stored. -/
theorem connStep?_working {authorityValid : Bool} {id : Nat} {event : ConnEvent}
    (working : (server.conns id).pc.isWorking = true)
    (stepped : server.step? config authorityValid (.conn id event) = some after) :
    (∃ panics, event = .advance panics) ∨
      ((after.conns id).pc = (server.conns id).pc ∧ SameSessions server after) := by
  simp only [Server.step?] at stepped
  generalize here : (server.conns id).pc = pc at stepped working
  cases connStep?_case stepped with
  | passed passage =>
      cases passage with
      | accepted | received | disconnected => cases working
      | aborted quiet => cases pc <;> first | (cases working; done) | cases quiet
      | _ => exact .inl ⟨_, rfl⟩
  | noted => exact .inr ⟨by simpa using here, rfl, rfl, rfl, rfl, rfl, rfl⟩
  | asked | resolvedHere | resolvedAway | unlocked => cases working
  | _ => exact .inl ⟨_, rfl⟩

end Server

/-! ## Moves of an actor task -/

/-- The task can still take a message from its mailbox. -/
def TaskPc.mayExecute : TaskPc → Bool
  | .spawned | .activating | .receiving | .executing _ _ | .idleCount | .idleBegin
  | .shutdownClose | .draining => true
  | _ => false

/-- `terminate_all` of the task can still end this Session. -/
def TaskPc.mayTerminate (session : SessionId) : TaskPc → Bool
  | .terminating sessions _ => decide (session ∈ sessions)
  | .failClose _ | .failRemove _ | .failPending _ | .terminateAll _ _ => true
  | pc => pc.mayExecute

/-- A task is inside a callback for a message. -/
def TaskPc.isExecuting : TaskPc → Bool
  | .executing _ _ => true
  | _ => false

/-- A task that will neither execute nor terminate anything. -/
def TaskPc.isLeaving : TaskPc → Bool
  | .removing | .guardDrop | .guardComplete | .dropReceiver | .ended | .deactivating
  | .releaseLock | .releasing _ | .shutdownDeactivating => true
  | _ => false

theorem TaskPc.mayExecute_of_isLeaving {pc : TaskPc} (leaving : pc.isLeaving = true) :
    pc.mayExecute = false := by
  cases pc <;> first | rfl | cases leaving

theorem TaskPc.isExecuting_of_isLeaving {pc : TaskPc} (leaving : pc.isLeaving = true) :
    pc.isExecuting = false := by
  cases pc <;> first | rfl | cases leaving

theorem TaskPc.mayTerminate_of_isLeaving {pc : TaskPc} (leaving : pc.isLeaving = true)
    (session : SessionId) : pc.mayTerminate session = false := by
  cases pc <;> first | rfl | cases leaving

/-- What one step of an actor task does. -/
structure TaskMove (before after : Server) (generation : Nat) (task next : ActorTask) :
    Prop where
  registry : after.registry = before.registry ∨ ∃ session rest onward,
    task.pc = .terminating (session :: rest) onward ∧ next.pc = .terminating rest onward ∧
      after.registry = before.registry.unregisterActor task.address session
  call : (∃ message draining, task.mailbox = message :: next.mailbox ∧
      next.pc = .executing message draining ∧ task.pc.isExecuting = false) ∨
    (next.pc.isExecuting = false ∧ (next.mailbox = task.mailbox ∨ next.pc.mayExecute = false))
  executes : next.pc.mayExecute = true → task.pc.mayExecute = true
  terminates : ∀ session, next.pc.mayTerminate session = true →
    task.pc.mayTerminate session = true
  completions : ∀ opening, after.completions opening = before.completions opening ∨
    ((∃ draining, task.pc = .executing (.sessionOpened opening) draining) ∧
      after.completions opening = .sent (some generation) none) ∨
    (task.Carries opening ∧ next.pc.mayExecute = false ∧
      (after.completions opening = .dropped ∨
        ∃ error, after.completions opening = .sent (some generation) (some error)))

namespace Server

variable {generation : Nat} {task next : ActorTask}

/-- A task that takes no message and answers no opening. -/
theorem move_on {closed shutdownSignal abortRequested completed : Bool} {pc : TaskPc}
    (registry : after.registry = server.registry)
    (completions : after.completions = server.completions)
    (idle : pc.isExecuting = false)
    (executes : pc.mayExecute = true → task.pc.mayExecute = true)
    (terminates : ∀ session, pc.mayTerminate session = true →
      task.pc.mayTerminate session = true) :
    TaskMove server after generation task
      ⟨task.address, pc, task.mailbox, closed, shutdownSignal, abortRequested, completed⟩ where
  registry := .inl registry
  call := .inr ⟨idle, .inl rfl⟩
  executes := executes
  terminates := terminates
  completions := fun opening => .inl (by rw [completions])

/-- A task that takes a message. -/
theorem move_call {message : MailboxMessage} {rest : List MailboxMessage} {draining : Bool}
    {closed shutdownSignal abortRequested completed : Bool}
    (registry : after.registry = server.registry)
    (completions : after.completions = server.completions)
    (first : task.mailbox = message :: rest) (idle : task.pc.isExecuting = false)
    (executes : task.pc.mayExecute = true)
    (terminates : ∀ session, task.pc.mayTerminate session = true) :
    TaskMove server after generation task
      ⟨task.address, .executing message draining, rest, closed, shutdownSignal, abortRequested,
        completed⟩ where
  registry := .inl registry
  call := .inl ⟨message, draining, first, rfl, idle⟩
  executes := fun _ => executes
  terminates := fun session _ => terminates session
  completions := fun opening => .inl (by rw [completions])

/-- A task that answers openings it carries and takes no more messages. -/
theorem move_answer {completion : Completion} {messages mailbox : List MailboxMessage}
    {closed shutdownSignal abortRequested completed : Bool} {pc : TaskPc}
    (registry : after.registry = server.registry)
    (completions : after.completions = (server.completeAll completion messages).completions)
    (carried : ∀ opening, .sessionOpened opening ∈ messages → task.Carries opening)
    (answer : completion = .dropped ∨ ∃ error, completion = .sent (some generation) (some error))
    (stops : pc.mayExecute = false) (idle : pc.isExecuting = false)
    (terminates : ∀ session, pc.mayTerminate session = true →
      task.pc.mayTerminate session = true) :
    TaskMove server after generation task
      ⟨task.address, pc, mailbox, closed, shutdownSignal, abortRequested, completed⟩ where
  registry := .inl registry
  call := .inr ⟨idle, .inr stops⟩
  executes := fun may => absurd may (by simp [stops])
  terminates := terminates
  completions := by
    intro opening
    rw [completions, completeAll_completions]
    split
    · rename_i member
      refine .inr (.inr ⟨carried opening member, stops, ?_⟩)
      rcases answer with rfl | ⟨error, rfl⟩
      · exact .inl rfl
      · exact .inr ⟨error, rfl⟩
    · exact .inl rfl

theorem removeRoute_registry {address : ActorAddress} :
    (server.removeRoute address generation).registry = server.registry :=
  removeRoute_outside.registry

/-- A task that leaves its loop. -/
theorem move_leave {closed shutdownSignal abortRequested completed : Bool} {pc : TaskPc}
    (registry : after.registry = server.registry)
    (completions : after.completions = server.completions)
    (leaving : pc.isLeaving = true) :
    TaskMove server after generation task
      ⟨task.address, pc, task.mailbox, closed, shutdownSignal, abortRequested, completed⟩ :=
  move_on registry completions (TaskPc.isExecuting_of_isLeaving leaving)
    (fun may => absurd may (by simp [TaskPc.mayExecute_of_isLeaving leaving]))
    (fun session may => absurd may (by simp [TaskPc.mayTerminate_of_isLeaving leaving]))

/-- A task that leaves its loop and drops openings. -/
theorem move_drop {messages mailbox : List MailboxMessage}
    {closed shutdownSignal abortRequested completed : Bool} {pc : TaskPc}
    (registry : after.registry = server.registry)
    (completions : after.completions = (server.completeAll .dropped messages).completions)
    (carried : ∀ opening, .sessionOpened opening ∈ messages → task.Carries opening)
    (leaving : pc.isLeaving = true) :
    TaskMove server after generation task
      ⟨task.address, pc, mailbox, closed, shutdownSignal, abortRequested, completed⟩ :=
  move_answer registry completions carried (.inl rfl) (TaskPc.mayExecute_of_isLeaving leaving)
    (TaskPc.isExecuting_of_isLeaving leaving)
    (fun session may => absurd may (by simp [TaskPc.mayTerminate_of_isLeaving leaving]))

theorem afterMessage_isExecuting {draining completed : Bool} :
    (TaskPc.afterMessage draining completed).isExecuting = false := by
  cases completed <;> cases draining <;> rfl

theorem passage_moves {event : TaskEvent} {onward : TaskPc}
    (passage : TaskPassage server generation task event onward) :
    TaskMove server (server.setTask generation { task with pc := onward }) generation task
      { task with pc := onward } := by
  cases passage with
  | polled here | activated here | told here | idled here | unused here | used here
  | retained here =>
      exact move_on rfl rfl rfl (by rw [here]; exact id) (by rw [here]; exact fun _ => id)
  | activationFailed here | activationPanicked here | drained here =>
      exact move_on rfl rfl rfl (by rw [here]; exact fun _ => rfl)
        (by rw [here]; exact fun _ => id)
  | listed here =>
      exact move_on rfl rfl rfl (by rw [here]; exact id) (by rw [here]; exact fun _ _ => rfl)
  | handled here =>
      exact move_on rfl rfl afterMessage_isExecuting (by rw [here]; exact fun _ => rfl)
        (by rw [here]; exact fun _ _ => rfl)
  | _ => exact move_leave rfl rfl rfl

/-- Every step of an actor task is such a move. -/
theorem taskStep?_moves {event : TaskEvent}
    (stepped : server.taskStep? config generation task task.pc event = some after)
    (tasks : after.tasks = Function.update server.tasks generation (some next)) :
    TaskMove server after generation task next := by
  obtain ⟨middle, moved, rfl, step⟩ := taskStep?_case stepped
  rw [next_of_tasks tasks]
  cases step with
  | passed passage => exact passage_moves passage
  | failClosed here | shutdownClosed here =>
      exact move_on rfl rfl rfl (by rw [here]; exact id) (by rw [here]; exact fun _ => id)
  | failRemoved here =>
      exact move_on removeRoute_registry removeRoute_completions rfl (by rw [here]; exact id)
        (by rw [here]; exact fun _ => id)
  | @failAnswered error here =>
      exact move_answer (by simp [setTask]) rfl (fun _ member => .inl member)
        (.inr ⟨error, rfl⟩) rfl rfl (by rw [here]; exact fun _ => id)
  | @terminated session rest onward here =>
      refine ⟨.inr ⟨session, rest, onward, here, rfl, rfl⟩, .inr ⟨rfl, .inl rfl⟩,
        by rw [here]; exact id, ?_, fun _ => .inl rfl⟩
      intro other may
      rw [here]
      simp only [TaskPc.mayTerminate, decide_eq_true_eq] at may ⊢
      exact .tail _ may
  | received here _ _ first | drained here first =>
      exact move_call rfl rfl first (by rw [here]; rfl) (by rw [here]; rfl)
        (by rw [here]; exact fun _ => rfl)
  | @opened opening draining completed here =>
      refine ⟨.inl rfl, .inr ⟨afterMessage_isExecuting, .inl rfl⟩,
        by rw [here]; exact fun _ => rfl, by rw [here]; exact fun _ _ => rfl, ?_⟩
      intro other
      by_cases same : other = opening
      · subst same
        cases completed with
        | true => exact .inr (.inl ⟨⟨draining, here⟩, by simp [complete, setTask]⟩)
        | false =>
            refine .inr (.inr ⟨.inr ⟨draining, here⟩, by simp [TaskPc.afterMessage,
              TaskPc.mayExecute], .inr ?_⟩)
            exact ⟨.actorStopped, by simp [complete, setTask]⟩
      · exact .inl (by simp [complete, setTask, same])
  | begun | locked | released | guardCompleted | unlocked => exact move_leave rfl rfl rfl
  | removed | guardDropped =>
      exact move_leave removeRoute_registry removeRoute_completions rfl
  | receiverDropped | unpolled =>
      exact move_drop (by simp [setTask]) rfl (fun _ member => .inl member) rfl
  | @interrupted message draining here =>
      refine move_drop (by simp [setTask]) rfl ?_ rfl
      intro opening member
      rw [← List.mem_singleton.mp member] at here
      exact .inr ⟨draining, here⟩

/-- A task with Sessions left to terminate ends the next one. -/
theorem taskStep?_terminating {event : TaskEvent} {session : SessionId}
    {rest : List SessionId} {onward : AfterTermination}
    (here : task.pc = .terminating (session :: rest) onward)
    (stepped : server.taskStep? config generation task task.pc event = some after) :
    after.registry = server.registry.unregisterActor task.address session := by
  rw [here] at stepped
  cases event with
  | advance =>
      cases stepped
      rfl
  | abort =>
      simp only [taskStep?, abortTask?, here] at stepped
      split at stepped <;> cases stepped
  | _ => cases stepped

end Server

/-! ## Moves of a Server -/

/-- What one step of a Server does. -/
inductive ServerMove (config : RuntimeConfig) (before after : Server) : ServerEvent → Prop where
  | conn {id : Nat} {event : ConnEvent} (control : SameControl before after)
      (others : ∀ other, other ≠ id → after.conns other = before.conns other)
      (move : ConnMove config before after id (before.conns id).pc (after.conns id).pc) :
      ServerMove config before after (.conn id event)
  | task {generation : Nat} {event : TaskEvent} {task next : ActorTask}
      (found : before.tasks generation = some task)
      (effect : TaskEffect before after generation task next)
      (move : TaskMove before after generation task next)
      (ends : ∀ session rest onward, task.pc = .terminating (session :: rest) onward →
        after.registry = before.registry.unregisterActor task.address session)
      (nextOpening : after.nextOpening = before.nextOpening) :
      ServerMove config before after (.task generation event)
  | shutdown {expired : Bool} (effect : ControlEffect before after) :
      ServerMove config before after (.shutdown expired)
  | fence (effect : ControlEffect before after) : ServerMove config before after .fence

theorem Server.step?_moves {authorityValid : Bool} {event : ServerEvent}
    (stepped : server.step? config authorityValid event = some after) :
    ServerMove config server after event := by
  cases event with
  | conn id event =>
      obtain ⟨conn, conns, -⟩ := connStep?_conns stepped
      refine .conn (connStep?_effect rfl stepped).1 ?_ (connStep?_moves rfl stepped)
      intro other different
      rw [conns, Function.update_of_ne different]
  | task generation event =>
      obtain ⟨task, found, moved⟩ := Option.bind_eq_some_iff.mp stepped
      obtain ⟨next, effect⟩ := taskStep?_effect moved
      obtain ⟨_, openings⟩ := taskStep?_openings moved
      exact .task found effect (taskStep?_moves moved effect.tasks)
        (fun _ _ _ here => taskStep?_terminating here moved) openings.nextOpening
  | shutdown expired => exact .shutdown (shutdownStep?_cases stepped)
  | fence => exact .fence (fenceStep?_cases stepped)

end Coactor.Runtime
