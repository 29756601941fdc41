import Coactor.Runtime.Resolution

/-!
# Openings

An opening is dispatched by its connection task, waits in one mailbox, and is
answered by the task that carries it, or turned down by the dispatch itself.
So an `Ok` of a generation is known to come from a task of the same address,
and a task about to deactivate has no registered Session that it answered.
-/

namespace Coactor.Runtime

open Coactor.Foundation.Transition
open Coactor.Coordination

/-! ## The invariant -/

/-- A task has this opening in its mailbox or is executing it. -/
def ActorTask.Carries (task : ActorTask) (opening : Opening) : Prop :=
  .sessionOpened opening ∈ task.mailbox ∨
    ∃ draining, task.pc = .executing (.sessionOpened opening) draining

/-- Where openings may be, and who may have answered them. -/
structure OpeningsOk (server : Server) : Prop where
  carried : ∀ generation task opening, server.tasks generation = some task →
    task.Carries opening →
      opening.address = task.address ∧ opening.serial < server.nextOpening
  dispatching : ∀ opening, Dispatching server opening → opening.serial < server.nextOpening
  answered : ∀ opening generation, server.completions opening = .sent (some generation) none →
    ∃ task, server.tasks generation = some task ∧ task.address = opening.address
  fresh : ∀ opening, server.nextOpening ≤ opening.serial → server.completions opening = .pending
  idle : ∀ generation task entry, server.tasks generation = some task → task.pc = .idleBegin →
    entry ∈ server.registry →
      server.completions entry.opening ≠ .sent (some generation) none

theorem openingsOk_fresh (config : RuntimeConfig) : OpeningsOk (.fresh config) where
  carried := fun _ _ _ found => by cases found
  dispatching := by
    rintro opening ⟨id, reservation, stage, here⟩
    cases here
  answered := fun _ _ answered => by cases answered
  fresh := fun _ _ => rfl
  idle := fun _ _ _ found => by cases found

variable {server after : Server} {config : RuntimeConfig}

namespace Server

theorem completeAll_completions (completion : Completion) (messages : List MailboxMessage)
    (opening : Opening) :
    (server.completeAll completion messages).completions opening =
      if .sessionOpened opening ∈ messages then completion else server.completions opening := by
  induction messages generalizing server with
  | nil => simp [completeAll]
  | cons message rest ih =>
      cases message with
      | sessionOpened other =>
          rw [completeAll, ih]
          by_cases same : opening = other
          · subst same
            simp [complete]
          · simp [complete, same]
      | action session payload => simp [completeAll, ih]
      | sessionClosed session => simp [completeAll, ih]

/-! ## Connection tasks -/

/-- What a dispatch does to the oneshots: it may turn down its own opening. -/
def TurnsDown (before after : Server) (message : MailboxMessage) : Prop :=
  ∀ opening, after.completions opening = before.completions opening ∨
    (message = .sessionOpened opening ∧
      ∃ error, after.completions opening = .sent none (some error))

theorem turnsDown_completeAll {message : MailboxMessage} {error : SendError} :
    TurnsDown server (server.completeAll (.sent none (some error)) [message]) message := by
  intro opening
  rw [completeAll_completions]
  split
  · rename_i member
    exact .inr ⟨(List.mem_singleton.mp member).symm, error, rfl⟩
  · exact .inl rfl

theorem spawn_turnsDown {address : ActorAddress} {message : MailboxMessage} {panics : Bool} :
    TurnsDown server (server.spawn config address message panics).1 message := by
  unfold spawn
  split <;> exact fun _ => .inl rfl

theorem activate_turnsDown {address : ActorAddress} {message : MailboxMessage}
    {reservation panics : Bool} :
    TurnsDown server (server.activate config address message reservation panics).1 message := by
  unfold activate
  split
  · exact spawn_turnsDown
  · split
    · have spawned := @spawn_turnsDown { server with available := server.available - 1 } config
        address message panics
      exact spawned
    · exact turnsDown_completeAll

theorem removeRoute_completions {address : ActorAddress} {generation : Nat} :
    (server.removeRoute address generation).completions = server.completions := by
  unfold removeRoute
  split
  · split <;> rfl
  · rfl

theorem dispatchActors_turnsDown {address : ActorAddress} {message : MailboxMessage}
    {reservation panics : Bool} :
    TurnsDown server
      (server.dispatchActors config address message reservation panics).1 message := by
  unfold dispatchActors
  split
  · exact activate_turnsDown
  · exact fun _ => .inl rfl
  · rename_i generation route
    split
    · split
      · have activated := @activate_turnsDown (server.removeRoute address generation) config
          address message reservation panics
        intro opening
        rw [← @removeRoute_completions server address generation]
        exact activated opening
      · split
        · exact fun _ => .inl rfl
        · exact turnsDown_completeAll
    · exact fun _ => .inl rfl

theorem dispatchIfActive_completions {address : ActorAddress} {message : MailboxMessage} :
    (server.dispatchIfActive config address message).completions = server.completions := by
  unfold dispatchIfActive
  split
  · split
    · split
      · rfl
      · split <;> rfl
    · rfl
  · rfl

end Server

/-- What a connection task can do to openings and their registrations. -/
structure OpeningEffect (before after : Server) : Prop where
  completions : ∀ opening, after.completions opening = before.completions opening ∨
    (Dispatching before opening ∧ ∃ error, after.completions opening = .sent none (some error))
  registry : ∀ entry, entry ∈ after.registry →
    entry ∈ before.registry ∨ entry.opening.serial = before.nextOpening
  dispatching : ∀ opening, Dispatching after opening →
    Dispatching before opening ∨ opening.serial < after.nextOpening
  nextOpening : before.nextOpening ≤ after.nextOpening

/-- The opening a connection task is dispatching. -/
def ConnPc.opening? : ConnPc → Option Opening
  | .openDispatch opening _ _ => some opening
  | _ => none

theorem dispatching_iff {opening : Opening} :
    Dispatching server opening ↔ ∃ id, (server.conns id).pc.opening? = some opening := by
  constructor
  · rintro ⟨id, reservation, stage, here⟩
    exact ⟨id, by rw [here]; rfl⟩
  · rintro ⟨id, here⟩
    cases hpc : (server.conns id).pc with
    | openDispatch other reservation stage =>
        rw [hpc] at here
        cases here
        exact ⟨id, reservation, stage, hpc⟩
    | _ =>
        rw [hpc] at here
        cases here

namespace Server

/-- A connection task moves on after a step that may have turned down its own
opening. -/
theorem opening_moved {middle : Server} {id : Nat} {pc : ConnPc}
    (conns : middle.conns = server.conns)
    (completions : ∀ opening, middle.completions opening = server.completions opening ∨
      (Dispatching server opening ∧
        ∃ error, middle.completions opening = .sent none (some error)))
    (registry : middle.registry.Sublist server.registry)
    (next : middle.nextOpening = server.nextOpening)
    (moved : ∀ opening, pc.opening? = some opening → Dispatching server opening) :
    OpeningEffect server (middle.setConn id pc) where
  completions := completions
  registry := fun entry member => .inl (registry.mem member)
  dispatching := by
    intro opening dispatching
    refine .inl ?_
    obtain ⟨other, here⟩ := dispatching_iff.mp dispatching
    by_cases same : other = id
    · subst same
      simp only [setConn, Function.update_self] at here
      exact moved opening here
    · simp only [setConn, conns, Function.update_of_ne same] at here
      exact dispatching_iff.mpr ⟨other, here⟩
  nextOpening := Nat.le_of_eq next.symm

/-- A step that leaves the oneshots alone and dispatches nothing. -/
theorem opening_left {middle : Server} {id : Nat} {pc : ConnPc}
    (conns : middle.conns = server.conns) (completions : middle.completions = server.completions)
    (registry : middle.registry.Sublist server.registry)
    (next : middle.nextOpening = server.nextOpening) (moved : pc.opening? = none) :
    OpeningEffect server (middle.setConn id pc) :=
  opening_moved conns (fun _ => .inl (congrFun completions _)) registry next
    fun _ same => by rw [moved] at same; cases same

theorem inbound_opening (envelope : Envelope) : envelope.inbound.opening? = none :=
  envelope.inbound_cases (motive := fun pc => pc.opening? = none) rfl (fun _ _ _ => rfl)
    (fun _ _ => rfl) (fun _ => rfl) fun _ _ => rfl

theorem capacityReply?_completions {reserved reserved' : Bool} {reply : RouterReply}
    (replied : server.capacityReply? reserved reply = some (after, reserved')) :
    after.completions = server.completions := by
  unfold capacityReply? at replied
  split at replied
  · simp only [Option.ite_none_right_eq_some, Option.some.injEq, Prod.mk.injEq] at replied
    obtain ⟨-, rfl, -⟩ := replied
    rfl
  · cases replied
    rfl
  · cases replied
    rfl

theorem passage_opening {authorityValid : Bool} {id : Nat} {pc next : ConnPc} {event : ConnEvent}
    (here : (server.conns id).pc = pc)
    (passage : ConnPassage authorityValid server id pc event next) :
    OpeningEffect server (server.setConn id next) := by
  have keeps := List.Sublist.refl server.registry
  cases passage with
  | received envelope => exact opening_left rfl rfl keeps rfl (inbound_opening envelope)
  | authorized | running =>
      refine opening_moved rfl (fun _ => .inl rfl) keeps rfl ?_
      rintro other ⟨⟩
      exact ⟨id, _, _, here⟩
  | @unclosed _ _ next => cases next <;> exact opening_left rfl rfl keeps rfl rfl
  | _ => exact opening_left rfl rfl keeps rfl rfl

/-- What a step of a connection task does to openings. -/
theorem connStep?_opening {authorityValid : Bool} {id : Nat} {pc : ConnPc} {event : ConnEvent}
    (here : (server.conns id).pc = pc)
    (stepped : server.connStep? config authorityValid id pc event = some after) :
    OpeningEffect server after := by
  have keeps := List.Sublist.refl server.registry
  cases connStep?_case stepped with
  | passed passage => exact passage_opening here passage
  | asked _ replied | resolvedHere _ replied | resolvedAway _ _ replied =>
      have outside := capacityReply?_outside replied
      have completions := capacityReply?_completions replied
      exact opening_left outside.conns completions (outside.registry ▸ keeps)
        outside.nextOpening rfl
  | registered =>
      refine ⟨fun _ => .inl rfl, ?_, ?_, Nat.le_succ _⟩
      · intro entry member
        rcases List.mem_append.mp member with old | new
        · exact .inl old
        · rw [List.mem_singleton.mp new]
          exact .inr rfl
      · intro opening dispatching
        obtain ⟨other, there⟩ := dispatching_iff.mp dispatching
        by_cases same : other = id
        · subst same
          simp only [setConn, Function.update_self, ConnPc.opening?, Option.some.injEq] at there
          subst there
          exact .inr (Nat.lt_succ_self _)
        · simp only [setConn, Function.update_of_ne same] at there
          exact .inl (dispatching_iff.mpr ⟨other, there⟩)
  | @dispatched opening reservation panics middle ending dispatched =>
      have outside := @dispatchActors_outside server config opening.address
        (.sessionOpened opening) reservation panics
      have turned := @dispatchActors_turnsDown server config opening.address
        (.sessionOpened opening) reservation panics
      rw [dispatched] at outside turned
      refine opening_moved outside.conns ?_ (outside.registry ▸ keeps) outside.nextOpening ?_
      · intro other
        rcases turned other with same | ⟨⟨⟩, error, turnedDown⟩
        · exact .inl same
        · exact .inr ⟨⟨id, reservation, .actors, here⟩, error, turnedDown⟩
      · cases ending <;> rintro _ ⟨⟩
  | @actionDispatched address session payload panics middle ending dispatched =>
      have outside := @dispatchActors_outside server config address (.action session payload)
        false panics
      have turned := @dispatchActors_turnsDown server config address (.action session payload)
        false panics
      rw [dispatched] at outside turned
      refine opening_left outside.conns (funext fun other => ?_) (outside.registry ▸ keeps)
        outside.nextOpening (by cases ending <;> rfl)
      rcases turned other with same | ⟨⟨⟩, -⟩
      exact same
  | unregistered | closed => exact opening_left rfl rfl List.filter_sublist rfl rfl
  | @closeDispatched address session next =>
      have outside := @dispatchIfActive_outside server config address (.sessionClosed session)
      cases next <;> exact opening_left outside.conns dispatchIfActive_completions
        (outside.registry ▸ keeps) outside.nextOpening rfl
  | noted =>
      refine ⟨fun _ => .inl rfl, fun _ member => .inl member, fun opening dispatching => .inl ?_,
        Nat.le_refl _⟩
      obtain ⟨other, reservation, stage, there⟩ := dispatching
      by_cases same : other = id
      · subst same
        exact ⟨other, reservation, stage, by simpa using there⟩
      · exact ⟨other, reservation, stage, by simpa [Function.update_of_ne same] using there⟩
  | unregistrable | undispatched | locked | unlocked => exact opening_left rfl rfl keeps rfl rfl

/-! ## Actor tasks -/

/-- What a step of an actor task can do to openings: it answers openings that it
carries, and it takes over no others. -/
structure TaskOpenings (before after : Server) (generation : Nat) (task next : ActorTask) :
    Prop where
  tasks : after.tasks = Function.update before.tasks generation (some next)
  completions : ∀ opening, after.completions opening = before.completions opening ∨
    (task.Carries opening ∧ (after.completions opening = .dropped ∨
      ∃ failure, after.completions opening = .sent (some generation) failure))
  carried : ∀ opening, next.Carries opening → task.Carries opening
  registry : after.registry.Sublist before.registry
  nextOpening : after.nextOpening = before.nextOpening
  idle : next.pc = .idleBegin → before.registry.sessionCount task.address = 0 ∧
    after.completions = before.completions

variable {generation : Nat} {task next : ActorTask}

/-- A task that moves on without answering an opening. -/
theorem openings_moved {middle : Server} (tasks : middle.tasks = server.tasks)
    (completions : middle.completions = server.completions)
    (registry : middle.registry.Sublist server.registry)
    (nextOpening : middle.nextOpening = server.nextOpening)
    (carried : ∀ opening, next.Carries opening → task.Carries opening)
    (idle : next.pc = .idleBegin → server.registry.sessionCount task.address = 0) :
    TaskOpenings server (middle.setTask generation next) generation task next where
  tasks := by simp only [setTask, tasks]
  completions := fun _ => .inl (congrFun completions _)
  carried := carried
  registry := registry
  nextOpening := nextOpening
  idle := fun here => ⟨idle here, completions⟩

/-- A task that answers some of the openings it carries. -/
theorem openings_answered {completion : Completion} {messages : List MailboxMessage}
    (answers : completion = .dropped ∨ ∃ failure, completion = .sent (some generation) failure)
    (mine : ∀ opening, .sessionOpened opening ∈ messages → task.Carries opening)
    (carried : ∀ opening, next.Carries opening → task.Carries opening)
    (busy : next.pc ≠ .idleBegin) :
    TaskOpenings server ((server.completeAll completion messages).setTask generation next)
      generation task next where
  tasks := by simp [setTask]
  completions := by
    intro opening
    have answered := server.completeAll_completions completion messages opening
    simp only [setTask]
    rw [answered]
    split
    · rename_i member
      refine .inr ⟨mine opening member, ?_⟩
      rcases answers with rfl | ⟨failure, rfl⟩
      · exact .inl rfl
      · exact .inr ⟨failure, rfl⟩
    · exact .inl rfl
  carried := carried
  registry := by simp [setTask]
  nextOpening := by simp [setTask]
  idle := fun here => absurd here busy

theorem carries_of_goto {pc : TaskPc} (notExecuting : ∀ message draining, pc ≠ .executing message draining)
    (opening : Opening) (carries : ({ task with pc := pc } : ActorTask).Carries opening) :
    task.Carries opening := by
  rcases carries with member | ⟨draining, here⟩
  · exact .inl member
  · exact absurd here (notExecuting _ _)

/-- A task that only changes its program point. -/
theorem openings_goto {middle : Server} {pc : TaskPc} (tasks : middle.tasks = server.tasks)
    (completions : middle.completions = server.completions)
    (registry : middle.registry.Sublist server.registry)
    (nextOpening : middle.nextOpening = server.nextOpening)
    (notExecuting : ∀ message draining, pc ≠ .executing message draining)
    (idle : pc = .idleBegin → server.registry.sessionCount task.address = 0) :
    TaskOpenings server (middle.gotoTask generation task pc) generation task
      { task with pc := pc } :=
  openings_moved tasks completions registry nextOpening (carries_of_goto notExecuting) idle

/-- A task that answers or drops its whole mailbox. -/
theorem openings_emptied {completion : Completion} {closed : Bool} {pc : TaskPc}
    (answers : completion = .dropped ∨ ∃ failure, completion = .sent (some generation) failure)
    (notExecuting : ∀ message draining, pc ≠ .executing message draining)
    (busy : pc ≠ .idleBegin) :
    TaskOpenings server ((server.completeAll completion task.mailbox).setTask generation
      { task with pc := pc, mailbox := [], closed := closed }) generation task
      { task with pc := pc, mailbox := [], closed := closed } := by
  refine openings_answered answers (fun _ member => .inl member) ?_ busy
  rintro opening (member | ⟨draining, here⟩)
  · cases member
  · exact absurd here (notExecuting _ _)

theorem afterMessage_ne_executing {draining completed draining' : Bool}
    {message : MailboxMessage} :
    TaskPc.afterMessage draining completed ≠ .executing message draining' := by
  cases completed <;> cases draining <;> simp [TaskPc.afterMessage]

theorem afterMessage_ne_idleBegin {draining completed : Bool} :
    TaskPc.afterMessage draining completed ≠ .idleBegin := by
  cases completed <;> cases draining <;> simp [TaskPc.afterMessage]

theorem passage_openings {event : TaskEvent} {onward : TaskPc}
    (passage : TaskPassage server generation task event onward) :
    TaskOpenings server (server.setTask generation { task with pc := onward }) generation task
      { task with pc := onward } := by
  have keeps := List.Sublist.refl server.registry
  cases passage with
  | unused here none => exact openings_goto rfl rfl keeps rfl (by simp) fun _ => none
  | handled =>
      exact openings_goto rfl rfl keeps rfl (fun _ _ => afterMessage_ne_executing)
        fun idle => absurd idle afterMessage_ne_idleBegin
  | _ => exact openings_goto rfl rfl keeps rfl (by simp) (by simp)

/-- What a step of an actor task does to openings. -/
theorem taskStep?_openings {event : TaskEvent}
    (stepped : server.taskStep? config generation task task.pc event = some after) :
    ∃ next, TaskOpenings server after generation task next := by
  have keeps := List.Sublist.refl server.registry
  obtain ⟨middle, next, rfl, step⟩ := taskStep?_case stepped
  refine ⟨next, ?_⟩
  cases step with
  | passed passage => exact passage_openings passage
  | failRemoved | removed | guardDropped =>
      have outside := @removeRoute_outside server task.address generation
      exact openings_goto removeRoute_tasks removeRoute_completions
        (outside.registry ▸ keeps) outside.nextOpening (by simp) (by simp)
  | failAnswered => exact openings_emptied (.inr ⟨_, rfl⟩) (by simp) (by simp)
  | receiverDropped | unpolled => exact openings_emptied (.inl rfl) (by simp) (by simp)
  | terminated => exact openings_goto rfl rfl List.filter_sublist rfl (by simp) (by simp)
  | received _ _ _ first | drained _ first =>
      refine openings_moved rfl rfl keeps rfl ?_ (by simp)
      rintro opening (member | ⟨other, here⟩)
      · exact .inl (first ▸ List.mem_cons_of_mem _ member)
      · cases here
        exact .inl (first ▸ List.mem_cons_self)
  | @opened opening draining completed executing =>
      refine @openings_answered server generation task _ _ [.sessionOpened opening]
        (.inr ⟨_, rfl⟩) ?_ (carries_of_goto fun _ _ => afterMessage_ne_executing)
        afterMessage_ne_idleBegin
      intro other member
      cases List.mem_singleton.mp member
      exact .inr ⟨draining, executing⟩
  | @interrupted message draining executing =>
      refine openings_answered (.inl rfl) ?_ (carries_of_goto (by simp)) (by simp)
      intro opening member
      cases List.mem_singleton.mp member
      exact .inr ⟨draining, executing⟩
  | failClosed | shutdownClosed | guardCompleted =>
      refine openings_moved rfl rfl keeps rfl ?_ (by simp)
      rintro opening (member | ⟨draining, here⟩)
      · exact .inl member
      · cases here
  | begun | locked | released | unlocked =>
      exact openings_goto rfl rfl keeps rfl (by simp) (by simp)

end Server

/-! ## Openings over whole runs -/

/-- A dispatch ends no task and moves none. -/
theorem DispatchEffect.task_persists (ok : RoutesOk server) (effect : DispatchEffect server after)
    {generation : Nat} {task : ActorTask} (found : server.tasks generation = some task) :
    ∃ known, after.tasks generation = some known ∧ known.address = task.address := by
  cases effect with
  | unchanged _ tasks _ => exact ⟨task, tasks ▸ found, rfl⟩
  | unrouted _ _ _ tasks _ => exact ⟨task, tasks ▸ found, rfl⟩
  | enqueued address changed old message route known isOpen routes tasks next sent =>
      rw [tasks]
      by_cases same : generation = changed
      · subst same
        rw [found, Option.some.injEq] at known
        subst known
        exact ⟨_, Function.update_self _ _ _, rfl⟩
      · exact ⟨task, by rw [Function.update_of_ne same, found], rfl⟩
  | spawned address message spawns routes tasks next sent =>
      have older := Nat.ne_of_lt (ok.generation generation task found)
      exact ⟨task, by rw [tasks, Function.update_of_ne older, found], rfl⟩

/-- A task that carries an opening after a dispatch carried it before, or has
just been sent it. -/
theorem DispatchEffect.carried (ok : RoutesOk server) (effect : DispatchEffect server after)
    {generation : Nat} {task : ActorTask} {opening : Opening}
    (here : after.tasks generation = some task) (carries : task.Carries opening) :
    (∃ old, server.tasks generation = some old ∧ old.address = task.address ∧
      old.Carries opening) ∨
    (opening.address = task.address ∧ Dispatching server opening) := by
  cases effect with
  | unchanged _ tasks _ => exact .inl ⟨task, tasks ▸ here, rfl, carries⟩
  | unrouted _ _ _ tasks _ => exact .inl ⟨task, tasks ▸ here, rfl, carries⟩
  | enqueued address changed old message route found isOpen routes tasks next sent =>
      rw [tasks] at here
      by_cases same : generation = changed
      · subst same
        rw [Function.update_self, Option.some.injEq] at here
        subst here
        rcases carries with member | executing
        · rcases List.mem_append.mp member with waiting | new
          · exact .inl ⟨old, found, rfl, .inl waiting⟩
          · obtain ⟨known, there, rfl⟩ := ok.task address _ route
            rw [found, Option.some.injEq] at there
            subst there
            exact .inr (sent opening (List.mem_singleton.mp new).symm)
        · exact .inl ⟨old, found, rfl, .inr executing⟩
      · rw [Function.update_of_ne same] at here
        exact .inl ⟨task, here, rfl, carries⟩
  | spawned address message spawns routes tasks next sent =>
      rw [tasks] at here
      by_cases same : generation = server.nextGeneration
      · rw [same, Function.update_self, Option.some.injEq] at here
        subst here
        rcases carries with member | ⟨draining, executing⟩
        · exact .inr (sent opening (List.mem_singleton.mp member).symm)
        · cases executing
      · rw [Function.update_of_ne same] at here
        exact .inl ⟨task, here, rfl, carries⟩

/-- A dispatch puts no task at `begin_deactivation`. -/
theorem DispatchEffect.idleBegin (effect : DispatchEffect server after) {generation : Nat}
    {task : ActorTask} (here : after.tasks generation = some task) (idle : task.pc = .idleBegin) :
    ∃ old, server.tasks generation = some old ∧ old.pc = .idleBegin := by
  cases effect with
  | unchanged _ tasks _ => exact ⟨task, tasks ▸ here, idle⟩
  | unrouted _ _ _ tasks _ => exact ⟨task, tasks ▸ here, idle⟩
  | enqueued address changed old message route found isOpen routes tasks next sent =>
      rw [tasks] at here
      by_cases same : generation = changed
      · subst same
        rw [Function.update_self, Option.some.injEq] at here
        subst here
        exact ⟨old, found, idle⟩
      · rw [Function.update_of_ne same] at here
        exact ⟨task, here, idle⟩
  | spawned address message spawns routes tasks next sent =>
      rw [tasks] at here
      by_cases same : generation = server.nextGeneration
      · rw [same, Function.update_self, Option.some.injEq] at here
        subst here
        cases idle
      · rw [Function.update_of_ne same] at here
        exact ⟨task, here, idle⟩

namespace OpeningsOk

theorem dispatched (ok : OpeningsOk server) (routes : RoutesOk server)
    (effect : DispatchEffect server after) (openings : OpeningEffect server after) :
    OpeningsOk after := by
  have same : ∀ opening generation, after.completions opening = .sent (some generation) none →
      server.completions opening = .sent (some generation) none := by
    intro opening generation answered
    rcases openings.completions opening with kept | ⟨-, error, turnedDown⟩
    · rw [← kept, answered]
    · rw [turnedDown] at answered
      cases answered
  constructor
  case carried =>
    intro generation task opening here carries
    rcases effect.carried routes here carries with ⟨old, found, address, before⟩ | ⟨address, sent⟩
    · obtain ⟨home, known⟩ := ok.carried generation old opening found before
      exact ⟨home.trans address, Nat.lt_of_lt_of_le known openings.nextOpening⟩
    · exact ⟨address, Nat.lt_of_lt_of_le (ok.dispatching opening sent) openings.nextOpening⟩
  case dispatching =>
    intro opening sending
    rcases openings.dispatching opening sending with before | known
    · exact Nat.lt_of_lt_of_le (ok.dispatching opening before) openings.nextOpening
    · exact known
  case answered =>
    intro opening generation answered
    obtain ⟨task, found, home⟩ := ok.answered opening generation (same opening generation answered)
    obtain ⟨known, here, address⟩ := effect.task_persists routes found
    exact ⟨known, here, address.trans home⟩
  case fresh =>
    intro opening unused
    have before := Nat.le_trans openings.nextOpening unused
    rcases openings.completions opening with kept | ⟨sending, -⟩
    · rw [kept, ok.fresh opening before]
    · exact absurd (ok.dispatching opening sending) (Nat.not_lt.mpr before)
  case idle =>
    intro generation task entry here idle member answered
    obtain ⟨old, found, before⟩ := effect.idleBegin here idle
    have earlier := same entry.opening generation answered
    rcases openings.registry entry member with registered | new
    · exact ok.idle generation old entry found before registered earlier
    · rw [ok.fresh entry.opening (Nat.le_of_eq new.symm)] at earlier
      cases earlier

theorem moved (ok : OpeningsOk server) {generation : Nat} {task next : ActorTask}
    (found : server.tasks generation = some task) (conns : after.conns = server.conns)
    (address : next.address = task.address)
    (openings : Server.TaskOpenings server after generation task next) : OpeningsOk after := by
  have persists : ∀ other known, server.tasks other = some known →
      ∃ changed, after.tasks other = some changed ∧ changed.address = known.address := by
    intro other known there
    rw [openings.tasks]
    by_cases same : other = generation
    · subst same
      rw [found, Option.some.injEq] at there
      subst there
      exact ⟨next, Function.update_self _ _ _, address⟩
    · exact ⟨known, by rw [Function.update_of_ne same, there], rfl⟩
  constructor
  case carried =>
    intro other known opening here carries
    rw [openings.tasks] at here
    rw [openings.nextOpening]
    by_cases same : other = generation
    · rw [same, Function.update_self, Option.some.injEq] at here
      subst here
      rw [address]
      exact ok.carried generation task opening found (openings.carried opening carries)
    · rw [Function.update_of_ne same] at here
      exact ok.carried other known opening here carries
  case dispatching =>
    intro opening sending
    rw [openings.nextOpening]
    refine ok.dispatching opening ?_
    unfold Dispatching at sending
    rwa [conns] at sending
  case answered =>
    intro opening other answered
    rcases openings.completions opening with kept | ⟨carries, dropped | ⟨failure, sent⟩⟩
    · rw [kept] at answered
      obtain ⟨known, there, home⟩ := ok.answered opening other answered
      obtain ⟨changed, here, same⟩ := persists other known there
      exact ⟨changed, here, same.trans home⟩
    · rw [dropped] at answered
      cases answered
    · rw [sent] at answered
      cases answered
      obtain ⟨changed, here, same⟩ := persists generation task found
      exact ⟨changed, here, same.trans (ok.carried generation task opening found carries).1.symm⟩
  case fresh =>
    intro opening unused
    rw [openings.nextOpening] at unused
    rcases openings.completions opening with kept | ⟨carries, -⟩
    · rw [kept, ok.fresh opening unused]
    · exact absurd (ok.carried generation task opening found carries).2 (Nat.not_lt.mpr unused)
  case idle =>
    intro other known entry here idle member answered
    have registered := openings.registry.mem member
    rw [openings.tasks] at here
    by_cases same : other = generation
    · rw [same, Function.update_self, Option.some.injEq] at here
      subst here
      obtain ⟨unused, kept⟩ := openings.idle idle
      rw [same, kept] at answered
      obtain ⟨holder, there, home⟩ := ok.answered entry.opening generation answered
      rw [found, Option.some.injEq] at there
      subst there
      have none := List.eq_nil_of_length_eq_zero unused
      have counted : entry ∈ server.registry.filter
          fun entry => entry.opening.address == task.address :=
        List.mem_filter.mpr ⟨registered, by simp [home]⟩
      rw [none] at counted
      cases counted
    · rw [Function.update_of_ne same] at here
      rcases openings.completions entry.opening with kept | ⟨-, dropped | ⟨failure, sent⟩⟩
      · rw [kept] at answered
        exact ok.idle other known entry here idle registered answered
      · rw [dropped] at answered
        cases answered
      · rw [sent] at answered
        cases answered
        exact same rfl

theorem controlled (ok : OpeningsOk server) (effect : ControlEffect server after) :
    OpeningsOk after := by
  have origin : ∀ generation task, after.tasks generation = some task →
      ∃ old, server.tasks generation = some old ∧ SameTask old task := by
    intro generation task here
    obtain ⟨mark, keeps, same⟩ := effect.tasks generation
    rw [same, Option.map_eq_some_iff] at here
    obtain ⟨old, found, rfl⟩ := here
    exact ⟨old, found, keeps old⟩
  constructor
  case carried =>
    intro generation task opening here carries
    obtain ⟨old, found, keeps⟩ := origin generation task here
    unfold ActorTask.Carries at carries
    rw [keeps.mailbox, keeps.pc] at carries
    rw [keeps.address, effect.nextOpening]
    exact ok.carried generation old opening found carries
  case dispatching =>
    rintro opening ⟨id, reservation, stage, here⟩
    rw [effect.nextOpening]
    exact ok.dispatching opening ⟨id, reservation, stage, effect.conns id ▸ here⟩
  case answered =>
    intro opening generation answered
    rw [effect.completions] at answered
    obtain ⟨old, found, home⟩ := ok.answered opening generation answered
    obtain ⟨mark, keeps, same⟩ := effect.tasks generation
    exact ⟨mark old, by rw [same, found]; rfl, (keeps old).address.trans home⟩
  case fresh =>
    rw [effect.nextOpening, effect.completions]
    exact ok.fresh
  case idle =>
    intro generation task entry here idle member
    obtain ⟨old, found, keeps⟩ := origin generation task here
    rw [effect.completions]
    exact ok.idle generation old entry found (keeps.pc ▸ idle) (effect.registry.mem member)

/-- Every step of a Server keeps the openings in order. -/
theorem step? {authorityValid : Bool} {event : ServerEvent} (ok : OpeningsOk server)
    (routes : RoutesOk server) (stepped : server.step? config authorityValid event = some after) :
    OpeningsOk after := by
  cases event with
  | conn id event =>
      exact ok.dispatched routes (Server.connStep?_effect rfl stepped).2
        (Server.connStep?_opening rfl stepped)
  | task generation event =>
      obtain ⟨task, found, moved⟩ := Option.bind_eq_some_iff.mp stepped
      obtain ⟨next, openings⟩ := Server.taskStep?_openings moved
      obtain ⟨next', effect⟩ := Server.taskStep?_effect moved
      have same : next' = next := by
        have both := congrFun (effect.tasks.symm.trans openings.tasks) generation
        simpa using both
      subst same
      exact ok.moved found effect.conns effect.address openings
  | shutdown expired => exact ok.controlled (Server.shutdownStep?_cases stepped)
  | fence => exact ok.controlled (Server.fenceStep?_cases stepped)

end OpeningsOk

theorem openingsOk_of_reachable (reach : (serverSystem config).Reachable server) :
    OpeningsOk server := by
  refine invariant_of_reachable_step OpeningsOk ?_ ?_ reach
  · rintro start rfl
    exact openingsOk_fresh config
  · intro before label after earlier ok _ stepped
    exact ok.step? (routesOk_of_reachable earlier) stepped

end Coactor.Runtime
