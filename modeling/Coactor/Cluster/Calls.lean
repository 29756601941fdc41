import Coactor.Cluster.System

/-!
# The router calls of a cluster

What holds of every suspended router call is kept by steps of other parts of the
cluster, is set up when a call starts, and is carried on by each reply.  One
lemma says so for all properties of calls.  With it every owner write turns out
to be derived from a record that was read before, and to come from a session
that has been started.
-/

namespace Coactor.Cluster

open Coactor.Foundation
open Coactor.Foundation.Transition
open Coactor.Foundation.ConditionalStore
open Coactor.Coordination
open Coactor.Runtime

variable {config : ClusterConfig} {state before after : ClusterState}

/-- A property of every suspended call. -/
structure CallsOk (servers : NodeSessionId → Server)
    (Resolve : NodeSessionId → Nat → ActorAddress → ClusterRouter.ResolveProgram → Prop)
    (Release : NodeSessionId → ActorAddress → ClusterRouter.ReleaseProgram → Prop) : Prop where
  resolving : ∀ id conn address session program reserved,
    ((servers id).conns conn).pc = .resolving address session program reserved →
      Resolve id conn address program
  releasing : ∀ id generation task program, (servers id).tasks generation = some task →
    task.pc = .releasing program → Release id task.address program

/-- A request of a call has been answered; only a `resolve` asks the Node Directory. -/
structure Answered (config : ClusterConfig) (before after : ClusterState) (id : NodeSessionId)
    (operation : OwnerOperation) (call : Nat) (address : ActorAddress) (request : RouterCall)
    (reply : RouterReply) (answer : RouterAnswer request) : Prop where
  answerable : before.owners.answerable config.owners address request reply = true
  directory : operation = .claim → ClusterState.directoryAnswers before.leases.now
    (before.fetches id call) request reply = true
  decoded : reply.answer? request = some answer
  owners : after.owners =
    before.owners.serve address ⟨config.router id, operation, call⟩ request

section Answers

variable {id : NodeSessionId} {event : ServerEvent} {reply : RouterReply}

theorem Answered.step? {Result : Type} {operation : OwnerOperation} {call : Nat}
    {address : ActorAddress} {request : RouterCall} {answer : RouterAnswer request}
    (answered : Answered config before after id operation call address request reply answer)
    (resume : RouterAnswer request → RouterProgram Result) :
    RouterProgram.step? config.owners before.owners address
      ⟨config.router id, operation, call⟩ (.call request resume) reply =
        some (after.owners, resume answer) := by
  simp only [RouterProgram.step?, answered.answerable, if_true, answered.decoded,
    Option.map_some, answered.owners]

/-- A reply to `resolve` answers its request. -/
theorem ServerStep.answers_resolve {conn : Nat} {address : ActorAddress} {session : SessionId}
    {program next : ClusterRouter.ResolveProgram} {reserved : Bool}
    (step : ServerStep config before after id (.conn conn (.reply reply)))
    (here : ((before.servers id).conns conn).pc = .resolving address session program reserved)
    (resumed : program.resume? reply = some next) :
    ∃ request resume answer, program = .call request resume ∧ next = resume answer ∧
      Answered config before after id .claim conn address request reply answer := by
  obtain ⟨request, resume, answer, rfl, decoded, rfl⟩ := RouterProgram.resume?_cases resumed
  refine ⟨request, resume, answer, rfl, rfl, ?_⟩
  have suspended : suspendedCall? (before.servers id) (.conn conn (.reply reply)) =
      some ⟨address, .claim, conn, request⟩ := by
    simp [suspendedCall?, here, RouterProgram.request?]
  have answerable := step.answerable
  simp only [ClusterState.answerable, suspended, reply?, Bool.and_eq_true] at answerable
  refine ⟨answerable.1, fun _ => answerable.2, decoded, ?_⟩
  rw [step.owners, ClusterState.served, suspended]

/-- A reply to `release_local_owner` answers its request. -/
theorem ServerStep.answers_release {generation : Nat} {task : ActorTask}
    {program next : ClusterRouter.ReleaseProgram}
    (step : ServerStep config before after id (.task generation (.reply reply)))
    (found : (before.servers id).tasks generation = some task)
    (here : task.pc = .releasing program) (resumed : program.resume? reply = some next) :
    ∃ request resume answer, program = .call request resume ∧ next = resume answer ∧
      Answered config before after id .release generation task.address request reply answer := by
  obtain ⟨request, resume, answer, rfl, decoded, rfl⟩ := RouterProgram.resume?_cases resumed
  refine ⟨request, resume, answer, rfl, rfl, ?_⟩
  have suspended : suspendedCall? (before.servers id) (.task generation (.reply reply)) =
      some ⟨task.address, .release, generation, request⟩ := by
    simp [suspendedCall?, found, here, RouterProgram.request?]
  have answerable := step.answerable
  simp only [ClusterState.answerable, suspended, reply?, Bool.and_eq_true] at answerable
  refine ⟨answerable.1, by rintro ⟨⟩, decoded, ?_⟩
  rw [step.owners, ClusterState.served, suspended]

/-- A step of a Server leaves the owner records alone, or answers a call. -/
theorem ServerStep.owners_cases (step : ServerStep config before after id event) :
    after.owners = before.owners ∨
      ∃ call : SuspendedCall, suspendedCall? (before.servers id) event = some call ∧
        after.owners = before.owners.serve call.address
          ⟨config.router id, call.operation, call.call⟩ call.request := by
  have owners := step.owners
  unfold ClusterState.served at owners
  split at owners
  · rename_i call suspended
    exact .inr ⟨call, suspended, owners⟩
  · exact .inl owners

end Answers

/-! ## One lemma for all properties of calls -/

section Properties

variable {Resolve Resolve' :
  NodeSessionId → Nat → ActorAddress → ClusterRouter.ResolveProgram → Prop}
variable {Release Release' : NodeSessionId → ActorAddress → ClusterRouter.ReleaseProgram → Prop}

theorem CallsOk.mono {servers : NodeSessionId → Server} (ok : CallsOk servers Resolve Release)
    (resolve : ∀ id conn address program, ((servers id).conns conn).pc.guards = some address →
      Resolve id conn address program → Resolve' id conn address program)
    (release : ∀ id address program, Release id address program → Release' id address program) :
    CallsOk servers Resolve' Release' where
  resolving := fun id conn address session program reserved here =>
    resolve id conn address program (congrArg ConnPc.guards here)
      (ok.resolving id conn address session program reserved here)
  releasing := fun id generation task program found here =>
    release id task.address program (ok.releasing id generation task program found here)

theorem callsOk_fresh (config : ClusterConfig) :
    CallsOk (fun id => .fresh (config.runtime id)) Resolve Release where
  resolving := fun _ _ _ _ _ _ here => by cases here
  releasing := fun _ _ _ _ found => by cases found

/-- What a step of a Server must see to for the calls to keep a property. -/
structure CarriesCalls (config : ClusterConfig) (before after : ClusterState) (id : NodeSessionId)
    (event : ServerEvent)
    (Resolve Resolve' :
      NodeSessionId → Nat → ActorAddress → ClusterRouter.ResolveProgram → Prop)
    (Release Release' : NodeSessionId → ActorAddress → ClusterRouter.ReleaseProgram → Prop) :
    Prop where
  keepsResolve : ∀ other conn address program,
    ((before.servers other).conns conn).pc.guards = some address →
    Resolve other conn address program → Resolve' other conn address program
  keepsRelease : ∀ other address program, Release other address program →
    Release' other address program
  startsResolve : ∀ conn address, Resolve' id conn address (config.router id).resolve
  startsRelease : ∀ address, Release' id address (config.router id).releaseLocalOwner
  repliesResolve : ∀ conn address reply request resume answer,
    event = .conn conn (.reply reply) →
    ((before.servers id).conns conn).pc.guards = some address →
    Resolve id conn address (.call request resume) →
    Answered config before after id .claim conn address request reply answer →
      Resolve' id conn address (resume answer)
  repliesRelease : ∀ generation address reply request resume answer,
    event = .task generation (.reply reply) → Release id address (.call request resume) →
    Answered config before after id .release generation address request reply answer →
      Release' id address (resume answer)

variable {id : NodeSessionId} {event : ServerEvent}

theorem CarriesCalls.kept (ok : CallsOk before.servers Resolve Release)
    (carries : CarriesCalls config before after id event Resolve Resolve' Release Release')
    {other : NodeSessionId} {conn : Nat} {address : ActorAddress} {session : SessionId}
    {program : ClusterRouter.ResolveProgram} {reserved : Bool}
    (here : ((before.servers other).conns conn).pc =
      .resolving address session program reserved) :
    Resolve' other conn address program :=
  carries.keepsResolve other conn address program (congrArg ConnPc.guards here)
    (ok.resolving other conn address session program reserved here)

theorem CallsOk.conn (ok : CallsOk before.servers Resolve Release) {conn : Nat}
    {event : ConnEvent} (step : ServerStep config before after id (.conn conn event))
    (carries : CarriesCalls config before after id (.conn conn event) Resolve Resolve' Release
      Release') :
    CallsOk after.servers Resolve' Release' := by
  have stepped := step.stepped
  constructor
  case resolving =>
    intro other changed address session program reserved here
    by_cases same : other = id
    · subst same
      by_cases own : changed = conn
      · subst own
        cases Server.connStep?_move rfl stepped with
        | kept unmoved _ =>
            rw [unmoved] at here
            exact carries.kept ok here
        | begun _ _ _ moved =>
            rw [here] at moved
            cases moved
            exact carries.startsResolve _ address
        | replied address' session' old next _ _ reply waiting answered resumed moved =>
            cases answered
            obtain ⟨request, resume, answer, rfl, rfl, answers⟩ :=
              step.answers_resolve waiting resumed
            have next := carries.repliesResolve changed address' reply request resume answer rfl
              (congrArg ConnPc.guards waiting) (ok.resolving _ _ _ _ _ _ waiting) answers
            rw [here] at moved
            generalize resume answer = following at next moved
            rcases following with (_ | _ | _) | ⟨request, resume⟩ <;> cases moved
            exact next
        | carried _ _ still _ =>
            rw [here] at still
            cases still
        | freed free _ =>
            rw [here] at free
            cases free
      · obtain ⟨record, conns, -⟩ := Server.connStep?_conns stepped
        rw [conns, Function.update_of_ne own] at here
        exact carries.kept ok here
    · rw [step.servers, Function.update_of_ne same] at here
      exact carries.kept ok here
  case releasing =>
    intro other generation task program found here
    by_cases same : other = id
    · subst same
      rcases (Server.connStep?_effect rfl stepped).2.task_origin found with
        new | ⟨old, there, pc, address⟩
      · rw [here] at new
        cases new
      · rw [← address]
        exact carries.keepsRelease _ _ _ (ok.releasing _ _ _ _ there (pc.trans here))
    · rw [step.servers, Function.update_of_ne same] at found
      exact carries.keepsRelease _ _ _ (ok.releasing _ _ _ _ found here)

theorem CallsOk.task (ok : CallsOk before.servers Resolve Release) {generation : Nat}
    {event : TaskEvent} (step : ServerStep config before after id (.task generation event))
    (carries : CarriesCalls config before after id (.task generation event) Resolve Resolve'
      Release Release') :
    CallsOk after.servers Resolve' Release' := by
  obtain ⟨task, there, stepped⟩ := Option.bind_eq_some_iff.mp step.stepped
  obtain ⟨next, effect⟩ := Server.taskStep?_effect stepped
  constructor
  case resolving =>
    intro other changed address session program reserved here
    by_cases same : other = id
    · subst same
      rw [effect.conns] at here
      exact carries.kept ok here
    · rw [step.servers, Function.update_of_ne same] at here
      exact carries.kept ok here
  case releasing =>
    intro other changed known program found here
    by_cases same : other = id
    · subst same
      by_cases own : changed = generation
      · subst own
        have moved : known = next := by
          rw [effect.tasks, Function.update_self, Option.some.injEq] at found
          exact found.symm
        subst moved
        cases Server.taskStep?_move stepped found with
        | begun _ begun =>
            rw [here] at begun
            cases begun
            exact carries.startsRelease _
        | replied old following reply waiting answered resumed moved =>
            cases answered
            obtain ⟨request, resume, answer, rfl, rfl, answers⟩ :=
              step.answers_release there waiting resumed
            have next := carries.repliesRelease changed task.address reply request resume answer
              rfl (ok.releasing _ _ _ _ there waiting) answers
            rw [here] at moved
            rw [effect.address]
            generalize resume answer = following at next moved
            cases following with
            | ret result => cases moved
            | call request resume =>
                cases moved
                exact next
        | freed free _ =>
            rw [here] at free
            cases free
      · rw [effect.tasks, Function.update_of_ne own] at found
        exact carries.keepsRelease _ _ _ (ok.releasing _ _ _ _ found here)
    · rw [step.servers, Function.update_of_ne same] at found
      exact carries.keepsRelease _ _ _ (ok.releasing _ _ _ _ found here)

theorem CallsOk.controlled (ok : CallsOk before.servers Resolve Release)
    (step : ServerStep config before after id event)
    (effect : ControlEffect (before.servers id) (after.servers id))
    (carries : CarriesCalls config before after id event Resolve Resolve' Release Release') :
    CallsOk after.servers Resolve' Release' := by
  constructor
  case resolving =>
    intro other changed address session program reserved here
    have there : ((before.servers other).conns changed).pc =
        .resolving address session program reserved := by
      by_cases same : other = id
      · subst same
        rwa [effect.conns] at here
      · rwa [step.servers, Function.update_of_ne same] at here
    exact carries.kept ok there
  case releasing =>
    intro other generation task program found here
    by_cases same : other = id
    · subst same
      obtain ⟨mark, keeps, marked⟩ := effect.tasks generation
      rw [marked, Option.map_eq_some_iff] at found
      obtain ⟨old, there, rfl⟩ := found
      rw [(keeps old).address]
      exact carries.keepsRelease _ _ _ (ok.releasing _ _ _ _ there ((keeps old).pc ▸ here))
    · rw [step.servers, Function.update_of_ne same] at found
      exact carries.keepsRelease _ _ _ (ok.releasing _ _ _ _ found here)

/-- A step of a Server that carries its calls keeps their property. -/
theorem CallsOk.server (ok : CallsOk before.servers Resolve Release)
    (step : ServerStep config before after id event)
    (carries : CarriesCalls config before after id event Resolve Resolve' Release Release') :
    CallsOk after.servers Resolve' Release' := by
  cases event with
  | conn conn event => exact ok.conn step carries
  | task generation event => exact ok.task step carries
  | shutdown expired => exact ok.controlled step (Server.shutdownStep?_cases step.stepped) carries
  | fence => exact ok.controlled step (Server.fenceStep?_cases step.stepped) carries

end Properties

end Coactor.Cluster
