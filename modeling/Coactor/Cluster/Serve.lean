import Coactor.Cluster.Owners
import Coactor.Coordination.AuthorityLoss

/-!
# Serving, and how it ends

`serve` starts a Server, waits until it is told to stop or one of the tasks
beside it stops, and then ends them in a fixed order: `ServerInner::shutdown`,
the renewal task, the Node Lease, the transport task.  Only here the shutdown
signal of a renewal task is sent, and `release_node` called.
-/

namespace Coactor.Cluster

open Coactor.Foundation.Transition
open Coactor.Coordination
open Coactor.Runtime

/-! ## The tasks of one `serve` -/

/-- What `serve` fails with once it waits. -/
inductive ServeError where
  | fenced
  | serviceStopped
  | shutdownTimedOut
  deriving DecidableEq, Repr

/-- Where `serve` stands, with the result it is going to return; nothing is `Ok`. -/
inductive ServePc where
  | starting
  | unstarted
  | waiting
  | stopping (result : Option ServeError)
  | signalling (result : Option ServeError)
  | joiningRenewal (result : Option ServeError)
  | releasing (result : Option ServeError)
  | forcing (result : Option ServeError)
  | joiningTransport (result : Option ServeError)
  | returned (result : Option ServeError)
  deriving DecidableEq, Repr

/-- Where the transport task stands. -/
inductive TransportPc where
  | accepting
  | registering (conn : Nat)
  | ended
  deriving DecidableEq, Repr

/-- `serve`, its transport task, the oneshot channels to its tasks, and whether the
renewal task has panicked in a call of the store. -/
structure ServeTasks where
  serve : ServePc
  transport : TransportPc
  renewalShutdown : Bool
  transportForce : Bool
  renewalPanicked : Bool
  deriving DecidableEq, Repr

/-- How `serve` and the tasks beside it go on: `serve` by itself, by the shutdown
signal or by what `wait` finds, the renewal task by a panic, the transport task
by the force signal or where its listener is closed. -/
inductive ServeEvent where
  | advance
  | signal
  | notice (error : ServeError)
  | panic
  | force
  | close
  deriving DecidableEq, Repr

/-- The renewal task has returned, and `serve` may have released the lease since. -/
def hasExited : LeasePhase → Bool
  | .exited _ _ _ | .awaitingRelease _ | .finished => true
  | _ => false

/-- The renewal task calls the store. -/
def callsStore : LeasePhase → Bool
  | .renewing _ _ _ | .awaitingRenewal _ _ _ _ | .reading _ _ _ _ _ => true
  | _ => false

/-- The flag of the authority is down, which `fenced` tells. -/
def isFenced (session : NodeSession) : Bool :=
  session.authority.any fun authority => !authority.valid

/-- What `ServerInner::shutdown` has returned. -/
def shutdownResult? : ShutdownPc → Option (Option ServeError)
  | .returned true => some (some .shutdownTimedOut)
  | .returned false | .skipped => some none
  | _ => none

namespace ServeTasks

def fresh : ServeTasks := ⟨.starting, .accepting, false, false, false⟩

variable (tasks : ServeTasks)

/-- The renewal task has ended. -/
def renewalEnded (session : NodeSession) : Bool :=
  tasks.renewalPanicked || hasExited session.phase

/-- What `wait` finds; it asks one channel after the other. -/
def notices (session : NodeSession) : ServeError → Bool
  | .fenced => isFenced session
  | .serviceStopped => tasks.transport == .ended || tasks.renewalEnded session
  | .shutdownTimedOut => false

/-- One step of `serve` alone, of a panic of the renewal task, or of the end of the
transport task. -/
def step? (session : NodeSession) (server : Server) : ServeEvent → Option ServeTasks
  | .advance =>
      match tasks.serve with
      | .starting =>
          if session.isServing then some { tasks with serve := .waiting }
          else if session.phase = .failed then some { tasks with serve := .unstarted }
          else none
      | .stopping result =>
          (shutdownResult? server.shutdown).map fun shutdown =>
            { tasks with serve := .signalling (result.or shutdown) }
      | .signalling result =>
          some { tasks with renewalShutdown := true, serve := .joiningRenewal result }
      | .joiningRenewal result =>
          if tasks.renewalPanicked then some { tasks with serve := .forcing result }
          else
            match session.phase with
            | .exited _ _ true => some { tasks with serve := .releasing result }
            | .exited _ _ false => some { tasks with serve := .forcing result }
            | _ => none
      | .releasing result =>
          if session.phase = .finished then some { tasks with serve := .forcing result } else none
      | .forcing result =>
          some { tasks with transportForce := true, serve := .joiningTransport result }
      | .joiningTransport result =>
          if tasks.transport = .ended then some { tasks with serve := .returned result } else none
      | _ => none
  | .signal =>
      match tasks.serve with
      | .waiting => some { tasks with serve := .stopping none }
      | _ => none
  | .notice error =>
      match tasks.serve with
      | .waiting =>
          if tasks.notices session error then some { tasks with serve := .stopping (some error) }
          else none
      | _ => none
  | .panic =>
      if session.isServing && callsStore session.phase then
        some { tasks with renewalPanicked := true }
      else none
  | .force =>
      if tasks.transport = .accepting && tasks.transportForce then
        some { tasks with transport := .ended }
      else none
  | .close =>
      if tasks.transport = .accepting && session.isServing then
        some { tasks with transport := .ended }
      else none

/-- The steps of its Server that `serve` and the transport task leave to others, and
`shutdown` while `serve` awaits it. -/
def allowsServer : ServerEvent → Bool
  | .conn _ .accept | .conn _ .register => false
  | .shutdown _ =>
      match tasks.serve with
      | .stopping _ => true
      | _ => false
  | _ => true

/-- Inputs of `start` and of the renewal task while it runs. -/
def allowsLease (config : RuntimeConfig) (session : NodeSession) (server : Server)
    (input : LeaseInput) : Bool :=
  !tasks.renewalEnded session &&
    match input with
    | .sample sample => sample == server.capacitySample config
    | .shutdown => tasks.renewalShutdown
    | .advance => !session.phase.isFencing || server.fence == .returned
    | _ => true

/-- The call of `release_node` that `serve` makes. -/
def allowsRelease : LeaseInput → Bool
  | .issued _ | .outcome _ =>
      match tasks.serve with
      | .releasing _ => true
      | _ => false
  | _ => false

end ServeTasks

/-! ## A cluster of `serve` calls -/

structure ServedState where
  cluster : ClusterState
  tasks : NodeSessionId → ServeTasks

inductive ServedLabel where
  | tick (elapsed : Nat)
  | settleLease (ticket : Nat)
  | settleOwner (ticket : Nat)
  | fetch (id : NodeSessionId) (conn : Nat)
  | lease (id : NodeSessionId) (input : LeaseInput)
  | release (id : NodeSessionId) (input : LeaseInput)
  | server (id : NodeSessionId) (event : ServerEvent)
  | accept (id : NodeSessionId) (conn : Nat)
  | register (id : NodeSessionId)
  | serve (id : NodeSessionId) (event : ServeEvent)
  deriving DecidableEq

namespace ServedState

variable (config : ClusterConfig)

def setTasks (state : ServedState) (id : NodeSessionId) (tasks : ServeTasks) : ServedState :=
  { state with tasks := Function.update state.tasks id tasks }

/-- One step of a Node Session against the store. -/
def leaseStep? (state : ServedState) (id : NodeSessionId) (input : LeaseInput) :
    Option ServedState :=
  (state.cluster.leases.step? config.leases (.session id input)).map fun leases =>
    { state with cluster := { state.cluster with leases := leases } }

/-- One step of the cluster that no `serve` depends on. -/
def clusterStep? (state : ServedState) (label : ClusterLabel) : Option ServedState :=
  (state.cluster.step? config label).map fun cluster => { state with cluster := cluster }

def step? (state : ServedState) : ServedLabel → Option ServedState
  | .tick elapsed => state.clusterStep? config (.tick elapsed)
  | .settleLease ticket => state.clusterStep? config (.settleLease ticket)
  | .settleOwner ticket => state.clusterStep? config (.settleOwner ticket)
  | .fetch id conn => state.clusterStep? config (.fetch id conn)
  | .lease id input =>
      if (state.tasks id).allowsLease (config.runtime id) (state.cluster.leases.sessions id)
          (state.cluster.servers id) input then
        state.leaseStep? config id input
      else none
  | .release id input =>
      if (state.tasks id).allowsRelease input then state.leaseStep? config id input else none
  | .server id event =>
      if (state.tasks id).allowsServer event then state.clusterStep? config (.server id event)
      else none
  | .accept id conn =>
      match (state.tasks id).transport with
      | .accepting =>
          (state.clusterStep? config (.server id (.conn conn .accept))).map fun after =>
            after.setTasks id { state.tasks id with transport := .registering conn }
      | _ => none
  | .register id =>
      match (state.tasks id).transport with
      | .registering conn =>
          (state.clusterStep? config (.server id (.conn conn .register))).map fun after =>
            after.setTasks id { state.tasks id with transport := .accepting }
      | _ => none
  | .serve id event =>
      ((state.tasks id).step? (state.cluster.leases.sessions id) (state.cluster.servers id)
        event).map (state.setTasks id)

end ServedState

/-- Every `serve` of a cluster about to start. -/
def servedSystem (config : ClusterConfig) : System ServedState ServedLabel where
  initial := fun state =>
    (clusterSystem config).initial state.cluster ∧ state.tasks = fun _ => .fresh
  step? := ServedState.step? config

/-! ## How a renewal task ends -/

/-- The renewal task has been told to stop, or `serve` has released the lease since. -/
def isReleasing : LeasePhase → Bool
  | .exited _ _ true | .awaitingRelease _ | .finished => true
  | _ => false

/-- The renewal task has lost the lease. -/
def isLost : LeasePhase → Bool
  | .fencing _ _ | .exited _ _ false => true
  | _ => false

/-- Every step of a session stays inside its renewal loop or is one step of a way out. -/
inductive ExitStep (session after : NodeSession) (input : LeaseInput) : Prop where
  | inside (here : isReleasing session.phase = false ∧ isLost session.phase = false)
      (there : isReleasing after.phase = false ∧ isLost after.phase = false)
      (released : after.released = session.released)
  | told (node : NodeRecord) (revision : Revision) (shutdown : input = .shutdown)
      (here : session.phase = .sleeping node revision)
      (there : after.phase = .exited node revision true)
      (released : after.released = session.released)
  | loses (node : NodeRecord) (revision : Revision) (here : session.phase = .losing node revision)
      (there : after.phase = .fencing node revision) (released : after.released = session.released)
  | leaves (node : NodeRecord) (revision : Revision) (advance : input = .advance)
      (here : session.phase = .fencing node revision)
      (there : after.phase = .exited node revision false)
      (released : after.released = session.released)
  | issues (node : NodeRecord) (revision : Revision) (ticket : Nat)
      (here : session.phase = .exited node revision true)
      (there : after.phase = .awaitingRelease ticket)
  | finishes (ticket : Nat) (here : session.phase = .awaitingRelease ticket)
      (there : after.phase = .finished) (released : after.released = session.released)

theorem exitStep_of_step? {id : NodeSessionId} {now : Nat} {session after : NodeSession}
    {input : LeaseInput} (stepped : session.step? id now input = some after) :
    ExitStep session after input := by
  have starts (started : NodeSession.startStep id now session session.phase input = some after) :
      ExitStep session after input := by
    simp only [NodeSession.startStep] at started
    split at started
    all_goals rename_i hphase
    all_goals first
      | (cases started; done)
      | (cases started; exact .inside (by simp [hphase, isReleasing, isLost])
          (by simp [isReleasing, isLost]) rfl)
      | (split at started <;> cases started <;>
          exact .inside (by simp [hphase, isReleasing, isLost]) (by simp [isReleasing, isLost]) rfl)
  simp only [NodeSession.step?] at stepped
  split at stepped
  · exact starts stepped
  split at stepped
  · exact starts stepped
  simp only [NodeSession.renewalStep] at stepped
  split at stepped
  case h_2 node revision hphase =>
    cases stepped
    exact .told node revision rfl hphase rfl rfl
  case h_17 node revision hphase =>
    cases stepped
    exact .loses node revision hphase rfl rfl
  case h_18 node revision hphase =>
    cases stepped
    exact .leaves node revision rfl hphase rfl rfl
  case h_19 node revision ticket hphase =>
    cases stepped
    exact .issues node revision ticket hphase rfl
  case h_20 ticket _ hphase | h_21 ticket _ hphase =>
    cases stepped
    exact .finishes ticket hphase rfl rfl
  all_goals rename_i hphase
  all_goals first
    | (cases stepped; done)
    | (cases stepped; exact .inside (by simp [hphase, isReleasing, isLost])
        (by simp [isReleasing, isLost]) rfl)
    | (split at stepped <;> cases stepped <;>
        exact .inside (by simp [hphase, isReleasing, isLost]) (by simp [isReleasing, isLost]) rfl)

/-- A lowered flag is never raised. -/
theorem isFenced_step? {id : NodeSessionId} {now : Nat} {session after : NodeSession}
    {input : LeaseInput} (fenced : isFenced session = true)
    (stepped : session.step? id now input = some after) : isFenced after = true := by
  obtain ⟨authority, constructed, down⟩ := Option.any_eq_true _ _ |>.mp fenced
  rcases AuthorityLoss.step?_authority constructed stepped with same |
    ⟨_, _, started, -, -, renewed⟩ | ⟨_, _, lowered, -⟩
  · rw [isFenced, same]
    simpa using down
  · rw [isFenced, renewed]
    simpa [NodeAuthority.renew] using down
  · rw [isFenced, lowered]
    rfl

/-! ## What `shutdown` and `fence` leave of a Server -/

/-- The status of a Server that has never been fenced. -/
def statusUnfenced? : ShutdownPc → Option Status
  | .idle => some .running
  | .returned _ => some .stopped
  | .skipped => none
  | _ => some .shuttingDown

/-- A step of `shutdown` goes on from where the call stands, and only its check
looks at the status. -/
theorem shutdownStep?_control {server after : Server} {expired : Bool}
    (stepped : server.shutdownStep? expired server.shutdown = some after) :
    server.shutdown.hasReturned = false ∧ after.fence = server.fence ∧
      (statusUnfenced? server.shutdown = some server.status →
        statusUnfenced? after.shutdown = some after.status) := by
  unfold Server.shutdownStep? at stepped
  split at stepped
  case h_1 here =>
    rw [here]
    split at stepped
    · cases stepped
      exact ⟨rfl, rfl, fun _ => rfl⟩
    · rename_i stopped
      cases stepped
      refine ⟨rfl, rfl, fun running => ?_⟩
      exact absurd (Option.some.inj running).symm stopped
  case h_7 here =>
    rw [here]
    cases stepped
    exact ⟨rfl, rfl, fun _ => rfl⟩
  all_goals rename_i here
  all_goals rw [here]
  all_goals first
    | (cases stepped; done)
    | (cases stepped; exact ⟨rfl, rfl, fun kept => kept⟩)
    | ((repeat' split at stepped) <;> cases stepped <;> exact ⟨rfl, rfl, fun kept => kept⟩)

theorem fenceStep?_control {server after : Server}
    (stepped : server.fenceStep? server.fence = some after) :
    server.fence ≠ .returned ∧ after.fence ≠ .idle ∧ after.shutdown = server.shutdown := by
  unfold Server.fenceStep? at stepped
  split at stepped
  all_goals rename_i here
  all_goals rw [here]
  all_goals first
    | (cases stepped; done)
    | (cases stepped; exact ⟨by rintro ⟨⟩, by rintro ⟨⟩, rfl⟩)
    | (split at stepped <;> cases stepped <;> exact ⟨by rintro ⟨⟩, by rintro ⟨⟩, rfl⟩)

/-- A step is one of `shutdown`, one of `fence`, or leaves both calls and the status
alone. -/
theorem sameControl_or {config : RuntimeConfig} {valid : Bool} {server after : Server}
    {event : ServerEvent} (stepped : server.step? config valid event = some after) :
    SameControl server after ∨
      (∃ expired, event = .shutdown expired ∧
        server.shutdownStep? expired server.shutdown = some after) ∨
      (event = .fence ∧ server.fenceStep? server.fence = some after) := by
  cases event with
  | conn id event => exact .inl (Server.connStep?_effect rfl stepped).1
  | task generation event =>
      obtain ⟨task, -, moved⟩ := Option.bind_eq_some_iff.mp stepped
      obtain ⟨next, effect⟩ := Server.taskStep?_effect moved
      exact .inl effect.toSameControl
  | shutdown expired => exact .inr (.inl ⟨expired, rfl, stepped⟩)
  | fence => exact .inr (.inr ⟨rfl, stepped⟩)

/-- Until it is fenced, a Server has the status that its `shutdown` has stored. -/
theorem status_of_unfenced {config : RuntimeConfig} {server : Server}
    (reach : (serverSystem config).Reachable server) (unfenced : server.fence = .idle) :
    statusUnfenced? server.shutdown = some server.status := by
  refine invariant_of_step
    (fun server => server.fence = .idle → statusUnfenced? server.shutdown = some server.status)
    ?_ ?_ reach unfenced
  · rintro start rfl -
    rfl
  · intro before label after ok _ stepped idle
    rcases sameControl_or stepped with control | ⟨expired, -, moved⟩ | ⟨-, moved⟩
    · rw [control.shutdown, control.status]
      exact ok (control.fence ▸ idle)
    · obtain ⟨-, fence, status⟩ := shutdownStep?_control moved
      exact status (ok (fence ▸ idle))
    · exact absurd idle (fenceStep?_control moved).2.1

/-! ## One `serve` and its tasks -/

/-- What a step of its Server is for the transport task of a `serve`. -/
inductive TransportStep (tasks : ServeTasks) : ServerEvent → ServeTasks → Prop where
  | keeps {event : ServerEvent} : TransportStep tasks event tasks
  | accepts {conn : Nat} (here : tasks.transport = .accepting) :
      TransportStep tasks (.conn conn .accept) { tasks with transport := .registering conn }
  | registers {conn : Nat} (here : tasks.transport = .registering conn) :
      TransportStep tasks (.conn conn .register) { tasks with transport := .accepting }

/-- What a step of the cluster is for one `serve`, its session and its Server. -/
inductive LocalStep (config : RuntimeConfig) (id : NodeSessionId)
    (tasks tasks' : ServeTasks) (session session' : NodeSession) (server server' : Server) :
    Prop where
  | still (tasks_eq : tasks' = tasks) (session_eq : session' = session)
      (server_eq : server' = server)
  | lease (now : Nat) (input : LeaseInput)
      (allowed : tasks.allowsLease config session server input = true)
      (stepped : session.step? id now input = some session') (tasks_eq : tasks' = tasks)
      (server_eq : server' = server)
  | release (now : Nat) (input : LeaseInput) (allowed : tasks.allowsRelease input = true)
      (stepped : session.step? id now input = some session') (tasks_eq : tasks' = tasks)
      (server_eq : server' = server)
  | server (valid : Bool) (event : ServerEvent) (own : allowsServer session event = true)
      (stepped : server.step? config valid event = some server')
      (transports : TransportStep tasks event tasks') (session_eq : session' = session)
  | serve (event : ServeEvent) (stepped : tasks.step? session server event = some tasks')
      (session_eq : session' = session) (server_eq : server' = server)

variable {config : ClusterConfig}

section Served

variable {before after : ServedState} {cluster : ClusterState}

/-- A session that a step of the leases does not name stays as it is. -/
theorem sessions_of_unnamed {label : LeaseLabel} {leases : LeaseState}
    (unnamed : ∀ id input, label ≠ .session id input)
    (stepped : before.cluster.leases.step? config.leases label = some leases)
    (id : NodeSessionId) : leases.sessions id = before.cluster.leases.sessions id := by
  rcases LeaseState.session_step? stepped id with same | ⟨input, named, -⟩
  · exact same
  · exact absurd named (unnamed id input)

/-- A step of a Server, with what it does to the transport task of its `serve`. -/
theorem locals_of_server {id : NodeSessionId} {event : ServerEvent}
    {tasks : NodeSessionId → ServeTasks}
    (stepped : before.cluster.step? config (.server id event) = some cluster)
    (transports : TransportStep (before.tasks id) event (tasks id))
    (others : ∀ other, other ≠ id → tasks other = before.tasks other)
    (other : NodeSessionId) :
    LocalStep (config.runtime other) other (before.tasks other) (tasks other)
      (before.cluster.leases.sessions other) (cluster.leases.sessions other)
      (before.cluster.servers other) (cluster.servers other) := by
  cases step?_cases stepped with
  | lease label _ named =>
      cases label <;> cases named
  | server _ _ step =>
      by_cases same : other = id
      · subst same
        exact .server _ event step.allowed step.stepped transports (by rw [step.leases])
      · refine .still (others other same) (by rw [step.leases]) ?_
        rw [step.servers, Function.update_of_ne same]

theorem locals_of_lease {id : NodeSessionId} {input : LeaseInput}
    (stepped : before.leaseStep? config id input = some after)
    (allowed : (before.tasks id).allowsLease (config.runtime id)
        (before.cluster.leases.sessions id) (before.cluster.servers id) input = true ∨
      (before.tasks id).allowsRelease input = true) (other : NodeSessionId) :
    LocalStep (config.runtime other) other (before.tasks other) (after.tasks other)
      (before.cluster.leases.sessions other) (after.cluster.leases.sessions other)
      (before.cluster.servers other) (after.cluster.servers other) := by
  obtain ⟨leases, moved, rfl⟩ := Option.map_eq_some_iff.mp stepped
  rcases LeaseState.session_step? moved other with same | ⟨given, named, own⟩
  · exact .still rfl same rfl
  · cases named
    rcases allowed with allowed | allowed
    · exact .lease _ input allowed own rfl rfl
    · exact .release _ input allowed own rfl rfl

/-- Every step is for each `serve` one of its own steps or none. -/
theorem locals_step? {label : ServedLabel} (stepped : before.step? config label = some after)
    (id : NodeSessionId) :
    LocalStep (config.runtime id) id (before.tasks id) (after.tasks id)
      (before.cluster.leases.sessions id) (after.cluster.leases.sessions id)
      (before.cluster.servers id) (after.cluster.servers id) := by
  cases label with
  | tick elapsed =>
      obtain ⟨cluster, moved, rfl⟩ := Option.map_eq_some_iff.mp stepped
      obtain ⟨leases, ticked, rfl⟩ := Option.map_eq_some_iff.mp moved
      exact .still rfl (sessions_of_unnamed (by rintro _ _ ⟨⟩) ticked id) rfl
  | settleLease ticket =>
      obtain ⟨cluster, moved, rfl⟩ := Option.map_eq_some_iff.mp stepped
      obtain ⟨leases, settled, rfl⟩ := Option.map_eq_some_iff.mp moved
      exact .still rfl (sessions_of_unnamed (by rintro _ _ ⟨⟩) settled id) rfl
  | settleOwner ticket =>
      obtain ⟨cluster, moved, rfl⟩ := Option.map_eq_some_iff.mp stepped
      obtain ⟨owners, -, rfl⟩ := Option.map_eq_some_iff.mp moved
      exact .still rfl rfl rfl
  | fetch other conn =>
      obtain ⟨cluster, moved, rfl⟩ := Option.map_eq_some_iff.mp stepped
      obtain ⟨nodeId, -, rfl⟩ := Option.map_eq_some_iff.mp moved
      exact .still rfl rfl rfl
  | lease other input =>
      obtain ⟨allowed, moved⟩ := Option.ite_none_right_eq_some.mp stepped
      exact locals_of_lease moved (.inl allowed) id
  | release other input =>
      obtain ⟨allowed, moved⟩ := Option.ite_none_right_eq_some.mp stepped
      exact locals_of_lease moved (.inr allowed) id
  | server other event =>
      obtain ⟨-, moved⟩ := Option.ite_none_right_eq_some.mp stepped
      obtain ⟨cluster, taken, rfl⟩ := Option.map_eq_some_iff.mp moved
      exact locals_of_server taken .keeps (fun _ _ => rfl) id
  | accept other conn =>
      simp only [ServedState.step?] at stepped
      split at stepped
      · rename_i accepting
        obtain ⟨middle, moved, rfl⟩ := Option.map_eq_some_iff.mp stepped
        obtain ⟨cluster, taken, rfl⟩ := Option.map_eq_some_iff.mp moved
        refine locals_of_server taken ?_ ?_ id
        · simpa [ServedState.setTasks] using TransportStep.accepts accepting
        · intro another different
          simp [ServedState.setTasks, different]
      · cases stepped
  | register other =>
      simp only [ServedState.step?] at stepped
      split at stepped
      · rename_i conn registering
        obtain ⟨middle, moved, rfl⟩ := Option.map_eq_some_iff.mp stepped
        obtain ⟨cluster, taken, rfl⟩ := Option.map_eq_some_iff.mp moved
        refine locals_of_server taken ?_ ?_ id
        · simpa [ServedState.setTasks] using TransportStep.registers registering
        · intro another different
          simp [ServedState.setTasks, different]
      · cases stepped
  | serve other event =>
      obtain ⟨tasks, moved, rfl⟩ := Option.map_eq_some_iff.mp stepped
      by_cases same : id = other
      · subst same
        refine .serve event ?_ rfl rfl
        simpa [ServedState.setTasks] using moved
      · exact .still (by simp [ServedState.setTasks, same]) rfl rfl

end Served

/-! ## The steps of one `serve` -/

/-- The renewal task has returned once `fence` had. -/
def hasFenced : LeasePhase → Bool
  | .exited _ _ false => true
  | _ => false

/-- `serve` has called `release_node`. -/
def hasAsked : LeasePhase → Bool
  | .awaitingRelease _ | .finished => true
  | _ => false

/-- Nothing of the Node Lease is left to `serve`. -/
def ServeTasks.leaseSettled (tasks : ServeTasks) (session : NodeSession) : Prop :=
  tasks.renewalPanicked = true ∨ session.phase = .finished ∨ hasFenced session.phase = true

/-- What one step of `serve`, a panic, or the end of the transport task does. -/
inductive ServeStep (session : NodeSession) (server : Server) (tasks : ServeTasks) :
    ServeTasks → Prop where
  | begins (here : tasks.serve = .starting) (serving : session.isServing = true) :
      ServeStep session server tasks { tasks with serve := .waiting }
  | fails (here : tasks.serve = .starting) :
      ServeStep session server tasks { tasks with serve := .unstarted }
  | stops (result : Option ServeError) (here : tasks.serve = .waiting)
      (noticed : result = some .fenced → isFenced session = true) :
      ServeStep session server tasks { tasks with serve := .stopping result }
  | shuts (result shutdown : Option ServeError) (here : tasks.serve = .stopping result)
      (returned : shutdownResult? server.shutdown = some shutdown) :
      ServeStep session server tasks { tasks with serve := .signalling (result.or shutdown) }
  | signals (result : Option ServeError) (here : tasks.serve = .signalling result) :
      ServeStep session server tasks
        { tasks with renewalShutdown := true, serve := .joiningRenewal result }
  | joins (result : Option ServeError) (here : tasks.serve = .joiningRenewal result)
      (alive : tasks.renewalPanicked = false) (releases : isReleasing session.phase = true) :
      ServeStep session server tasks { tasks with serve := .releasing result }
  | forgets (result : Option ServeError)
      (here : tasks.serve = .joiningRenewal result ∨ tasks.serve = .releasing result)
      (settled : tasks.leaseSettled session) :
      ServeStep session server tasks { tasks with serve := .forcing result }
  | forces (result : Option ServeError) (here : tasks.serve = .forcing result) :
      ServeStep session server tasks
        { tasks with transportForce := true, serve := .joiningTransport result }
  | returns (result : Option ServeError) (here : tasks.serve = .joiningTransport result)
      (ended : tasks.transport = .ended) :
      ServeStep session server tasks { tasks with serve := .returned result }
  | panics (serving : session.isServing = true) (calls : callsStore session.phase = true) :
      ServeStep session server tasks { tasks with renewalPanicked := true }
  | closes (accepting : tasks.transport = .accepting) :
      ServeStep session server tasks { tasks with transport := .ended }

theorem serveStep_of_step? {session : NodeSession} {server : Server} {tasks after : ServeTasks}
    {event : ServeEvent} (stepped : tasks.step? session server event = some after) :
    ServeStep session server tasks after := by
  cases event with
  | advance =>
      simp only [ServeTasks.step?] at stepped
      split at stepped
      case h_1 here =>
        split at stepped
        · rename_i serving
          cases stepped
          exact .begins here serving
        · split at stepped <;> cases stepped
          exact .fails here
      case h_2 result here =>
        obtain ⟨shutdown, returned, rfl⟩ := Option.map_eq_some_iff.mp stepped
        exact .shuts result shutdown here returned
      case h_3 result here =>
        cases stepped
        exact .signals result here
      case h_4 result here =>
        split at stepped
        · rename_i panicked
          cases stepped
          exact .forgets result (.inl here) (.inl panicked)
        · rename_i alive
          split at stepped
          · rename_i hphase
            cases stepped
            exact .joins result here (by simpa using alive) (by rw [hphase]; rfl)
          · rename_i hphase
            cases stepped
            exact .forgets result (.inl here) (.inr (.inr (by rw [hphase]; rfl)))
          · cases stepped
      case h_5 result here =>
        obtain ⟨finished, made⟩ := Option.ite_none_right_eq_some.mp stepped
        cases made
        exact .forgets result (.inr here) (.inr (.inl finished))
      case h_6 result here =>
        cases stepped
        exact .forces result here
      case h_7 result here =>
        obtain ⟨ended, made⟩ := Option.ite_none_right_eq_some.mp stepped
        cases made
        exact .returns result here ended
      case h_8 => cases stepped
  | signal =>
      simp only [ServeTasks.step?] at stepped
      split at stepped
      · rename_i here
        cases stepped
        exact .stops none here (by rintro ⟨⟩)
      · cases stepped
  | notice error =>
      simp only [ServeTasks.step?] at stepped
      split at stepped
      · rename_i here
        obtain ⟨noticed, made⟩ := Option.ite_none_right_eq_some.mp stepped
        cases made
        refine .stops (some error) here ?_
        rintro ⟨⟩
        exact noticed
      · cases stepped
  | panic =>
      obtain ⟨calling, made⟩ := Option.ite_none_right_eq_some.mp stepped
      obtain ⟨serving, calls⟩ := Bool.and_eq_true_iff.mp calling
      cases made
      exact .panics serving calls
  | force =>
      obtain ⟨forced, made⟩ := Option.ite_none_right_eq_some.mp stepped
      cases made
      exact .closes (by simp_all)
  | close =>
      obtain ⟨closed, made⟩ := Option.ite_none_right_eq_some.mp stepped
      cases made
      exact .closes (by simp_all)

end Coactor.Cluster
