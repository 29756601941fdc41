import Coactor.Cluster.Serve
import Coactor.Cluster.Takeover
import Coactor.Foundation.Simulation

/-!
# The order in which `serve` ends its tasks

A `serve` that stops waits for `ServerInner::shutdown`, for its renewal task, for
the release of its Node Lease, and for its transport task, in this order.  So the
renewal task is told to stop only once the runtime has shut down, as the cluster
assumes, and every run of the `serve` calls is a run of the cluster.
-/

namespace Coactor.Cluster

open Coactor.Foundation.Transition
open Coactor.Coordination
open Coactor.Runtime

variable {config : ClusterConfig}

/-! ## What holds on the way -/

/-- How far `serve` has come. -/
def ServePc.stage : ServePc → Nat
  | .starting | .unstarted => 0
  | .waiting => 1
  | .stopping _ => 2
  | .signalling _ => 3
  | .joiningRenewal _ => 4
  | .releasing _ => 5
  | .forcing _ => 6
  | .joiningTransport _ => 7
  | .returned _ => 8

/-- The error that `serve` is going to return, as far as it is known. -/
def ServePc.error? : ServePc → Option ServeError
  | .starting | .unstarted | .waiting => none
  | .stopping result | .signalling result | .joiningRenewal result | .releasing result
  | .forcing result | .joiningTransport result | .returned result => result

theorem shutdownResult?_eq_some {pc : ShutdownPc} {result : Option ServeError}
    (returned : shutdownResult? pc = some result) :
    pc.hasReturned = true ∧ result ≠ some .fenced := by
  unfold shutdownResult? at returned
  split at returned <;> cases returned <;> simp [ShutdownPc.hasReturned]

/-- A task that calls the store is on no way out. -/
theorem isReleasing_of_callsStore {phase : LeasePhase} (calls : callsStore phase = true) :
    isReleasing phase = false ∧ isLost phase = false := by
  unfold callsStore at calls
  split at calls
  all_goals first
    | exact ⟨rfl, rfl⟩
    | cases calls

theorem isReleasing_of_hasAsked {phase : LeasePhase} (asked : hasAsked phase = true) :
    isReleasing phase = true := by
  unfold hasAsked at asked
  split at asked
  all_goals first
    | rfl
    | cases asked

theorem apart_of_isReleasing {phase : LeasePhase} (releases : isReleasing phase = true) :
    isLost phase = false ∧ hasFenced phase = false := by
  unfold isReleasing at releases
  split at releases
  all_goals first
    | exact ⟨rfl, rfl⟩
    | cases releases

theorem isLost_of_isFencing {phase : LeasePhase} (fencing : phase.isFencing = true) :
    isLost phase = true := by
  unfold LeasePhase.isFencing at fencing
  split at fencing
  · rfl
  · cases fencing

theorem ServeTasks.renewalEnded_of_releasing (tasks : ServeTasks) {session : NodeSession}
    (releases : isReleasing session.phase = true) : tasks.renewalEnded session = true := by
  unfold isReleasing at releases
  split at releases
  case h_4 => cases releases
  all_goals
    rename_i hphase
    simp [ServeTasks.renewalEnded, hphase, hasExited]

theorem ServeTasks.leaseSettled.renewalEnded {tasks : ServeTasks} {session : NodeSession}
    (settled : tasks.leaseSettled session) : tasks.renewalEnded session = true := by
  rcases settled with panicked | finished | fenced
  · simp [ServeTasks.renewalEnded, panicked]
  · simp [ServeTasks.renewalEnded, finished, hasExited]
  · unfold hasFenced at fenced
    split at fenced
    · rename_i hphase
      simp [ServeTasks.renewalEnded, hphase, hasExited]
    · cases fenced

/-- How far the tasks of one `serve`, its session and its Server are. -/
structure ServeOk (tasks : ServeTasks) (session : NodeSession) (server : Server) : Prop where
  started : 1 ≤ tasks.serve.stage → session.isServing = true
  stopped : 3 ≤ tasks.serve.stage → server.shutdown.hasReturned = true
  signalled : tasks.renewalShutdown = true ↔ 4 ≤ tasks.serve.stage
  told : isReleasing session.phase = true → tasks.renewalShutdown = true
  released : session.released = true → isReleasing session.phase = true
  down : AuthorityLoss.FlagDownLeaves session
  fencing : server.fence ≠ .idle → isLost session.phase = true
  fenced : hasFenced session.phase = true → server.fence = .returned
  asked : hasAsked session.phase = true → 5 ≤ tasks.serve.stage
  joined : 5 ≤ tasks.serve.stage → tasks.renewalEnded session = true
  releasing : tasks.serve.stage = 5 →
    tasks.renewalPanicked = false ∧ isReleasing session.phase = true
  settled : 6 ≤ tasks.serve.stage → tasks.leaseSettled session
  forced : tasks.transportForce = true ↔ 7 ≤ tasks.serve.stage
  closed : 8 ≤ tasks.serve.stage → tasks.transport = .ended
  panicked : tasks.renewalPanicked = true → callsStore session.phase = true
  error : tasks.serve.error? = some .fenced → isFenced session = true

namespace ServeOk

variable {tasks tasks' : ServeTasks} {session session' : NodeSession} {server server' : Server}

theorem fresh (config : NodeConfig) (id : NodeSessionId) :
    ServeOk .fresh (.fresh config.lease) (.fresh (config.runtime id)) := by
  constructor
  case down =>
    rintro authority ⟨⟩
  all_goals simp [ServeTasks.fresh, ServePc.stage, ServePc.error?, NodeSession.fresh, Server.fresh,
    isReleasing, hasAsked, hasFenced]

/-- A step of `serve` comes after all that it waits for. -/
theorem serveMoves (ok : ServeOk tasks session server)
    (step : ServeStep session server tasks tasks') : ServeOk tasks' session server := by
  cases step
  case panics serving calls =>
    have outside := (isReleasing_of_callsStore calls).1
    exact { ok with
      joined := fun _ => by simp [ServeTasks.renewalEnded]
      releasing := fun here => by
        have inside := outside.symm.trans (ok.releasing here).2
        cases inside
      settled := fun _ => .inl rfl
      panicked := fun _ => calls }
  case closes accepting =>
    exact { ok with closed := fun _ => rfl }
  all_goals obtain ⟨started, stopped, signalled, told, released, down, fencing, fenced, asked,
    joined, releasing, settled, forced, closed, panicked, error⟩ := ok
  case shuts result shutdown here returned =>
    obtain ⟨done, unfenced⟩ := shutdownResult?_eq_some returned
    constructor <;> simp_all [ServePc.stage, ServePc.error?]
  case joins result here alive releases =>
    have ended := ServeTasks.renewalEnded_of_releasing tasks releases
    constructor <;> simp_all [ServePc.stage, ServePc.error?, ServeTasks.renewalEnded]
  case forgets result here done =>
    have ended := done.renewalEnded
    rcases here with here | here
    all_goals constructor <;> simp_all [ServePc.stage, ServePc.error?, ServeTasks.renewalEnded,
      ServeTasks.leaseSettled]
  all_goals constructor <;> simp_all [ServePc.stage, ServePc.error?, ServeTasks.renewalEnded,
    ServeTasks.leaseSettled]

/-- The renewal task is told to stop only by `serve`, and leaves a lost lease only
after `fence`. -/
theorem leaseMoves {config : RuntimeConfig} {id : NodeSessionId} {now : Nat} {input : LeaseInput}
    (ok : ServeOk tasks session server)
    (allowed : tasks.allowsLease config session server input = true)
    (stepped : session.step? id now input = some session') : ServeOk tasks session' server := by
  obtain ⟨running, allows⟩ := Bool.and_eq_true_iff.mp allowed
  have running : tasks.renewalEnded session = false := by simpa using running
  obtain ⟨alive, inLoop⟩ := Bool.or_eq_false_iff.mp running
  have early : tasks.serve.stage < 5 := by
    by_contra late
    have ended := running.symm.trans (ok.joined (Nat.le_of_not_lt late))
    cases ended
  have exit := exitStep_of_step? stepped
  constructor
  case started => exact fun here => isServing_step? (ok.started here) stepped
  case stopped => exact ok.stopped
  case signalled => exact ok.signalled
  case told =>
    intro releases
    cases exit with
    | inside _ there _ =>
        rw [there.1] at releases
        cases releases
    | told node revision shutdown _ _ _ =>
        subst shutdown
        exact allows
    | loses _ _ _ there =>
        rw [there] at releases
        cases releases
    | leaves _ _ _ _ there =>
        rw [there] at releases
        cases releases
    | issues _ _ _ here =>
        rw [here] at inLoop
        cases inLoop
    | finishes _ here =>
        rw [here] at inLoop
        cases inLoop
  case released =>
    intro released
    cases exit with
    | inside here _ same =>
        have earlier := here.1.symm.trans (ok.released (same ▸ released))
        cases earlier
    | told node revision _ _ there _ =>
        rw [there]
        rfl
    | loses _ _ here _ same | leaves _ _ _ here _ same =>
        have earlier := ok.released (same ▸ released)
        rw [here] at earlier
        cases earlier
    | issues _ _ _ _ there | finishes _ _ there =>
        rw [there]
        rfl
  case down => exact AuthorityLoss.step?_flagDownLeaves ok.down stepped
  case fencing =>
    intro fences
    have lost := ok.fencing fences
    cases exit with
    | inside here =>
        rw [here.2] at lost
        cases lost
    | told _ _ _ here | issues _ _ _ here | finishes _ here =>
        rw [here] at lost
        cases lost
    | loses _ _ _ there | leaves _ _ _ _ there =>
        rw [there]
        rfl
  case fenced =>
    intro fenced
    cases exit with
    | inside _ there =>
        have outside := there.2
        unfold hasFenced at fenced
        split at fenced
        · rename_i hphase
          rw [hphase] at outside
          cases outside
        · cases fenced
    | leaves node revision advance here _ _ =>
        subst advance
        rw [here] at allows
        simpa [LeasePhase.isFencing] using allows
    | told _ _ _ _ there | loses _ _ _ there | issues _ _ _ _ there | finishes _ _ there =>
        rw [there] at fenced
        cases fenced
  case asked =>
    intro asked
    cases exit with
    | inside _ there =>
        have outside := there.1
        rw [isReleasing_of_hasAsked asked] at outside
        cases outside
    | told _ _ _ _ there | loses _ _ _ there | leaves _ _ _ _ there =>
        rw [there] at asked
        cases asked
    | issues _ _ _ here | finishes _ here =>
        rw [here] at inLoop
        cases inLoop
  case joined => exact fun late => absurd early (Nat.not_lt.mpr late)
  case releasing => exact fun here => absurd early (Nat.not_lt.mpr (Nat.le_of_eq here.symm))
  case settled => exact fun late => absurd early (by omega)
  case forced => exact ok.forced
  case closed => exact ok.closed
  case panicked =>
    intro panicked
    rw [alive] at panicked
    cases panicked
  case error => exact fun here => isFenced_step? (ok.error here) stepped

/-- `serve` releases only a lease that its renewal task has left to it. -/
theorem releaseMoves {id : NodeSessionId} {now : Nat} {input : LeaseInput}
    (ok : ServeOk tasks session server) (allowed : tasks.allowsRelease input = true)
    (stepped : session.step? id now input = some session') : ServeOk tasks session' server := by
  have here : tasks.serve.stage = 5 := by
    unfold ServeTasks.allowsRelease at allowed
    split at allowed
    case h_3 => cases allowed
    all_goals
      split at allowed
      · rename_i here
        rw [here]
        rfl
      · cases allowed
  obtain ⟨alive, releases⟩ := ok.releasing here
  have still : isReleasing session'.phase = true := by
    cases exitStep_of_step? stepped with
    | inside here =>
        rw [here.1] at releases
        cases releases
    | told _ _ _ here | loses _ _ here | leaves _ _ _ here =>
        rw [here] at releases
        cases releases
    | issues _ _ _ _ there | finishes _ _ there =>
        rw [there]
        rfl
  constructor
  case started => exact fun here => isServing_step? (ok.started here) stepped
  case stopped => exact ok.stopped
  case signalled => exact ok.signalled
  case told => exact fun _ => ok.told releases
  case released => exact fun _ => still
  case down => exact AuthorityLoss.step?_flagDownLeaves ok.down stepped
  case fencing =>
    intro fences
    have kept := ok.fencing fences
    rw [(apart_of_isReleasing releases).1] at kept
    cases kept
  case fenced =>
    intro fenced
    rw [(apart_of_isReleasing still).2] at fenced
    cases fenced
  case asked => exact fun _ => Nat.le_of_eq here.symm
  case joined => exact fun _ => tasks.renewalEnded_of_releasing still
  case releasing => exact fun _ => ⟨alive, still⟩
  case settled => omega
  case forced => exact ok.forced
  case closed => exact ok.closed
  case panicked =>
    intro panicked
    rw [alive] at panicked
    cases panicked
  case error => exact fun here => isFenced_step? (ok.error here) stepped

/-- The Server is fenced only for its renewal task, and its transport task stays ended. -/
theorem serverMoves {config : RuntimeConfig} {valid : Bool} {event : ServerEvent}
    (ok : ServeOk tasks session server) (own : allowsServer session event = true)
    (stepped : server.step? config valid event = some server')
    (transports : TransportStep tasks event tasks') : ServeOk tasks' session server' := by
  have moved : ServeOk tasks session server' := by
    rcases sameControl_or stepped with control | ⟨_, -, shuts⟩ | ⟨isFence, fences⟩
    · exact { ok with
        stopped := control.shutdown ▸ ok.stopped
        fencing := control.fence ▸ ok.fencing
        fenced := control.fence ▸ ok.fenced }
    · obtain ⟨unreturned, fence, -⟩ := shutdownStep?_control shuts
      exact { ok with
        stopped := fun late => by
          rw [ok.stopped late] at unreturned
          cases unreturned
        fencing := fence ▸ ok.fencing
        fenced := fence ▸ ok.fenced }
    · obtain ⟨unreturned, -, shutdown⟩ := fenceStep?_control fences
      subst isFence
      exact { ok with
        stopped := shutdown ▸ ok.stopped
        fencing := fun _ => isLost_of_isFencing (Bool.and_eq_true_iff.mp own).2
        fenced := fun fenced => absurd (ok.fenced fenced) unreturned }
  have open_until (going : tasks.transport ≠ .ended) (transport : TransportPc) :
      ServeOk { tasks with transport := transport } session server' :=
    { moved with closed := fun late => absurd (ok.closed late) going }
  cases transports with
  | keeps => exact moved
  | accepts here => exact open_until (by rw [here]; rintro ⟨⟩) _
  | registers here => exact open_until (by rw [here]; rintro ⟨⟩) _

theorem step {config : RuntimeConfig} {id : NodeSessionId} (ok : ServeOk tasks session server)
    (step : LocalStep config id tasks tasks' session session' server server') :
    ServeOk tasks' session' server' := by
  cases step with
  | still tasks_eq session_eq server_eq =>
      subst tasks_eq session_eq server_eq
      exact ok
  | lease now input allowed stepped tasks_eq server_eq =>
      subst tasks_eq server_eq
      exact ok.leaseMoves allowed stepped
  | release now input allowed stepped tasks_eq server_eq =>
      subst tasks_eq server_eq
      exact ok.releaseMoves allowed stepped
  | server valid event own stepped transports session_eq =>
      subst session_eq
      exact ok.serverMoves own stepped transports
  | serve event stepped session_eq server_eq =>
      subst session_eq server_eq
      exact ok.serveMoves (serveStep_of_step? stepped)

end ServeOk

theorem serveOk_of_reachable {state : ServedState} (reach : (servedSystem config).Reachable state)
    (id : NodeSessionId) :
    ServeOk (state.tasks id) (state.cluster.leases.sessions id) (state.cluster.servers id) := by
  refine invariant_of_step (fun state : ServedState =>
    ServeOk (state.tasks id) (state.cluster.leases.sessions id) (state.cluster.servers id))
    ?_ ?_ reach
  · rintro start ⟨⟨leases, -, servers, -⟩, tasks⟩
    rw [tasks, servers, leases.2.2]
    exact .fresh (config.nodes id) id
  · intro before label after ok _ stepped
    exact ok.step (locals_step? stepped id)

/-! ## The cluster of `serve` calls refines the cluster -/

/-- What `serve` allows its renewal task, the Server allows it too. -/
theorem allowsLease_of_serve {config : RuntimeConfig} {tasks : ServeTasks} {session : NodeSession}
    {server : Server} {input : LeaseInput} (ok : ServeOk tasks session server)
    (allowed : tasks.allowsLease config session server input = true) :
    server.allowsLease config session.phase input = true := by
  obtain ⟨-, allows⟩ := Bool.and_eq_true_iff.mp allowed
  cases input with
  | shutdown =>
      have signalled := ok.signalled.mp allows
      exact ok.stopped (by omega)
  | _ => exact allows

theorem clusterStep_of_lease {before after : ServedState} {id : NodeSessionId} {input : LeaseInput}
    (allows : (before.cluster.servers id).allowsLease (config.runtime id)
      (before.cluster.leases.sessions id).phase input = true)
    (stepped : before.leaseStep? config id input = some after) :
    before.cluster.step? config (.lease id input) = some after.cluster := by
  obtain ⟨leases, moved, rfl⟩ := Option.map_eq_some_iff.mp stepped
  simp [ClusterState.step?, allows, moved]

/-- Every run of the `serve` calls is one of the cluster, in which nothing else
tells a renewal task to stop. -/
theorem serve_refines_cluster (config : ClusterConfig) :
    Refines (servedSystem config) (clusterSystem config) ServedState.cluster where
  initial := fun _ initial => initial.1
  step := by
    intro before label after reach stepped
    cases label with
    | tick elapsed =>
        obtain ⟨cluster, moved, rfl⟩ := Option.map_eq_some_iff.mp stepped
        exact .inr ⟨.tick elapsed, moved⟩
    | settleLease ticket =>
        obtain ⟨cluster, moved, rfl⟩ := Option.map_eq_some_iff.mp stepped
        exact .inr ⟨.settleLease ticket, moved⟩
    | settleOwner ticket =>
        obtain ⟨cluster, moved, rfl⟩ := Option.map_eq_some_iff.mp stepped
        exact .inr ⟨.settleOwner ticket, moved⟩
    | fetch id conn =>
        obtain ⟨cluster, moved, rfl⟩ := Option.map_eq_some_iff.mp stepped
        exact .inr ⟨.fetch id conn, moved⟩
    | lease id input =>
        obtain ⟨allowed, moved⟩ := Option.ite_none_right_eq_some.mp stepped
        have allows := allowsLease_of_serve (serveOk_of_reachable reach id) allowed
        exact .inr ⟨.lease id input, clusterStep_of_lease allows moved⟩
    | release id input =>
        obtain ⟨allowed, moved⟩ := Option.ite_none_right_eq_some.mp stepped
        refine .inr ⟨.lease id input, clusterStep_of_lease ?_ moved⟩
        cases input with
        | issued _ | outcome _ => rfl
        | _ => cases allowed
    | server id event =>
        obtain ⟨-, moved⟩ := Option.ite_none_right_eq_some.mp stepped
        obtain ⟨cluster, taken, rfl⟩ := Option.map_eq_some_iff.mp moved
        exact .inr ⟨.server id event, taken⟩
    | accept id conn =>
        simp only [servedSystem, ServedState.step?] at stepped
        split at stepped
        · obtain ⟨middle, moved, rfl⟩ := Option.map_eq_some_iff.mp stepped
          obtain ⟨cluster, taken, rfl⟩ := Option.map_eq_some_iff.mp moved
          exact .inr ⟨.server id (.conn conn .accept), taken⟩
        · cases stepped
    | register id =>
        simp only [servedSystem, ServedState.step?] at stepped
        split at stepped
        · rename_i conn _
          obtain ⟨middle, moved, rfl⟩ := Option.map_eq_some_iff.mp stepped
          obtain ⟨cluster, taken, rfl⟩ := Option.map_eq_some_iff.mp moved
          exact .inr ⟨.server id (.conn conn .register), taken⟩
        · cases stepped
    | serve id event =>
        obtain ⟨tasks, -, rfl⟩ := Option.map_eq_some_iff.mp stepped
        exact .inl rfl

/-! ## How `serve` ends -/

/-- A `serve` ends its tasks in order: `shutdown` has returned on a Server never
fenced before the Node Lease is released, the lease is released, lost or out of
reach before the transport task is forced to stop, and this one has ended before
`serve` returns. -/
structure EndsInOrder (tasks : ServeTasks) (session : NodeSession) (server : Server) : Prop where
  released : session.released = true →
    (∃ timedOut, server.shutdown = .returned timedOut) ∧ server.status = .stopped ∧
      server.fence = .idle
  forced : tasks.transportForce = true →
    server.status ≠ .running ∧
      (tasks.renewalPanicked = true ∨ session.phase = .finished ∨ server.fence = .returned)
  returned : ∀ result, tasks.serve = .returned result →
    tasks.transportForce = true ∧ tasks.transport = .ended
  fenced : tasks.serve = .returned (some .fenced) → server.fence = .returned

theorem ServeOk.endsInOrder {config : RuntimeConfig} {tasks : ServeTasks} {session : NodeSession}
    {server : Server} (ok : ServeOk tasks session server)
    (reach : (serverSystem config).Reachable server) : EndsInOrder tasks session server := by
  have stopped (late : 3 ≤ tasks.serve.stage) : server.status ≠ .running := by
    intro running
    have returned := ok.stopped late
    rw [((routesOk_of_reachable reach).quiet running).1] at returned
    cases returned
  have settled (session_settled : tasks.leaseSettled session) :
      tasks.renewalPanicked = true ∨ session.phase = .finished ∨ server.fence = .returned :=
    session_settled.imp_right (Or.imp_right ok.fenced)
  constructor
  case released =>
    intro released
    have releases := ok.released released
    have unfenced : server.fence = .idle := by
      by_contra fenced
      have lost := ok.fencing fenced
      rw [(apart_of_isReleasing releases).1] at lost
      cases lost
    have signalled := ok.signalled.mp (ok.told releases)
    have returned := ok.stopped (by omega)
    have status := status_of_unfenced reach unfenced
    cases here : server.shutdown with
    | returned timedOut =>
        rw [here] at status
        exact ⟨⟨timedOut, rfl⟩, (Option.some.inj status).symm, unfenced⟩
    | skipped =>
        rw [here] at status
        cases status
    | _ =>
        rw [here] at returned
        cases returned
  case forced =>
    intro forced
    have late := ok.forced.mp forced
    exact ⟨stopped (by omega), settled (ok.settled (by omega))⟩
  case returned =>
    intro result here
    have last : tasks.serve.stage = 8 := by rw [here]; rfl
    exact ⟨ok.forced.mpr (by omega), ok.closed (by omega)⟩
  case fenced =>
    intro here
    have last : tasks.serve.stage = 8 := by rw [here]; rfl
    obtain ⟨authority, constructed, down⟩ :=
      Option.any_eq_true _ _ |>.mp (ok.error (by rw [here]; rfl))
    rcases ok.settled (by omega) with panicked | finished | fenced
    · have calls := ok.panicked panicked
      rcases ok.down authority constructed (by simpa using down) with ⟨_, _, hphase⟩ |
        ⟨_, _, hphase⟩ <;> rw [hphase] at calls <;> cases calls
    · rcases ok.down authority constructed (by simpa using down) with ⟨_, _, hphase⟩ |
        ⟨_, _, hphase⟩ <;> rw [finished] at hphase <;> cases hphase
    · exact ok.fenced fenced

/-- Every `serve` ends its tasks in order, and the cluster is one that the theorems
about the cluster are about. -/
theorem serve_ends_in_order {state : ServedState}
    (reach : (servedSystem config).Reachable state) :
    (clusterSystem config).Reachable state.cluster ∧
      ∀ id, EndsInOrder (state.tasks id) (state.cluster.leases.sessions id)
        (state.cluster.servers id) := by
  have cluster := (serve_refines_cluster config).reachable reach
  exact ⟨cluster, fun id =>
    (serveOk_of_reachable reach id).endsInOrder (servers_reachable cluster id)⟩

/-- A session starts and its `serve` begins to wait. -/
def startServe (id : NodeSessionId) (ticket : Nat) (revision : Revision) : List ServedLabel :=
  [.lease id .advance, .lease id .advance, .lease id (.found (.ok none)), .lease id .advance,
    .lease id (.issued ticket), .settleLease ticket,
    .lease id (.outcome (.ok (.applied revision))), .lease id .advance, .lease id .advance,
    .serve id .advance]

/-- A `serve` is told to stop, and releases its lease. -/
def stopServe (id : NodeSessionId) (ticket : Nat) (revision : Revision) : List ServedLabel :=
  .serve id .signal :: List.replicate 6 (.server id (.shutdown false)) ++
    [.serve id .advance, .serve id .advance, .lease id .shutdown, .serve id .advance,
      .release id (.issued ticket), .settleLease ticket,
      .release id (.outcome (.ok (.applied revision))), .serve id .advance, .serve id .advance,
      .serve id .force, .serve id .advance]

theorem stopped_serve_has_released :
    ∃ state, (servedSystem twoNodes).Reachable state ∧
      (state.tasks ⟨"a-1"⟩).serve = .returned none ∧
      (state.cluster.leases.sessions ⟨"a-1"⟩).released = true ∧
      (state.cluster.servers ⟨"a-1"⟩).status = .stopped := by
  have reach := @reachable_of_run? _ _ (servedSystem twoNodes)
    ⟨twoNodesStart, fun _ => .fresh⟩ _ (startServe ⟨"a-1"⟩ 0 ⟨""⟩ ++ stopServe ⟨"a-1"⟩ 1 ⟨""⟩)
    ⟨⟨⟨by decide, rfl, rfl⟩, rfl, rfl, rfl⟩, rfl⟩ rfl
  have ended := (@serve_ends_in_order twoNodes _ reach).2 ⟨"a-1"⟩
  exact ⟨_, reach, rfl, rfl, (ended.released rfl).2.1⟩

end Coactor.Cluster
