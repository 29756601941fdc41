import Coactor.Cluster.ServeOrder
import Coactor.Runtime.Progress

/-!
# A `serve` that stops goes on

Every await of a `serve` that stops is of a task that can take its next step:
`shutdown` has a timeout, the renewal task always leaves the point where it
stands, and a transport task with an accepted connection registers it.  Two
awaits have no timeout: `fence` can wait for an actor task that it has aborted,
and `serve` waits for the store's answer to `release_node`.
-/

namespace Coactor.Cluster

open Coactor.Foundation.Transition
open Coactor.Coordination
open Coactor.Runtime

variable {config : ClusterConfig}

/-! ## The next step of a renewal task -/

/-- A phase of `start` before the authority is constructed. -/
def isStarting : LeasePhase → Bool
  | .unstarted | .drafted _ | .acquiring _ _ | .inspected _ _ _ | .putting _ _ _
  | .awaitingAcquire _ _ _ | .confirmingStart _ _ _ | .readingStart _ _ _ | .acquired _ _ _ => true
  | _ => false

/-- The phases of `start` end with the construction of the authority. -/
def StartEnds (session : NodeSession) : Prop :=
  session.authority.isSome = true → isStarting session.phase = false

theorem startEnds_step? {id : NodeSessionId} {now : Nat} {session after : NodeSession}
    {input : LeaseInput} (stepped : session.step? id now input = some after) :
    StartEnds after := by
  intro constructed
  simp only [NodeSession.step?] at stepped
  split at stepped
  case h_1 missing =>
    simp only [NodeSession.startStep] at stepped
    split at stepped
    case h_14 =>
      cases stepped
      rfl
    all_goals first
      | (cases stepped; done)
      | (cases stepped; simp [missing] at constructed)
      | (split at stepped <;> cases stepped <;> simp [missing] at constructed)
  split at stepped
  case h_1 node revision hphase =>
    cases input <;> simp only [NodeSession.startStep, hphase, reduceCtorEq] at stepped
    split at stepped <;> cases stepped <;> rfl
  simp only [NodeSession.renewalStep] at stepped
  split at stepped
  all_goals first
    | (cases stepped; done)
    | (cases stepped; rfl)
    | (split at stepped <;> cases stepped <;> rfl)

/-- An input that needs no answer of the store. -/
def isLocal : LeaseInput → Bool
  | .found reply => reply == .elapsed
  | .outcome reply => reply == .elapsed
  | .readBack reply => reply == .elapsed
  | _ => true

/-- How a started session that has been told to stop goes on, where the store never
answers. -/
def nextInput (sample : CapacitySample) (ticket : Nat) : LeasePhase → LeaseInput
  | .sleeping _ _ => .shutdown
  | .begun _ _ _ => .sample sample
  | .renewing _ _ _ | .exited _ _ _ => .issued ticket
  | .awaitingRenewal _ _ _ _ => .outcome .elapsed
  | .reading _ _ _ _ _ => .readBack .elapsed
  | _ => .advance

/-- Nothing is left for a session to do but to hear of its release. -/
def isOut : LeasePhase → Bool
  | .exited _ _ false | .awaitingRelease _ | .finished => true
  | _ => false

theorem isOut_of_running {phase : LeasePhase} (running : hasExited phase = false) :
    isOut phase = false := by
  unfold isOut
  split
  · cases running
  · cases running
  · cases running
  · rfl

theorem step?_nextInput {id : NodeSessionId} {now ticket : Nat} {sample : CapacitySample}
    {session : NodeSession} (ends : StartEnds session) (serving : session.isServing = true)
    (inside : isOut session.phase = false) :
    (session.step? id now (nextInput sample ticket session.phase)).isSome = true := by
  obtain ⟨isSome, started⟩ := Bool.and_eq_true_iff.mp serving
  have ended := ends isSome
  obtain ⟨authority, constructed⟩ := Option.isSome_iff_exists.mp isSome
  simp only [NodeSession.step?, constructed]
  cases hphase : session.phase with
  | constructed | failed =>
      rw [hphase] at started
      cases started
  | awaitingRelease | finished =>
      rw [hphase] at inside
      cases inside
  | exited node revision release =>
      cases release with
      | true => rfl
      | false =>
          rw [hphase] at inside
          cases inside
  | confirming node revision started deadline left =>
      cases left with
      | zero => rfl
      | succ left =>
          simp only [nextInput, NodeSession.renewalStep]
          split <;> rfl
  | woken | sampled | undecided | reading =>
      simp only [nextInput, NodeSession.renewalStep]
      split <;> rfl
  | _ =>
      first
        | rfl
        | (rw [hphase] at ended; cases ended)

/-! ## The connections of a transport task -/

theorem inbound_ne_unaccepted (envelope : Envelope) : envelope.inbound ≠ .unaccepted :=
  envelope.inbound_cases (motive := fun pc => pc ≠ .unaccepted) (by rintro ⟨⟩)
    (by rintro _ _ _ ⟨⟩) (by rintro _ _ ⟨⟩) (by rintro _ ⟨⟩) (by rintro _ _ ⟨⟩)

theorem afterClose_ne_unaccepted (after : AfterClose) : after.pc ≠ .unaccepted := by
  cases after <;> rintro ⟨⟩

/-- An accepted connection stays accepted. -/
theorem accepted_move {config : RuntimeConfig} {before after : Server} {id : Nat}
    {pc next : ConnPc} (move : ConnMove config before after id pc next)
    (accepted : pc ≠ .unaccepted) : next ≠ .unaccepted := by
  cases move with
  | quiet _ move =>
      cases move with
      | receive envelope => exact inbound_ne_unaccepted envelope
      | unclosed => exact afterClose_ne_unaccepted _
      | noted => exact accepted
      | _ => rintro ⟨⟩
  | unopened _ _ _ _ onward => rcases onward with ⟨error, rfl⟩ | rfl <;> rintro ⟨⟩
  | unacted _ _ _ _ onward => rcases onward with rfl | rfl <;> rintro ⟨⟩
  | closed | unheard => exact afterClose_ne_unaccepted _
  | _ => rintro ⟨⟩

theorem accepted_step? {config : RuntimeConfig} {valid : Bool} {server after : Server}
    {event : ServerEvent} {conn : Nat} (accepted : (server.conns conn).pc ≠ .unaccepted)
    (stepped : server.step? config valid event = some after) :
    (after.conns conn).pc ≠ .unaccepted := by
  cases Server.step?_moves stepped with
  | @conn id _ _ others move =>
      by_cases same : conn = id
      · subst same
        exact accepted_move move accepted
      · rw [others conn same]
        exact accepted
  | task _ effect =>
      rw [effect.conns]
      exact accepted
  | shutdown effect | fence effect =>
      rw [effect.conns]
      exact accepted

theorem accepts_receiving {config : RuntimeConfig} {valid : Bool} {server after : Server}
    {conn : Nat} (stepped : server.step? config valid (.conn conn .accept) = some after) :
    (after.conns conn).pc = .receiving := by
  cases here : (server.conns conn).pc with
  | unaccepted =>
      simp only [Server.step?, Server.connStep?, here, Option.some.injEq] at stepped
      subst stepped
      simp [Server.setConn]
  | _ => simp [Server.step?, Server.connStep?, here] at stepped

/-- What a `serve` that stops needs of its session and its Server. -/
structure Attended (tasks : ServeTasks) (session : NodeSession) (server : Server) : Prop where
  starts : StartEnds session
  accepted : ∀ conn, tasks.transport = .registering conn →
    (server.conns conn).pc ≠ .unaccepted

theorem Attended.step {config : RuntimeConfig} {id : NodeSessionId} {tasks tasks' : ServeTasks}
    {session session' : NodeSession} {server server' : Server}
    (ok : Attended tasks session server)
    (step : LocalStep config id tasks tasks' session session' server server') :
    Attended tasks' session' server' := by
  cases step with
  | still tasks_eq session_eq server_eq =>
      subst tasks_eq session_eq server_eq
      exact ok
  | lease now input _ stepped tasks_eq server_eq =>
      subst tasks_eq server_eq
      exact ⟨startEnds_step? stepped, ok.accepted⟩
  | release now input _ stepped tasks_eq server_eq =>
      subst tasks_eq server_eq
      exact ⟨startEnds_step? stepped, ok.accepted⟩
  | server valid event _ stepped transports session_eq =>
      subst session_eq
      refine ⟨ok.starts, fun conn registering => ?_⟩
      cases transports with
      | keeps => exact accepted_step? (ok.accepted conn registering) stepped
      | accepts =>
          cases registering
          rw [accepts_receiving stepped]
          rintro ⟨⟩
      | registers => cases registering
  | serve event stepped session_eq server_eq =>
      subst session_eq server_eq
      refine ⟨ok.starts, fun conn registering => ok.accepted conn ?_⟩
      cases serveStep_of_step? stepped with
      | closes => cases registering
      | _ => exact registering

theorem attended_of_reachable {state : ServedState}
    (reach : (servedSystem config).Reachable state) (id : NodeSessionId) :
    Attended (state.tasks id) (state.cluster.leases.sessions id) (state.cluster.servers id) := by
  refine invariant_of_step (fun state : ServedState =>
    Attended (state.tasks id) (state.cluster.leases.sessions id) (state.cluster.servers id))
    ?_ ?_ reach
  · rintro start ⟨⟨leases, -, -⟩, tasks⟩
    rw [tasks, leases.2.2]
    refine ⟨?_, ?_⟩
    · rintro ⟨⟩
    · rintro conn ⟨⟩
  · intro before label after ok _ stepped
    exact ok.step (locals_step? stepped id)

/-! ## The next step of a `serve` that stops -/

/-- `serve` has begun to stop and has not returned. -/
def ServePc.isStopping (pc : ServePc) : Bool := decide (2 ≤ pc.stage) && decide (pc.stage < 8)

/-- The steps of one `serve` and of the tasks that it ends, of `shutdown` and of
`fence`; the clock, the writes that the store settles and whatever it answers, the
connection tasks and the actor tasks are left out. -/
def ServedLabel.ends (id : NodeSessionId) : ServedLabel → Bool
  | .lease other input | .release other input => other == id && isLocal input
  | .register other | .serve other _ => other == id
  | .server other (.shutdown _) | .server other .fence => other == id
  | _ => false

section Enabled

variable {state : ServedState} {id : NodeSessionId}

theorem answerable_nextInput {leases : LeaseStamp} (state : LeaseState)
    (sample : CapacitySample) (phase : LeasePhase) :
    state.answerable leases id (nextInput sample state.store.tickets phase) = true := by
  cases phase <;> simp [nextInput, LeaseState.answerable]

theorem isLocal_nextInput (sample : CapacitySample) (ticket : Nat) (phase : LeasePhase) :
    isLocal (nextInput sample ticket phase) = true := by
  cases phase <;> rfl

theorem sent_nextInput {state : LeaseState} {sample : CapacitySample} {ticket : Nat}
    (inside : isOut (state.sessions id).phase = false) :
    (state.sent id (nextInput sample ticket (state.sessions id).phase)).isSome = true := by
  cases hphase : (state.sessions id).phase with
  | exited node revision release =>
      cases release with
      | true => simp [nextInput, LeaseState.sent, NodeSession.write?, hphase]
      | false =>
          rw [hphase] at inside
          cases inside
  | renewing => simp [nextInput, LeaseState.sent, NodeSession.write?, hphase]
  | _ => rfl

/-- The store and the session can take the next input at any moment. -/
theorem leaseStep?_nextInput {sample : CapacitySample}
    (starts : StartEnds (state.cluster.leases.sessions id))
    (serving : (state.cluster.leases.sessions id).isServing = true)
    (inside : isOut (state.cluster.leases.sessions id).phase = false) :
    (state.leaseStep? config id (nextInput sample state.cluster.leases.store.tickets
      (state.cluster.leases.sessions id).phase)).isSome = true := by
  have steps := @step?_nextInput id state.cluster.leases.now state.cluster.leases.store.tickets
    sample _ starts serving inside
  obtain ⟨session, stepped⟩ := Option.isSome_iff_exists.mp steps
  have sends := @sent_nextInput id state.cluster.leases sample
    state.cluster.leases.store.tickets inside
  obtain ⟨store, sent⟩ := Option.isSome_iff_exists.mp sends
  simp [ServedState.leaseStep?, LeaseState.step?, answerable_nextInput, sent, stepped]

/-- A step that `serve` awaits is enabled. -/
def EndsOn (config : ClusterConfig) (state : ServedState) (id : NodeSessionId) : Prop :=
  ∃ label, label.ends id = true ∧ ((servedSystem config).step? state label).isSome = true

/-- `serve` takes its own next step. -/
theorem endsOn_of_advance
    (advances : ((state.tasks id).step? (state.cluster.leases.sessions id)
      (state.cluster.servers id) .advance).isSome = true) : EndsOn config state id := by
  refine ⟨.serve id .advance, by simp [ServedLabel.ends], ?_⟩
  simpa [servedSystem, ServedState.step?] using advances

/-- A step of the Server that `serve` leaves to it. -/
theorem endsOn_of_server {event : ServerEvent}
    (ends : (ServedLabel.server id event).ends id = true)
    (allowed : (state.tasks id).allowsServer event = true)
    (own : allowsServer (state.cluster.leases.sessions id) event = true)
    (unanswered : state.cluster.answerable config id event = true)
    (stepped : ((state.cluster.servers id).step? (config.runtime id)
      (state.cluster.authorityValid id) event).isSome = true) : EndsOn config state id := by
  refine ⟨.server id event, ends, ?_⟩
  simp [servedSystem, ServedState.step?, allowed, ServedState.clusterStep?, ClusterState.step?, own,
    unanswered, stepped]

theorem endsOn_of_lease {input : LeaseInput} (own : isLocal input = true)
    (allowed : (state.tasks id).allowsLease (config.runtime id)
      (state.cluster.leases.sessions id) (state.cluster.servers id) input = true)
    (takes : (state.leaseStep? config id input).isSome = true) : EndsOn config state id := by
  refine ⟨.lease id input, by simp [ServedLabel.ends, own], ?_⟩
  simpa [servedSystem, ServedState.step?, allowed] using takes

theorem endsOn_of_release {input : LeaseInput} (own : isLocal input = true)
    (allowed : (state.tasks id).allowsRelease input = true)
    (takes : (state.leaseStep? config id input).isSome = true) : EndsOn config state id := by
  refine ⟨.release id input, by simp [ServedLabel.ends, own], ?_⟩
  simpa [servedSystem, ServedState.step?, allowed] using takes

/-- An actor task that `fence` has aborted and waits for, and that goes on. -/
def FenceWaits (config : RuntimeConfig) (server : Server) : Prop :=
  ∃ generation rest, server.fence = .waiting (generation :: rest) ∧
    server.Completing config generation

theorem shutdownStep?_expired {server : Server} (underWay : server.shutdown.hasReturned = false) :
    (server.shutdownStep? true server.shutdown).isSome = true := by
  cases here : server.shutdown with
  | returned | skipped =>
      rw [here] at underWay
      cases underWay
  | idle | terminating =>
      simp only [Server.shutdownStep?]
      split <;> rfl
  | _ => rfl

theorem shutdownResult?_of_returned {pc : ShutdownPc} (returned : pc.hasReturned = true) :
    (shutdownResult? pc).isSome = true := by
  cases pc with
  | returned timedOut => cases timedOut <;> rfl
  | skipped => rfl
  | _ => cases returned

/-- `shutdown` goes on, if only because its timeout has elapsed. -/
theorem endsOn_of_stopping {result : Option ServeError}
    (ok : ServeOk (state.tasks id) (state.cluster.leases.sessions id) (state.cluster.servers id))
    (here : (state.tasks id).serve = .stopping result) : EndsOn config state id := by
  have serving := ok.started (by rw [here]; exact Nat.le_succ 1)
  cases returned : (state.cluster.servers id).shutdown.hasReturned with
  | true =>
      refine endsOn_of_advance ?_
      simpa [ServeTasks.step?, here] using shutdownResult?_of_returned returned
  | false =>
      refine @endsOn_of_server config state id (.shutdown true) (by simp [ServedLabel.ends]) ?_
        serving rfl (shutdownStep?_expired returned)
      simp [ServeTasks.allowsServer, here]

theorem allowsLease_nextInput {config : RuntimeConfig} {tasks : ServeTasks}
    {session : NodeSession} {server : Server} {ticket : Nat}
    (running : tasks.renewalEnded session = false) (told : tasks.renewalShutdown = true)
    (calm : session.phase.isFencing = true → server.fence = .returned) :
    tasks.allowsLease config session server
      (nextInput (server.capacitySample config) ticket session.phase) = true := by
  cases hphase : session.phase with
  | fencing =>
      have returned := calm (by rw [hphase]; rfl)
      simp [ServeTasks.allowsLease, running, nextInput, hphase, returned]
  | _ => simp [ServeTasks.allowsLease, running, told, nextInput, hphase, LeasePhase.isFencing]

/-- `serve` goes on once its renewal task has ended. -/
theorem endsOn_of_ended {result : Option ServeError}
    (ok : ServeOk (state.tasks id) (state.cluster.leases.sessions id) (state.cluster.servers id))
    (here : (state.tasks id).serve = .joiningRenewal result)
    (ended : (state.tasks id).renewalEnded (state.cluster.leases.sessions id) = true) :
    EndsOn config state id := by
  refine endsOn_of_advance ?_
  cases panicked : (state.tasks id).renewalPanicked with
  | true => simp [ServeTasks.step?, here, panicked]
  | false =>
      have exited : hasExited (state.cluster.leases.sessions id).phase = true := by
        simpa [ServeTasks.renewalEnded, panicked] using ended
      cases hphase : (state.cluster.leases.sessions id).phase with
      | exited node revision release =>
          cases release <;> simp [ServeTasks.step?, here, panicked, hphase]
      | awaitingRelease | finished =>
          have late := ok.asked (by rw [hphase]; rfl)
          rw [here] at late
          exact absurd late (Nat.lt_irrefl 4)
      | _ =>
          rw [hphase] at exited
          cases exited

/-- The renewal task goes on, or awaits `fence`. -/
theorem endsOn_of_joining {result : Option ServeError}
    (ok : ServeOk (state.tasks id) (state.cluster.leases.sessions id) (state.cluster.servers id))
    (starts : StartEnds (state.cluster.leases.sessions id))
    (reach : (serverSystem (config.runtime id)).Reachable (state.cluster.servers id))
    (here : (state.tasks id).serve = .joiningRenewal result) :
    EndsOn config state id ∨ FenceWaits (config.runtime id) (state.cluster.servers id) := by
  have stage : (state.tasks id).serve.stage = 4 := by rw [here]; rfl
  have serving := ok.started (by omega)
  have told := ok.signalled.mpr (by omega)
  cases ended : (state.tasks id).renewalEnded (state.cluster.leases.sessions id) with
  | true => exact .inl (endsOn_of_ended ok here ended)
  | false =>
      have inside := isOut_of_running (Bool.or_eq_false_iff.mp ended).2
      by_cases calm : (state.cluster.leases.sessions id).phase.isFencing = true →
          (state.cluster.servers id).fence = .returned
      · have takes := @leaseStep?_nextInput config state id
          ((state.cluster.servers id).capacitySample (config.runtime id)) starts serving inside
        have allowed := @allowsLease_nextInput (config.runtime id) _ _ _
          state.cluster.leases.store.tickets ended told calm
        exact .inl (endsOn_of_lease (isLocal_nextInput _ _ _) allowed takes)
      · obtain ⟨fencing, unreturned⟩ := Classical.not_imp.mp calm
        rcases Server.fence_goes_or_waits (waitsOk_of_reachable reach)
          (snapshotsOk_of_reachable reach) unreturned with goes | waits
        · refine .inl (@endsOn_of_server config state id .fence (by simp [ServedLabel.ends]) rfl ?_
            rfl goes)
          simp [allowsServer, serving, fencing]
        · exact .inr waits

/-- `serve` waits for the store's answer to `release_node`. -/
def ReleaseWaits (tasks : ServeTasks) (session : NodeSession) : Prop :=
  (∃ result, tasks.serve = .releasing result) ∧ ∃ ticket, session.phase = .awaitingRelease ticket

/-- `serve` sends its release, waits for the answer, or has it. -/
theorem endsOn_of_releasing {result : Option ServeError}
    (ok : ServeOk (state.tasks id) (state.cluster.leases.sessions id) (state.cluster.servers id))
    (starts : StartEnds (state.cluster.leases.sessions id))
    (here : (state.tasks id).serve = .releasing result) :
    EndsOn config state id ∨ ReleaseWaits (state.tasks id) (state.cluster.leases.sessions id) := by
  have stage : (state.tasks id).serve.stage = 5 := by rw [here]; rfl
  have serving := ok.started (by omega)
  obtain ⟨-, releases⟩ := ok.releasing stage
  cases hphase : (state.cluster.leases.sessions id).phase with
  | awaitingRelease ticket => exact .inr ⟨⟨result, here⟩, ticket, hphase⟩
  | finished =>
      refine .inl (endsOn_of_advance ?_)
      simp [ServeTasks.step?, here, hphase]
  | exited node revision release =>
      cases release with
      | false =>
          rw [hphase] at releases
          cases releases
      | true =>
          have inside : isOut (state.cluster.leases.sessions id).phase = false := by
            rw [hphase]
            rfl
          have takes := @leaseStep?_nextInput config state id ⟨0, 0, false⟩ starts serving inside
          refine .inl (endsOn_of_release (isLocal_nextInput _ _ _) ?_ takes)
          simp [ServeTasks.allowsRelease, nextInput, here, hphase]
  | _ =>
      rw [hphase] at releases
      cases releases

/-- The transport task registers an accepted connection, and is forced to end. -/
theorem endsOn_of_transport {result : Option ServeError}
    (ok : ServeOk (state.tasks id) (state.cluster.leases.sessions id) (state.cluster.servers id))
    (accepted : ∀ conn, (state.tasks id).transport = .registering conn →
      ((state.cluster.servers id).conns conn).pc ≠ .unaccepted)
    (here : (state.tasks id).serve = .joiningTransport result) : EndsOn config state id := by
  have stage : (state.tasks id).serve.stage = 7 := by rw [here]; rfl
  have serving := ok.started (by omega)
  cases transport : (state.tasks id).transport with
  | ended =>
      refine endsOn_of_advance ?_
      simp [ServeTasks.step?, here, transport]
  | accepting =>
      have forced := ok.forced.mpr (by omega)
      refine ⟨.serve id .force, by simp [ServedLabel.ends], ?_⟩
      simp [servedSystem, ServedState.step?, ServeTasks.step?, transport, forced]
  | registering conn =>
      have there := accepted conn transport
      have registers : (state.cluster.servers id).connStep? (config.runtime id)
          (state.cluster.authorityValid id) conn ((state.cluster.servers id).conns conn).pc
            .register ≠ none := by
        cases pc : ((state.cluster.servers id).conns conn).pc with
        | unaccepted => exact absurd pc there
        | _ => simp [Server.connStep?]
      refine ⟨.register id, by simp [ServedLabel.ends], ?_⟩
      have own : allowsServer (state.cluster.leases.sessions id) (.conn conn .register) = true :=
        serving
      have unanswered : state.cluster.answerable config id (.conn conn .register) = true := rfl
      simpa [servedSystem, ServedState.step?, transport, ServedState.clusterStep?,
        ClusterState.step?, own, unanswered, Server.step?, Option.isSome_iff_ne_none] using registers

end Enabled

/-- A `serve` that stops never hangs on one of its own tasks: some step that it
awaits is enabled, whatever the store does, or `fence` waits for an actor task that it
has aborted and that goes on, or the release is sent and the store has not answered. -/
theorem stopping_serve_goes_on {state : ServedState}
    (reach : (servedSystem config).Reachable state) (id : NodeSessionId)
    (stopping : (state.tasks id).serve.isStopping = true) :
    EndsOn config state id ∨ FenceWaits (config.runtime id) (state.cluster.servers id) ∨
      ReleaseWaits (state.tasks id) (state.cluster.leases.sessions id) := by
  have ok := serveOk_of_reachable reach id
  have attended := attended_of_reachable reach id
  have server := servers_reachable ((serve_refines_cluster config).reachable reach) id
  cases here : (state.tasks id).serve with
  | starting | unstarted | waiting | returned =>
      rw [here] at stopping
      cases stopping
  | stopping => exact .inl (endsOn_of_stopping ok here)
  | signalling | forcing =>
      refine .inl (endsOn_of_advance ?_)
      simp [ServeTasks.step?, here]
  | joiningRenewal => exact (endsOn_of_joining ok attended.starts server here).imp_right .inl
  | releasing => exact (endsOn_of_releasing ok attended.starts here).imp_right .inr
  | joiningTransport => exact .inl (endsOn_of_transport ok attended.accepted here)

/-- A `serve` that has shut its runtime down waits for its renewal task, which is
told to stop. -/
theorem joining_serve_goes_on :
    ∃ state, (servedSystem twoNodes).Reachable state ∧
      (state.tasks ⟨"a-1"⟩).serve = .joiningRenewal none ∧ EndsOn twoNodes state ⟨"a-1"⟩ := by
  have reach := @reachable_of_run? _ _ (servedSystem twoNodes)
    ⟨twoNodesStart, fun _ => .fresh⟩ _
    (startServe ⟨"a-1"⟩ 0 ⟨""⟩ ++ (stopServe ⟨"a-1"⟩ 1 ⟨""⟩).take 9)
    ⟨⟨⟨by decide, rfl, rfl⟩, rfl, rfl, rfl⟩, rfl⟩ rfl
  rcases @stopping_serve_goes_on twoNodes _ reach ⟨"a-1"⟩ rfl with
    goes | ⟨_, _, waits, -⟩ | ⟨⟨_, releases⟩, -⟩
  · exact ⟨_, reach, rfl, goes⟩
  · cases waits
  · cases releases

end Coactor.Cluster
