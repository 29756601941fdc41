import Coactor.Cluster.Displacement
import Coactor.Coordination.AuthorityLoss
import Coactor.Runtime.Draining

/-!
# Live sessions

A session is live while its Server is running and its Node authority is valid.
A live session has not given its lease back.  As long as no lease is taken over
whose session may still be valid, the stored lease of its node names it, and no
other session of its node is live.  As long as granted renewals are taken up in
time, a started session that is not live never is again.
-/

namespace Coactor.Cluster

open Coactor.Foundation.Transition
open Coactor.Coordination
open Coactor.Runtime

variable {config : ClusterConfig} {state before after : ClusterState}
variable {guard : ClusterState → ClusterLabel → Prop}

structure Live (state : ClusterState) (id : NodeSessionId) : Prop where
  running : (state.servers id).status = .running
  valid : state.authorityValid id = true

theorem Serves.live {id : NodeSessionId} {address : ActorAddress}
    (serves : Serves state id address) : Live state id :=
  ⟨serves.running, serves.valid⟩

/-! ## Sessions that give their lease back -/

def exitsToRelease : LeasePhase → Bool
  | .exited _ _ release => release
  | _ => false

/-- The session gives its lease back, or is about to. -/
def givesBack (session : NodeSession) : Bool :=
  session.released || exitsToRelease session.phase

/-- Only the shutdown signal makes a session give its lease back. -/
theorem step?_givesBack {id : NodeSessionId} {now : Nat} {session next : NodeSession}
    {input : LeaseInput} (stepped : session.step? id now input = some next)
    (gives : givesBack next = true) : givesBack session = true ∨ input = .shutdown := by
  have kept : ∀ other : NodeSession, givesBack other = true →
      other.released = session.released → exitsToRelease other.phase = false →
        givesBack session = true := by
    intro other gives released phase
    simp only [givesBack, released, phase, Bool.or_false] at gives
    simp [givesBack, gives]
  simp only [NodeSession.step?] at stepped
  split at stepped
  · simp only [NodeSession.startStep] at stepped
    split at stepped
    all_goals first
      | (cases stepped; done)
      | (cases stepped; exact .inl (kept _ gives rfl rfl))
      | (split at stepped <;> cases stepped <;> exact .inl (kept _ gives rfl rfl))
  · split at stepped
    · rename_i hphase
      cases input <;> simp only [NodeSession.startStep, hphase, reduceCtorEq] at stepped
      split at stepped <;> cases stepped <;> exact .inl (kept _ gives rfl rfl)
    · simp only [NodeSession.renewalStep] at stepped
      split at stepped
      case h_2 => exact .inr rfl
      case h_19 hphase => exact .inl (by simp [givesBack, exitsToRelease, hphase])
      all_goals first
        | (cases stepped; done)
        | (cases stepped; exact .inl (kept _ gives rfl rfl))
        | (split at stepped <;> cases stepped <;> exact .inl (kept _ gives rfl rfl))

/-- A Server that is running was running before. -/
theorem running_before {server next : Server} {runtime : RuntimeConfig} {authorityValid : Bool}
    {event : ServerEvent} (routes : RoutesOk server)
    (stepped : server.step? runtime authorityValid event = some next)
    (running : next.status = .running) : server.status = .running := by
  cases event with
  | conn conn event =>
      rw [← (Server.connStep?_effect rfl stepped).1.status]
      exact running
  | task generation event =>
      obtain ⟨task, -, stepped⟩ := Option.bind_eq_some_iff.mp stepped
      obtain ⟨moved, effect⟩ := Server.taskStep?_effect stepped
      rw [← effect.status]
      exact running
  | shutdown expired =>
      have stops := Server.shutdownStep?_stops
        (fun begun still => begun (routes.quiet still).1) stepped
      exact absurd running stops
  | fence =>
      have stops := Server.fenceStep?_stops
        (fun begun still => begun (routes.quiet still).2) stepped
      exact absurd running stops

/-- A session that gives its lease back has shut its Server down. -/
theorem givesBack_stops (reach : (clusterSystem config).ReachableWhile guard state)
    (id : NodeSessionId) (gives : givesBack (state.leases.sessions id) = true) :
    (state.servers id).status ≠ .running := by
  refine invariant_of_reachable_step (fun state : ClusterState =>
    givesBack (state.leases.sessions id) = true → (state.servers id).status ≠ .running) ?_ ?_
    reach gives
  · rintro start ⟨⟨-, -, sessions⟩, -⟩ gives
    rw [sessions] at gives
    cases gives
  · intro before label after earlier stops _ stepped gives running
    have routes := routesOk_of_reachable (servers_reachable earlier id)
    cases step?_cases stepped with
    | lease label _ _ allowed moved _ servers =>
        rw [servers] at running
        rcases LeaseState.session_step? moved id with same | ⟨input, rfl, advanced⟩
        · exact stops (same ▸ gives) running
        · rcases step?_givesBack advanced gives with gave | rfl
          · exact stops gave running
          · have returned := allowed id .shutdown rfl
            simp only [Server.allowsLease, (routes.quiet running).1] at returned
            cases returned
    | settleOwner _ _ leases servers =>
        rw [leases] at gives
        rw [servers] at running
        exact stops gives running
    | fetch _ _ _ _ _ leases _ servers =>
        rw [leases] at gives
        rw [servers] at running
        exact stops gives running
    | server other event step =>
        rw [step.leases] at gives
        by_cases same : id = other
        · subst same
          exact stops gives (running_before routes step.stepped running)
        · rw [step.servers, Function.update_of_ne same] at running
          exact stops gives running

/-! ## What a live session holds -/

theorem lease_config (reach : (clusterSystem config).ReachableWhile guard state)
    (id : NodeSessionId) : (state.leases.sessions id).config = (config.nodes id).lease :=
  config_of_reachable (leases_reachable reach) id

theorem Live.kept (reach : (clusterSystem config).ReachableWhile guard state)
    {id : NodeSessionId} (live : Live state id) :
    (state.leases.sessions id).released = false := by
  by_contra released
  rw [Bool.not_eq_false] at released
  exact givesBack_stops reach id (by simp [givesBack, released]) live.running

/-- The lease tasks take up renewals in time, and take over no lease whose
session may still be valid. -/
def LeasesTenable (config : ClusterConfig) (state : ClusterState) (label : ClusterLabel) : Prop :=
  ∀ id input, label = .lease id input →
    Tenable config.leases state.leases (.session id input)

/-- The leases of a cluster whose steps are tenable run tenably. -/
theorem leases_tenable
    (tenable : ∀ state label, guard state label → LeasesTenable config state label)
    (reach : (clusterSystem config).ReachableWhile guard state) :
    (leaseSystem config.leases fun id => (config.nodes id).lease).ReachableWhile
      (Tenable config.leases) state.leases := by
  refine invariant_of_step (fun state : ClusterState =>
    (leaseSystem config.leases fun id => (config.nodes id).lease).ReachableWhile
      (Tenable config.leases) state.leases) ?_ ?_ reach
  · rintro start ⟨initial, -⟩
    exact .start initial
  · intro before label after earlier met stepped
    cases step?_cases stepped with
    | lease leaseLabel _ named _ moved =>
        refine .step earlier ?_ moved
        cases leaseLabel with
        | session id input => exact tenable _ _ met id input named
        | _ => exact ⟨by rintro _ _ ⟨⟩, by rintro _ _ _ _ _ _ ⟨⟩⟩
    | settleOwner _ _ leases =>
        rw [leases]
        exact earlier
    | fetch _ _ _ _ _ leases =>
        rw [leases]
        exact earlier
    | server _ _ step =>
        rw [step.leases]
        exact earlier

/-- In tenable runs the stored lease of a node names the session that is live. -/
theorem Live.holdsNode
    (tenable : ∀ state label, guard state label → LeasesTenable config state label)
    (reach : (clusterSystem config).ReachableWhile guard state) {id : NodeSessionId}
    (live : Live state id) : HoldsNode state.leases id :=
  holdsNode_of_valid (leases_tenable tenable reach) live.valid (live.kept reach)

/-- Two sessions of one node are not both named by its stored lease. -/
theorem holdsNode_unique (reach : (clusterSystem config).ReachableWhile guard state)
    {first second : NodeSessionId} (one : HoldsNode state.leases first)
    (two : HoldsNode state.leases second)
    (node : (config.nodes first).lease.nodeId = (config.nodes second).lease.nodeId) :
    first = second := by
  refine one.unique two ?_
  rw [lease_config reach, lease_config reach]
  exact node

/-! ## Sessions that were live before -/

/-- The Server of a session that has not been started is as it was built. -/
theorem serving_or_fresh (reach : (clusterSystem config).ReachableWhile guard state)
    (id : NodeSessionId) :
    (state.leases.sessions id).isServing = true ∨
      state.servers id = .fresh (config.runtime id) := by
  refine invariant_of_step (fun state : ClusterState =>
    (state.leases.sessions id).isServing = true ∨ state.servers id = .fresh (config.runtime id))
    ?_ ?_ reach
  · rintro start ⟨-, -, fresh, -⟩
    exact .inr (by rw [fresh])
  · rintro before label after (serving | fresh) _ stepped
    · exact .inl (isServing_clusterStep serving (step?_cases stepped))
    · cases step?_cases stepped with
      | lease _ _ _ _ _ _ servers => exact .inr (servers ▸ fresh)
      | settleOwner _ _ _ servers => exact .inr (servers ▸ fresh)
      | fetch _ _ _ _ _ _ _ servers => exact .inr (servers ▸ fresh)
      | server other event step =>
          by_cases same : id = other
          · subst same
            rw [step.leases]
            exact .inl (isServing_of_allowsServer step.allowed)
          · rw [step.servers, Function.update_of_ne same]
            exact .inr fresh

/-- The authority a session takes up, if it takes one up, is in time. -/
def TakesUpInTime (state : ClusterState) (label : ClusterLabel) : Prop :=
  ∀ id input, label = .lease id input →
    AuthorityLoss.Timely ⟨state.leases.now, state.leases.sessions id⟩ (.input input)

theorem LeasesTenable.takesUp {label : ClusterLabel} (tenable : LeasesTenable config state label) :
    TakesUpInTime state label :=
  fun id input named => (tenable id input named).takesUp id input rfl

/-- A step of the leases is one of the session alone, seen from it. -/
theorem authorityValid_before {label : ClusterLabel} {id : NodeSessionId}
    (timely : TakesUpInTime before label) (stepped : before.step? config label = some after)
    (serving : (before.leases.sessions id).isServing = true)
    (valid : after.authorityValid id = true) : before.authorityValid id = true := by
  obtain ⟨authority, constructed⟩ :=
    Option.isSome_iff_exists.mp (Bool.and_eq_true_iff.mp serving).1
  by_contra lost
  rw [Bool.not_eq_true] at lost
  have stays : ∀ timed : AuthorityLoss.TimedLabel,
      AuthorityLoss.Timely ⟨before.leases.now, before.leases.sessions id⟩ timed →
      AuthorityLoss.TimedSession.step? id ⟨before.leases.now, before.leases.sessions id⟩ timed =
        some ⟨after.leases.now, after.leases.sessions id⟩ → False := by
    intro timed timely moved
    have stillLost := (AuthorityLoss.step?_keeps_loss timely moved constructed lost).2
    exact absurd (valid.symm.trans stillLost) (by rintro ⟨⟩)
  cases step?_cases stepped with
  | settleOwner _ _ leases _ =>
      rw [ClusterState.authorityValid, leases] at valid
      exact absurd (valid.symm.trans lost) (by rintro ⟨⟩)
  | fetch _ _ _ _ _ leases =>
      rw [ClusterState.authorityValid, leases] at valid
      exact absurd (valid.symm.trans lost) (by rintro ⟨⟩)
  | server _ _ step =>
      rw [ClusterState.authorityValid, step.leases] at valid
      exact absurd (valid.symm.trans lost) (by rintro ⟨⟩)
  | lease leaseLabel _ named _ moved _ _ =>
      rcases LeaseState.session_step? moved id with same | ⟨input, rfl, advanced⟩
      · rcases LeaseState.now_step? moved with still | ⟨elapsed, -, later⟩
        · rw [ClusterState.authorityValid, same, still] at valid
          exact absurd (valid.symm.trans lost) (by rintro ⟨⟩)
        · refine stays (.tick elapsed) (by rintro _ _ _ _ _ _ ⟨⟩) ?_
          rw [same, later]
          rfl
      · refine stays (.input input) (timely id input named) ?_
        rcases LeaseState.now_step? moved with still | ⟨elapsed, other, -⟩
        · rw [still]
          simp [AuthorityLoss.TimedSession.step?, advanced]
        · cases other

/-- A started session that is live was live before. -/
theorem live_before {label : ClusterLabel} {id : NodeSessionId}
    (reach : (clusterSystem config).ReachableWhile guard before)
    (timely : TakesUpInTime before label) (stepped : before.step? config label = some after)
    (serving : (before.leases.sessions id).isServing = true) (live : Live after id) :
    Live before id := by
  refine ⟨?_, authorityValid_before timely stepped serving live.valid⟩
  have running := live.running
  cases step?_cases stepped with
  | lease _ _ _ _ _ _ servers =>
      rw [servers] at running
      exact running
  | settleOwner _ _ _ servers =>
      rw [servers] at running
      exact running
  | fetch _ _ _ _ _ _ _ servers =>
      rw [servers] at running
      exact running
  | server other event step =>
      by_cases same : id = other
      · subst same
        exact running_before (routesOk_of_reachable (servers_reachable reach id)) step.stepped
          running
      · rw [step.servers, Function.update_of_ne same] at running
        exact running

end Coactor.Cluster
