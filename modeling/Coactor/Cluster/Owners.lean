import Coactor.Cluster.Calls

/-!
# Where the owner records of a cluster come from

Every owner write is a claim or a release of a record that its session read
before, and every owner that a record has ever named is a session that has been
started.
-/

namespace Coactor.Cluster

open Coactor.Foundation
open Coactor.Foundation.Transition
open Coactor.Foundation.ConditionalStore
open Coactor.Coordination
open Coactor.Runtime

variable {config : ClusterConfig} {state before after : ClusterState}

/-! ## Started sessions -/

theorem isServing_of_allowsServer {session : NodeSession} {event : ServerEvent}
    (allowed : allowsServer session event = true) : session.isServing = true := by
  cases event with
  | fence => exact (Bool.and_eq_true_iff.mp allowed).1
  | _ => exact allowed

/-- A started session stays started. -/
theorem isServing_step? {id : NodeSessionId} {now : Nat} {session next : NodeSession}
    {input : LeaseInput} (serving : session.isServing = true)
    (stepped : session.step? id now input = some next) : next.isServing = true := by
  obtain ⟨some', started⟩ := Bool.and_eq_true_iff.mp serving
  obtain ⟨authority, constructed⟩ := Option.isSome_iff_exists.mp some'
  simp only [NodeSession.step?, constructed] at stepped
  split at stepped
  · rename_i hphase
    rw [hphase] at started
    cases started
  · simp only [NodeSession.renewalStep] at stepped
    split at stepped
    all_goals first
      | (cases stepped; done)
      | (cases stepped; simp [NodeSession.isServing, constructed])
      | (split at stepped <;> cases stepped <;> simp [NodeSession.isServing, constructed])

theorem isServing_leaseStep {id : NodeSessionId} {label : LeaseLabel} {leases : LeaseState}
    (serving : (state.leases.sessions id).isServing = true)
    (stepped : state.leases.step? config.leases label = some leases) :
    (leases.sessions id).isServing = true := by
  rcases LeaseState.session_step? stepped id with same | ⟨input, -, moved⟩
  · rw [same]
    exact serving
  · exact isServing_step? serving moved

/-- A started session stays started in a cluster. -/
theorem isServing_clusterStep {id : NodeSessionId} {label : ClusterLabel}
    (serving : (before.leases.sessions id).isServing = true)
    (stepped : ClusterStep config before after label) :
    (after.leases.sessions id).isServing = true := by
  cases stepped with
  | lease _ _ _ _ stepped _ _ => exact isServing_leaseStep serving stepped
  | settleOwner _ _ leases _ => exact leases ▸ serving
  | fetch _ _ _ _ _ leases => exact leases ▸ serving
  | server _ _ step => exact step.leases ▸ serving

/-! ## Answered calls -/

/-- A step of a Server leaves the owner records alone, answers a `resolve`, or
answers a `release_local_owner`. -/
theorem ServerStep.answered_cases {id : NodeSessionId} {event : ServerEvent}
    (step : ServerStep config before after id event) :
    after.owners = before.owners ∨
    (∃ conn reply address session reserved request resume answer,
      event = .conn conn (.reply reply) ∧
      ((before.servers id).conns conn).pc =
        .resolving address session (.call request resume) reserved ∧
      Answered config before after id .claim conn address request reply answer) ∨
    (∃ generation reply task request resume answer,
      event = .task generation (.reply reply) ∧
      (before.servers id).tasks generation = some task ∧
      task.pc = .releasing (.call request resume) ∧
      Answered config before after id .release generation task.address request reply answer) := by
  rcases step.owners_cases with same | ⟨call, suspended, -⟩
  · exact .inl same
  · have stepped := step.stepped
    unfold suspendedCall? at suspended
    split at suspended
    · rename_i conn reply
      split at suspended
      · rename_i address session program reserved here
        cases Server.connStep?_move rfl stepped with
        | replied address' session' old next reserved' _ reply' waiting answered resumed _ =>
            cases answered
            rw [here] at waiting
            cases waiting
            obtain ⟨request, resume, answer, rfl, rfl, answers⟩ :=
              step.answers_resolve here resumed
            exact .inr (.inl ⟨conn, reply, address, session, reserved, request, resume, answer,
              rfl, here, answers⟩)
        | begun _ _ waiting _ =>
            rw [here] at waiting
            cases waiting
        | kept _ silent => exact absurd rfl (silent reply)
        | carried _ _ _ silent => exact absurd rfl (silent reply)
        | freed _ silent => exact absurd rfl (silent reply)
      · cases suspended
    · rename_i generation reply
      obtain ⟨task, found, suspended⟩ := Option.bind_eq_some_iff.mp suspended
      obtain ⟨task', found', stepped⟩ := Option.bind_eq_some_iff.mp stepped
      rw [found] at found'
      cases found'
      split at suspended
      · rename_i program here
        obtain ⟨next, effect⟩ := Server.taskStep?_effect stepped
        have there : (after.servers id).tasks generation = some next := by
          rw [effect.tasks, Function.update_self]
        cases Server.taskStep?_move stepped there with
        | replied old following reply' waiting answered resumed _ =>
            cases answered
            rw [here] at waiting
            cases waiting
            obtain ⟨request, resume, answer, rfl, rfl, answers⟩ :=
              step.answers_release found here resumed
            exact .inr (.inr ⟨generation, reply, task, request, resume, answer, rfl, found, here,
              answers⟩)
        | begun waiting _ =>
            rw [here] at waiting
            cases waiting
        | freed _ silent => exact absurd rfl (silent reply)
      · cases suspended
    · cases suspended

/-! ## The invariant -/

/-- The owner records, the calls that read and write them, and the sessions that
wrote them. -/
structure OwnershipOk (config : ClusterConfig) (state : ClusterState) : Prop where
  owners : OwnersOk config.owners state.owners
  calls : CallsOk state.servers
    (fun id _ address program =>
      ResolveOk config.owners state.owners address (config.router id) program)
    (fun id address program =>
      ReleaseOk config.owners state.owners address (config.router id) program)
  issuers : ∀ ticket write, state.owners.writes ticket = some write →
    ∃ id, write.issuer.router = config.router id ∧
      (state.leases.sessions id).isServing = true

namespace OwnershipOk

theorem server {id : NodeSessionId} {event : ServerEvent} (ok : OwnershipOk config before)
    (step : ServerStep config before after id event) : OwnershipOk config after := by
  have wf := ok.owners.wellformed
  have serving := isServing_of_allowsServer step.allowed
  have keptIssuers : ∀ ticket write, before.owners.writes ticket = some write →
      ∃ id, write.issuer.router = config.router id ∧
        (after.leases.sessions id).isServing = true := by
    rw [step.leases]
    exact ok.issuers
  constructor
  case owners =>
    rcases step.answered_cases with same |
      ⟨conn, reply, address, session, reserved, request, resume, answer, -, here, answers⟩ |
      ⟨generation, reply, task, request, resume, answer, -, found, here, answers⟩
    · rw [same]
      exact ok.owners
    · exact (ResolveOk.step ok.owners (ok.calls.resolving _ _ _ _ _ _ here)
        (answers.step? resume)).1
    · exact (ReleaseOk.step ok.owners (ok.calls.releasing _ _ _ _ found here)
        (answers.step? resume)).1
  case calls =>
    refine ok.calls.server step ⟨?_, ?_, fun _ _ => resolveOk_start, fun _ => releaseOk_start,
      ?_, ?_⟩
    · intro other conn address program _ kept
      rcases step.owners_cases with same | ⟨call, -, served⟩
      · rw [same]
        exact kept
      · rw [served]
        exact kept.serve wf _ _ _
    · intro other address program kept
      rcases step.owners_cases with same | ⟨call, -, served⟩
      · rw [same]
        exact kept
      · rw [served]
        exact kept.serve wf _ _ _
    · intro conn address reply request resume answer _ _ kept answers
      exact (ResolveOk.step ok.owners kept (answers.step? resume)).2
    · intro generation address reply request resume answer _ kept answers
      exact (ReleaseOk.step ok.owners kept (answers.step? resume)).2
  case issuers =>
    rcases step.owners_cases with same | ⟨call, -, served⟩
    · rw [same]
      exact keptIssuers
    · intro ticket write found
      rw [served] at found
      cases request : call.request with
      | compareExchange record revision =>
          rw [request] at found
          rcases writes_issue_cases found with ⟨-, rfl⟩ | old
          · exact ⟨id, rfl, step.leases ▸ serving⟩
          · exact keptIssuers ticket write old
      | _ =>
          rw [request] at found
          exact keptIssuers ticket write found

/-- Every step keeps the invariant. -/
theorem step {label : ClusterLabel} (ok : OwnershipOk config before)
    (stepped : ClusterStep config before after label) : OwnershipOk config after := by
  cases stepped with
  | lease _ _ _ _ moved owners servers =>
      refine ⟨owners ▸ ok.owners, ?_, fun ticket write found => ?_⟩
      · rw [owners, servers]
        exact ok.calls
      · rw [owners] at found
        obtain ⟨id, router, serving⟩ := ok.issuers ticket write found
        exact ⟨id, router, isServing_leaseStep serving moved⟩
  | settleOwner _ settled leases servers =>
      refine ⟨ok.owners.settle settled, ?_, fun ticket write found => ?_⟩
      · rw [servers]
        exact ok.calls.mono (fun _ _ _ _ _ kept => kept.settle settled)
          (fun _ _ _ kept => kept.settle settled)
      · obtain ⟨fate, old⟩ := writes_settle? settled found
        rw [leases]
        have before := ok.issuers ticket _ old
        exact before
  | fetch _ _ _ _ _ leases owners servers =>
      refine ⟨owners ▸ ok.owners, ?_, ?_⟩
      · rw [owners, servers]
        exact ok.calls
      · rw [owners, leases]
        exact ok.issuers
  | server id event step => exact ok.server step

end OwnershipOk

theorem ownershipOk_of_reachable {guard : ClusterState → ClusterLabel → Prop}
    (reach : (clusterSystem config).ReachableWhile guard state) : OwnershipOk config state := by
  refine invariant_of_step (OwnershipOk config) ?_ ?_ reach
  · rintro start ⟨-, empty, fresh, -⟩
    refine ⟨empty ▸ ownersOk_empty, ?_, ?_⟩
    · rw [fresh]
      exact callsOk_fresh config
    · rw [empty]
      exact fun _ _ found => by cases found
  · intro before label after ok _ stepped
    exact ok.step (step?_cases stepped)

/-- Every owner that a stored record has ever named is a started session. -/
theorem OwnershipOk.named_serving (ok : OwnershipOk config state) {address : ActorAddress}
    {object : OwnerObject} {owner : ActorOwner} (written : Written state.owners address object)
    (named : object.body.owner = some owner) :
    ∃ id, owner = config.owner id ∧ (state.leases.sessions id).isServing = true := by
  obtain ⟨ticket, write, found, -, body, -⟩ := written
  obtain ⟨id, router, serving⟩ := ok.issuers ticket write found
  refine ⟨id, ?_, serving⟩
  have derived := ok.owners.derived ticket write found
  unfold Derived at derived
  split at derived
  · obtain ⟨current, from'⟩ := derived
    rw [from'.body, Option.some.injEq] at body
    rw [← body, router] at named
    cases named
    rfl
  · obtain ⟨current, from'⟩ := derived
    rw [from'.body, Option.some.injEq] at body
    rw [← body] at named
    cases named

end Coactor.Cluster
