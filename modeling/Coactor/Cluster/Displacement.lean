import Coactor.Cluster.Owners

/-!
# What is known of the owner that a claim displaces

A claim over a record that names another session is sent after `resolve` has
read that record, and after the Node Directory has not confirmed the owner or
the owner was another session of the same node.  Whatever that says about the
owner when it is read, and lasts, is true when the claim is applied.
-/

namespace Coactor.Cluster

open Coactor.Foundation
open Coactor.Foundation.Transition
open Coactor.Foundation.ConditionalStore
open Coactor.Coordination
open Coactor.Runtime

variable {config : ClusterConfig} {state before after : ClusterState}

/-- The store holds an unexpired lease of a session. -/
def Listed (config : ClusterConfig) (state : ClusterState) (id : NodeSessionId) : Prop :=
  ∃ object, state.leases.store.objects (config.nodes id).lease.nodeId = some object ∧
    object.body.node.sessionId = id ∧ object.body.isExpiredAt state.leases.now = false

/-- A property of sessions that may be displaced, in runs whose steps meet a
guard: a session without a stored lease has it, so has one whose lease
`read_node` judges expired, and another session of the node of a router that
reads its record, and it lasts. -/
structure GoneRules (config : ClusterConfig) (guard : ClusterState → ClusterLabel → Prop)
    (Gone : ClusterState → NodeSessionId → Prop) : Prop where
  unstored : ∀ state other, (clusterSystem config).ReachableWhile guard state →
    (state.leases.sessions other).isServing = true →
    (∀ object, state.leases.store.objects (config.nodes other).lease.nodeId = some object →
      object.body.node.sessionId ≠ other) → Gone state other
  outdated : ∀ state id conn found lease, (clusterSystem config).ReachableWhile guard state →
    guard state (.server id (.conn conn (.reply (.node (.ok found))))) →
    state.fetches id conn = some (some lease) → lease.isExpiredAt state.leases.now = true →
    (state.leases.sessions lease.node.sessionId).isServing = true →
      Gone state lease.node.sessionId
  sameNode : ∀ state id conn found other, (clusterSystem config).ReachableWhile guard state →
    guard state (.server id (.conn conn (.reply (.owner (.ok (some found)))))) →
    found.record.owner = some (config.owner other) →
    (state.leases.sessions other).isServing = true →
    (config.nodes other).lease.nodeId = (config.nodes id).lease.nodeId → other ≠ id →
      Gone state other
  lasts : ∀ before label after other, (clusterSystem config).ReachableWhile guard before →
    guard before label → before.step? config label = some after →
    (before.leases.sessions other).isServing = true → Gone before other → Gone after other

variable {guard : ClusterState → ClusterLabel → Prop}
variable {Gone : ClusterState → NodeSessionId → Prop}

/-- What a call has read of an owner that it may displace, or has fetched. -/
structure ViewGone (config : ClusterConfig) (Gone : NodeSessionId → Prop) (id : NodeSessionId)
    (fetched : Option (Option StoredNodeLease)) (view : RouterView) : Prop where
  sameNode : ∀ found other, view.current = some (some found) →
    found.record.owner = some (config.owner other) →
    (config.nodes other).lease.nodeId = (config.nodes id).lease.nodeId → other ≠ id → Gone other
  lookup : ∀ found other node, view.current = some (some found) →
    found.record.owner = some (config.owner other) → view.lookup = some node →
    (∀ listed, node = some listed → listed.sessionId ≠ other) → Gone other
  fetches : ∀ found other lease, view.current = some (some found) →
    found.record.owner = some (config.owner other) → fetched = some lease →
    (∀ body, lease = some body → body.node.sessionId ≠ other) → Gone other

/-- A claim over a record whose owner, if any, is gone. -/
def ClaimOverGone (config : ClusterConfig) (state : ClusterState) (Gone : NodeSessionId → Prop)
    (write : OwnerWrite) : Prop :=
  ∃ current, ClaimFrom config.owners state.owners write current ∧
    ∀ found other, current = some found → found.record.owner = some (config.owner other) →
      Gone other

/-- Every call and every claim knows that the owner it displaces is gone. -/
structure DisplacementOk (config : ClusterConfig)
    (Gone : ClusterState → NodeSessionId → Prop) (state : ClusterState) : Prop where
  calls : CallsOk state.servers
    (fun id conn address program => ∃ view,
      Program.Satisfies (config.router id).resolveContract view program ∧
      ViewOk config.owners state.owners address view ∧
      ViewGone config (Gone state) id (state.fetches id conn) view)
    (fun _ _ _ => True)
  claims : ∀ ticket write, state.owners.writes ticket = some write →
    write.issuer.operation = .claim → ClaimOverGone config state (Gone state) write

theorem owner_injective {first second : NodeSessionId}
    (same : config.owner first = config.owner second) : first = second :=
  congrArg ActorOwner.sessionId same

/-- The sessions named by what a call has read are started. -/
theorem OwnershipOk.read_serving (ok : OwnershipOk config state) {address : ActorAddress}
    {found : VersionedActorOwnerRecord} {other : NodeSessionId}
    (basis : Basis config.owners state.owners address found)
    (named : found.record.owner = some (config.owner other)) :
    (state.leases.sessions other).isServing = true := by
  obtain ⟨object, written, body, -⟩ := basis
  obtain ⟨id, same, serving⟩ := ok.named_serving written (body ▸ named)
  rwa [owner_injective same]

section Views

variable {id : NodeSessionId} {fetched : Option (Option StoredNodeLease)} {view : RouterView}

theorem ViewGone.of_unread {Gone : NodeSessionId → Prop} (unread : view.current = none) :
    ViewGone config Gone id fetched view where
  sameNode := by
    intro found other read
    rw [unread] at read
    cases read
  lookup := by
    intro found other node read
    rw [unread] at read
    cases read
  fetches := by
    intro found other lease read
    rw [unread] at read
    cases read

/-- A lookup that has been forgotten tells nothing. -/
theorem ViewGone.forget {Gone : NodeSessionId → Prop} (ok : ViewGone config Gone id fetched view) :
    ViewGone config Gone id none view :=
  ⟨ok.sameNode, ok.lookup, by rintro _ _ _ _ _ ⟨⟩⟩

theorem ViewGone.mono {Gone Gone' : NodeSessionId → Prop}
    (ok : ViewGone config Gone id fetched view)
    (keeps : ∀ found other, view.current = some (some found) →
      found.record.owner = some (config.owner other) → Gone other → Gone' other) :
    ViewGone config Gone' id fetched view where
  sameNode := fun found other read named node different =>
    keeps found other read named (ok.sameNode found other read named node different)
  lookup := fun found other node read named looked unlisted =>
    keeps found other read named (ok.lookup found other node read named looked unlisted)
  fetches := fun found other lease read named here unnamed =>
    keeps found other read named (ok.fetches found other lease read named here unnamed)

/-- Whoever may be displaced before a step may be displaced after it. -/
theorem ViewGone.step {label : ClusterLabel} {address : ActorAddress} (rules : GoneRules config guard Gone)
    (reach : (clusterSystem config).ReachableWhile guard before) (met : guard before label)
    (stepped : before.step? config label = some after)
    (viewOk : ViewOk config.owners before.owners address view)
    (ok : ViewGone config (Gone before) id fetched view) :
    ViewGone config (Gone after) id fetched view := by
  refine ok.mono fun found other read named gone => ?_
  have serving := (ownershipOk_of_reachable reach).read_serving (viewOk.basis found read) named
  exact rules.lasts before label after other reach met stepped serving gone

/-- A fetch that finds no lease of the owner finds it gone. -/
theorem ViewGone.fetch {address : ActorAddress} {nodeId : String}
    (rules : GoneRules config guard Gone)
    (reach : (clusterSystem config).ReachableWhile guard state)
    (viewOk : ViewOk config.owners state.owners address view)
    (allowed : (config.router id).resolveContract.allowed view (.readNode nodeId))
    (ok : ViewGone config (Gone state) id fetched view) :
    ViewGone config (Gone state) id
      (some ((state.leases.store.objects nodeId).map Object.body)) view := by
  refine ⟨ok.sameNode, ok.lookup, fun found other lease read named here unnamed => ?_⟩
  obtain ⟨current, owner, read', named', rfl⟩ := allowed
  have same : current = found := by
    have both := read'.symm.trans read
    simpa using both
  subst same
  rw [named, Option.some.injEq] at named'
  subst named'
  cases here
  have serving := (ownershipOk_of_reachable reach).read_serving (viewOk.basis current read) named
  refine rules.unstored state other reach serving fun object stored => ?_
  exact unnamed object.body (Option.map_eq_some_iff.mpr ⟨object, stored, rfl⟩)

end Views

theorem ClaimOverGone.step {label : ClusterLabel} {write : OwnerWrite}
    (rules : GoneRules config guard Gone)
    (reach : (clusterSystem config).ReachableWhile guard before) (met : guard before label)
    (stepped : before.step? config label = some after)
    (grows : Grows before.owners after.owners)
    (ok : ClaimOverGone config before (Gone before) write) :
    ClaimOverGone config after (Gone after) write := by
  obtain ⟨current, from', gone⟩ := ok
  refine ⟨current, from'.mono grows, fun found other read named => ?_⟩
  have serving := (ownershipOk_of_reachable reach).read_serving (from'.basis found read) named
  exact rules.lasts before label after other reach met stepped serving
    (gone found other read named)

/-- What a call knows after an answer, before the step has taken effect. -/
theorem ViewGone.observe {id : NodeSessionId} {conn : Nat} {address : ActorAddress}
    {request : RouterCall} {reply : RouterReply} {answer : RouterAnswer request}
    {view : RouterView} (rules : GoneRules config guard Gone)
    (reach : (clusterSystem config).ReachableWhile guard before)
    (met : guard before (.server id (.conn conn (.reply reply))))
    (viewOk : ViewOk config.owners before.owners address view)
    (allowed : (config.router id).resolveContract.allowed view request)
    (answers : Answered config before after id .claim conn address request reply answer)
    (ok : ViewGone config (Gone before) id (before.fetches id conn) view) :
    ViewGone config (Gone before) id none (view.observe request answer) := by
  have ownership := ownershipOk_of_reachable reach
  have decoded := answers.decoded
  cases request with
  | readActorOwner =>
      cases reply <;> cases decoded
      cases answer with
      | elapsed => exact ok.forget
      | failed error => exact ok.forget
      | ok current =>
          refine ⟨fun found other read named node different => ?_, by rintro _ _ _ _ _ ⟨⟩,
            by rintro _ _ _ _ _ ⟨⟩⟩
          cases read
          have answerable := answers.answerable
          simp only [OwnerStore.answerable, beq_iff_eq] at answerable
          rw [eq_comm, OwnerStore.read, Option.map_eq_some_iff] at answerable
          obtain ⟨object, stored, rfl⟩ := answerable
          have written := ownership.owners.wellformed.written _ _ stored
          obtain ⟨known, same, serving⟩ := ownership.named_serving written named
          rw [← owner_injective same] at serving
          exact rules.sameNode before id conn _ other reach met named serving node different
  | readNode nodeId =>
      cases reply <;> cases decoded
      cases answer with
      | elapsed => exact ok.forget
      | failed error => exact ok.forget
      | ok listed =>
          refine ⟨ok.sameNode, fun found other node read named looked unlisted => ?_,
            by rintro _ _ _ _ _ ⟨⟩⟩
          cases looked
          have directory := answers.directory rfl
          simp only [ClusterState.directoryAnswers, Option.any_eq_true, beq_iff_eq] at directory
          obtain ⟨lease, fetched, rfl⟩ := directory
          by_cases names : ∃ body, lease = some body ∧ body.node.sessionId = other
          · obtain ⟨body, rfl, rfl⟩ := names
            have serving := ownership.read_serving (viewOk.basis found read) named
            refine rules.outdated before id conn _ body reach met fetched ?_ serving
            by_contra fresh
            exact unlisted body.node (by simp [listedAt, fresh]) rfl
          · refine ok.fetches found other lease read named fetched ?_
            exact fun body here own => names ⟨body, here, own⟩
  | compareExchange record revision => exact .of_unread rfl
  | awaitMutation ticket => exact ⟨ok.sameNode, ok.lookup, ok.forget.fetches⟩
  | tryAcquire =>
      cases answer with
      | true => exact ⟨ok.sameNode, ok.lookup, ok.forget.fetches⟩
      | false => exact ok.forget
  | dropReservation => exact ⟨ok.sameNode, ok.lookup, ok.forget.fetches⟩

/-- A claim that the contract allows displaces an owner that is gone. -/
theorem ClaimOverGone.of_allowed {id : NodeSessionId} {conn : Nat} {address : ActorAddress}
    {record : ActorOwnerRecord} {revision : Option Revision}
    {fetched : Option (Option StoredNodeLease)} {view : RouterView} {Gone : NodeSessionId → Prop} (viewOk : ViewOk config.owners before.owners address view)
    (ok : ViewGone config Gone id fetched view)
    (allowed : (config.router id).resolveContract.allowed view
      (.compareExchange record revision)) :
    ClaimOverGone config before Gone
      { key := address, issuer := ⟨config.router id, .claim, conn⟩, body := some record,
        condition := revision } := by
  obtain ⟨current, claim⟩ := allowed
  refine ⟨current, .of_allowed viewOk claim, fun found other same named => ?_⟩
  subst same
  rcases claim.displaceable found rfl _ named with ⟨node, different⟩ | ⟨-, node, looked, unlisted⟩
  · exact ok.sameNode found other claim.read named node different
  · exact ok.lookup found other node claim.read named looked unlisted

namespace DisplacementOk

theorem server {id : NodeSessionId} {event : ServerEvent} (rules : GoneRules config guard Gone)
    (reach : (clusterSystem config).ReachableWhile guard before)
    (ok : DisplacementOk config Gone before) (met : guard before (.server id event))
    (stepped : before.step? config (.server id event) = some after)
    (step : ServerStep config before after id event) : DisplacementOk config Gone after := by
  have wf := (ownershipOk_of_reachable reach).owners.wellformed
  have next := (ownershipOk_of_reachable reach).step (.server id event step)
  have grows : Grows before.owners after.owners := by
    rcases step.owners_cases with same | ⟨call, -, served⟩
    · rw [same]
      exact .refl _
    · rw [served]
      cases call.request with
      | compareExchange record revision => exact grows_issue wf _
      | _ => exact .refl _
  constructor
  case calls =>
    refine ok.calls.server step ⟨?_, fun _ _ _ _ => trivial, ?_, fun _ => trivial, ?_,
      fun _ _ _ _ _ _ _ _ _ => trivial⟩
    · rintro other conn address program - ⟨view, satisfies, viewOk, gone⟩
      refine ⟨view, satisfies, ?_, ?_⟩
      · rcases step.owners_cases with same | ⟨call, -, served⟩
        · rw [same]
          exact viewOk
        · rw [served]
          exact viewOk.serve wf _ _ _
      · have kept := gone.step rules reach met stepped viewOk
        rcases step.fetches_cases other conn with same | forgotten
        · rw [same]
          exact kept
        · rw [forgotten]
          exact kept.forget
    · intro conn address
      exact ⟨{}, ClusterRouter.satisfies_resolve, viewOk_start, .of_unread rfl⟩
    · rintro conn address reply request resume answer rfl - ⟨view, satisfies, viewOk, gone⟩ answers
      have observed := gone.observe rules reach met viewOk satisfies.1 answers
      have viewOk' : ViewOk config.owners after.owners address (view.observe request answer) := by
        rw [answers.owners]
        refine viewOk.observe wf answers.decoded answers.answerable ?_
        rintro ticket rfl
        exact satisfies.1
      have forgotten : after.fetches id conn = none := by
        rw [step.fetches]
        simp [ClusterState.fetchesAfter]
      refine ⟨_, satisfies.resume answer, viewOk', forgotten ▸ observed.mono ?_⟩
      intro found other read named gone'
      have serving := next.read_serving (viewOk'.basis found read) named
      rw [step.leases] at serving
      exact rules.lasts before _ after other reach met stepped serving gone'
  case claims =>
    have kept : ∀ ticket write, before.owners.writes ticket = some write →
        write.issuer.operation = .claim → ClaimOverGone config after (Gone after) write :=
      fun ticket write found claim =>
        (ok.claims ticket write found claim).step rules reach met stepped grows
    intro ticket write found claim
    rcases step.answered_cases with same |
      ⟨conn, reply, address, session, reserved, request, resume, answer, rfl, here, answers⟩ |
      ⟨generation, reply, task, request, resume, answer, rfl, there, here, answers⟩
    · exact kept ticket write (same ▸ found) claim
    · obtain ⟨view, satisfies, viewOk, gone⟩ := ok.calls.resolving _ _ _ _ _ _ here
      rw [answers.owners] at found
      cases request with
      | compareExchange record revision =>
          rcases writes_issue_cases found with ⟨-, rfl⟩ | old
          · have claimed := @ClaimOverGone.of_allowed _ _ _ conn _ _ _ _ _ _ viewOk gone satisfies.1
            exact claimed.step rules reach met stepped grows
          · exact kept ticket write old claim
      | _ => exact kept ticket write found claim
    · rw [answers.owners] at found
      cases request with
      | compareExchange record revision =>
          rcases writes_issue_cases found with ⟨-, rfl⟩ | old
          · cases claim
          · exact kept ticket write old claim
      | _ => exact kept ticket write found claim

/-- Every guarded step keeps the knowledge of calls and claims. -/
theorem step {label : ClusterLabel} (rules : GoneRules config guard Gone)
    (reach : (clusterSystem config).ReachableWhile guard before)
    (ok : DisplacementOk config Gone before) (met : guard before label)
    (stepped : before.step? config label = some after) : DisplacementOk config Gone after := by
  cases step?_cases stepped with
  | lease _ _ _ _ moved owners servers fetches =>
      constructor
      case calls =>
        rw [servers, fetches]
        refine ok.calls.mono ?_ fun _ _ _ kept => kept
        rintro id conn address program - ⟨view, satisfies, viewOk, gone⟩
        exact ⟨view, satisfies, owners ▸ viewOk, gone.step rules reach met stepped viewOk⟩
      case claims =>
        intro ticket write found claim
        rw [owners] at found
        exact (ok.claims ticket write found claim).step rules reach met stepped
          (owners ▸ .refl _)
  | settleOwner ticket settled leases servers fetches =>
      constructor
      case calls =>
        rw [servers, fetches]
        refine ok.calls.mono ?_ fun _ _ _ kept => kept
        rintro id conn address program - ⟨view, satisfies, viewOk, gone⟩
        exact ⟨view, satisfies, viewOk.settle settled,
          gone.step rules reach met stepped viewOk⟩
      case claims =>
        intro other write found claim
        obtain ⟨fate, old⟩ := writes_settle? settled found
        obtain ⟨current, from', gone⟩ := (ok.claims other _ old claim).step rules reach met
          stepped (grows_settle? settled)
        exact ⟨current, ⟨from'.basis, from'.foreign, from'.condition, from'.body⟩, gone⟩
  | fetch id conn nodeId asked fetches leases owners servers =>
      constructor
      case calls =>
        constructor
        case resolving =>
          intro other changed address session program reserved here
          rw [servers] at here
          obtain ⟨view, satisfies, viewOk, gone⟩ := ok.calls.resolving _ _ _ _ _ _ here
          refine ⟨view, satisfies, owners ▸ viewOk, ?_⟩
          by_cases same : other = id ∧ changed = conn
          · obtain ⟨rfl, rfl⟩ := same
            obtain ⟨resume, rfl⟩ := fetching?_resolving here asked
            have found := gone.fetch rules reach viewOk satisfies.1
            rw [fetches, Function.update_self, Function.update_self]
            exact found.step rules reach met stepped viewOk
          · have kept : after.fetches other changed = before.fetches other changed := by
              rw [fetches]
              by_cases own : other = id
              · subst own
                rw [Function.update_self, Function.update_of_ne fun here => same ⟨rfl, here⟩]
              · rw [Function.update_of_ne own]
            rw [kept]
            exact gone.step rules reach met stepped viewOk
        case releasing => exact fun _ _ _ _ _ _ => trivial
      case claims =>
        intro ticket write found claim
        rw [owners] at found
        exact (ok.claims ticket write found claim).step rules reach met stepped
          (owners ▸ .refl _)
  | server id event step => exact ok.server rules reach met stepped step

end DisplacementOk

theorem displacementOk_of_reachable (rules : GoneRules config guard Gone)
    (reach : (clusterSystem config).ReachableWhile guard state) :
    DisplacementOk config Gone state := by
  refine invariant_of_reachable_step (DisplacementOk config Gone) ?_ ?_ reach
  · rintro start ⟨-, empty, fresh, -⟩
    refine ⟨?_, ?_⟩
    · rw [fresh]
      exact callsOk_fresh config
    · rw [empty]
      exact fun _ _ found => by cases found
  · intro before label after earlier ok met stepped
    exact ok.step rules earlier met stepped

/-- When a claim matches the stored record, the owner in it is gone. -/
theorem gone_of_claim (rules : GoneRules config guard Gone)
    (reach : (clusterSystem config).ReachableWhile guard state) {ticket : Nat}
    {write : OwnerWrite} (found : state.owners.writes ticket = some write)
    (claim : write.issuer.operation = .claim)
    (holds : state.owners.current config.owners.stamp write.key = write.condition)
    {object : OwnerObject} (stored : state.owners.objects write.key = some object)
    {other : NodeSessionId} (named : object.body.owner = some (config.owner other)) :
    Gone state other := by
  have owners := (ownershipOk_of_reachable reach).owners
  obtain ⟨current, from', gone⟩ :=
    (displacementOk_of_reachable rules reach).claims ticket write found claim
  have same := owners.matching holds from'.basis from'.condition
  rw [stored, Option.map_some, eq_comm, Option.map_eq_some_iff] at same
  obtain ⟨read, rfl, record⟩ := same
  exact gone read other rfl (record ▸ named)

end Coactor.Cluster
