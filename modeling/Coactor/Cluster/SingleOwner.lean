import Coactor.Cluster.Takeover

/-!
# One serving owner per actor

The stored owner record names the session that serves an actor.  `resolve`
returns `Local` only when the record names its session, by a read or by a write
of its own, and nothing but a claim or a release replaces a record.  A claim
finds its owner gone; a release may come late.  Six kinds of steps break this: a
late renewal, an acquisition or a `read_node` that judges a lease expired while
its session is still valid, a same-node claim by a session that has lost its
lease, a late release, and an Action that activates an actor that its node does
not own.
-/

namespace Coactor.Cluster

open Coactor.Foundation
open Coactor.Foundation.Transition
open Coactor.Foundation.ConditionalStore
open Coactor.Coordination
open Coactor.Runtime

variable {config : ClusterConfig} {state before after : ClusterState}

/-- The stored owner record of an address names a session. -/
def Names (config : ClusterConfig) (state : ClusterState) (address : ActorAddress)
    (id : NodeSessionId) : Prop :=
  ∃ object, state.owners.objects address = some object ∧
    object.body.owner = some (config.owner id)

/-- A Server has an active route for an address, or handles a `SessionOpen` for it. -/
def Occupied (server : Server) (address : ActorAddress) : Prop :=
  (∃ generation, server.routes address = some ⟨generation, .active⟩) ∨
    ∃ conn, (server.conns conn).pc.guards = some address

/-! ## Steps that keep one owner -/

/-- No owner record is read that names another session of the reader's own node,
unless that session is not live or the reader has not lost its lease. -/
def ReadsUnderLease (config : ClusterConfig) (state : ClusterState) (label : ClusterLabel) :
    Prop :=
  ∀ id conn found other,
    label = .server id (.conn conn (.reply (.owner (.ok (some found))))) →
    found.record.owner = some (config.owner other) →
    (config.nodes other).lease.nodeId = (config.nodes id).lease.nodeId → other ≠ id →
      (state.authorityValid id = true ∧ (state.leases.sessions id).released = false) ∨
        ¬ Live state other

/-- No `read_node` judges the lease of a live session expired. -/
def JudgesDead (state : ClusterState) (label : ClusterLabel) : Prop :=
  ∀ id conn found lease, label = .server id (.conn conn (.reply (.node (.ok found)))) →
    state.fetches id conn = some (some lease) → lease.isExpiredAt state.leases.now = true →
      ¬ Live state lease.node.sessionId

/-- No release of a live session takes effect while the session serves the
address again, or is about to. -/
def ReleasesInTime (config : ClusterConfig) (state : ClusterState) (label : ClusterLabel) :
    Prop :=
  ∀ ticket write id, label = .settleOwner ticket → state.owners.writes ticket = some write →
    write.issuer.operation = .release → write.issuer.router = config.router id →
    state.owners.current config.owners.stamp write.key = write.condition → Live state id →
      ¬ Occupied (state.servers id) write.key

/-- No Action activates an actor whose owner record does not name the session. -/
def ActivatesOwned (config : ClusterConfig) (state : ClusterState) (label : ClusterLabel) :
    Prop :=
  ∀ id conn panics address session payload,
    label = .server id (.conn conn (.advance panics)) →
    ((state.servers id).conns conn).pc = .actionDispatch address session payload .actors →
    (state.servers id).wouldActivate address false = true → Names config state address id

/-- A step that is none of the six that break the single owner. -/
structure Orderly (config : ClusterConfig) (state : ClusterState) (label : ClusterLabel) :
    Prop where
  tenable : LeasesTenable config state label
  reads : ReadsUnderLease config state label
  judges : JudgesDead state label
  releases : ReleasesInTime config state label
  activates : ActivatesOwned config state label

theorem Orderly.holdsNode (reach : (clusterSystem config).ReachableWhile (Orderly config) state)
    {id : NodeSessionId} (live : Live state id) : HoldsNode state.leases id :=
  live.holdsNode (fun _ _ met => met.tenable) reach

/-- In runs of orderly steps the sessions that are not live may be displaced. -/
theorem goneRules_live :
    GoneRules config (Orderly config) fun state id => ¬ Live state id where
  unstored := by
    intro state other reach _ unnamed live
    obtain ⟨object, stored, own⟩ := Orderly.holdsNode reach live
    rw [lease_config reach] at stored
    exact unnamed object stored own
  outdated := fun _ id conn found lease _ met fetched past _ =>
    met.judges id conn found lease rfl fetched past
  sameNode := by
    intro state id conn found other reach met named _ node different live
    rcases met.reads id conn found other rfl named node different with ⟨valid, kept⟩ | gone
    · have own := holdsNode_of_valid (leases_tenable (fun _ _ met => met.tenable) reach) valid kept
      exact different (holdsNode_unique reach (Orderly.holdsNode reach live) own node)
    · exact gone live
  lasts := by
    intro before label after other reach met stepped serving gone live
    exact gone (live_before reach met.tenable.takesUp stepped serving live)

/-! ## A record names its owner for as long as it is needed -/

theorem serving_of_occupied {guard : ClusterState → ClusterLabel → Prop}
    (reach : (clusterSystem config).ReachableWhile guard state) {id : NodeSessionId}
    {address : ActorAddress} (occupied : Occupied (state.servers id) address) :
    (state.leases.sessions id).isServing = true := by
  rcases serving_or_fresh reach id with serving | fresh
  · exact serving
  · rw [fresh] at occupied
    rcases occupied with ⟨generation, present⟩ | ⟨conn, guards⟩
    · cases present
    · cases guards

/-- A step of a Server leaves the stored records alone. -/
theorem ServerStep.objects {id : NodeSessionId} {event : ServerEvent}
    (step : ServerStep config before after id event) :
    after.owners.objects = before.owners.objects := by
  rcases step.owners_cases with same | ⟨call, -, served⟩
  · rw [same]
  · rw [served]
    cases call.request <;> rfl

/-- The record of an occupied address of a live session goes on naming it. -/
theorem names_lasts {label : ClusterLabel} {id : NodeSessionId} {address : ActorAddress}
    (reach : (clusterSystem config).ReachableWhile (Orderly config) before)
    (met : Orderly config before label) (stepped : before.step? config label = some after)
    (occupied : Occupied (before.servers id) address)
    (names : Live before id → Names config before address id) (live : Live after id) :
    Names config after address id := by
  have ownership := ownershipOk_of_reachable reach
  have was := live_before reach met.tenable.takesUp stepped (serving_of_occupied reach occupied) live
  obtain ⟨object, stored, named⟩ := names was
  cases step?_cases stepped with
  | lease _ _ _ _ _ owners _ => exact ⟨object, owners ▸ stored, named⟩
  | fetch _ _ _ _ _ _ owners => exact ⟨object, owners ▸ stored, named⟩
  | server _ _ step => exact ⟨object, step.objects ▸ stored, named⟩
  | settleOwner ticket settled _ _ =>
      obtain ⟨write, found, -, ⟨holds, applied⟩ | refused⟩ := settle?_cases settled
      · by_cases same : address = write.key
        · subst same
          cases operation : write.issuer.operation with
          | claim => exact absurd was (gone_of_claim goneRules_live reach found operation holds
              stored named)
          | release =>
              have derived := ownership.owners.derived ticket write found
              simp only [Derived, operation] at derived
              obtain ⟨current, from'⟩ := derived
              have body := ownership.owners.matching holds
                (fun read same => (Option.some.inj same) ▸ from'.basis) from'.condition
              rw [stored, Option.map_some, Option.map_some, Option.some.injEq] at body
              have own := from'.own
              rw [ClusterRouter.isLocalOwner_iff, ← body, named, Option.some.injEq] at own
              have router : config.router id = write.issuer.router :=
                congrArg₂ ClusterRouter.mk (congrArg ActorOwner.nodeId own)
                  (congrArg ActorOwner.sessionId own)
              exact absurd occupied
                (met.releases ticket write id rfl found operation router.symm holds was)
        · refine ⟨object, ?_, named⟩
          rw [applied]
          simpa [Store.apply, Function.update_of_ne same] using stored
      · refine ⟨object, ?_, named⟩
        rw [refused]
        exact stored

/-! ## What a call knows of its own record -/

/-- A call that has read its session as the owner, or whose claim was applied,
is right as long as the session is live. -/
structure ViewNames (config : ClusterConfig) (state : ClusterState) (id : NodeSessionId)
    (address : ActorAddress) (view : RouterView) : Prop where
  sent : ∀ record, view.sent = some record →
    ∃ epoch, record = (config.router id).localClaim epoch
  awaited : view.outcome ≠ none → view.ticket ≠ none
  read : ∀ found, view.current = some (some found) →
    found.record.owner = some (config.owner id) → Live state id → Names config state address id
  applied : ∀ ticket write serial, view.ticket = some ticket →
    state.owners.writes ticket = some write → write.fate = .applied serial → Live state id →
      Names config state address id

theorem ViewNames.start {id : NodeSessionId} {address : ActorAddress} :
    ViewNames config state id address {} where
  sent := by rintro record ⟨⟩
  awaited := fun heard => absurd rfl heard
  read := by rintro found ⟨⟩
  applied := by rintro ticket write serial ⟨⟩

/-- A step that is not a reply to the call keeps what it knows. -/
theorem ViewNames.step {label : ClusterLabel} {id : NodeSessionId} {address : ActorAddress}
    {view : RouterView} (reach : (clusterSystem config).ReachableWhile (Orderly config) before)
    (met : Orderly config before label) (stepped : before.step? config label = some after)
    (occupied : Occupied (before.servers id) address)
    (viewOk : ViewOk config.owners before.owners address view)
    (ok : ViewNames config before id address view) : ViewNames config after id address view := by
  have wf := (ownershipOk_of_reachable reach).owners.wellformed
  have lasts := @names_lasts _ _ _ _ id address reach met stepped occupied
  refine ⟨ok.sent, ok.awaited, fun found read named => lasts (ok.read found read named), ?_⟩
  intro ticket write serial awaited found applied live
  have kept : before.owners.writes ticket = some write → Names config after address id :=
    fun old => lasts (ok.applied ticket write serial awaited old applied) live
  obtain ⟨sent, there, key, body⟩ := viewOk.ticket ticket awaited
  cases step?_cases stepped with
  | lease _ _ _ _ _ owners _ => exact kept (owners ▸ found)
  | fetch _ _ _ _ _ _ owners => exact kept (owners ▸ found)
  | server _ _ step =>
      rcases step.owners_cases with same | ⟨call, -, served⟩
      · exact kept (same ▸ found)
      · rw [served] at found
        cases request : call.request with
        | compareExchange record revision =>
            rw [request] at found
            rcases writes_issue_cases found with ⟨rfl, -⟩ | old
            · exact absurd (wf.ticket_lt _ _ there) (Nat.lt_irrefl _)
            · exact kept old
        | _ =>
            rw [request] at found
            exact kept found
  | settleOwner settledTicket settled _ _ =>
      obtain ⟨settling, here, -, ⟨holds, moved⟩ | moved⟩ := settle?_cases settled
      · rw [moved] at found
        rcases writes_apply_cases found with ⟨rfl, rfl⟩ | ⟨-, old⟩
        · rw [there, Option.some.injEq] at here
          subst here
          obtain ⟨record, written⟩ := (ownershipOk_of_reachable reach).owners.derived _ _ there
            |>.body
          obtain ⟨epoch, rfl⟩ := ok.sent record (body ▸ written)
          refine ⟨⟨(config.router id).localClaim epoch, sent.issuer, before.owners.serials⟩, ?_, rfl⟩
          rw [moved]
          simp [Store.apply, Write.object, written, key]
        · exact kept old
      · rw [moved] at found
        rcases writes_refuse_cases found with ⟨rfl, rfl⟩ | ⟨-, old⟩
        · cases applied
        · exact kept old

/-- What a call knows after an answer. -/
theorem ViewNames.observe {id : NodeSessionId} {event : ServerEvent} {conn : Nat}
    {address : ActorAddress} {request : RouterCall} {reply : RouterReply}
    {answer : RouterAnswer request} {view : RouterView}
    (step : ServerStep config before after id event)
    (allowed : (config.router id).resolveContract.allowed view request)
    (answers : Answered config before after id .claim conn address request reply answer)
    (ok : ViewNames config after id address view) :
    ViewNames config after id address (view.observe request answer) := by
  have decoded := answers.decoded
  cases request with
  | readActorOwner =>
      cases reply <;> cases decoded
      cases answer with
      | elapsed => exact ok
      | failed error => exact ok
      | ok current =>
          refine ⟨ok.sent, ok.awaited, fun found read named _ => ?_, ok.applied⟩
          cases read
          have answerable := answers.answerable
          simp only [OwnerStore.answerable, beq_iff_eq] at answerable
          rw [eq_comm, OwnerStore.read, Option.map_eq_some_iff] at answerable
          obtain ⟨object, stored, rfl⟩ := answerable
          exact ⟨object, step.objects ▸ stored, named⟩
  | readNode nodeId =>
      cases answer with
      | elapsed => exact ok
      | failed error => exact ok
      | ok listed => exact ⟨ok.sent, ok.awaited, ok.read, ok.applied⟩
  | compareExchange record revision =>
      obtain ⟨current, claim⟩ := allowed
      refine ⟨fun sent same => ?_, fun heard => absurd rfl heard, by rintro _ ⟨⟩,
        fun ticket write serial same found applied => ?_⟩
      · cases same
        exact ⟨_, claim.record_eq⟩
      · cases same
        cases reply <;> cases decoded
        have latest : answer = before.owners.tickets :=
          @eq_of_beq Nat _ _ _ _ answers.answerable
        rw [answers.owners, OwnerStore.serve, latest] at found
        simp only [Store.issue, Function.update_self, Option.some.injEq] at found
        subst found
        cases applied
  | awaitMutation ticket =>
      refine ⟨ok.sent, fun _ => ?_, ok.read, ok.applied⟩
      exact Option.ne_none_iff_exists'.mpr ⟨ticket, allowed⟩
  | tryAcquire =>
      cases answer with
      | true => exact ⟨ok.sent, ok.awaited, ok.read, ok.applied⟩
      | false => exact ok
  | dropReservation => exact ⟨ok.sent, ok.awaited, ok.read, ok.applied⟩

/-- When `resolve` returns `Local`, the record names its session. -/
theorem ViewNames.of_local {id : NodeSessionId} {address : ActorAddress} {view : RouterView}
    {reservation : Bool} (viewOk : ViewOk config.owners state.owners address view)
    (ok : ViewNames config state id address view) (live : Live state id)
    (ensures : (config.router id).resolveContract.ensures view
      (.ok (.localOwner reservation))) : Names config state address id := by
  cases reservation with
  | false =>
      obtain ⟨-, current, read, isLocal⟩ := ensures
      exact ok.read current read ((ClusterRouter.isLocalOwner_iff _).mp isLocal) live
  | true =>
      obtain ⟨-, ⟨epoch, sent⟩, ⟨revision, outcome⟩ | ⟨error, current, -, read, same⟩⟩ := ensures
      · obtain ⟨ticket, awaited⟩ := Option.ne_none_iff_exists'.mp
          (ok.awaited (by simp [outcome]))
        obtain ⟨write, serial, found, applied⟩ := viewOk.applied ticket revision awaited outcome
        exact ok.applied ticket write serial awaited found applied live
      · rw [sent, Option.some.injEq] at same
        exact ok.read current read (same ▸ rfl) live

/-! ## Where `Local` and active routes come from -/

section Origins

variable {id : NodeSessionId} {event : ServerEvent} {address : ActorAddress}

/-- A connection task with `Local` had it before, or `resolve` has just returned it. -/
theorem ServerStep.holdsLocal_origin (step : ServerStep config before after id event)
    {conn : Nat} (holds : ((after.servers id).conns conn).pc.holdsLocal address) :
    ((before.servers id).conns conn).pc.holdsLocal address ∨
      ∃ reply session reserved request resume answer reservation,
        event = .conn conn (.reply reply) ∧
        ((before.servers id).conns conn).pc =
          .resolving address session (.call request resume) reserved ∧
        Answered config before after id .claim conn address request reply answer ∧
        resume answer = .ret (.ok (.localOwner reservation)) := by
  have stepped := step.stepped
  cases event with
  | task generation event =>
      obtain ⟨task, -, stepped⟩ := Option.bind_eq_some_iff.mp stepped
      obtain ⟨next, effect⟩ := Server.taskStep?_effect stepped
      exact .inl (effect.conns ▸ holds)
  | shutdown expired => exact .inl ((Server.shutdownStep?_cases stepped).conns conn ▸ holds)
  | fence => exact .inl ((Server.fenceStep?_cases stepped).conns conn ▸ holds)
  | conn changed event =>
      by_cases own : conn = changed
      · subst own
        cases Server.connStep?_move rfl stepped with
        | kept unmoved _ => exact .inl (unmoved ▸ holds)
        | begun _ _ _ moved =>
            rw [moved] at holds
            cases holds
        | replied address' session program next reserved _ reply here answered resumed moved =>
            subst answered
            obtain ⟨request, resume, answer, rfl, rfl, answers⟩ :=
              step.answers_resolve here resumed
            rw [moved] at holds
            cases returned : resume answer with
            | call request' resume' =>
                rw [returned] at holds
                cases holds
            | ret result =>
                rw [returned] at holds
                rcases result with error | ⟨reservation⟩ | _
                · cases holds
                · cases holds
                  exact .inr ⟨reply, session, reserved, request, resume, answer, reservation, rfl,
                    here, answers, returned⟩
                · cases holds
        | carried address' held still _ =>
            have same := (ConnPc.guards_of_holdsLocal holds).symm.trans
              (ConnPc.guards_of_holdsLocal still)
            rw [Option.some.injEq] at same
            exact .inl (same ▸ held)
        | freed free _ =>
            rw [ConnPc.guards_of_holdsLocal holds] at free
            cases free
      · obtain ⟨record, conns, -⟩ := Server.connStep?_conns stepped
        rw [conns, Function.update_of_ne own] at holds
        exact .inl holds

/-- An active route was there before, or a connection task has just spawned it. -/
theorem ServerStep.active_origin (step : ServerStep config before after id event)
    {generation : Nat}
    (present : (after.servers id).routes address = some ⟨generation, .active⟩) :
    (before.servers id).routes address = some ⟨generation, .active⟩ ∨
      ∃ conn change, event = .conn conn change ∧
        Server.Activates (before.servers id) conn change address := by
  have stepped := step.stepped
  cases event with
  | conn conn change =>
      exact (Server.connStep?_active stepped present).imp_right fun activates =>
        ⟨conn, change, rfl, activates⟩
  | shutdown expired => exact .inl ((Server.shutdownStep?_cases stepped).routes _ _ present)
  | fence => exact .inl ((Server.fenceStep?_cases stepped).routes _ _ present)
  | task generation' event =>
      obtain ⟨task, -, stepped⟩ := Option.bind_eq_some_iff.mp stepped
      obtain ⟨next, effect⟩ := Server.taskStep?_effect stepped
      refine .inl ?_
      cases effect.route with
      | kept routes _ => exact routes ▸ present
      | removed route _ _ routes _ =>
          rw [routes] at present
          by_cases same : address = task.address
          · subst same
            simp at present
          · rwa [Function.update_of_ne same] at present
      | deactivated route _ _ routes _ _ _ =>
          rw [routes] at present
          by_cases same : address = task.address
          · subst same
            simp at present
          · rwa [Function.update_of_ne same] at present

end Origins

/-! ## The invariant -/

/-- Whoever serves an actor, or is about to, is named by its owner record. -/
structure NamesOk (config : ClusterConfig) (state : ClusterState) : Prop where
  active : ∀ id address generation,
    (state.servers id).routes address = some ⟨generation, .active⟩ → Live state id →
      Names config state address id
  holding : ∀ id conn address, ((state.servers id).conns conn).pc.holdsLocal address →
    Live state id → Names config state address id
  calls : CallsOk state.servers
    (fun id _ address program => ∃ view,
      Program.Satisfies (config.router id).resolveContract view program ∧
      ViewOk config.owners state.owners address view ∧ ViewNames config state id address view)
    (fun _ _ _ => True)

namespace NamesOk

section Server

variable {id : NodeSessionId} {event : ServerEvent}

/-- What a suspended `resolve` knows after a reply. -/
theorem replied (reach : (clusterSystem config).ReachableWhile (Orderly config) before)
    (met : Orderly config before (.server id event))
    (stepped : before.step? config (.server id event) = some after)
    (step : ServerStep config before after id event) {conn : Nat} {address : ActorAddress}
    {request : RouterCall} {resume : RouterAnswer request → ClusterRouter.ResolveProgram}
    {reply : RouterReply} {answer : RouterAnswer request} {view : RouterView}
    (guarded : ((before.servers id).conns conn).pc.guards = some address)
    (satisfies : Program.Satisfies (config.router id).resolveContract view (.call request resume))
    (viewOk : ViewOk config.owners before.owners address view)
    (names : ViewNames config before id address view)
    (answers : Answered config before after id .claim conn address request reply answer) :
    ViewOk config.owners after.owners address (view.observe request answer) ∧
      ViewNames config after id address (view.observe request answer) := by
  constructor
  · rw [answers.owners]
    refine viewOk.observe (ownershipOk_of_reachable reach).owners.wellformed answers.decoded
      answers.answerable ?_
    rintro ticket rfl
    exact satisfies.1
  · exact (names.step reach met stepped (.inr ⟨conn, guarded⟩) viewOk).observe step satisfies.1
      answers

theorem server (reach : (clusterSystem config).ReachableWhile (Orderly config) before)
    (ok : NamesOk config before) (met : Orderly config before (.server id event))
    (stepped : before.step? config (.server id event) = some after)
    (step : ServerStep config before after id event) : NamesOk config after := by
  have wf := (ownershipOk_of_reachable reach).owners.wellformed
  have held : ∀ other conn address, ((before.servers other).conns conn).pc.holdsLocal address →
      Live after other → Names config after address other :=
    fun other conn address holds => names_lasts reach met stepped
      (.inr ⟨conn, ConnPc.guards_of_holdsLocal holds⟩) (ok.holding other conn address holds)
  have routed : ∀ other address generation,
      (before.servers other).routes address = some ⟨generation, .active⟩ →
      Live after other → Names config after address other :=
    fun other address generation present => names_lasts reach met stepped
      (.inl ⟨generation, present⟩) (ok.active other address generation present)
  constructor
  case active =>
    intro other address generation present live
    by_cases same : other = id
    · subst same
      rcases step.active_origin present with there | ⟨conn, change, rfl, activates⟩
      · exact routed other address generation there live
      · cases activates with
        | opening opening reservation panics here advanced spawns =>
            refine held other conn opening.address ?_ live
            rw [here]
            exact rfl
        | action address session payload panics here advanced spawns =>
            subst advanced
            obtain ⟨object, stored, named⟩ :=
              met.activates other conn panics address session payload rfl here spawns
            exact ⟨object, step.objects ▸ stored, named⟩
    · rw [step.servers, Function.update_of_ne same] at present
      exact routed other address generation present live
  case holding =>
    intro other conn address holds live
    by_cases same : other = id
    · subst same
      rcases step.holdsLocal_origin holds with there |
        ⟨reply, session, reserved, request, resume, answer, reservation, rfl, here, answers,
          returned⟩
      · exact held other conn address there live
      · obtain ⟨view, satisfies, viewOk, names⟩ := ok.calls.resolving _ _ _ _ _ _ here
        obtain ⟨viewOk', names'⟩ := replied reach met stepped step
          (congrArg ConnPc.guards here) satisfies viewOk names answers
        have ensures := satisfies.resume answer
        rw [returned] at ensures
        exact names'.of_local viewOk' live ensures
    · rw [step.servers, Function.update_of_ne same] at holds
      exact held other conn address holds live
  case calls =>
    refine ok.calls.server step ⟨?_, fun _ _ _ _ => trivial, ?_, fun _ => trivial, ?_,
      fun _ _ _ _ _ _ _ _ _ => trivial⟩
    · rintro other conn address program guarded ⟨view, satisfies, viewOk, names⟩
      refine ⟨view, satisfies, ?_, names.step reach met stepped (.inr ⟨conn, guarded⟩) viewOk⟩
      rcases step.owners_cases with same | ⟨call, -, served⟩
      · rw [same]
        exact viewOk
      · rw [served]
        exact viewOk.serve wf _ _ _
    · intro conn address
      exact ⟨{}, ClusterRouter.satisfies_resolve, viewOk_start, .start⟩
    · rintro conn address reply request resume answer rfl guarded ⟨view, satisfies, viewOk, names⟩
        answers
      exact ⟨_, satisfies.resume answer,
        replied reach met stepped step guarded satisfies viewOk names answers⟩

end Server

/-- Every orderly step keeps the invariant. -/
theorem step {label : ClusterLabel}
    (reach : (clusterSystem config).ReachableWhile (Orderly config) before)
    (ok : NamesOk config before) (met : Orderly config before label)
    (stepped : before.step? config label = some after) : NamesOk config after := by
  have still : after.servers = before.servers →
      (∀ address view, ViewOk config.owners before.owners address view →
        ViewOk config.owners after.owners address view) → NamesOk config after := by
    intro servers views
    constructor
    case active =>
      intro id address generation present
      rw [servers] at present
      exact names_lasts reach met stepped (.inl ⟨generation, present⟩)
        (ok.active id address generation present)
    case holding =>
      intro id conn address holds
      rw [servers] at holds
      exact names_lasts reach met stepped (.inr ⟨conn, ConnPc.guards_of_holdsLocal holds⟩)
        (ok.holding id conn address holds)
    case calls =>
      rw [servers]
      refine ok.calls.mono ?_ fun _ _ _ kept => kept
      rintro id conn address program guarded ⟨view, satisfies, viewOk, names⟩
      exact ⟨view, satisfies, views address view viewOk,
        names.step reach met stepped (.inr ⟨conn, guarded⟩) viewOk⟩
  cases step?_cases stepped with
  | lease _ _ _ _ _ owners servers => exact still servers fun _ _ viewOk => owners ▸ viewOk
  | settleOwner _ settled _ servers => exact still servers fun _ _ viewOk => viewOk.settle settled
  | fetch _ _ _ _ _ _ owners servers => exact still servers fun _ _ viewOk => owners ▸ viewOk
  | server id event step => exact server reach ok met stepped step

end NamesOk

theorem namesOk_of_reachable
    (reach : (clusterSystem config).ReachableWhile (Orderly config) state) :
    NamesOk config state := by
  refine invariant_of_reachable_step (NamesOk config) ?_ ?_ reach
  · rintro start ⟨-, -, fresh, -⟩
    refine ⟨?_, ?_, ?_⟩
    · intro id address generation present
      rw [fresh] at present
      cases present
    · intro id conn address holds
      rw [fresh] at holds
      cases holds
    · rw [fresh]
      exact callsOk_fresh config
  · intro before label after earlier ok met stepped
    exact ok.step earlier met stepped

/-- In runs of orderly steps no two sessions serve one actor. -/
theorem single_serving_owner
    (reach : (clusterSystem config).ReachableWhile (Orderly config) state)
    {first second : NodeSessionId} {address : ActorAddress}
    (one : Serves state first address) (two : Serves state second address) : first = second := by
  have ok := namesOk_of_reachable reach
  obtain ⟨generation, present⟩ := one.active
  obtain ⟨generation', present'⟩ := two.active
  obtain ⟨object, stored, named⟩ := ok.active first address generation present one.live
  obtain ⟨object', stored', named'⟩ := ok.active second address generation' present' two.live
  rw [stored, Option.some.injEq] at stored'
  subst stored'
  rw [named, Option.some.injEq] at named'
  exact owner_injective named'

/-! ## Two nodes and one actor -/

/-- The claim over the expired session is applied, and the cart is activated. -/
def takeOverExpired : List ClusterLabel :=
  claimExpired ++ activateClaimed ⟨"b-1"⟩ 1 ⟨"v"⟩

theorem orderly_of_calm {label : ClusterLabel} (still : calm config state label = true) :
    Orderly config state label where
  tenable := by
    rintro id input rfl
    constructor
    case takesUp =>
      rintro other given ⟨⟩ node next started authority granted _ ⟨⟩
      simp only at granted
      simp [calm, granted] at still
    case takesOver =>
      rintro other node started revision expiresAt object ⟨⟩ inspected
      simp [calm, inspected] at still
  reads := by
    rintro id conn found other rfl _ _ _
    simp only [calm, Bool.and_eq_true, Bool.not_eq_true'] at still
    exact .inl still.1
  judges := by
    rintro id conn found lease rfl fetched _ live
    simp only [calm, fetched, Option.all_some, Bool.and_eq_true, live.valid] at still
    cases still.1
  releases := by
    rintro ticket write id rfl found release _ _ _
    simp [calm, found, release] at still
  activates := by
    rintro id conn panics address session payload rfl here _
    simp [calm, here] at still

/-- After the takeover the second session serves the cart, and nobody else does. -/
theorem takeover_serves_alone :
    ∃ state, (clusterSystem twoNodes).run? twoNodesStart takeOverExpired = some state ∧
      Serves state ⟨"b-1"⟩ cartAddress ∧
      ∀ other, Serves state other cartAddress → other = ⟨"b-1"⟩ := by
  have initial : (clusterSystem twoNodes).ReachableWhile (Orderly twoNodes) twoNodesStart :=
    .start ⟨⟨by decide, rfl, rfl⟩, rfl, rfl, rfl⟩
  have still : (clusterSystem twoNodes).Meets (fun state label => calm twoNodes state label = true)
      twoNodesStart takeOverExpired := meets_of_meets? rfl
  have reach := reachableWhile_of_run? initial (meets_mono (fun _ _ => orderly_of_calm) still) rfl
  refine ⟨_, rfl, ⟨rfl, by decide, 1, rfl⟩, fun other serves => ?_⟩
  exact single_serving_owner reach serves ⟨rfl, by decide, 1, rfl⟩

/-- The first session passivates the cart; its release is answered by a timeout
and stays with the store.  A new `SessionOpen` reads the old record and
activates the cart again. -/
def passivateAndReopen : List ServerEvent :=
  [.task 1 .advance, .task 1 (.activation .activated)] ++ closeAndPassivate.map Prod.snd ++
    [.task 1 (.reply (.issued 1)), .task 1 (.reply (.outcome .elapsed)), .task 1 .advance,
      .conn 0 (.receive ⟨2, some cartAddress, some ⟨8⟩, some .sessionOpen⟩),
      .conn 0 (.advance false),
      .conn 0 (.reply (.owner (.ok (some ⟨cartRuntime.router.localClaim 1, ⟨""⟩⟩)))),
      .conn 0 (.advance false), .conn 0 (.advance false), .conn 0 (.advance false),
      .conn 0 (.advance false)]

/-- Then the release takes effect, and the second session claims the cart. -/
def lateRelease : List ClusterLabel :=
  startSession ⟨"a-1"⟩ none 0 ⟨""⟩ ++ startSession ⟨"b-1"⟩ none 1 ⟨"v"⟩ ++
    openAndClaim ⟨"a-1"⟩ [.owner (.ok none)] 0 ++ activateClaimed ⟨"a-1"⟩ 0 ⟨""⟩ ++
    passivateAndReopen.map (.server ⟨"a-1"⟩) ++ [.settleOwner 1] ++
    openAndClaim ⟨"b-1"⟩ [.owner (.ok (some ⟨.unowned 1, ⟨"v"⟩⟩))] 2 ++
    activateClaimed ⟨"b-1"⟩ 2 ⟨"vv"⟩

/-- In the end both sessions serve the cart. -/
theorem late_release_leaves_two_owners :
    ¬ ∀ state, (clusterSystem twoNodes).Reachable state → ∀ first second address,
      Serves state first address → Serves state second address → first = second := by
  intro single
  have reach := @reachable_of_run? _ _ (clusterSystem twoNodes) twoNodesStart _ lateRelease
    ⟨⟨by decide, rfl, rfl⟩, rfl, rfl, rfl⟩ rfl
  have same := single _ reach ⟨"a-1"⟩ ⟨"b-1"⟩ cartAddress ⟨rfl, rfl, 2, rfl⟩ ⟨rfl, rfl, 1, rfl⟩
  revert same
  decide

end Coactor.Cluster
