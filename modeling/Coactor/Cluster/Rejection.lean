import Coactor.Cluster.Owners
import Coactor.Cluster.Takeover
import Coactor.Runtime.Capacity

/-!
# A `SessionOpen` for an unregistered Actor Type

`dispatch_inbound` resolves the owner before `open_local_session` looks up the
Actor Type.  A request that is handled alone and turned down for its Actor Type
has therefore claimed the address for this Server, unless the record named the
Server before.
-/

namespace Coactor.Cluster

open Coactor.Foundation
open Coactor.Foundation.ConditionalStore
open Coactor.Foundation.Transition
open Coactor.Coordination
open Coactor.Runtime

variable {config : ClusterConfig} {start state after : ClusterState} {id : NodeSessionId}
  {conn : Nat} {address : ActorAddress} {session : SessionId}

/-! ## A request handled alone -/

/-- Steps that handle one request and no other: its connection task goes on, the
writes it has sent are settled, time passes, and leases are kept and fetched. -/
def Alone (start : ClusterState) (id : NodeSessionId) (conn : Nat) : ClusterLabel → Prop
  | .server other (.conn connection (.advance _))
  | .server other (.conn connection (.reply _)) => other = id ∧ connection = conn
  | .server _ _ => False
  | .settleOwner ticket => start.owners.tickets ≤ ticket
  | _ => True

/-- The stored record names this session as the owner. -/
def NamesSession (config : ClusterConfig) (id : NodeSessionId) (address : ActorAddress)
    (owners : OwnerStore) : Prop :=
  ∃ current, owners.read config.owners address = some current ∧
    (config.router id).isLocalOwner current.record = true

/-- A request has left the record, the routes, the Sessions and the permits as
they were. -/
structure Unchanged (config : ClusterConfig) (id : NodeSessionId) (address : ActorAddress)
    (before after : ClusterState) : Prop where
  record : after.owners.read config.owners address = before.owners.read config.owners address
  routes : (after.servers id).routes = (before.servers id).routes
  registry : (after.servers id).registry = (before.servers id).registry
  available : (after.servers id).available = (before.servers id).available

/-! ## The invariant of the request -/

/-- What the view of a lone `resolve` tells about the stored record. -/
structure ViewLone (config : ClusterConfig) (id : NodeSessionId) (address : ActorAddress)
    (start state : ClusterState) (view : RouterView) : Prop where
  current : ∀ found, view.current = some (some found) →
    (config.router id).isLocalOwner found.record = true →
      NamesSession config id address state.owners
  kept : NamesSession config id address start.owners → ∀ current, view.current = some current →
    ∃ found, current = some found ∧ (config.router id).isLocalOwner found.record = true
  ticket : ∀ ticket, view.ticket = some ticket → start.owners.tickets ≤ ticket
  applied : view.WasApplied → NamesSession config id address state.owners

/-- Where the connection task of the request can stand. -/
def LonePc (config : ClusterConfig) (id : NodeSessionId) (address : ActorAddress)
    (start state : ClusterState) : ConnPc → Prop
  | .openLock here _ => here = address ∧
      (state.servers id).available = (start.servers id).available
  | .resolving here _ program reserved => here = address ∧
      (state.servers id).available + reserved.toNat = (start.servers id).available ∧
      Program.Satisfies ClusterRouter.resolveErrors () program ∧
      ∃ view, Program.Satisfies (config.router id).resolveContract view program ∧
        view.permits = reserved.toNat ∧ ViewLone config id address start state view
  | .openRegister here _ reservation => here = address ∧
      (state.servers id).available + reservation.toNat = (start.servers id).available ∧
      NamesSession config id address state.owners
  | .openAck _ failure => (state.servers id).available = (start.servers id).available ∧
      ∀ actorType, failure = some (.actorTypeNotRegistered actorType) →
        NamesSession config id address state.owners
  | .receiving => True
  | _ => False

/-- What holds while the request is handled. -/
structure Lone (config : ClusterConfig) (id : NodeSessionId) (conn : Nat) (address : ActorAddress)
    (start state : ClusterState) : Prop where
  routes : (state.servers id).routes = (start.servers id).routes
  registry : (state.servers id).registry = (start.servers id).registry
  tickets : start.owners.tickets ≤ state.owners.tickets
  writes : ∀ ticket write, start.owners.tickets ≤ ticket →
    state.owners.writes ticket = some write → write.key = address ∧
      (∃ record, write.body = some record ∧
        (config.router id).isLocalOwner record = true) ∧
      ∀ serial, write.fate = .applied serial → NamesSession config id address state.owners
  kept : NamesSession config id address start.owners → state.owners = start.owners
  pc : LonePc config id address start state ((state.servers id).conns conn).pc

theorem namesSession_iff {owners : OwnerStore} : NamesSession config id address owners ↔
    ∃ object, owners.objects address = some object ∧
      (config.router id).isLocalOwner object.body = true := by
  constructor
  · rintro ⟨current, read, isLocal⟩
    obtain ⟨object, stored, rfl⟩ := Option.map_eq_some_iff.mp read
    exact ⟨object, stored, isLocal⟩
  · rintro ⟨object, stored, isLocal⟩
    exact ⟨_, Option.map_eq_some_iff.mpr ⟨object, stored, rfl⟩, isLocal⟩

/-- A step that names the session if it was named before keeps what a view tells. -/
theorem ViewLone.mono {view : RouterView} (lone : ViewLone config id address start state view)
    (names : NamesSession config id address state.owners →
      NamesSession config id address after.owners) :
    ViewLone config id address start after view where
  current := fun found read isLocal => names (lone.current found read isLocal)
  kept := lone.kept
  ticket := lone.ticket
  applied := fun applied => names (lone.applied applied)

theorem LonePc.mono {pc : ConnPc} (lone : LonePc config id address start state pc)
    (available : (after.servers id).available = (state.servers id).available)
    (names : NamesSession config id address state.owners →
      NamesSession config id address after.owners) :
    LonePc config id address start after pc := by
  cases pc with
  | openLock here session =>
      obtain ⟨same, left⟩ := lone
      exact ⟨same, available.trans left⟩
  | resolving here session program reserved =>
      obtain ⟨same, left, errors, view, satisfies, permits, told⟩ := lone
      exact ⟨same, available ▸ left, errors, view, satisfies, permits, told.mono names⟩
  | openRegister here session reservation =>
      obtain ⟨same, left, named⟩ := lone
      exact ⟨same, available ▸ left, names named⟩
  | openAck session failure =>
      obtain ⟨left, named⟩ := lone
      exact ⟨available.trans left, fun actorType same => names (named actorType same)⟩
  | receiving => trivial
  | _ => exact lone.elim

/-! ## One answer -/

theorem foreign_of_claimAllowed {router : ClusterRouter} {view : RouterView}
    {record : ActorOwnerRecord} {revision : Option Revision}
    {current : VersionedActorOwnerRecord}
    (allowed : router.ClaimAllowed view record revision (some current)) :
    router.isLocalOwner current.record = false := by
  rw [Bool.eq_false_iff]
  intro isLocal
  rw [ClusterRouter.isLocalOwner_iff] at isLocal
  rcases allowed.displaceable current rfl _ isLocal with ⟨-, other⟩ | ⟨other, -⟩
  · exact other rfl
  · exact other rfl

/-- No claim is sent over a record that names the session. -/
theorem ViewLone.foreign {view : RouterView} {record : ActorOwnerRecord}
    {revision : Option Revision} (told : ViewLone config id address start state view)
    (allowed : (config.router id).resolveContract.allowed view (.compareExchange record revision)) :
    ¬ NamesSession config id address start.owners := by
  intro named
  obtain ⟨current, claim⟩ := allowed
  obtain ⟨found, rfl, isLocal⟩ := told.kept named current claim.read
  rw [foreign_of_claimAllowed claim] at isLocal
  cases isLocal

/-- What an answered request of a lone `resolve` writes. -/
theorem Lone.served {view : RouterView} {request : RouterCall} {reply : RouterReply}
    {answer : RouterAnswer request} (lone : Lone config id conn address start state)
    (told : ViewLone config id address start state view)
    (allowed : (config.router id).resolveContract.allowed view request)
    (answers : Answered config state after id .claim conn address request reply answer) :
    after.owners.objects = state.owners.objects ∧
      state.owners.tickets ≤ after.owners.tickets ∧
      (NamesSession config id address start.owners → after.owners = start.owners) ∧
      ∀ ticket write, after.owners.writes ticket = some write →
        state.owners.writes ticket = some write ∨
          (write.key = address ∧ write.fate = .pending ∧ ∃ record, write.body = some record ∧
            (config.router id).isLocalOwner record = true) := by
  rw [answers.owners]
  cases request with
  | compareExchange record revision =>
      refine ⟨rfl, Nat.le_succ _, fun named => absurd named (told.foreign allowed), ?_⟩
      intro ticket write found
      rcases writes_issue_cases found with ⟨-, rfl⟩ | old
      · obtain ⟨current, claim⟩ := allowed
        refine .inr ⟨rfl, rfl, record, rfl, ?_⟩
        rw [claim.record_eq]
        exact (config.router id).isLocalOwner_localClaim _
      · exact .inl old
  | _ => exact ⟨rfl, Nat.le_refl _, lone.kept, fun ticket write found => .inl found⟩

/-- What an answer tells about the record is true. -/
theorem ViewLone.answered {view : RouterView} {request : RouterCall} {reply : RouterReply}
    {answer : RouterAnswer request} (lone : Lone config id conn address start state)
    (told : ViewLone config id address start state view)
    (allowed : (config.router id).resolveContract.allowed view request)
    (answers : Answered config state after id .claim conn address request reply answer) :
    ViewLone config id address start state (view.observe request answer) := by
  have answerable := answers.answerable
  have decoded := answers.decoded
  cases request with
  | readActorOwner =>
      cases reply with
      | owner reply =>
          cases decoded
          cases answer with
          | ok current =>
              have read : current = state.owners.read config.owners address :=
                eq_of_beq answerable
              constructor
              case current =>
                rintro found ⟨⟩ isLocal
                exact ⟨found, read.symm, isLocal⟩
              case kept =>
                rintro named _ ⟨⟩
                obtain ⟨found, stored, isLocal⟩ := named
                refine ⟨found, ?_, isLocal⟩
                rw [read, lone.kept ⟨found, stored, isLocal⟩, stored]
              case ticket => exact told.ticket
              case applied => exact told.applied
          | _ => exact told
      | _ => cases decoded
  | readNode nodeId =>
      cases answer with
      | ok node => exact ⟨told.current, told.kept, told.ticket, told.applied⟩
      | _ => exact told
  | compareExchange record revision =>
      cases reply with
      | issued ticket =>
          cases decoded
          have latest : @Eq Nat answer state.owners.tickets := @eq_of_beq Nat _ _ _ _ answerable
          constructor
          case current => rintro found ⟨⟩
          case kept => rintro _ found ⟨⟩
          case ticket =>
            rintro ticket ⟨⟩
            rw [latest]
            exact lone.tickets
          case applied =>
            rintro ⟨revision, ⟨⟩⟩
      | _ => cases decoded
  | awaitMutation ticket =>
      cases reply with
      | outcome reply =>
          cases decoded
          refine ⟨told.current, told.kept, told.ticket, ?_⟩
          rintro ⟨revision, outcome⟩
          cases outcome
          simp only [OwnerStore.answerable] at answerable
          split at answerable
          · rename_i found
            exact (lone.writes ticket _ (told.ticket ticket allowed) found).2.2 _ rfl
          · cases answerable
      | _ => cases decoded
  | tryAcquire =>
      cases answer with
      | true => exact ⟨told.current, told.kept, told.ticket, told.applied⟩
      | false => exact told
  | dropReservation => exact ⟨told.current, told.kept, told.ticket, told.applied⟩

/-! ## The steps of the request -/

theorem NamesSession.of_objects
    (same : after.owners.objects = state.owners.objects)
    (named : NamesSession config id address state.owners) :
    NamesSession config id address after.owners := by
  rw [namesSession_iff] at named ⊢
  rw [same]
  exact named

/-- Where a lone `resolve` goes on after an answer. -/
theorem lonePc_afterReply {session : SessionId} {reserved : Bool} {view : RouterView}
    {program : ClusterRouter.ResolveProgram}
    (available : (after.servers id).available + reserved.toNat = (start.servers id).available)
    (errors : Program.Satisfies ClusterRouter.resolveErrors () program)
    (satisfies : Program.Satisfies (config.router id).resolveContract view program)
    (permits : view.permits = reserved.toNat)
    (told : ViewLone config id address start after view) :
    LonePc config id address start after (.afterReply address session reserved program) := by
  rw [← permits] at available
  rcases program with (error | ⟨_ | _⟩ | _) | ⟨request, resume⟩
  · have none : view.permits = 0 := satisfies
    rw [none] at available
    refine ⟨available, fun actorType same => ?_⟩
    rcases errors error rfl with rfl | rfl <;> cases same
  · obtain ⟨none, current, read, isLocal⟩ := satisfies
    rw [none] at available
    exact ⟨rfl, available, told.current current read isLocal⟩
  · obtain ⟨one, ⟨epoch, sent⟩, evidence⟩ := satisfies
    rw [one] at available
    refine ⟨rfl, available, ?_⟩
    rcases evidence with applied | ⟨error, current, -, read, same⟩
    · exact told.applied applied
    · refine told.current current read ?_
      rw [sent, Option.some.injEq] at same
      rw [← same]
      exact (config.router id).isLocalOwner_localClaim epoch
  · have none : view.permits = 0 := satisfies
    rw [none] at available
    refine ⟨available, fun actorType same => ?_⟩
    cases same
  · exact ⟨rfl, permits ▸ available, errors, view, satisfies, permits, told⟩

theorem resolved_kept {server : Server} {connection : Nat} {session : SessionId} {reserved : Bool}
    {program : ClusterRouter.ResolveProgram} :
    let next := server.resolved connection address session reserved program
    next.routes = server.routes ∧ next.registry = server.registry ∧
      next.available = server.available := by
  rcases program with (error | ⟨reservation⟩ | _) | ⟨request, resume⟩ <;> exact ⟨rfl, rfl, rfl⟩

/-- A reply to the request's `resolve` keeps the invariant. -/
theorem Lone.reply {reply : RouterReply} (lone : Lone config id conn address start state)
    (step : ServerStep config state after id (.conn conn (.reply reply))) :
    Lone config id conn address start after := by
  have stepped := step.stepped
  cases Server.connStep?_move rfl step.stepped with
  | replied here' session program next reserved reserved' other here answered resumed moved =>
      cases answered
      have pc := lone.pc
      rw [here] at pc
      obtain ⟨rfl, available, errors, view, satisfies, permits, told⟩ := pc
      obtain ⟨request, resume, answer, rfl, rfl, answers⟩ := step.answers_resolve here resumed
      obtain ⟨allowed, onward⟩ := satisfies
      obtain ⟨objects, tickets, kept, writes⟩ := lone.served told allowed answers
      simp only [Server.step?, here, Server.connStep?, Option.bind_eq_some_iff,
        Option.map_eq_some_iff, Prod.exists] at stepped
      obtain ⟨next, resumed', middle, taken, replied, same⟩ := stepped
      have following : next = resume answer := Option.some.inj (resumed'.symm.trans resumed)
      subst following
      obtain ⟨permits', routes, registry, -, balance⟩ :=
        Server.capacityReply?_permits allowed permits answers.decoded replied
      obtain ⟨routes', registry', available'⟩ :=
        @resolved_kept here' middle conn session taken (resume answer)
      have named : NamesSession config id here' state.owners →
          NamesSession config id here' after.owners := NamesSession.of_objects objects
      constructor
      case routes => rw [← same, routes', routes, lone.routes]
      case registry => rw [← same, registry', registry, lone.registry]
      case tickets => exact Nat.le_trans lone.tickets tickets
      case kept => exact kept
      case writes =>
        intro ticket write late found
        rcases writes ticket write found with old | ⟨key, pending, claim⟩
        · obtain ⟨key, claim, applied⟩ := lone.writes ticket write late old
          exact ⟨key, claim, fun serial fate => named (applied serial fate)⟩
        · refine ⟨key, claim, fun serial fate => ?_⟩
          rw [pending] at fate
          cases fate
      case pc =>
        rw [← same, Server.resolved_pc]
        refine lonePc_afterReply ?_ (errors.2 answer) (onward answer) permits' ?_
        · rw [← same, available', balance, available]
        · exact (told.answered lone allowed answers).mono named
  | begun _ _ here moved =>
      simp only [Server.step?, here] at stepped
      cases stepped
  | kept same silent => exact absurd rfl (silent reply)
  | carried _ _ _ silent => exact absurd rfl (silent reply)
  | freed _ silent => exact absurd rfl (silent reply)

/-- A step of the request that leaves the records alone. -/
theorem Lone.quiet (lone : Lone config id conn address start state)
    (owners : after.owners = state.owners)
    (routes : (after.servers id).routes = (state.servers id).routes)
    (registry : (after.servers id).registry = (state.servers id).registry)
    (pc : LonePc config id address start after ((after.servers id).conns conn).pc) :
    Lone config id conn address start after where
  routes := routes.trans lone.routes
  registry := registry.trans lone.registry
  tickets := by
    rw [owners]
    exact lone.tickets
  writes := by
    rw [owners]
    exact lone.writes
  kept := by
    rw [owners]
    exact lone.kept
  pc := pc

/-- The other steps of the request keep the invariant. -/
theorem Lone.advance {panics : Bool} (lone : Lone config id conn address start state)
    (unregistered : (config.runtime id).mailboxCapacity address.actorType = none)
    (step : ServerStep config state after id (.conn conn (.advance panics))) :
    Lone config id conn address start after := by
  have owners : after.owners = state.owners := step.owners
  have stepped := step.stepped
  have pc := lone.pc
  simp only [Server.step?] at stepped
  generalize here : ((state.servers id).conns conn).pc = at' at stepped pc
  cases at' with
  | openLock other session =>
      obtain ⟨rfl, available⟩ := pc
      simp only [Server.connStep?] at stepped
      split at stepped
      · obtain same := Option.some.inj stepped
        refine lone.quiet owners (same ▸ rfl) (same ▸ rfl) ?_
        rw [← same, Server.setConn_pc]
        refine ⟨rfl, ?_, ClusterRouter.errors_resolve, {}, ClusterRouter.satisfies_resolve, rfl, ?_⟩
        · rw [← same]
          exact available
        · constructor
          case current => rintro found ⟨⟩
          case kept => rintro _ current ⟨⟩
          case ticket => rintro ticket ⟨⟩
          case applied =>
            rintro ⟨revision, ⟨⟩⟩
      · cases stepped
  | openRegister other session reservation =>
      obtain ⟨rfl, available, named⟩ := pc
      simp only [Server.connStep?, Server.openRegister, unregistered, Option.some.injEq] at stepped
      refine lone.quiet owners (stepped ▸ rfl) (stepped ▸ rfl) ?_
      rw [← stepped, Server.setConn_pc]
      refine ⟨?_, fun actorType same => owners ▸ named⟩
      rw [← stepped, ← available]
      cases reservation <;> rfl
  | openAck session failure =>
      obtain same := Option.some.inj stepped
      refine lone.quiet owners (same ▸ rfl) (same ▸ rfl) ?_
      rw [← same, Server.setConn_pc]
      exact trivial
  | receiving => cases stepped
  | resolving other session program reserved => cases stepped
  | _ => exact pc.elim

/-- A write of the request that is settled keeps the invariant. -/
theorem Lone.settle {ticket : Nat} (lone : Lone config id conn address start state)
    (wellformed : Wellformed start.owners) (late : start.owners.tickets ≤ ticket)
    (settled : state.owners.settle? config.owners.stamp ticket = some after.owners)
    (servers : after.servers = state.servers) : Lone config id conn address start after := by
  obtain ⟨write, found, pending, outcome⟩ := settle?_cases settled
  obtain ⟨key, ⟨record, body, isLocal⟩, -⟩ := lone.writes ticket write late found
  have foreign : ¬ NamesSession config id address start.owners := by
    intro named
    rw [lone.kept named] at found
    exact absurd late (Nat.not_le.mpr (wellformed.ticket_lt ticket write found))
  have effect : after.owners.tickets = state.owners.tickets ∧
      (NamesSession config id address state.owners →
        NamesSession config id address after.owners) ∧
      ∀ other known, after.owners.writes other = some known →
        ∃ old, state.owners.writes other = some old ∧ known.key = old.key ∧
          known.body = old.body ∧ ∀ serial, known.fate = .applied serial →
            old.fate = .applied serial ∨ NamesSession config id address after.owners := by
    rcases outcome with ⟨-, applied⟩ | refused
    · have named : NamesSession config id address after.owners := by
        rw [namesSession_iff, applied]
        refine ⟨⟨record, write.issuer, state.owners.serials⟩, ?_, isLocal⟩
        simp [Store.apply, key, Write.object, body]
      refine ⟨by rw [applied]; rfl, fun _ => named, fun other known written => ?_⟩
      rw [applied] at written
      rcases writes_apply_cases written with ⟨rfl, rfl⟩ | ⟨-, old⟩
      · exact ⟨write, found, rfl, rfl, fun _ _ => .inr named⟩
      · exact ⟨known, old, rfl, rfl, fun _ _ => .inr named⟩
    · refine ⟨by rw [refused]; rfl, NamesSession.of_objects (by rw [refused]; rfl),
        fun other known written => ?_⟩
      rw [refused] at written
      rcases writes_refuse_cases written with ⟨rfl, rfl⟩ | ⟨-, old⟩
      · exact ⟨write, found, rfl, rfl, fun serial fate => by cases fate⟩
      · exact ⟨known, old, rfl, rfl, fun serial fate => .inl fate⟩
  obtain ⟨tickets, named, writes⟩ := effect
  constructor
  case routes => rw [servers, lone.routes]
  case registry => rw [servers, lone.registry]
  case tickets => rw [tickets]; exact lone.tickets
  case kept => exact fun names => absurd names foreign
  case writes =>
    intro other known earlier written
    obtain ⟨old, written', key', body', fates⟩ := writes other known written
    obtain ⟨key, claim, applied⟩ := lone.writes other old earlier written'
    rw [key', body']
    refine ⟨key, claim, fun serial fate => ?_⟩
    rcases fates serial fate with before | now
    · exact named (applied serial before)
    · exact now
  case pc =>
    have same := lone.pc.mono (congrArg (fun servers => (servers id).available) servers) named
    rw [servers]
    exact same

/-- Every step of a request handled alone keeps the invariant. -/
theorem Lone.step {label : ClusterLabel} (lone : Lone config id conn address start state)
    (wellformed : Wellformed start.owners)
    (unregistered : (config.runtime id).mailboxCapacity address.actorType = none)
    (alone : Alone start id conn label) (stepped : ClusterStep config state after label) :
    Lone config id conn address start after := by
  have still : after.owners = state.owners → after.servers = state.servers →
      Lone config id conn address start after := by
    intro owners servers
    refine lone.quiet owners (congrArg (fun servers => (servers id).routes) servers)
      (congrArg (fun servers => (servers id).registry) servers) ?_
    have same := lone.pc.mono (congrArg (fun servers => (servers id).available) servers)
      (NamesSession.of_objects (congrArg Store.objects owners))
    rw [servers]
    exact same
  cases stepped with
  | lease _ _ _ _ _ owners servers => exact still owners servers
  | fetch _ _ _ _ _ _ owners servers => exact still owners servers
  | settleOwner ticket settled _ servers => exact lone.settle wellformed alone settled servers
  | server other event step =>
      unfold Alone at alone
      split at alone
      · rename_i given
        cases given
        obtain ⟨rfl, rfl⟩ := alone
        exact lone.advance unregistered step
      · rename_i given
        cases given
        obtain ⟨rfl, rfl⟩ := alone
        exact lone.reply step
      · exact alone.elim
      · rename_i given
        cases given
      · rename_i _ _ other' _
        exact absurd rfl (other' other event)

theorem lone_of_run {labels : List ClusterLabel} (lone : Lone config id conn address start state)
    (wellformed : Wellformed start.owners)
    (unregistered : (config.runtime id).mailboxCapacity address.actorType = none)
    (alone : ∀ label ∈ labels, Alone start id conn label)
    (run : (clusterSystem config).run? state labels = some after) :
    Lone config id conn address start after := by
  induction labels generalizing state with
  | nil =>
      cases run
      exact lone
  | cons label labels ih =>
      obtain ⟨next, taken, rest⟩ := run?_cons run
      refine ih ?_ (fun later member => alone later (List.mem_cons_of_mem _ member)) rest
      exact lone.step wellformed unregistered (alone label List.mem_cons_self) (step?_cases taken)

/-! ## The whole request -/

/-- A `SessionOpen` of the current or another protocol version. -/
def openEnvelope (version : Nat) (address : ActorAddress) (session : SessionId) : Envelope :=
  ⟨version, some address, some session, some .sessionOpen⟩

/-- The invariant holds once the request has been read. -/
theorem lone_received {version : Nat} {session : SessionId}
    (wellformed : Wellformed state.owners)
    (step : ServerStep config state after id
      (.conn conn (.receive (openEnvelope version address session)))) :
    Lone config id conn address state after := by
  have owners : after.owners = state.owners := step.owners
  have stepped := step.stepped
  simp only [Server.step?] at stepped
  generalize here : ((state.servers id).conns conn).pc = at' at stepped
  cases at' with
  | receiving =>
      have same := Option.some.inj stepped
      constructor
      case routes => rw [← same]; rfl
      case registry => rw [← same]; rfl
      case tickets => rw [owners]
      case writes =>
        intro ticket write late found
        rw [owners] at found
        exact absurd late (Nat.not_le.mpr (wellformed.ticket_lt ticket write found))
      case kept => exact fun _ => owners
      case pc =>
        have available : (after.servers id).available = (state.servers id).available := by
          rw [← same]
          rfl
        rw [← same, Server.setConn_pc]
        cases current : version == transportProtocolVersion with
        | true =>
            simp only [openEnvelope, Envelope.inbound, current]
            exact ⟨rfl, available⟩
        | false =>
            simp only [openEnvelope, Envelope.inbound, current]
            exact ⟨available, fun actorType failure => by cases failure⟩
  | disconnecting rest => cases rest <;> cases stepped
  | _ => cases stepped

/-- While the request is handled the routes and the Sessions stay as they were.
When it is turned down for its Actor Type the permits are back and the record
names the session. -/
theorem rejected_open_is_owned {version : Nat} {session : SessionId} {actorType : String}
    {labels : List ClusterLabel} (reach : (clusterSystem config).Reachable state)
    (unregistered : (config.runtime id).mailboxCapacity address.actorType = none)
    (alone : ∀ label ∈ labels, Alone state id conn label)
    (run : (clusterSystem config).run? state
      (.server id (.conn conn (.receive (openEnvelope version address session))) :: labels) =
        some after)
    (answered : ((after.servers id).conns conn).pc =
      .openAck session (some (.actorTypeNotRegistered actorType))) :
    (after.servers id).routes = (state.servers id).routes ∧
      (after.servers id).registry = (state.servers id).registry ∧
      (after.servers id).available = (state.servers id).available ∧
      NamesSession config id address after.owners ∧
      (NamesSession config id address state.owners → after.owners = state.owners) := by
  obtain ⟨next, taken, rest⟩ := run?_cons run
  have wellformed := (ownershipOk_of_reachable reach).owners.wellformed
  have moved : state.step? config (.server id (.conn conn
      (.receive (openEnvelope version address session)))) = some next := taken
  cases step?_cases moved with
  | server _ _ step =>
      have lone := lone_of_run (lone_received wellformed step) wellformed unregistered alone rest
      have pc := lone.pc
      rw [answered] at pc
      exact ⟨lone.routes, lone.registry, pc.1, pc.2 actorType rfl, lone.kept⟩
  | lease label _ named _ _ _ _ =>
      cases label <;> cases named

/-- A request turned down for its Actor Type changes nothing if and only if the
record of the address named this session before. -/
theorem rejected_open_changes_nothing_iff {version : Nat} {session : SessionId}
    {actorType : String} {labels : List ClusterLabel}
    (reach : (clusterSystem config).Reachable state)
    (unregistered : (config.runtime id).mailboxCapacity address.actorType = none)
    (alone : ∀ label ∈ labels, Alone state id conn label)
    (run : (clusterSystem config).run? state
      (.server id (.conn conn (.receive (openEnvelope version address session))) :: labels) =
        some after)
    (answered : ((after.servers id).conns conn).pc =
      .openAck session (some (.actorTypeNotRegistered actorType))) :
    Unchanged config id address state after ↔ NamesSession config id address state.owners := by
  obtain ⟨routes, registry, available, named, kept⟩ :=
    rejected_open_is_owned reach unregistered alone run answered
  constructor
  · rintro ⟨record, -, -, -⟩
    obtain ⟨current, read, isLocal⟩ := named
    exact ⟨current, record ▸ read, isLocal⟩
  · intro before
    exact ⟨by rw [kept before], routes, registry, available⟩

/-! ## A request for an Actor Type nobody registered -/

theorem ghost_isDnsLabel : isDnsLabel "ghost" = true := by decide

/-- An address whose Actor Type no Server has registered. -/
def ghostAddress : ActorAddress := ⟨"ghost", "first", ghost_isDnsLabel, first_isDnsLabel⟩

def ghostEnvelope : Envelope := openEnvelope transportProtocolVersion ghostAddress ⟨7⟩

/-- The first session of the first node runs, and a connection has been accepted. -/
def ghostReady : List ClusterLabel :=
  startSession ⟨"a-1"⟩ none 0 ⟨""⟩ ++ [.server ⟨"a-1"⟩ (.conn 0 .accept)]

/-- The rest of a `SessionOpen` that claims an address without a record. -/
def ghostClaim : List ClusterLabel :=
  [(.server ⟨"a-1"⟩ (.conn 0 (.advance false))),
    (.server ⟨"a-1"⟩ (.conn 0 (.reply (.owner (.ok none))))),
    (.server ⟨"a-1"⟩ (.conn 0 (.reply (.permit true)))),
    (.server ⟨"a-1"⟩ (.conn 0 (.reply (.issued 0)))), (.settleOwner 0),
    (.server ⟨"a-1"⟩ (.conn 0 (.reply (.outcome (.ok (.applied ⟨""⟩)))))),
    (.server ⟨"a-1"⟩ (.conn 0 (.advance false)))]

/-- The rest of one that finds the record of its Server. -/
def ghostAgain : List ClusterLabel :=
  [(.server ⟨"a-1"⟩ (.conn 0 (.advance false))),
    (.server ⟨"a-1"⟩ (.conn 0
      (.reply (.owner (.ok (some ⟨cartRuntime.router.localClaim 1, ⟨""⟩⟩)))))),
    (.server ⟨"a-1"⟩ (.conn 0 (.advance false)))]

/-- A run that receives and turns down the request. -/
def ghostRun (rest : List ClusterLabel) : List ClusterLabel :=
  .server ⟨"a-1"⟩ (.conn 0 (.receive ghostEnvelope)) :: rest

theorem ghostAgain_alone (state : ClusterState) :
    ∀ label ∈ ghostAgain, Alone state ⟨"a-1"⟩ 0 label := by
  intro label member
  simp only [ghostAgain, List.mem_cons, List.not_mem_nil, or_false] at member
  rcases member with rfl | rfl | rfl
  all_goals exact ⟨rfl, rfl⟩

theorem ghostClaim_alone (state : ClusterState) (fresh : state.owners.tickets = 0) :
    ∀ label ∈ ghostClaim, Alone state ⟨"a-1"⟩ 0 label := by
  intro label member
  simp only [ghostClaim, List.mem_cons, List.not_mem_nil, or_false] at member
  rcases member with rfl | rfl | rfl | rfl | rfl | rfl | rfl
  case inr.inr.inr.inr.inl => exact Nat.le_of_eq fresh
  all_goals exact ⟨rfl, rfl⟩

/-- The second of two such requests changes nothing. -/
theorem repeated_ghost_open_changes_nothing :
    ∃ state after, (clusterSystem twoNodes).Reachable state ∧
      (clusterSystem twoNodes).run? state (ghostRun ghostAgain) = some after ∧
      ((after.servers ⟨"a-1"⟩).conns 0).pc =
        .openAck ⟨7⟩ (some (.actorTypeNotRegistered "ghost")) ∧
      Unchanged twoNodes ⟨"a-1"⟩ ghostAddress state after := by
  have reach := @reachable_of_run? _ _ (clusterSystem twoNodes) twoNodesStart _
    (ghostReady ++ ghostRun ghostClaim ++ [.server ⟨"a-1"⟩ (.conn 0 (.advance false))])
    ⟨⟨by decide, rfl, rfl⟩, rfl, rfl, rfl⟩ rfl
  refine ⟨_, _, reach, rfl, rfl, ?_⟩
  exact (@rejected_open_changes_nothing_iff twoNodes _ _ ⟨"a-1"⟩ 0 ghostAddress
    transportProtocolVersion ⟨7⟩ "ghost" ghostAgain reach rfl (ghostAgain_alone _) rfl rfl).mpr
    ⟨_, rfl, rfl⟩

/-- The first one claims the address for a Server that cannot serve it. -/
theorem ghost_open_claims :
    ¬ ∀ state after labels, (clusterSystem twoNodes).Reachable state →
      (∀ label ∈ labels, Alone state ⟨"a-1"⟩ 0 label) →
      (clusterSystem twoNodes).run? state (ghostRun labels) = some after →
      ((after.servers ⟨"a-1"⟩).conns 0).pc =
        .openAck ⟨7⟩ (some (.actorTypeNotRegistered "ghost")) →
      Unchanged twoNodes ⟨"a-1"⟩ ghostAddress state after := by
  intro unchanged
  have reach := @reachable_of_run? _ _ (clusterSystem twoNodes) twoNodesStart _ ghostReady
    ⟨⟨by decide, rfl, rfl⟩, rfl, rfl, rfl⟩ rfl
  have same := (unchanged _ _ ghostClaim reach (ghostClaim_alone _ rfl) rfl rfl).record
  cases same

end Coactor.Cluster
