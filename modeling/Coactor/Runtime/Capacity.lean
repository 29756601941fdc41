import Coactor.Coordination.RoutingContract
import Coactor.Foundation.Occupancy
import Coactor.Runtime.Calls
import Coactor.Runtime.Node
import Coactor.Runtime.Routes

/-!
# Where the permits are

`max_active_actors` permits are shared by the routes in the actors map, by the
reservations that connection tasks carry from `resolve` to `dispatch_message`,
and by the semaphore.  A step of a connection task or of an actor task changes
one route and one reservation at most, and moves a permit between these places
or leaves all of them where they are.
-/

namespace Coactor.Runtime

open Coactor.Coordination
open Coactor.Foundation
open Coactor.Foundation.Transition

variable {server after : Server} {config : RuntimeConfig}

/-! ## Routes and reservations -/

/-- The task carries a permit that is not in a route yet. -/
def ConnPc.reserves : ConnPc → Bool
  | .resolving _ _ _ reserved => reserved
  | .openRegister _ _ reservation | .openDispatch _ reservation _ => reservation
  | _ => false

def Conn.reserves (conn : Conn) : Bool := conn.pc.reserves

namespace Server

/-- The number of routes in the actors map. -/
noncomputable def routeCount (server : Server) : Nat := occupancy Option.isSome server.routes

/-- The number of reservations in flight. -/
noncomputable def reservationCount (server : Server) : Nat :=
  occupancy Conn.reserves server.conns

end Server

/-- A step changes one route and one connection, and keeps the number of permits
in them and in the semaphore. -/
structure CapacityStep (before after : Server) (address : ActorAddress) (id : Nat) : Prop where
  routes : ∃ route, after.routes = Function.update before.routes address route
  conns : ∃ conn, after.conns = Function.update before.conns id conn
  balance : (after.routes address).isSome.toNat + (after.conns id).reserves.toNat +
    after.available =
      (before.routes address).isSome.toNat + (before.conns id).reserves.toNat + before.available

/-- A step that touches no permit. -/
theorem CapacityStep.same {conn : Conn} {id : Nat} (address : ActorAddress)
    (routes : after.routes = server.routes)
    (conns : after.conns = Function.update server.conns id conn)
    (reserves : conn.reserves = (server.conns id).reserves)
    (available : after.available = server.available) : CapacityStep server after address id where
  routes := ⟨server.routes address, by rw [routes, Function.update_eq_self]⟩
  conns := ⟨conn, conns⟩
  balance := by rw [routes, conns, Function.update_self, reserves, available]

/-- The permits are where they should be, and every `resolve` under way carries
the one it has taken. -/
structure CapacityOk (config : RuntimeConfig) (server : Server) : Prop where
  routes : (occupied Option.isSome server.routes).Finite
  conns : (occupied Conn.reserves server.conns).Finite
  balance : server.routeCount + server.reservationCount + server.available =
    config.maxActiveActors
  resolving : ∀ id address session program reserved,
    (server.conns id).pc = .resolving address session program reserved →
      ∃ view, Program.Satisfies config.router.resolveContract view program ∧
        view.permits = reserved.toNat

/-! ## Dispatches -/

namespace Server

/-- Answering openings takes no permit. -/
@[simp]
theorem completeAll_available (server : Server) (completion : Completion)
    (messages : List MailboxMessage) :
    (server.completeAll completion messages).available = server.available := by
  obtain ⟨_, same⟩ := server.completeAll_frame completion messages
  rw [same]

/-- What a dispatch to an address does with the permits. -/
structure Spends (before after : Server) (address : ActorAddress) (spent : Nat) : Prop where
  routes : ∃ route, after.routes = Function.update before.routes address route
  conns : after.conns = before.conns
  balance : (after.routes address).isSome.toNat + after.available =
    (before.routes address).isSome.toNat + before.available + spent

theorem Spends.same {address : ActorAddress} {spent : Nat} (routes : after.routes = server.routes)
    (conns : after.conns = server.conns) (available : after.available = server.available + spent) :
    Spends server after address spent where
  routes := ⟨server.routes address, by rw [routes, Function.update_eq_self]⟩
  conns := conns
  balance := by
    rw [routes, available]
    omega

theorem Spends.trans {middle : Server} {address : ActorAddress} {first second : Nat}
    (one : Spends server middle address first) (two : Spends middle after address second) :
    Spends server after address (first + second) where
  routes := by
    obtain ⟨_, old⟩ := one.routes
    obtain ⟨route, new⟩ := two.routes
    exact ⟨route, by rw [new, old, Function.update_idem]⟩
  conns := two.conns.trans one.conns
  balance := by
    have old := one.balance
    have new := two.balance
    omega

variable {address : ActorAddress} {message : MailboxMessage} {panics reservation : Bool}

/-- A spawn puts the permit it is given into a route, or gives it back. -/
theorem spawn_spends (free : server.routes address = none) :
    Spends server (server.spawn config address message panics).1 address 1 := by
  unfold spawn
  split
  · refine ⟨⟨_, rfl⟩, rfl, ?_⟩
    simp only [Function.update_self, free, Option.isSome_some, Option.isSome_none, Bool.toNat_true,
      Bool.toNat_false]
    omega
  · exact .same rfl rfl rfl

theorem activate_spends (free : server.routes address = none) :
    Spends server (server.activate config address message reservation panics).1 address
      reservation.toNat := by
  unfold activate
  cases reservation with
  | true => exact spawn_spends free
  | false =>
      by_cases left : 0 < server.available
      · simp only [Bool.false_eq_true, if_false, left, if_true]
        have spawned := @spawn_spends { server with available := server.available - 1 } config
          address message panics free
        refine ⟨spawned.routes, spawned.conns, ?_⟩
        have balance := spawned.balance
        simp only at balance
        simp only [Bool.toNat_false]
        omega
      · simp only [Bool.false_eq_true, if_false, left]
        exact .same (by simp) (by simp) (by simp)

theorem removeRoute_spends (generation : Nat) :
    Spends server (server.removeRoute address generation) address 0 := by
  unfold removeRoute
  split
  · rename_i route present
    split
    · refine ⟨⟨_, rfl⟩, rfl, ?_⟩
      simp only [Function.update_self, present, Option.isSome_some, Option.isSome_none,
        Bool.toNat_true, Bool.toNat_false]
      omega
    · exact .same rfl rfl rfl
  · exact .same rfl rfl rfl

theorem refund_spends {middle : Server} (routes : middle.routes = server.routes)
    (conns : middle.conns = server.conns) (available : middle.available = server.available) :
    Spends server (middle.refund reservation) address reservation.toNat := by
  refine .same routes conns ?_
  rw [← available]
  cases reservation <;> rfl

/-- `dispatch_message` puts a reservation into a route or gives it back. -/
theorem dispatchActors_spends :
    Spends server (server.dispatchActors config address message reservation panics).1 address
      reservation.toNat := by
  unfold dispatchActors
  cases route : server.routes address with
  | none => exact activate_spends route
  | some found =>
      obtain ⟨generation, state⟩ := found
      cases state with
      | deactivating => exact refund_spends rfl rfl rfl
      | active =>
          simp only
          cases known : server.tasks generation with
          | none => exact refund_spends rfl rfl rfl
          | some task =>
              simp only
              by_cases closed : task.closed = true
              · rw [if_pos closed]
                have removed := @removeRoute_spends server address generation
                have free : (server.removeRoute address generation).routes address = none := by
                  simp [removeRoute, route]
                have spent := removed.trans (@activate_spends _ config address message panics
                  reservation free)
                rwa [Nat.zero_add] at spent
              · rw [if_neg closed]
                split
                · exact refund_spends rfl rfl rfl
                · exact refund_spends (by simp) (by simp) (by simp)

theorem dispatchIfActive_spends :
    Spends server (server.dispatchIfActive config address message) address 0 := by
  unfold dispatchIfActive
  split
  · split
    · split
      · exact .same rfl rfl rfl
      · split
        · exact .same rfl rfl rfl
        · exact .same rfl rfl rfl
    · exact .same rfl rfl rfl
  · exact .same rfl rfl rfl

/-! ## Connection tasks -/

variable {id : Nat}

/-- A step of a connection task that spends its reservation in one dispatch. -/
theorem Spends.step {middle : Server} {spent : Nat} {pc : ConnPc}
    (spends : Spends server middle address spent)
    (reserves : pc.reserves.toNat + spent = (server.conns id).reserves.toNat) :
    CapacityStep server (middle.setConn id pc) address id where
  routes := spends.routes
  conns := ⟨{ server.conns id with pc := pc }, by rw [setConn, spends.conns]⟩
  balance := by
    have balance := spends.balance
    have carried : ((middle.setConn id pc).conns id).reserves = pc.reserves := by
      simp [setConn, Conn.reserves]
    have kept : (middle.setConn id pc).routes = middle.routes := rfl
    have left : (middle.setConn id pc).available = middle.available := rfl
    rw [carried, kept, left]
    omega

/-- A step of a connection task that takes part in no dispatch. -/
theorem setConn_step {middle : Server} {pc : ConnPc} (address : ActorAddress)
    (routes : middle.routes = server.routes) (conns : middle.conns = server.conns)
    (balance : pc.reserves.toNat + middle.available =
      (server.conns id).reserves.toNat + server.available) :
    CapacityStep server (middle.setConn id pc) address id where
  routes := ⟨server.routes address, by rw [setConn, routes, Function.update_eq_self]⟩
  conns := ⟨{ server.conns id with pc := pc }, by rw [setConn, conns]⟩
  balance := by
    have carried : ((middle.setConn id pc).conns id).reserves = pc.reserves := by
      simp [setConn, Conn.reserves]
    have kept : (middle.setConn id pc).routes = server.routes := routes
    have left : (middle.setConn id pc).available = middle.available := rfl
    rw [carried, kept, left]
    omega

theorem inbound_reserves (envelope : Envelope) : envelope.inbound.reserves = false :=
  envelope.inbound_cases (motive := fun pc => pc.reserves = false) rfl (fun _ _ _ => rfl)
    (fun _ _ => rfl) (fun _ => rfl) fun _ _ => rfl

/-- A reply to `resolve` takes the permit that its contract lets it take. -/
theorem capacityReply?_permits {request : RouterCall} {answer : RouterAnswer request}
    {view : RouterView} {reserved reserved' : Bool} {reply : RouterReply} {middle : Server}
    (allowed : config.router.resolveContract.allowed view request)
    (permits : view.permits = reserved.toNat) (decoded : reply.answer? request = some answer)
    (replied : server.capacityReply? reserved reply = some (middle, reserved')) :
    (view.observe request answer).permits = reserved'.toNat ∧
      middle.routes = server.routes ∧ middle.registry = server.registry ∧
      middle.conns = server.conns ∧
      middle.available + reserved'.toNat = server.available + reserved.toNat := by
  cases reply with
  | permit granted =>
      cases request with
      | tryAcquire =>
          cases decoded
          simp only [capacityReply?, Option.ite_none_right_eq_some, Option.some.injEq,
            Prod.mk.injEq] at replied
          obtain ⟨isFree, rfl, rfl⟩ := replied
          have none : view.permits = 0 := allowed
          rw [none] at permits
          refine ⟨?_, rfl, rfl, rfl, ?_⟩
          · cases granted <;> simp [RouterView.observe, none]
          · cases granted
            · simp only [Bool.toNat_false]
              have exhausted : ¬ 0 < server.available := by simpa using isFree
              omega
            · simp only [Bool.toNat_true]
              have left : 0 < server.available := by simpa using isFree
              omega
      | _ => cases decoded
  | dropped =>
      cases request with
      | dropReservation =>
          cases replied
          have one : view.permits = 1 := allowed
          rw [one] at permits
          cases reserved with
          | false => cases permits
          | true =>
              refine ⟨?_, rfl, rfl, rfl, rfl⟩
              simp [RouterView.observe, one]
      | _ => cases decoded
  | owner reply =>
      cases request with
      | readActorOwner =>
          cases replied
          refine ⟨?_, rfl, rfl, rfl, rfl⟩
          rw [← permits]
          cases answer <;> rfl
      | _ => cases decoded
  | node reply =>
      cases request with
      | readNode nodeId =>
          cases replied
          refine ⟨?_, rfl, rfl, rfl, rfl⟩
          rw [← permits]
          cases answer <;> rfl
      | _ => cases decoded
  | issued ticket =>
      cases request with
      | compareExchange record revision =>
          cases replied
          exact ⟨permits, rfl, rfl, rfl, rfl⟩
      | _ => cases decoded
  | outcome reply =>
      cases request with
      | awaitMutation ticket =>
          cases replied
          exact ⟨permits, rfl, rfl, rfl, rfl⟩
      | _ => cases decoded

theorem capacityReply?_balance {program next : ClusterRouter.ResolveProgram} {view : RouterView}
    {reserved reserved' : Bool} {reply : RouterReply} {middle : Server}
    (satisfies : Program.Satisfies config.router.resolveContract view program)
    (permits : view.permits = reserved.toNat) (resumed : program.resume? reply = some next)
    (replied : server.capacityReply? reserved reply = some (middle, reserved')) :
    (∃ view', Program.Satisfies config.router.resolveContract view' next ∧
      view'.permits = reserved'.toNat) ∧ middle.routes = server.routes ∧
      middle.conns = server.conns ∧
      middle.available + reserved'.toNat = server.available + reserved.toNat := by
  obtain ⟨request, resume, answer, rfl, decoded, rfl⟩ := RouterProgram.resume?_cases resumed
  obtain ⟨allowed, onward⟩ := satisfies
  obtain ⟨taken, routes, -, conns, balance⟩ :=
    capacityReply?_permits allowed permits decoded replied
  exact ⟨⟨_, onward answer, taken⟩, routes, conns, balance⟩

/-- After a reply the task carries the permit that its `resolve` has. -/
theorem resolved_reserves {address : ActorAddress} {session : SessionId} {reserved : Bool}
    {program : ClusterRouter.ResolveProgram} {view : RouterView}
    (satisfies : Program.Satisfies config.router.resolveContract view program)
    (permits : view.permits = reserved.toNat) :
    (ConnPc.afterReply address session reserved program).reserves = reserved := by
  cases program with
  | call request resume => rfl
  | ret result =>
      cases result with
      | error error =>
          have none : view.permits = 0 := satisfies
          rw [none] at permits
          cases reserved with
          | false => rfl
          | true => cases permits
      | ok owner =>
          cases owner with
          | remote =>
              have none : view.permits = 0 := satisfies
              rw [none] at permits
              cases reserved with
              | false => rfl
              | true => cases permits
          | localOwner reservation =>
              have held : view.permits = reservation.toNat := by
                cases reservation with
                | false => exact satisfies.1
                | true => exact satisfies.1
              rw [permits] at held
              cases reserved <;> cases reservation <;> first | rfl | cases held

/-- A step after a reply to `resolve`, to where the reply leads. -/
theorem replied_step {middle : Server} {session : SessionId} {reserved reserved' : Bool}
    {program : ClusterRouter.ResolveProgram} {view : RouterView} {goal : ConnPc}
    (satisfies : Program.Satisfies config.router.resolveContract view program)
    (permits : view.permits = reserved'.toNat) (routes : middle.routes = server.routes)
    (conns : middle.conns = server.conns) (here : (server.conns id).reserves = reserved)
    (balance : middle.available + reserved'.toNat = server.available + reserved.toNat)
    (goes : goal.reserves = (ConnPc.afterReply address session reserved' program).reserves) :
    CapacityStep server (middle.setConn id goal) address id := by
  refine setConn_step address routes conns ?_
  rw [goes, resolved_reserves satisfies permits, here]
  omega

theorem passage_reserves {authorityValid : Bool} {pc next : ConnPc} {event : ConnEvent}
    (passage : ConnPassage authorityValid server id pc event next) :
    next.reserves = pc.reserves := by
  cases passage with
  | received envelope => exact inbound_reserves envelope
  | @unclosed _ _ next => cases next <;> rfl
  | aborted quiet => cases pc <;> first | rfl | cases quiet
  | _ => rfl

end Server

namespace CapacityOk

open Server

variable {id : Nat}

/-- A step of a connection task. -/
theorem connStep (ok : CapacityOk config server) {authorityValid : Bool} {event : ConnEvent}
    (stepped : server.connStep? config authorityValid id (server.conns id).pc event = some after) :
    ∃ address, CapacityStep server after address id := by
  generalize here : (server.conns id).pc = pc at stepped
  have reserves : (server.conns id).reserves = pc.reserves := by rw [Conn.reserves, here]
  have moved : ∀ {middle : Server} {next : ConnPc}, middle.routes = server.routes →
      middle.conns = server.conns → middle.available = server.available →
      next.reserves = pc.reserves → CapacityStep server (middle.setConn id next) cartAddress id := by
    intro middle next routes conns available same
    exact setConn_step cartAddress routes conns (by rw [same, reserves, available])
  have replied : ∀ {address session program reserved reserved' reply next middle},
      pc = .resolving address session program reserved →
      program.resume? reply = some next →
      server.capacityReply? reserved reply = some (middle, reserved') →
      ∀ {settled : Server} {goal : ConnPc}, settled.routes = middle.routes →
      settled.conns = middle.conns → settled.available = middle.available →
      goal.reserves = (ConnPc.afterReply address session reserved' next).reserves →
      CapacityStep server (settled.setConn id goal) address id := by
    intro address session program reserved reserved' reply next middle waiting resumed replied
      settled goal sameRoutes sameConns sameAvailable goes
    obtain ⟨view, satisfies, permits⟩ :=
      ok.resolving id address session program reserved (here.trans waiting)
    obtain ⟨⟨view', satisfies', permits'⟩, routes, conns, balance⟩ :=
      capacityReply?_balance satisfies permits resumed replied
    exact replied_step satisfies' permits' (sameRoutes.trans routes) (sameConns.trans conns)
      (by rw [reserves, waiting]) (by rw [sameAvailable]; exact balance) goes
  cases connStep?_case stepped with
  | passed passage => exact ⟨_, moved rfl rfl rfl (passage_reserves passage)⟩
  | locked | registered | unregistered | closed => exact ⟨_, moved rfl rfl rfl rfl⟩
  | asked resumed taken | resolvedHere resumed taken =>
      exact ⟨_, replied rfl resumed taken rfl rfl rfl rfl⟩
  | resolvedAway resumed away taken =>
      refine ⟨_, replied rfl resumed taken rfl rfl rfl ?_⟩
      rcases away with ⟨rfl, rfl⟩ | rfl <;> rfl
  | @unregistrable address | @unlocked address =>
      refine ⟨address, Spends.step (refund_spends rfl rfl rfl) ?_⟩
      rw [reserves]
      exact Nat.zero_add _
  | @undispatched opening =>
      refine ⟨opening.address, Spends.step (refund_spends rfl rfl rfl) ?_⟩
      rw [reserves]
      exact Nat.zero_add _
  | @dispatched opening reservation panics middle ending dispatched =>
      have spends := @dispatchActors_spends server config opening.address
        (.sessionOpened opening) panics reservation
      rw [dispatched] at spends
      have unlocked : Spends server (middle.unlock opening.address) opening.address
          reservation.toNat := ⟨spends.routes, spends.conns, spends.balance⟩
      refine ⟨opening.address, unlocked.step ?_⟩
      rw [reserves]
      cases ending <;> exact Nat.zero_add _
  | @actionDispatched address session payload panics middle ending dispatched =>
      have spends := @dispatchActors_spends server config address (.action session payload) panics
        false
      rw [dispatched] at spends
      refine ⟨address, spends.step ?_⟩
      rw [reserves]
      cases ending <;> rfl
  | @closeDispatched address session next =>
      refine ⟨address, dispatchIfActive_spends.step ?_⟩
      rw [reserves]
      cases next <;> rfl
  | noted => exact ⟨cartAddress, .same cartAddress rfl rfl rfl rfl⟩

/-- A `resolve` under way after a step of its connection task carries the permit
it has taken. -/
theorem connResolving (ok : CapacityOk config server) {authorityValid : Bool} {event : ConnEvent}
    (stepped : server.connStep? config authorityValid id (server.conns id).pc event = some after)
    {address : ActorAddress} {session : SessionId} {program : ClusterRouter.ResolveProgram}
    {reserved : Bool} (there : (after.conns id).pc = .resolving address session program reserved) :
    ∃ view, Program.Satisfies config.router.resolveContract view program ∧
      view.permits = reserved.toNat := by
  cases connStep?_move rfl stepped with
  | kept same _ => exact ok.resolving id address session program reserved (same ▸ there)
  | begun other session' waiting moved =>
      rw [there] at moved
      cases moved
      exact ⟨{}, ClusterRouter.satisfies_resolve, rfl⟩
  | carried other held still _ =>
      rw [there] at still
      exact still.elim
  | freed free _ =>
      rw [there] at free
      cases free
  | replied other session' program' _ reserved' _ reply here answered _ _ =>
      rw [here, answered] at stepped
      simp only [connStep?, Option.bind_eq_some_iff, Option.map_eq_some_iff, Prod.exists] at stepped
      obtain ⟨next, resumed, middle, taken, replied, rfl⟩ := stepped
      obtain ⟨view, satisfies, permits⟩ := ok.resolving id other session' program' reserved' here
      obtain ⟨onward, -⟩ := capacityReply?_balance satisfies permits resumed replied
      rw [resolved_pc] at there
      rcases next with (error | ⟨reservation⟩ | _) | ⟨request, resume⟩
      · cases there
      · cases there
      · cases there
      · cases there
        exact onward

/-- The balance survives what changes one route and one connection. -/
theorem stepped (ok : CapacityOk config server) {address : ActorAddress}
    (step : CapacityStep server after address id)
    (resolving : ∀ id address session program reserved,
      (after.conns id).pc = .resolving address session program reserved →
        ∃ view, Program.Satisfies config.router.resolveContract view program ∧
          view.permits = reserved.toNat) : CapacityOk config after where
  routes := by
    obtain ⟨route, routes⟩ := step.routes
    rw [routes]
    exact finite_update ok.routes
  conns := by
    obtain ⟨conn, conns⟩ := step.conns
    rw [conns]
    exact finite_update ok.conns
  balance := by
    obtain ⟨route, routes⟩ := step.routes
    obtain ⟨conn, conns⟩ := step.conns
    have routed := @occupancy_update _ _ Option.isSome server.routes _ address route ok.routes
    have carried := @occupancy_update _ _ Conn.reserves server.conns _ id conn ok.conns
    have balance := step.balance
    rw [routes, conns, Function.update_self, Function.update_self] at balance
    have total := ok.balance
    unfold routeCount reservationCount at total ⊢
    rw [routes, conns]
    omega
  resolving := resolving

end CapacityOk

/-! ## Actor tasks, shutdown and fence -/

namespace Server

variable {generation : Nat} {task : ActorTask}

/-- A step of an actor task gives back the permit of its own route or none. -/
theorem taskStep?_spends {event : TaskEvent}
    (stepped : server.taskStep? config generation task task.pc event = some after) :
    Spends server after task.address 0 := by
  obtain ⟨middle, next, rfl, step⟩ := taskStep?_case stepped
  have settled : Spends server middle task.address 0 := by
    cases step with
    | failRemoved | removed | guardDropped => exact removeRoute_spends generation
    | failAnswered | receiverDropped | unpolled | interrupted =>
        exact .same (by simp) (by simp) (by simp)
    | begun here present => exact ⟨⟨_, rfl⟩, rfl, by simp [present]⟩
    | _ => exact .same rfl rfl rfl
  exact ⟨settled.routes, settled.conns, settled.balance⟩

/-- `clear` gives back as many permits as there are routes. -/
theorem routed_length (ok : RoutesOk server) : server.routed.length = server.routeCount := by
  have member : ∀ generation, generation ∈ server.routed ↔ ∃ task route,
      server.tasks generation = some task ∧ server.routes task.address = some route ∧
        route.generation = generation := by
    intro generation
    simp only [routed, List.mem_filter, List.mem_range, isRouted]
    constructor
    · rintro ⟨-, isRouted⟩
      split at isRouted
      · rename_i task found
        rw [Option.any_eq_true] at isRouted
        obtain ⟨route, present, same⟩ := isRouted
        exact ⟨task, route, found, present, beq_iff_eq.mp same⟩
      · cases isRouted
    · rintro ⟨task, route, found, present, same⟩
      refine ⟨ok.generation generation task found, ?_⟩
      simp [found, present, same]
  symm
  refine occupancy_eq_length (List.nodup_range.filter _)
    (fun generation => ((server.tasks generation).map ActorTask.address).getD cartAddress) ?_ ?_
  · intro one first two second same
    obtain ⟨task, route, found, present, rfl⟩ := (member one).mp first
    obtain ⟨task', route', found', present', rfl⟩ := (member two).mp second
    simp only [found, found', Option.map_some, Option.getD_some] at same
    rw [same, present', Option.some.injEq] at present
    rw [present]
  · intro address
    constructor
    · intro occupied
      obtain ⟨route, present⟩ := Option.isSome_iff_exists.mp occupied
      obtain ⟨task, found, home⟩ := ok.task address route present
      refine ⟨route.generation, (member _).mpr ⟨task, route, found, home ▸ present, rfl⟩, ?_⟩
      simp [found, home]
    · rintro ⟨generation, routed, rfl⟩
      obtain ⟨task, route, found, present, -⟩ := (member generation).mp routed
      simp [found, present]

/-- What `shutdown` and `fence` do with the permits. -/
inductive Sweeps (before after : Server) : Prop where
  | kept (routes : after.routes = before.routes) (available : after.available = before.available)
  | cleared (routes : after.routes = fun _ => none)
      (available : after.available = before.available + before.routed.length)

theorem shutdownStep?_permits {expired : Bool} {pc : ShutdownPc}
    (stepped : server.shutdownStep? expired pc = some after) : Sweeps server after := by
  unfold shutdownStep? at stepped
  split at stepped
  case h_2 =>
    split at stepped
    · cases stepped
      exact .kept rfl rfl
    · split at stepped
      · cases stepped
        exact .kept rfl rfl
      · split at stepped
        · cases stepped
          exact .kept rfl rfl
        · cases stepped
  case h_4 =>
    cases stepped
    exact .cleared rfl rfl
  all_goals first
    | (cases stepped; done)
    | (cases stepped; exact .kept rfl rfl)
    | (split at stepped <;> cases stepped <;> exact .kept rfl rfl)

theorem fenceStep?_permits {pc : FencePc} (stepped : server.fenceStep? pc = some after) :
    Sweeps server after := by
  unfold fenceStep? at stepped
  split at stepped
  case h_3 =>
    split at stepped
    · cases stepped
      exact .kept rfl rfl
    · cases stepped
  case h_4 =>
    cases stepped
    exact .cleared rfl rfl
  all_goals first
    | (cases stepped; done)
    | (cases stepped; exact .kept rfl rfl)
    | (split at stepped <;> cases stepped <;> exact .kept rfl rfl)

end Server

namespace CapacityOk

open Server

/-- `shutdown` and `fence` leave connection tasks where they are. -/
theorem swept (ok : CapacityOk config server) (routes : RoutesOk server)
    (sweeps : Sweeps server after) (conns : ∀ id, (after.conns id).pc = (server.conns id).pc) :
    CapacityOk config after := by
  have reserves : ∀ id, (after.conns id).reserves = (server.conns id).reserves := by
    intro id
    rw [Conn.reserves, Conn.reserves, conns]
  have carried : after.reservationCount = server.reservationCount := by
    unfold reservationCount occupancy
    rw [occupied_congr reserves]
  have total := ok.balance
  refine ⟨?_, ?_, ?_, ?_⟩
  · cases sweeps with
    | kept same _ =>
        rw [same]
        exact ok.routes
    | cleared same _ =>
        rw [same, occupied_eq_empty fun _ => rfl]
        exact Set.finite_empty
  · rw [occupied_congr reserves]
    exact ok.conns
  · cases sweeps with
    | kept same available =>
        have kept : after.routeCount = server.routeCount := by rw [routeCount, routeCount, same]
        omega
    | cleared same available =>
        have none : after.routeCount = 0 := by
          rw [routeCount, same, occupancy, occupied_eq_empty fun _ => rfl, Set.ncard_empty]
        rw [routed_length routes] at available
        omega
  · intro id address session program reserved here
    exact ok.resolving id address session program reserved (conns id ▸ here)

theorem fresh (config : RuntimeConfig) : CapacityOk config (.fresh config) where
  routes := by
    rw [occupied_eq_empty fun _ => rfl]
    exact Set.finite_empty
  conns := by
    rw [occupied_eq_empty fun _ => rfl]
    exact Set.finite_empty
  balance := by
    unfold routeCount reservationCount occupancy
    rw [occupied_eq_empty fun _ => rfl, occupied_eq_empty fun _ => rfl, Set.ncard_empty,
      Set.ncard_empty]
    exact Nat.zero_add _
  resolving := by rintro id address session program reserved ⟨⟩

theorem step? (ok : CapacityOk config server) (routes : RoutesOk server) {authorityValid : Bool}
    {event : ServerEvent} (moved : server.step? config authorityValid event = some after) :
    CapacityOk config after := by
  cases event with
  | conn id event =>
      obtain ⟨address, step⟩ := ok.connStep moved
      refine ok.stepped step ?_
      intro other place session program reserved there
      by_cases same : other = id
      · subst same
        exact ok.connResolving moved there
      · obtain ⟨conn, conns⟩ := step.conns
        rw [conns, Function.update_of_ne same] at there
        exact ok.resolving other place session program reserved there
  | task generation event =>
      obtain ⟨task, -, taken⟩ := Option.bind_eq_some_iff.mp moved
      have spends := taskStep?_spends taken
      have step : CapacityStep server after task.address 0 := by
        refine ⟨spends.routes, ⟨server.conns 0, ?_⟩, ?_⟩
        · rw [spends.conns, Function.update_eq_self]
        · have balance := spends.balance
          rw [spends.conns]
          omega
      refine ok.stepped step ?_
      rw [spends.conns]
      exact ok.resolving
  | shutdown expired =>
      exact ok.swept routes (shutdownStep?_permits moved) (shutdownStep?_cases moved).conns
  | fence => exact ok.swept routes (fenceStep?_permits moved) (fenceStep?_cases moved).conns

end CapacityOk

theorem capacityOk_of_reachable (reach : (serverSystem config).Reachable server) :
    CapacityOk config server := by
  refine invariant_of_reachable_step (CapacityOk config) ?_ ?_ reach
  · rintro start rfl
    exact .fresh config
  · intro before label after earlier ok _ moved
    exact ok.step? (routesOk_of_reachable earlier) moved

/-- In every reachable state the routes in the actors map and the reservations in
flight are as many as the permits that are not available, which is what the
Server reports in its capacity sample. -/
theorem capacity_is_conserved (reach : (serverSystem config).Reachable server) :
    (occupied Option.isSome server.routes).Finite ∧
    (occupied Conn.reserves server.conns).Finite ∧
    server.available ≤ config.maxActiveActors ∧
    server.routeCount + server.reservationCount = config.maxActiveActors - server.available ∧
    server.routeCount ≤ config.maxActiveActors ∧
    ∀ (node : NodeRecord) (now : Nat),
      (node.resample (server.capacitySample config) now).activeActorCount =
        server.routeCount + server.reservationCount ∧
      ((node.resample (server.capacitySample config) now).pressured = true ↔
        server.routeCount + server.reservationCount = config.maxActiveActors) := by
  have ok := capacityOk_of_reachable reach
  have total := ok.balance
  refine ⟨ok.routes, ok.conns, by omega, by omega, by omega, ?_⟩
  intro node now
  simp only [NodeRecord.resample, Server.capacitySample, beq_iff_eq]
  constructor
  · omega
  · omega

/-- The first actor holds the one permit that is taken. -/
theorem first_actor_takes_one_permit :
    ∃ server, (serverSystem cartRuntime).run? (.fresh cartRuntime) openAndActivate = some server ∧
      server.available = 1 ∧ server.routeCount + server.reservationCount = 1 := by
  have reach := @reachable_of_run? _ _ (serverSystem cartRuntime) _ _ openAndActivate rfl rfl
  exact ⟨_, rfl, rfl, (capacity_is_conserved reach).2.2.2.1⟩

end Coactor.Runtime
