import Coactor.Client.Effects
import Coactor.Client.PoolBounds
import Coactor.Client.Reception
import Coactor.Client.Residue
import Coactor.Client.Termination
import Coactor.Foundation.Fairness

/-!
# Shutting a Client down

`shutdown` begins when every call of `open` has returned.  From then on no
connection is added, no pool is locked and no open is pending anew, so what
`shutdown` has not come to yet can only get less.  It closes every connection
it finds in the pools, and every connection that is not closed is in a pool.
-/

namespace Coactor.Client

open Coactor.Coordination
open Coactor.Foundation
open Coactor.Foundation.Transition
open Coactor.Runtime

/-! ## Pools that wind down -/

namespace PoolView

/-- The pools after a step that only takes away from them. -/
structure Winds (before after : PoolView) : Prop where
  pools : after.pools = before.pools
  holders : after.holders = before.holders
  members : ∀ pool, (after.members pool).Sublist (before.members pool)
  kept : ∀ pool, ∀ id ∈ before.members pool, after.isClosed id = false → id ∈ after.members pool
  closed : ∀ id, after.isClosed id = false → before.isClosed id = false
  departed : ∀ id, after.hasDeparted id = true → after.isClosed id = true

variable {config : ClientConfig} {view result : PoolView} {session : SessionId}
  {event : OpenEvent} {pc next : OpenPc}

/-- A step that changes one connection at most. -/
theorem winds_of_adjust (departed : ∀ id, view.hasDeparted id = true → view.isClosed id = true)
    {id : Nat} {change : Account → Account}
    (closed : ∀ account, view.accounts id = some account → account.closed = true →
      (change account).closed = true)
    (leaves : ∀ account, view.accounts id = some account → (change account).departed = true →
      (change account).closed = true) : view.Winds (view.adjust id change) := by
  have same : ∀ other, other ≠ id →
      (view.adjust id change).accounts other = view.accounts other :=
    fun other different => Function.update_of_ne different _ _
  have own : (view.adjust id change).accounts id = (view.accounts id).map change :=
    Function.update_self _ _ _
  refine ⟨rfl, rfl, fun _ => .refl _, fun _ _ member _ => member, fun other open' => ?_,
    fun other gone => ?_⟩
  · by_cases here : other = id
    · subst here
      rw [isClosed, own] at open'
      rw [isClosed]
      cases found : view.accounts other with
      | none => simp [found] at open'
      | some account =>
          rw [found, Option.map_some, Option.all_some] at open'
          rw [Option.all_some]
          by_contra was
          rw [closed account found (Bool.eq_true_of_not_eq_false was)] at open'
          cases open'
    · rw [isClosed, same other here] at open'
      exact open'
  · by_cases here : other = id
    · subst here
      rw [hasDeparted, own] at gone
      rw [isClosed, own]
      cases found : view.accounts other with
      | none => rfl
      | some account =>
          rw [found, Option.map_some, Option.any_some] at gone
          exact leaves account found gone
    · rw [hasDeparted, same other here] at gone
      rw [isClosed, same other here]
      exact departed other gone

theorem winds_refl (departed : ∀ id, view.hasDeparted id = true → view.isClosed id = true) :
    view.Winds view :=
  ⟨rfl, rfl, fun _ => .refl _, fun _ _ member _ => member, fun _ open' => open', departed⟩

/-- Moving a call on does nothing to the pools. -/
theorem Winds.setPc {pc : OpenPc} (winds : view.Winds result) :
    view.Winds (result.setPc session pc) :=
  ⟨winds.pools, winds.holders, winds.members, winds.kept, winds.closed, winds.departed⟩

/-- A call that has returned only takes away. -/
theorem winds_of_returned (departed : ∀ id, view.hasDeparted id = true → view.isClosed id = true)
    (returned : pc.hasReturned = true)
    (step : PoolStep config view session event pc next result) : view.Winds result := by
  have adjusts : ∀ (id : Nat) (change : Account → Account),
      (∀ account, (change account).closed = account.closed) →
      (∀ account, (change account).departed = account.departed) →
      view.Winds (view.adjust id change) := by
    intro id change closed left
    refine winds_of_adjust departed (fun account _ was => (closed account).trans was) ?_
    intro account found gone
    rw [left] at gone
    have ended := departed id
    rw [hasDeparted, isClosed, found] at ended
    exact (closed account).trans (ended gone)
  cases step with
  | stays | apart => exact winds_refl departed
  | unbinds | lowers => exact adjusts _ _ (fun _ => rfl) fun _ => rfl
  | releases held =>
      cases pc with
      | retaining | connecting | choosing | binding | counting | spawning => cases returned
      | _ => cases held
  | _ => cases returned

end PoolView

/-! ## Locks of the pools -/

namespace PoolView

variable {config : ClientConfig} {view result : PoolView} {session : SessionId}
  {event : OpenEvent} {pc next : OpenPc}

theorem holds?_of_isApart (apart : pc.isApart = true) : pc.holds? = none :=
  OpenPc.holds?_eq_none (OpenPc.isApart_iff.mp apart).1

/-- A step of a call takes a lock and holds it, or gives back the one it holds. -/
theorem allHeld_step (allHeld : AllHeld view.holders view.holds)
    (here : view.pcs session = some pc)
    (step : PoolStep config view session event pc next result) :
    AllHeld result.holders (Function.update view.holds session next.holds?) := by
  have own := holds_of_pcs here
  cases step with
  | stays => exact allHeld.keep own.symm
  | apart unheld level there =>
      exact allHeld.keep ((holds?_of_isApart there).trans (own.trans unheld).symm)
  | @enters target =>
      have same : (view.pool target.endpoint).2.holders = view.holders := by
        unfold PoolView.pool
        split <;> rfl
      rw [same]
      exact allHeld.keep own.symm
  | locks => exact allHeld.acquire own
  | releases held there => exact holds?_of_isApart there ▸ allHeld.release (own.trans held)
  | returns => exact allHeld.release own
  | unbinds here' there =>
      refine allHeld.keep ?_
      rw [own, holds?_of_isApart (OpenPc.isApart_of_unbinds here')]
      exact OpenPc.holds?_eq_none (OpenPc.lookedUp?_eq_none there)
  | lowers here' there =>
      refine allHeld.keep ?_
      rw [own, holds?_of_isApart there]
      exact (OpenPc.holds?_eq_none (OpenPc.lookedUp?_eq_none here')).symm
  | _ => exact allHeld.keep own.symm

theorem pcs_of_step (step : PoolStep config view session event pc next result) :
    result.pcs = view.pcs := by
  cases step with
  | enters => exact (pool_same view _).1
  | _ => rfl

end PoolView

theorem PoolMove.allHeld {config : ClientConfig} {client : ClientInner} {label : ClientEvent}
    {view : PoolView} (allHeld : AllHeld client.poolView.holders client.poolView.holds)
    (move : PoolMove config client label view) : AllHeld view.holders view.holds := by
  cases move with
  | quiet | closes | departs | removes => exact allHeld
  | begins unknown =>
      rw [PoolView.holds_setPc]
      refine allHeld.keep ?_
      rw [PoolView.holds, unknown]
      rfl
  | @call session event pc next result here step =>
      have same : result.holds = client.poolView.holds := by
        funext other
        rw [PoolView.holds, PoolView.pcs_of_step step, PoolView.holds]
      have held := PoolView.allHeld_step allHeld here step
      rw [PoolView.holds_setPc, same]
      exact held

/-- While a Client runs, every lock of a pool that is taken is held by a call. -/
theorem allHeld_of_reachable {config : ClientConfig} {client : ClientInner}
    (reach : (clientSystem config).Reachable client) (running : client.status = .running) :
    AllHeld client.poolView.holders client.poolView.holds := by
  refine invariant_of_reachable_step (fun client : ClientInner => client.status = .running →
    AllHeld client.poolView.holders client.poolView.holds) ?_ ?_ reach running
  · rintro _ rfl - pool ⟨⟩
  · intro before label after earlier allHeld _ stepped running
    obtain ⟨started, open'⟩ := running_before earlier stepped running
    exact (ClientInner.step?_pools open' stepped).allHeld (allHeld started)

/-! ## Clients that wind down -/

variable {config : ClientConfig} {client before after : ClientInner} {label : ClientEvent}

/-- No call of `open` is in progress. -/
def ClientInner.AllReturned (client : ClientInner) : Prop :=
  ∀ session call, client.calls session = some call → call.pc.hasReturned = true

theorem PoolMove.winds {view : PoolView} (returned : client.AllReturned)
    (departed : ∀ id, client.poolView.hasDeparted id = true → client.poolView.isClosed id = true)
    (move : PoolMove config client label view) : client.poolView.Winds view := by
  cases move with
  | quiet => exact PoolView.winds_refl departed
  | begins => exact (PoolView.winds_refl departed).setPc
  | call here step =>
      obtain ⟨call, found, rfl⟩ := Option.map_eq_some_iff.mp here
      exact (PoolView.winds_of_returned departed (returned _ call found) step).setPc
  | closes losing =>
      exact PoolView.winds_of_adjust departed (fun _ _ _ => rfl) fun _ _ _ => rfl
  | @departs id event account found left change endpoint closed =>
      have ended : account.closed = true := by
        have closed := departed id
        rw [PoolView.hasDeparted, PoolView.isClosed, found] at closed
        exact closed left
      refine PoolView.winds_of_adjust departed ?_ ?_
      · rintro other present -
        rw [Option.some.inj (present.symm.trans found), closed]
        exact ended
      · rintro other present -
        rw [Option.some.inj (present.symm.trans found), closed]
        exact ended
  | @removes id pool event account found left free =>
      have members := @PoolView.members_setMembers client.poolView pool
        ((client.poolView.members pool).filter (· != id))
      refine ⟨rfl, rfl, fun other => ?_, fun other kept member open' => ?_, fun _ open' => open',
        departed⟩
      · rcases members other with same | ⟨rfl, same⟩
        · rw [same]
        · rw [same]
          exact List.filter_sublist
      · rcases members other with same | ⟨rfl, same⟩
        · rw [same]
          exact member
        · rw [same]
          refine List.mem_filter.mpr ⟨member, ?_⟩
          rw [bne_iff_ne]
          rintro rfl
          have gone : client.poolView.hasDeparted kept = true := by
            rw [PoolView.hasDeparted, found]
            exact left
          have opened : client.poolView.isClosed kept = false := open'
          rw [departed kept gone] at opened
          cases opened

/-! ## What holds of every connection -/

/-- Something that does not depend on what is sent or bound, nor on where a loop is
that has been spawned. -/
structure Enduring (holds : TransportConnection → Prop) : Prop where
  sender : ∀ connection sender, holds connection → holds { connection with sender := sender }
  sessions : ∀ connection sessions, holds connection → holds { connection with sessions := sessions }
  boundSessions : ∀ connection boundSessions, holds connection →
    holds { connection with boundSessions := boundSessions }
  closed : ∀ connection closed, holds connection → holds { connection with closed := closed }
  loop : ∀ connection loop, connection.loop ≠ .unspawned → holds connection →
    holds { connection with loop := loop }

/-- Something holds of every connection of a Client. -/
def ClientInner.Each (client : ClientInner) (holds : TransportConnection → Prop) : Prop :=
  ∀ id connection, client.connections id = some connection → holds connection

namespace ClientInner

variable {holds : TransportConnection → Prop} {session : SessionId} {call : OpenCall}
  {event : OpenEvent} {pc : OpenPc}

theorem each_update (each : client.Each holds) {id : Nat} {changed : Option TransportConnection}
    (same : after.connections = Function.update client.connections id changed)
    (kept : ∀ connection, changed = some connection → holds connection) : after.Each holds := by
  intro other connection found
  rw [same] at found
  by_cases own : other = id
  · subst own
    rw [Function.update_self] at found
    exact kept connection found
  · rw [Function.update_of_ne own] at found
    exact each other connection found

theorem each_modify (each : client.Each holds) {id : Nat}
    {change : TransportConnection → TransportConnection}
    (kept : ∀ connection, holds connection → holds (change connection)) :
    (client.modify id change).Each holds := by
  refine each_update each rfl fun connection found => ?_
  obtain ⟨old, present, rfl⟩ := Option.map_eq_some_iff.mp found
  exact kept old (each id old present)

/-- A call of `open` keeps what lasts, if it also holds of a connection that the
call has just established and of one whose receive loop it has just spawned. -/
theorem openStep?_each (enduring : Enduring holds) (each : client.Each holds)
    (connects : ∀ target pool, pc = .connecting target pool →
      holds ⟨target.endpoint, ⟨transportChannelCapacity, [], false⟩, [], 0, false, .unspawned,
        false, false⟩)
    (spawns : ∀ target pool id connection, pc = .spawning target pool id → holds connection →
      connection.loop = .unspawned →
        holds { connection with loop := .receiving, registered := true })
    (stepped : client.openStep? config session call pc event = some after) :
    after.Each holds := by
  have keeps : ∀ {middle : ClientInner}, middle.connections = client.connections →
      middle.Each holds := by
    intro middle same id connection found
    rw [same] at found
    exact each id connection found
  have sends : ∀ id sent, (client.offerTo id sent).Each holds :=
    fun id sent => each_modify each fun connection => enduring.sender connection _
  obtain ⟨middle, next, step, rfl⟩ := openStep?_cases stepped
  cases step with
  | @pooled target =>
      refine keeps ?_
      change (client.pool target.endpoint).2.connections = client.connections
      unfold pool
      split <;> rfl
  | @connected target pool =>
      refine each_update each rfl ?_
      rintro connection ⟨⟩
      exact connects target pool rfl
  | bound | unbound | dropUnbound =>
      exact each_modify each fun connection => enduring.sessions connection _
  | counted | uncounted | dropUncounted =>
      exact each_modify each fun connection => enduring.boundSessions connection _
  | @spawned target pool id =>
      refine @each_modify client _ each id _ fun connection kept => ?_
      split
      · rename_i unspawned
        exact spawns target pool id connection rfl kept unspawned
      · exact kept
  | sent => exact each_modify each fun connection => enduring.sender connection _
  | closeSent | dropSent => exact sends _ _
  | _ => exact keeps rfl

/-- A receive loop keeps what lasts. -/
theorem loopStep?_each (enduring : Enduring holds) (each : client.Each holds) {id : Nat}
    {connection : TransportConnection} {loop : LoopPc} {loopEvent : LoopEvent}
    (found : client.connections id = some connection) (here : connection.loop = loop)
    (stepped : client.loopStep? id connection loop loopEvent = some after) : after.Each holds := by
  have goes : ∀ {middle : ClientInner} {change : TransportConnection → TransportConnection},
      middle.connections = client.connections → connection.loop ≠ .unspawned →
      (∀ one, holds one → one.loop ≠ .unspawned → holds (change one)) →
      (middle.modify id change).Each holds := by
    intro middle change same spawned kept
    refine @each_update client _ holds each id (some (change connection)) ?_ ?_
    · rw [modify, same, found]
      rfl
    · rintro _ ⟨⟩
      exact kept connection (each id connection found) spawned
  have moves : ∀ {middle : ClientInner} {next : LoopPc},
      middle.connections = client.connections → connection.loop ≠ .unspawned →
      (middle.gotoLoop id next).Each holds := by
    intro middle next same spawned
    exact goes same spawned fun one kept loops => enduring.loop one _ loops kept
  cases loopStep?_cases stepped with
  | closed =>
      refine goes rfl (by simp [here]) fun one kept loops => ?_
      exact enduring.closed { one with loop := .unpooling } true (enduring.loop one _ loops kept)
  | drained =>
      refine goes rfl (by simp [here]) fun one kept loops => ?_
      exact enduring.sessions { one with loop := .zeroing one.sessions } []
        (enduring.loop one _ loops kept)
  | @zeroed sessions =>
      refine goes rfl (by simp [here]) fun one kept loops => ?_
      exact enduring.boundSessions { one with loop := .ending sessions } 0
        (enduring.loop one _ loops kept)
  | terminated => exact moves (terminate_keeps _).1 (by simp [here])
  | _ => exact moves rfl (by simp [here])

/-- Every step but those of `shutdown` keeps what lasts. -/
theorem step?_each (enduring : Enduring holds) (each : client.Each holds)
    (outside : label ≠ .shutdown)
    (connects : ∀ session call target pool, client.calls session = some call →
      call.pc = .connecting target pool →
        holds ⟨target.endpoint, ⟨transportChannelCapacity, [], false⟩, [], 0, false, .unspawned,
          false, false⟩)
    (spawns : ∀ session call target pool id connection, client.calls session = some call →
      call.pc = .spawning target pool id → holds connection → connection.loop = .unspawned →
        holds { connection with loop := .receiving, registered := true })
    (stepped : client.step? config label = some after) : after.Each holds := by
  cases label with
  | begin session address =>
      simp only [step?, begin?] at stepped
      split at stepped <;> cases stepped
      exact each
  | call session event =>
      obtain ⟨call, found, moved⟩ := Option.bind_eq_some_iff.mp stepped
      exact openStep?_each enduring each (fun target pool here => connects session call target pool
        found here) (fun target pool id connection here => spawns session call target pool id
          connection found here) moved
  | loop id event =>
      obtain ⟨connection, found, moved⟩ := Option.bind_eq_some_iff.mp stepped
      exact loopStep?_each enduring each found rfl moved
  | transmit id =>
      obtain ⟨connection, found, moved⟩ := Option.bind_eq_some_iff.mp stepped
      obtain ⟨received, waiting, rfl⟩ := Option.map_eq_some_iff.mp moved
      exact each_modify each fun one => enduring.sender one _
  | hangUp id =>
      cases stepped
      exact each_modify each fun one => enduring.sender one _
  | send session payload =>
      simp only [step?, send?] at stepped
      split at stepped <;> cases stepped
      exact each
  | sending index =>
      obtain ⟨send, present, moved⟩ := Option.bind_eq_some_iff.mp stepped
      obtain ⟨⟨address, id⟩, opened, sent⟩ := Option.bind_eq_some_iff.mp moved
      obtain ⟨session, payload, pc⟩ := send
      cases pc with
      | checking =>
          cases sent
          exact each
      | sending =>
          cases sent
          exact each_modify each fun one => enduring.sender one _
      | returned => cases sent
  | recv session =>
      obtain ⟨received, waiting, rfl⟩ := Option.map_eq_some_iff.mp stepped
      exact each
  | shutdown => exact absurd rfl outside

end ClientInner

/-! ## Receive loops that can be aborted -/

/-- A receive loop that has been spawned can be aborted by `shutdown`, or has been. -/
def TransportConnection.Heeds (connection : TransportConnection) : Prop :=
  connection.loop = .unspawned ∨ connection.registered = true ∨ connection.abortRequested = true

theorem heeds_enduring : Enduring TransportConnection.Heeds where
  sender _ _ heeds := heeds
  sessions _ _ heeds := heeds
  boundSessions _ _ heeds := heeds
  closed _ _ heeds := heeds
  loop _ _ spawned heeds := .inr (heeds.resolve_left spawned)

theorem unregistered_enduring :
    Enduring fun connection : TransportConnection => connection.registered = false where
  sender _ _ kept := kept
  sessions _ _ kept := kept
  boundSessions _ _ kept := kept
  closed _ _ kept := kept
  loop _ _ _ kept := kept

/-- What `shutdown` does to the connections. -/
theorem shutdownStep?_connections {pc : ClientShutdownPc}
    (stepped : before.shutdownStep? pc = some after) :
    after.connections = before.connections ∨
      (∃ id others rest, pc = .closing (id :: others) rest ∧ after.connections =
        (before.modify id fun connection => if connection.closed then connection
          else { connection with closed := true, sender := connection.sender.close }).connections) ∨
      (pc = .aborting ∧ after.connections = fun id => (before.connections id).map fun connection =>
        if connection.registered then
          { connection with registered := false, abortRequested := true }
        else connection) := by
  cases pc with
  | idle =>
      simp only [ClientInner.shutdownStep?] at stepped
      split at stepped <;> cases stepped
      exact .inl rfl
  | pools rest =>
      cases rest with
      | nil =>
          cases stepped
          exact .inl rfl
      | cons pool rest =>
          simp only [ClientInner.shutdownStep?] at stepped
          split at stepped <;> cases stepped
          exact .inl rfl
  | closing connections rest =>
      cases connections with
      | nil =>
          cases stepped
          exact .inl rfl
      | cons id others =>
          cases stepped
          exact .inr (.inl ⟨id, others, rest, rfl, rfl⟩)
  | aborting =>
      cases stepped
      exact .inr (.inr ⟨rfl, rfl⟩)
  | terminating sessions =>
      cases sessions <;> cases stepped <;> exact .inl rfl
  | collecting | clearing | snapshotting | unregistering =>
      cases stepped
      exact .inl rfl
  | returned => cases stepped

theorem shutdownStep?_each {holds : TransportConnection → Prop} {pc : ClientShutdownPc}
    (enduring : Enduring holds) (each : before.Each holds)
    (aborts : ∀ connection, connection.registered = true → holds connection →
      holds { connection with registered := false, abortRequested := true })
    (stepped : before.shutdownStep? pc = some after) : after.Each holds := by
  rcases shutdownStep?_connections stepped with
    same | ⟨id, others, rest, -, same⟩ | ⟨-, same⟩
  · intro id connection found
    rw [same] at found
    exact each id connection found
  · intro other connection found
    rw [same] at found
    refine @ClientInner.each_modify before _ each id _ (fun one kept => ?_) other connection found
    split
    · exact kept
    · exact enduring.closed { one with sender := one.sender.close } true
        (enduring.sender one _ kept)
  · intro id connection found
    rw [same] at found
    obtain ⟨old, present, rfl⟩ := Option.map_eq_some_iff.mp found
    split
    · rename_i registered
      exact aborts old registered (each id old present)
    · exact each id old present

theorem heeds_of_reachable (reach : (clientSystem config).Reachable client) :
    client.Each TransportConnection.Heeds := by
  refine invariant_of_step (fun client : ClientInner => client.Each TransportConnection.Heeds)
    ?_ ?_ reach
  · rintro _ rfl id connection ⟨⟩
  · intro before label after heeds _ stepped
    by_cases outside : label = .shutdown
    · subst outside
      exact shutdownStep?_each heeds_enduring heeds (fun _ _ _ => .inr (.inr rfl)) stepped
    · exact ClientInner.step?_each heeds_enduring heeds outside (fun _ _ _ _ _ _ => .inl rfl)
        (fun _ _ _ _ _ _ _ _ _ _ => .inr (.inl rfl)) stepped

/-! ## Connections whose receive loop is still to be spawned -/

/-- The connection whose receive loop a call is about to spawn. -/
def OpenPc.spawns? : OpenPc → Option Nat
  | .binding _ _ connection | .counting _ _ connection | .spawning _ _ connection => some connection
  | _ => none

/-- A connection has no receive loop yet. -/
def ClientInner.Unspawned (client : ClientInner) (id : Nat) : Prop :=
  ∃ connection, client.connections id = some connection ∧ connection.loop = .unspawned

section Unspawned

variable {call next : OpenCall} {event : OpenEvent} {pc : OpenPc} {middle : ClientInner}
  {session : SessionId} {id other : Nat}

theorem ClientInner.unspawned_modify {change : TransportConnection → TransportConnection}
    (unspawned : (client.modify other change).Unspawned id)
    (kept : ∀ connection, (change connection).loop = .unspawned → connection.loop = .unspawned) :
    client.Unspawned id := by
  obtain ⟨connection, found, loop⟩ := unspawned
  change Function.update client.connections other ((client.connections other).map change) id =
    some connection at found
  by_cases same : id = other
  · subst same
    rw [Function.update_self] at found
    obtain ⟨old, present, rfl⟩ := Option.map_eq_some_iff.mp found
    exact ⟨old, present, kept old loop⟩
  · rw [Function.update_of_ne same] at found
    exact ⟨connection, found, loop⟩

/-- A call that establishes a connection is about to spawn its receive loop. -/
theorem OpenCase.unspawned (step : OpenCase config client session call pc event middle next)
    (unspawned : middle.Unspawned id) : client.Unspawned id ∨ next.pc.spawns? = some id := by
  cases step with
  | @pooled target =>
      have same : (client.pool target.endpoint).2.connections = client.connections := by
        unfold ClientInner.pool
        split <;> rfl
      obtain ⟨connection, found, loop⟩ := unspawned
      exact .inl ⟨connection, same ▸ found, loop⟩
  | @connected target pool =>
      by_cases new : id = client.nextConnection
      · exact .inr (new ▸ rfl)
      · obtain ⟨connection, found, loop⟩ := unspawned
        change Function.update client.connections client.nextConnection _ id = _ at found
        rw [Function.update_of_ne new] at found
        exact .inl ⟨connection, found, loop⟩
  | bound | unbound | dropUnbound | counted | uncounted | dropUncounted | sent | closeSent
  | dropSent => exact .inl (ClientInner.unspawned_modify unspawned fun _ loop => loop)
  | spawned =>
      refine .inl (ClientInner.unspawned_modify unspawned fun connection loop => ?_)
      split at loop
      · cases loop
      · exact loop
  | _ => exact .inl unspawned

/-- A call lets a connection out of its hands with its receive loop spawned. -/
theorem OpenCase.spawns (step : OpenCase config client session call call.pc event middle next)
    (holds : call.pc.spawns? = some id) : next.pc.spawns? = some id ∨ ¬ middle.Unspawned id := by
  generalize here : call.pc = pc at step
  rw [here] at holds
  cases step with
  | rebound | bound | counted => exact .inl holds
  | @spawned target pool connection =>
      obtain rfl : connection = id := Option.some.inj holds
      refine .inr ?_
      rintro ⟨found, present, loop⟩
      change Function.update client.connections connection _ connection = _ at present
      rw [Function.update_self] at present
      obtain ⟨old, -, rfl⟩ := Option.map_eq_some_iff.mp present
      split at loop
      · cases loop
      · rename_i spawned
        exact spawned loop
  | expires => exact .inl (here ▸ holds)
  | abandoned awaiting =>
      cases pc with
      | binding | counting | spawning => cases awaiting
      | _ => cases holds
  | _ => cases holds

/-- A receive loop that runs was spawned. -/
theorem LoopCase.unspawned {connection : TransportConnection} {loop : LoopPc}
    {loopEvent : LoopEvent} (step : LoopCase client other connection loop loopEvent after)
    (unspawned : after.Unspawned id) : client.Unspawned id := by
  have goes : ∀ {middle : ClientInner} {onward : LoopPc}, onward ≠ .unspawned →
      (middle.gotoLoop other onward).Unspawned id → middle.Unspawned id := by
    intro middle onward spawned unspawned
    exact ClientInner.unspawned_modify unspawned fun _ loop => absurd loop spawned
  cases step with
  | @received inbound =>
      refine goes ?_ unspawned
      unfold Inbound.handle
      split <;> rintro ⟨⟩
  | closed | drained | zeroed =>
      exact ClientInner.unspawned_modify unspawned fun _ loop => by cases loop
  | terminated =>
      obtain ⟨found, present, loop⟩ := goes (by rintro ⟨⟩) unspawned
      exact ⟨found, (ClientInner.terminate_keeps _).1 ▸ present, loop⟩
  | _ => exact goes (by rintro ⟨⟩) unspawned

/-- Nothing but a call of `open` makes connections. -/
theorem unspawned_of_step (apart : ∀ session openEvent, label ≠ .call session openEvent)
    (stepped : before.step? config label = some after) (unspawned : after.Unspawned id) :
    before.Unspawned id := by
  cases label with
  | begin session address =>
      simp only [ClientInner.step?, ClientInner.begin?] at stepped
      split at stepped <;> cases stepped
      exact unspawned
  | call session openEvent => exact absurd rfl (apart session openEvent)
  | loop id loopEvent =>
      obtain ⟨connection, found, moved⟩ := Option.bind_eq_some_iff.mp stepped
      exact (ClientInner.loopStep?_cases moved).unspawned unspawned
  | transmit id =>
      obtain ⟨connection, found, moved⟩ := Option.bind_eq_some_iff.mp stepped
      obtain ⟨received, waiting, rfl⟩ := Option.map_eq_some_iff.mp moved
      exact ClientInner.unspawned_modify unspawned fun _ loop => loop
  | hangUp id =>
      cases stepped
      exact ClientInner.unspawned_modify unspawned fun _ loop => loop
  | send session payload =>
      simp only [ClientInner.step?, ClientInner.send?] at stepped
      split at stepped <;> cases stepped
      exact unspawned
  | sending index =>
      obtain ⟨send, present, moved⟩ := Option.bind_eq_some_iff.mp stepped
      obtain ⟨⟨address, own⟩, opened, sent⟩ := Option.bind_eq_some_iff.mp moved
      obtain ⟨session, payload, pc⟩ := send
      cases pc with
      | checking =>
          cases sent
          exact unspawned
      | sending =>
          cases sent
          exact ClientInner.unspawned_modify unspawned fun _ loop => loop
      | returned => cases sent
  | recv session =>
      obtain ⟨received, waiting, rfl⟩ := Option.map_eq_some_iff.mp stepped
      exact unspawned
  | shutdown =>
      obtain ⟨connection, found, loop⟩ := unspawned
      rcases shutdownStep?_connections stepped with same | ⟨closed, others, rest, -, same⟩ | ⟨-, same⟩
      · exact ⟨connection, same ▸ found, loop⟩
      · rw [same] at found
        refine ClientInner.unspawned_modify ⟨connection, found, loop⟩ fun one loop => ?_
        split at loop <;> exact loop
      · rw [same] at found
        obtain ⟨old, present, rfl⟩ := Option.map_eq_some_iff.mp found
        refine ⟨old, present, ?_⟩
        split at loop <;> exact loop

/-- A connection has no receive loop yet only while a call is about to spawn it. -/
theorem spawns_of_reachable (reach : (clientSystem config).Reachable client)
    (unspawned : client.Unspawned id) :
    ∃ session call, client.calls session = some call ∧ call.pc.spawns? = some id := by
  refine invariant_of_step (fun client : ClientInner => ∀ id, client.Unspawned id →
    ∃ session call, client.calls session = some call ∧ call.pc.spawns? = some id) ?_ ?_ reach id
    unspawned
  · rintro _ rfl id ⟨connection, ⟨⟩, -⟩
  · intro before label after spawns _ taken id unspawned
    have stepped : before.step? config label = some after := taken
    cases ClientInner.step?_effect stepped with
    | @begin begun address unknown calls =>
        have earlier := unspawned_of_step (by rintro session openEvent ⟨⟩) stepped unspawned
        obtain ⟨session, call, found, here⟩ := spawns id earlier
        refine ⟨session, call, ?_, here⟩
        rw [calls, Function.update_of_ne, found]
        rintro rfl
        cases unknown.symm.trans found
    | @call called openEvent current next known effect =>
        obtain ⟨middle, step, rfl⟩ := case_of_effect known stepped effect
        have old : middle.Unspawned id := unspawned
        rcases step.unspawned old with earlier | here
        · obtain ⟨session, call, found, here⟩ := spawns id earlier
          by_cases same : session = called
          · subst same
            obtain rfl := Option.some.inj (known.symm.trans found)
            exact ⟨session, next, Function.update_self _ _ _,
              (step.spawns here).resolve_right fun spawned => spawned old⟩
          · refine ⟨session, call, ?_, here⟩
            rw [effect.calls, Function.update_of_ne same, found]
        · exact ⟨called, next, Function.update_self _ _ _, here⟩
    | other outside calls =>
        obtain ⟨session, call, found, here⟩ := spawns id
          (unspawned_of_step outside stepped unspawned)
        exact ⟨session, call, calls ▸ found, here⟩

end Unspawned

/-! ## How far `shutdown` has come -/

def ClientShutdownPc.phase : ClientShutdownPc → Nat
  | .idle => 0
  | .collecting => 1
  | .pools _ | .closing _ _ => 2
  | .aborting => 3
  | .clearing => 4
  | .snapshotting => 5
  | .unregistering _ => 6
  | .terminating _ => 7
  | .returned => 8

/-- The connections that `shutdown` still comes to. -/
def ClientInner.toClose (client : ClientInner) : List Nat :=
  match client.shutdown with
  | .idle | .collecting => (client.pools.map Prod.snd).flatMap client.poolConnections
  | .pools rest => rest.flatMap client.poolConnections
  | .closing connections rest => connections ++ rest.flatMap client.poolConnections
  | _ => []

/-- What holds while `shutdown` is under way and after it. -/
structure WindingDown (client : ClientInner) : Prop where
  unlocked : ∀ pool, client.poolHolders pool = false
  left : ∀ id, client.isClosed id = false → id ∈ client.toClose
  departed : ∀ id, client.poolView.hasDeparted id = true → client.poolView.isClosed id = true
  collected : 2 ≤ client.shutdown.phase → client.pools = []
  aborted : 4 ≤ client.shutdown.phase → client.Each fun connection => connection.registered = false
  cleared : 5 ≤ client.shutdown.phase → ∀ session, client.pendingOpens session = none
  unregistered : 7 ≤ client.shutdown.phase → client.receivers = []

theorem flatMap_kept {pools : List Nat} {members members' : Nat → List Nat} {id : Nat}
    (kept : ∀ pool, id ∈ members pool → id ∈ members' pool) (member : id ∈ pools.flatMap members) :
    id ∈ pools.flatMap members' := by
  obtain ⟨pool, listed, present⟩ := List.mem_flatMap.mp member
  exact List.mem_flatMap.mpr ⟨pool, listed, kept pool present⟩

/-- Only `shutdown` moves itself on. -/
theorem shutdown_of_step (outside : label ≠ .shutdown)
    (stepped : before.step? config label = some after) : after.shutdown = before.shutdown := by
  cases ClientInner.step?_moves stepped with
  | begin _ _ _ _ _ _ _ _ _ shutdown => exact shutdown
  | call _ step => exact step.aside.shutdown
  | loop _ step => exact step.shutdown
  | transmit _ _ opens | act _ _ _ _ _ opens => exact opens.shutdown
  | hangUp _ opens | send _ opens | sending _ _ opens => exact opens.shutdown
  | recv _ _ _ opens => exact opens.shutdown
  | shutdown => exact absurd rfl outside

/-- A Client without calls in progress opens nothing and registers nothing. -/
theorem quiet_of_returned (returned : before.AllReturned) (outside : label ≠ .shutdown)
    (stopped : before.status = .stopped) (stepped : before.step? config label = some after) :
    (∀ session, before.pendingOpens session = none → after.pendingOpens session = none) ∧
      ∀ session ∈ after.receivers, session ∈ before.receivers := by
  constructor
  · intro session free
    cases ClientInner.step?_moves stepped with
    | begin _ running =>
        rw [stopped] at running
        cases running
    | call found step =>
        have ended := returned _ _ found
        cases step.move with
        | quiet same => rw [same.pendingOpens, free]
        | connect _ _ _ _ pendingOpens | spawn _ _ _ _ _ _ _ pendingOpens
        | send _ _ _ _ _ _ _ _ _ pendingOpens | close _ _ _ _ _ _ _ pendingOpens =>
            rw [pendingOpens, free]
        | attempt target connection here =>
            rw [here] at ended
            cases ended
        | retract _ _ _ _ pendingOpens => simp [pendingOpens, Function.update_apply, free]
    | @loop _ _ connection _ _ step =>
        have move := step.move
        generalize connection.loop = loop at move
        cases move with
        | moves pendingOpens | push pendingOpens | complete _ _ _ _ pendingOpens
        | terminate pendingOpens => rw [pendingOpens, free]
        | take _ pendingOpens | lose _ pendingOpens =>
            simp [pendingOpens, Function.update_apply, free]
    | transmit _ _ opens | act _ _ _ _ _ opens => rw [opens.pendingOpens, free]
    | hangUp _ opens | send _ opens | sending _ _ opens => rw [opens.pendingOpens, free]
    | recv _ _ _ opens => rw [opens.pendingOpens, free]
    | shutdown => exact absurd rfl outside
  · cases ClientInner.step?_effect stepped with
    | begin unknown calls cache receivers =>
        cases ClientInner.step?_moves stepped with
        | begin _ running =>
            rw [stopped] at running
            cases running
    | call found effect => exact effect.resources.receivers.1
    | other _ _ _ receivers => exact receivers

namespace WindingDown

theorem outside (winding : WindingDown before) (returned : before.AllReturned)
    (stopped : before.status = .stopped) (outside : label ≠ .shutdown)
    (stepped : before.step? config label = some after) : WindingDown after := by
  have winds := (ClientInner.step?_pools outside stepped).winds returned winding.departed
  have same := shutdown_of_step outside stepped
  obtain ⟨pending, receivers⟩ := quiet_of_returned returned outside stopped stepped
  refine ⟨fun pool => ?_, fun id open' => ?_, winds.departed, ?_, ?_, ?_, ?_⟩
  · rw [← winding.unlocked pool]
    exact congrFun winds.holders pool
  · rw [← ClientInner.poolView_isClosed] at open'
    have pools : after.pools = before.pools := winds.pools
    have member := winding.left id (by
      rw [← ClientInner.poolView_isClosed]
      exact winds.closed id open')
    have kept : ∀ pool, id ∈ before.poolConnections pool → id ∈ after.poolConnections pool :=
      fun pool member => winds.kept pool id member open'
    unfold ClientInner.toClose at member ⊢
    rw [same]
    split at member
    · rw [pools]
      exact flatMap_kept kept member
    · rw [pools]
      exact flatMap_kept kept member
    · exact flatMap_kept kept member
    · refine List.mem_append.mpr ((List.mem_append.mp member).imp_right (flatMap_kept kept))
    · cases member
  · rw [same]
    exact fun phase => winds.pools.trans (winding.collected phase)
  · rw [same]
    refine fun phase => ClientInner.step?_each unregistered_enduring (winding.aborted phase) outside
      ?_ ?_ stepped
    · exact fun _ _ _ _ _ _ => rfl
    · intro session call target pool id connection found here
      have ended := returned session call found
      rw [here] at ended
      cases ended
  · rw [same]
    exact fun phase session => pending session (winding.cleared phase session)
  · rw [same]
    refine fun phase => List.eq_nil_iff_forall_not_mem.mpr fun session member => ?_
    have old := receivers session member
    rw [winding.unregistered phase] at old
    cases old

/-- When `shutdown` begins, every open connection is in a pool, and no pool is locked. -/
theorem begins (pooled : client.poolView.Pooled config)
    (allHeld : AllHeld client.poolView.holders client.poolView.holds)
    (returned : client.AllReturned) :
    WindingDown { client with status := .stopped, shutdown := .collecting } where
  unlocked pool := by
    rw [← Bool.not_eq_true]
    intro held
    obtain ⟨session, holds⟩ := allHeld pool held
    obtain ⟨pc, found, here⟩ := Option.bind_eq_some_iff.mp holds
    obtain ⟨call, known, rfl⟩ := Option.map_eq_some_iff.mp found
    have ended := returned session call known
    cases at' : call.pc with
    | retaining | connecting | choosing | binding | counting | spawning =>
        rw [at'] at ended
        cases ended
    | _ =>
        rw [at'] at here
        cases here
  left id open' := by
    have opened : client.poolView.isClosed id = false := ClientInner.poolView_isClosed.trans open'
    obtain ⟨pool, home, member⟩ := pooled.pooled id opened
    obtain ⟨account, -, listed⟩ := Option.bind_eq_some_iff.mp home
    obtain ⟨front, back, whole, -⟩ := List.lookup_eq_some_iff.mp listed
    have pools : client.pools = front ++ (account.endpoint, pool) :: back := whole
    refine List.mem_flatMap.mpr ⟨pool, List.mem_map.mpr ⟨(account.endpoint, pool), ?_, rfl⟩, member⟩
    simp [pools]
  departed := pooled.departed
  collected phase := by simp [ClientShutdownPc.phase] at phase
  aborted phase := by simp [ClientShutdownPc.phase] at phase
  cleared phase := by simp [ClientShutdownPc.phase] at phase
  unregistered phase := by simp [ClientShutdownPc.phase] at phase

/-- A step of `shutdown` on anything but connections and pools. -/
theorem onward (winding : WindingDown client) (begun : 3 ≤ client.shutdown.phase)
    (holders : after.poolHolders = client.poolHolders) (pools : after.pools = client.pools)
    (view : after.poolView.accounts = client.poolView.accounts)
    (aborted : 4 ≤ after.shutdown.phase →
      after.Each fun connection => connection.registered = false)
    (cleared : 5 ≤ after.shutdown.phase → ∀ session, after.pendingOpens session = none)
    (unregistered : 7 ≤ after.shutdown.phase → after.receivers = []) : WindingDown after where
  unlocked := by
    rw [holders]
    exact winding.unlocked
  left id open' := by
    have opened : client.isClosed id = false := by
      rw [← ClientInner.poolView_isClosed, PoolView.isClosed, view] at open'
      exact ClientInner.poolView_isClosed.symm.trans open'
    have member := winding.left id opened
    unfold ClientInner.toClose at member
    split at member <;> rename_i here
    · simp [here, ClientShutdownPc.phase] at begun
    · simp [here, ClientShutdownPc.phase] at begun
    · simp [here, ClientShutdownPc.phase] at begun
    · simp [here, ClientShutdownPc.phase] at begun
    · cases member
  departed := by
    simp only [PoolView.hasDeparted, PoolView.isClosed, view]
    exact winding.departed
  collected _ := pools.trans (winding.collected (Nat.le_of_succ_le begun))
  aborted := aborted
  cleared := cleared
  unregistered := unregistered

/-- `shutdown` takes the connections out of one pool. -/
theorem drains (winding : WindingDown client) {pool : Nat} {rest : List Nat}
    (here : client.shutdown = .pools (pool :: rest)) :
    WindingDown { client.setPoolConnections pool [] with
      shutdown := .closing (client.poolConnections pool) rest } where
  unlocked := winding.unlocked
  left id open' := by
    have member := winding.left id open'
    rw [ClientInner.toClose, here] at member
    obtain ⟨other, listed, present⟩ := List.mem_flatMap.mp member
    refine List.mem_append.mpr ?_
    by_cases same : other = pool
    · exact .inl (same ▸ present)
    · refine .inr (List.mem_flatMap.mpr ⟨other, (List.mem_cons.mp listed).resolve_left same, ?_⟩)
      change id ∈ Function.update client.poolConnections pool [] other
      rw [Function.update_of_ne same]
      exact present
  departed := winding.departed
  collected _ := winding.collected (by simp [here, ClientShutdownPc.phase])
  aborted phase := by simp [ClientShutdownPc.phase] at phase
  cleared phase := by simp [ClientShutdownPc.phase] at phase
  unregistered phase := by simp [ClientShutdownPc.phase] at phase

/-- `shutdown` closes a connection. -/
theorem closes (winding : WindingDown client) {id : Nat} {others rest : List Nat}
    (here : client.shutdown = .closing (id :: others) rest) :
    WindingDown { client.modify id fun connection =>
        if connection.closed then connection
        else { connection with closed := true, sender := connection.sender.close } with
      shutdown := .closing others rest } := by
  have view : (client.modify id fun connection =>
      if connection.closed then connection
      else { connection with closed := true, sender := connection.sender.close }).poolView =
        client.poolView.adjust id fun account => { account with closed := true } := by
    refine ClientInner.poolView_modify fun connection => ?_
    split
    · rename_i closed
      simp [TransportConnection.account, closed]
    · rfl
  have winds : client.poolView.Winds (client.poolView.adjust id fun account =>
      { account with closed := true }) :=
    PoolView.winds_of_adjust winding.departed (fun _ _ _ => rfl) fun _ _ _ => rfl
  rw [← view] at winds
  refine ⟨winding.unlocked, fun other open' => ?_, winds.departed,
    fun _ => winding.collected (by simp [here, ClientShutdownPc.phase]), ?_, ?_, ?_⟩
  · have opened : (client.modify id fun connection =>
        if connection.closed then connection
        else { connection with closed := true, sender := connection.sender.close }).poolView.isClosed
          other = false := ClientInner.poolView_isClosed.trans open'
    have member := winding.left other (ClientInner.poolView_isClosed.symm.trans
      (winds.closed other opened))
    rw [ClientInner.toClose, here] at member
    rcases List.mem_cons.mp member with rfl | later
    · rw [view] at opened
      have shut : (client.poolView.adjust other fun account =>
          { account with closed := true }).isClosed other = true := by
        simp only [PoolView.isClosed, PoolView.adjust, Function.update_self]
        cases client.poolView.accounts other <;> rfl
      rw [shut] at opened
      cases opened
    · exact later
  all_goals simp [ClientShutdownPc.phase]

/-- What one step of `shutdown` leaves to be done. -/
theorem proceeds (winding : WindingDown client) (begun : client.shutdown ≠ .idle)
    (stepped : client.shutdownStep? client.shutdown = some after) : WindingDown after := by
  have collected := winding.collected
  have aborted := winding.aborted
  have cleared := winding.cleared
  cases here : client.shutdown with
  | idle => exact absurd here begun
  | collecting =>
      rw [here] at stepped
      cases stepped
      refine ⟨winding.unlocked, fun id open' => ?_, winding.departed, fun _ => rfl, ?_, ?_, ?_⟩
      · have member := winding.left id open'
        rw [ClientInner.toClose, here] at member
        exact member
      all_goals simp [ClientShutdownPc.phase]
  | pools rest =>
      rw [here] at stepped
      cases rest with
      | nil =>
          cases stepped
          refine ⟨winding.unlocked, fun id open' => ?_, winding.departed,
            fun _ => collected (by simp [here, ClientShutdownPc.phase]), ?_, ?_, ?_⟩
          · have member := winding.left id open'
            rw [ClientInner.toClose, here] at member
            cases member
          all_goals simp [ClientShutdownPc.phase]
      | cons pool rest =>
          simp only [ClientInner.shutdownStep?] at stepped
          split at stepped <;> cases stepped
          exact winding.drains here
  | closing connections rest =>
      rw [here] at stepped
      cases connections with
      | nil =>
          cases stepped
          refine ⟨winding.unlocked, fun id open' => ?_, winding.departed,
            fun _ => collected (by simp [here, ClientShutdownPc.phase]), ?_, ?_, ?_⟩
          · have member := winding.left id open'
            rw [ClientInner.toClose, here] at member
            exact member
          all_goals simp [ClientShutdownPc.phase]
      | cons id others =>
          cases stepped
          exact winding.closes here
  | aborting =>
      rw [here] at stepped
      cases stepped
      refine winding.onward (by simp [here, ClientShutdownPc.phase]) rfl rfl ?_ (fun _ => ?_) ?_ ?_
      · funext id
        simp only [ClientInner.poolView, Option.map_map]
        refine congrArg (Option.map · (client.connections id)) (funext fun connection => ?_)
        simp only [Function.comp_apply]
        split <;> rfl
      · intro id connection found
        obtain ⟨old, present, rfl⟩ := Option.map_eq_some_iff.mp found
        split
        · rfl
        · rename_i free
          exact Bool.eq_false_iff.mpr free
      all_goals simp [ClientShutdownPc.phase]
  | clearing =>
      rw [here] at stepped aborted
      cases stepped
      refine winding.onward (by simp [here, ClientShutdownPc.phase]) rfl rfl rfl
        (fun _ => aborted (by simp [ClientShutdownPc.phase])) (fun _ _ => rfl) ?_
      simp [ClientShutdownPc.phase]
  | snapshotting =>
      rw [here] at stepped aborted cleared
      cases stepped
      refine winding.onward (by simp [here, ClientShutdownPc.phase]) rfl rfl rfl
        (fun _ => aborted (by simp [ClientShutdownPc.phase]))
        (fun _ => cleared (by simp [ClientShutdownPc.phase])) ?_
      simp [ClientShutdownPc.phase]
  | unregistering sessions =>
      rw [here] at stepped aborted cleared
      cases stepped
      exact winding.onward (by simp [here, ClientShutdownPc.phase]) rfl rfl rfl
        (fun _ => aborted (by simp [ClientShutdownPc.phase]))
        (fun _ => cleared (by simp [ClientShutdownPc.phase])) fun _ => rfl
  | terminating sessions =>
      have unregistered := winding.unregistered
      rw [here] at stepped aborted cleared unregistered
      cases sessions <;> cases stepped <;>
        exact winding.onward (by simp [here, ClientShutdownPc.phase]) rfl rfl rfl
          (fun _ => aborted (by simp [ClientShutdownPc.phase]))
          (fun _ => cleared (by simp [ClientShutdownPc.phase]))
          fun _ => unregistered (by simp [ClientShutdownPc.phase])
  | returned =>
      rw [here] at stepped
      cases stepped

end WindingDown

/-- A Client on which `shutdown` has not been called runs. -/
theorem running_of_idle (reach : (clientSystem config).Reachable client)
    (idle : client.shutdown = .idle) : client.status = .running := by
  refine invariant_of_step (fun client : ClientInner => client.shutdown = .idle →
    client.status = .running) ?_ ?_ reach idle
  · rintro _ rfl -
    rfl
  · intro before label after running _ stepped idle
    by_cases outside : label = .shutdown
    · subst outside
      have taken : before.step? config .shutdown = some after := stepped
      cases ClientInner.step?_moves taken with
      | shutdown step => exact absurd idle step.stops.1
    · rw [status_of_step stepped outside]
      exact running ((shutdown_of_step outside stepped).symm.trans idle)

theorem windingDown_of_reachable (reach : (clientSystem config).Reachable client)
    (begun : client.shutdown ≠ .idle) : WindingDown client := by
  refine invariant_of_reachable_step (fun client : ClientInner => client.shutdown ≠ .idle →
    WindingDown client) ?_ ?_ reach begun
  · rintro _ rfl begun
    exact absurd rfl begun
  · intro before label after earlier winding _ stepped begun
    by_cases outside : label = .shutdown
    · subst outside
      have proceeded : before.shutdownStep? before.shutdown = some after := stepped
      by_cases idle : before.shutdown = .idle
      · have running := running_of_idle earlier idle
        rw [idle] at proceeded
        simp only [ClientInner.shutdownStep?] at proceeded
        split at proceeded
        · rename_i allOver
          cases proceeded
          refine WindingDown.begins (pooled_of_reachable earlier running)
            (allHeld_of_reachable earlier running) ?_
          intro session call found
          have returned := List.all_eq_true.mp allOver session
            ((PendingOk.reachable earlier).begun session call found)
          rwa [found, Option.all_some] at returned
        · cases proceeded
      · exact (winding idle).proceeds idle proceeded
    · have idle : before.shutdown ≠ .idle := shutdown_of_step outside stepped ▸ begun
      obtain ⟨stopped, returned⟩ := (PendingOk.reachable earlier).stopped idle
      exact (winding idle).outside returned stopped outside stepped

/-! ## What `shutdown` leaves behind -/

/-- Once `shutdown` has returned, and for ever after, every connection is closed
and its receive loop was spawned and has ended or been aborted, no pool, pending open
or receiver is left, and no call of `open` is in progress. -/
theorem shutdown_is_complete (reach : (clientSystem config).Reachable client)
    (returned : client.shutdown = .returned) :
    client.status = .stopped ∧ client.AllReturned ∧ client.pools = [] ∧ client.receivers = [] ∧
      (∀ session, client.pendingOpens session = none) ∧
      ∀ id connection, client.connections id = some connection → connection.closed = true ∧
        connection.loop ≠ .unspawned ∧ connection.abortRequested = true := by
  have begun : client.shutdown ≠ .idle := by simp [returned]
  have winding := windingDown_of_reachable reach begun
  obtain ⟨stopped, allReturned⟩ := (PendingOk.reachable reach).stopped begun
  have phase : client.shutdown.phase = 8 := by rw [returned]; rfl
  refine ⟨stopped, allReturned, winding.collected (by simp [phase]),
    winding.unregistered (by simp [phase]), winding.cleared (by simp [phase]),
    fun id connection found => ?_⟩
  have spawned : connection.loop ≠ .unspawned := by
    intro unspawned
    obtain ⟨session, call, known, here⟩ := spawns_of_reachable reach ⟨connection, found, unspawned⟩
    have ended := allReturned session call known
    generalize call.pc = pc at here ended
    cases pc with
    | binding | counting | spawning => cases ended
    | _ => cases here
  refine ⟨?_, spawned, ?_⟩
  · by_contra open'
    have opened : client.isClosed id = false := by
      rw [ClientInner.isClosed, found, Option.all_some]
      exact Bool.eq_false_iff.mpr open'
    have member := winding.left id opened
    rw [ClientInner.toClose, returned] at member
    cases member
  · have free := winding.aborted (by simp [phase]) id connection found
    exact ((heeds_of_reachable reach id connection found).resolve_left spawned).resolve_left
      (Bool.eq_false_iff.mp free)

/-- A Session is opened, and the Client shut down. -/
def shutDownSession : List ClientEvent :=
  sentOpen ++ acknowledged 1 0 ++ .call ⟨7⟩ .advance :: .replicate 12 .shutdown

theorem shut_down_session_is_over :
    ∃ client connection, (clientSystem storefront).run? .fresh shutDownSession = some client ∧
      client.sessionOf ⟨7⟩ = some (cartAddress, 1) ∧ client.receivers = [] ∧
      client.connections 1 = some connection ∧ connection.closed = true := by
  have reach := @reachable_of_run? _ _ (clientSystem storefront) .fresh _ shutDownSession rfl rfl
  obtain ⟨-, -, -, receivers, -, connections⟩ := shutdown_is_complete reach rfl
  exact ⟨_, _, rfl, rfl, receivers, rfl, (connections 1 _ rfl).1⟩

/-! ## `shutdown` returns -/

/-- `shutdown` can always go on. -/
theorem WindingDown.goes (winding : WindingDown client) (begun : client.shutdown ≠ .idle)
    (pending : client.shutdown ≠ .returned) :
    (client.shutdownStep? client.shutdown).isSome = true := by
  cases here : client.shutdown with
  | idle => exact absurd here begun
  | returned => exact absurd here pending
  | pools rest =>
      cases rest with
      | nil => rfl
      | cons pool rest => simp [ClientInner.shutdownStep?, winding.unlocked pool]
  | closing connections rest => cases connections <;> rfl
  | terminating sessions => cases sessions <;> rfl
  | _ => rfl

namespace ClientInner

/-- How much `shutdown` finds in some pools. -/
def load (client : ClientInner) (pools : List Nat) : Nat :=
  pools.foldr (fun pool rest => 2 + (client.poolConnections pool).length + rest) 0

/-- How far `shutdown` is from its end. -/
def shutdownRank (client : ClientInner) : Nat × Nat :=
  match client.shutdown with
  | .idle => (8, 0)
  | .collecting => (7, 0)
  | .pools rest => (6, client.load rest)
  | .closing connections rest => (6, 1 + connections.length + client.load rest)
  | .aborting => (5, 0)
  | .clearing => (4, 0)
  | .snapshotting => (3, 0)
  | .unregistering _ => (2, 0)
  | .terminating sessions => (1, sessions.length)
  | .returned => (0, 0)

theorem load_le {pools : List Nat}
    (fewer : ∀ pool, (after.poolConnections pool).length ≤ (before.poolConnections pool).length) :
    after.load pools ≤ before.load pools := by
  induction pools with
  | nil => exact Nat.le_refl _
  | cons pool rest ih =>
      simp only [load, List.foldr_cons] at ih ⊢
      have := fewer pool
      omega

/-- A step of `shutdown` brings it closer to its end. -/
theorem shutdownStep?_lower (stepped : before.shutdownStep? before.shutdown = some after) :
    Lower after.shutdownRank before.shutdownRank := by
  cases here : before.shutdown with
  | idle =>
      rw [here] at stepped
      simp only [shutdownStep?] at stepped
      split at stepped <;> cases stepped
      simp only [shutdownRank, here]
      exact .left _ _ (by decide)
  | pools rest =>
      rw [here] at stepped
      cases rest with
      | nil =>
          cases stepped
          simp only [shutdownRank, here]
          exact .left _ _ (by decide)
      | cons pool rest =>
          simp only [shutdownStep?] at stepped
          split at stepped <;> cases stepped
          simp only [shutdownRank, here]
          refine .right _ ?_
          have fewer : (before.setPoolConnections pool []).load rest ≤ before.load rest := by
            refine load_le fun other => ?_
            by_cases same : other = pool
            · simp [setPoolConnections, same]
            · simp [setPoolConnections, Function.update_of_ne same]
          change 1 + _ + (before.setPoolConnections pool []).load rest < before.load (pool :: rest)
          simp only [load, List.foldr_cons] at fewer ⊢
          omega
  | closing connections rest =>
      rw [here] at stepped
      cases connections with
      | nil =>
          cases stepped
          simp only [shutdownRank, here]
          refine .right _ ?_
          change before.load rest < 1 + 0 + before.load rest
          omega
      | cons id others =>
          cases stepped
          simp only [shutdownRank, here, List.length_cons]
          refine .right _ ?_
          change 1 + others.length + before.load rest < _
          omega
  | terminating sessions =>
      rw [here] at stepped
      cases sessions with
      | nil =>
          cases stepped
          simp only [shutdownRank, here]
          exact .left _ _ (by decide)
      | cons session rest =>
          cases stepped
          simp only [shutdownRank, here, List.length_cons]
          exact .right _ (Nat.lt_succ_self _)
  | returned =>
      rw [here] at stepped
      cases stepped
  | _ =>
      rw [here] at stepped
      cases stepped
      simp only [shutdownRank, here]
      exact .left _ _ (by decide)

/-- No other step takes it further away. -/
theorem shutdownRank_of_fewer (same : after.shutdown = before.shutdown)
    (fewer : ∀ pool, (after.poolConnections pool).length ≤ (before.poolConnections pool).length) :
    after.shutdownRank = before.shutdownRank ∨ Lower after.shutdownRank before.shutdownRank := by
  have less := fun pools => @load_le before after pools fewer
  unfold shutdownRank
  rw [same]
  split
  · exact .inl rfl
  · exact .inl rfl
  · rename_i rest here
    rcases Nat.lt_or_eq_of_le (less rest) with lower | level
    · exact .inr (.right _ lower)
    · exact .inl (by rw [level])
  · rename_i connections rest here
    rcases Nat.lt_or_eq_of_le (less rest) with lower | level
    · exact .inr (.right _ (by omega))
    · exact .inl (by rw [level])
  all_goals exact .inl rfl

end ClientInner

theorem lower_wellFounded : WellFounded Lower :=
  WellFounded.prod_lex Nat.lt_wfRel.wf Nat.lt_wfRel.wf

section Runs

variable {states : Nat → ClientInner} {labels : Nat → ClientEvent} {start : Nat}

theorem reachable_of_run (run : (clientSystem config).IsRun states labels) (time : Nat) :
    (clientSystem config).Reachable (states time) :=
  reachableWhile_of_isRun run (fun _ => trivial) time

/-- Once it has begun, `shutdown` is under way or over. -/
theorem begun_later (run : (clientSystem config).IsRun states labels)
    (begun : (states start).shutdown ≠ .idle) {time : Nat} (later : start ≤ time) :
    (states time).shutdown ≠ .idle := by
  induction time, later using Nat.le_induction with
  | base => exact begun
  | succ time later ih =>
      have stepped : (states time).step? config (labels time) = some (states (time + 1)) :=
        run.steps time
      by_cases outside : labels time = .shutdown
      · rw [outside] at stepped
        cases ClientInner.step?_moves stepped with
        | shutdown step => exact step.stops.1
      · rw [shutdown_of_step outside stepped]
        exact ih

/-- A `shutdown` that has begun and is not passed over for ever returns, and has
then returned for ever. -/
theorem shutdown_returns (run : (clientSystem config).IsRun states labels)
    (begun : (states start).shutdown ≠ .idle)
    (fair : WeaklyFair
      (fun time => ((states time).shutdownStep? (states time).shutdown).isSome = true)
      fun time => labels time = .shutdown) :
    ∃ returned, start ≤ returned ∧
      ∀ time, returned ≤ time → (states time).shutdown = .returned := by
  have fewer : ∀ time, start ≤ time → labels time ≠ .shutdown →
      (states (time + 1)).shutdown = (states time).shutdown ∧
        ∀ pool, ((states (time + 1)).poolConnections pool).length ≤
          ((states time).poolConnections pool).length := by
    intro time later outside
    have stepped : (states time).step? config (labels time) = some (states (time + 1)) :=
      run.steps time
    have reach := reachable_of_run run time
    have idle := begun_later run begun later
    have winds := (ClientInner.step?_pools outside stepped).winds
      ((PendingOk.reachable reach).stopped idle).2 (windingDown_of_reachable reach idle).departed
    exact ⟨shutdown_of_step outside stepped, fun pool => (winds.members pool).length_le⟩
  have lowers : ∀ time, labels time = .shutdown →
      Lower (states (time + 1)).shutdownRank (states time).shutdownRank := by
    intro time own
    have stepped : (states time).step? config (labels time) = some (states (time + 1)) :=
      run.steps time
    rw [own] at stepped
    exact ClientInner.shutdownStep?_lower stepped
  obtain ⟨time, after, silent⟩ := @finitely_often_from _ Lower lower_wellFounded
    (fun time => (states time).shutdownRank) (fun time => labels time = .shutdown) start
    (fun time _ own => lowers time own) fun time later => by
      by_cases own : labels time = .shutdown
      · exact .inr (lowers time own)
      · obtain ⟨same, less⟩ := fewer time later own
        exact ClientInner.shutdownRank_of_fewer same less
  obtain ⟨returned, later, -, blocked⟩ := fair.disabled silent time
  have started := begun_later run begun (Nat.le_trans after later)
  have finished : (states returned).shutdown = .returned := by
    by_contra pending
    exact blocked ((windingDown_of_reachable (reachable_of_run run returned) started).goes started
      pending)
  refine ⟨returned, Nat.le_trans after later, fun moment follows => ?_⟩
  induction moment, follows using Nat.le_induction with
  | base => exact finished
  | succ moment follows ih =>
      have beyond : time ≤ moment := Nat.le_trans later follows
      rw [(fewer moment (Nat.le_trans after beyond) (silent moment beyond)).1]
      exact ih

end Runs

def shutDownEvent (time : Nat) : ClientEvent := shutDownSession.getD time (.hangUp 0)

def shutDownClients : Nat → ClientInner := (clientSystem storefront).follow shutDownEvent .fresh

/-- The Client with one open Session is shut down for ever. -/
theorem shut_down_client_returns :
    (clientSystem storefront).IsRun shutDownClients shutDownEvent ∧
      (shutDownClients 18).shutdown = .collecting ∧
      ∃ returned, 18 ≤ returned ∧
        ∀ time, returned ≤ time → (shutDownClients time).shutdown = .returned := by
  have finished : ∃ final, (clientSystem storefront).run? .fresh shutDownSession = some final ∧
      (clientSystem storefront).step? final (.hangUp 0) = some final ∧
      final.shutdown = .returned :=
    ⟨_, rfl, hangUp_nowhere rfl, rfl⟩
  obtain ⟨final, run, still, returned⟩ := finished
  have isRun : (clientSystem storefront).IsRun shutDownClients shutDownEvent :=
    isRun_of_still rfl run still
  have begun : (shutDownClients 18).shutdown = .collecting := rfl
  have fair : WeaklyFair (fun time =>
      ((shutDownClients time).shutdownStep? (shutDownClients time).shutdown).isSome = true)
      fun time => shutDownEvent time = .shutdown := by
    intro time always
    have late := always (max time shutDownSession.length) (Nat.le_max_left _ _)
    have settled : shutDownClients (max time shutDownSession.length) = final :=
      follow_of_still run still (Nat.le_max_right _ _)
    simp only [settled, returned] at late
    cases late
  exact ⟨isRun, begun, shutdown_returns isRun (by rw [begun]; simp) fair⟩

end Coactor.Client
