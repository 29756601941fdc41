import Coactor.Client.Journal
import Coactor.Client.Resources

/-!
# What one step of a Client does to its resources

Outside the calls of `open` a Client only takes away: receive loops and
`shutdown` close connections, empty bound sets and pools, and remove receivers.
With the effects of `open` these are the effects of all steps, also of a
recorded Client.
-/

namespace Coactor.Client

open Coactor.Foundation
open Coactor.Foundation.Transition
open Coactor.Runtime

/-! ## Steps outside `open` -/

/-- The endpoint of a connection stays, its bound set only shrinks, and a closed
connection stays closed. -/
structure Binding.Fades (before after : Binding) : Prop where
  endpoint : after.endpoint = before.endpoint
  sessions : ∀ session ∈ after.sessions, session ∈ before.sessions
  closed : before.closed = true → after.closed = true

theorem Binding.Fades.refl (binding : Binding) : binding.Fades binding :=
  ⟨rfl, fun _ => id, id⟩

/-- What a step that only takes away does to connections and pools. -/
structure Fades (before after : ClientInner) : Prop where
  bindings : ∀ id, Option.Rel Binding.Fades (before.bindings id) (after.bindings id)
  pools : after.pools = before.pools ∨ after.pools = []
  poolConnections : ∀ pool, ∀ connection ∈ after.poolConnections pool,
    connection ∈ before.poolConnections pool
  nextPool : after.nextPool = before.nextPool
  nextConnection : after.nextConnection = before.nextConnection

/-- What one step of a Client does. -/
inductive ClientEffect (config : ClientConfig) (before after : ClientInner) :
    ClientEvent → Prop where
  | begin {session : SessionId} {address : ActorAddress}
      (unknown : before.calls session = none)
      (calls : after.calls = Function.update before.calls session
        (some ⟨address, .resolving resolveOwner, 0, [], none, false⟩))
      (cache : after.placementCache = before.placementCache)
      (receivers : after.receivers = before.receivers ++ [session])
      (fades : Fades before after) : ClientEffect config before after (.begin session address)
  | call {session : SessionId} {event : OpenEvent} {call next : OpenCall}
      (found : before.calls session = some call)
      (effect : OpenEffect config before after session call next event) :
      ClientEffect config before after (.call session event)
  | other {event : ClientEvent} (outside : ∀ session openEvent, event ≠ .call session openEvent)
      (calls : after.calls = before.calls) (cache : after.placementCache = before.placementCache)
      (receivers : ∀ session ∈ after.receivers, session ∈ before.receivers)
      (fades : Fades before after) : ClientEffect config before after event

namespace ClientInner

variable {client middle after : ClientInner} {config : ClientConfig} {id : Nat}
  {session : SessionId} {event : ClientEvent}

theorem fades_of_connections {change : Nat → TransportConnection → TransportConnection}
    (connections : after.connections = fun id => (client.connections id).map (change id))
    (each : ∀ id (connection : TransportConnection),
      connection.binding.Fades (change id connection).binding)
    (pools : after.pools = client.pools ∨ after.pools = [])
    (poolConnections : ∀ pool, ∀ connection ∈ after.poolConnections pool,
      connection ∈ client.poolConnections pool)
    (nextPool : after.nextPool = client.nextPool)
    (nextConnection : after.nextConnection = client.nextConnection) : Fades client after where
  bindings id := by
    unfold bindings
    rw [connections, Option.map_map]
    cases client.connections id with
    | none => exact .none
    | some connection => exact .some (each id connection)
  pools := pools
  poolConnections := poolConnections
  nextPool := nextPool
  nextConnection := nextConnection

/-- A step that changes one connection and no pool. -/
theorem fades_modify {change : TransportConnection → TransportConnection}
    (connections : after.connections = (client.modify id change).connections)
    (each : ∀ connection : TransportConnection,
      connection.binding.Fades (change connection).binding)
    (pools : after.pools = client.pools ∨ after.pools = [])
    (poolConnections : ∀ pool, ∀ connection ∈ after.poolConnections pool,
      connection ∈ client.poolConnections pool)
    (nextPool : after.nextPool = client.nextPool)
    (nextConnection : after.nextConnection = client.nextConnection) : Fades client after := by
  refine @fades_of_connections client after
    (fun other connection => if other = id then change connection else connection) ?_ ?_ pools
    poolConnections nextPool nextConnection
  · rw [connections]
    funext other
    by_cases same : other = id
    · subst same
      simp [modify]
    · simp [modify, same]
  · intro other connection
    split
    · exact each connection
    · exact .refl _

/-- A step that touches no pool and no bound set. -/
theorem fades_same (connections : after.connections = client.connections)
    (pools : after.pools = client.pools ∨ after.pools = [])
    (poolConnections : ∀ pool, ∀ connection ∈ after.poolConnections pool,
      connection ∈ client.poolConnections pool)
    (nextPool : after.nextPool = client.nextPool)
    (nextConnection : after.nextConnection = client.nextConnection) : Fades client after := by
  refine @fades_of_connections client after (fun _ => id) ?_ (fun _ _ => .refl _) pools
    poolConnections nextPool nextConnection
  rw [connections]
  funext other
  exact (congrFun Option.map_id _).symm

theorem setPoolConnections_subset {pool : Nat} {kept : List Nat}
    (less : ∀ connection ∈ kept, connection ∈ client.poolConnections pool) :
    ∀ other, ∀ connection ∈ (client.setPoolConnections pool kept).poolConnections other,
      connection ∈ client.poolConnections other := by
  intro other connection member
  by_cases same : other = pool
  · subst same
    simp only [setPoolConnections, Function.update_self] at member
    exact less connection member
  · simpa only [setPoolConnections, Function.update_of_ne same] using member

theorem terminate_keeps (received : Received) :
    let after := client.terminate session received
    after.connections = client.connections ∧ after.calls = client.calls ∧
      after.placementCache = client.placementCache ∧ after.pools = client.pools ∧
      after.poolConnections = client.poolConnections ∧ after.nextPool = client.nextPool ∧
      after.nextConnection = client.nextConnection ∧
      after.receivers = client.receivers.filter (· != session) := by
  unfold terminate
  split
  · exact ⟨rfl, rfl, rfl, rfl, rfl, rfl, rfl, rfl⟩
  · rename_i absent
    refine ⟨rfl, rfl, rfl, rfl, rfl, rfl, rfl, (List.filter_eq_self.mpr ?_).symm⟩
    intro other present
    rw [bne_iff_ne]
    rintro rfl
    exact absent present

/-- A step of a receive loop. -/
theorem loopStep?_effect {connection : TransportConnection} {pc : LoopPc} {event : LoopEvent}
    (stepped : client.loopStep? id connection pc event = some after) :
    ClientEffect config client after (.loop id event) := by
  have moves : ∀ {middle : ClientInner} {change : TransportConnection → TransportConnection},
      middle.connections = client.connections → middle.calls = client.calls →
      middle.placementCache = client.placementCache →
      (∀ session ∈ middle.receivers, session ∈ client.receivers) → middle.pools = client.pools →
      (∀ pool, ∀ connection ∈ middle.poolConnections pool,
        connection ∈ client.poolConnections pool) → middle.nextPool = client.nextPool →
      middle.nextConnection = client.nextConnection →
      (∀ connection : TransportConnection,
        connection.binding.Fades (change connection).binding) →
      ClientEffect config client (middle.modify id change) (.loop id event) := by
    intro middle change connections calls cache receivers pools poolConnections nextPool
      nextConnection each
    refine .other (by rintro session openEvent ⟨⟩) calls cache receivers
      (@fades_modify client _ id change ?_ each (.inl pools) poolConnections nextPool
        nextConnection)
    unfold modify
    rw [connections]
  have goes : ∀ pc, ClientEffect config client (client.gotoLoop id pc) (.loop id event) := fun pc =>
    moves rfl rfl rfl (fun _ => fun member => member) rfl (fun _ _ => fun member => member) rfl rfl fun _ => .refl _
  cases loopStep?_cases stepped with
  | closed =>
      exact moves rfl rfl rfl (fun _ member => member) rfl (fun _ _ member => member) rfl rfl
        fun _ => ⟨rfl, fun _ member => member, fun _ => rfl⟩
  | removed =>
      exact moves rfl rfl rfl (fun _ member => member) rfl (setPoolConnections_subset
        fun _ member => (List.mem_filter.mp member).1) rfl rfl fun _ => .refl _
  | drained =>
      exact moves rfl rfl rfl (fun _ member => member) rfl (fun _ _ member => member) rfl rfl
        fun _ => ⟨rfl, by rintro session ⟨⟩, fun closed => closed⟩
  | @terminated session rest =>
      obtain ⟨connections, calls, cache, pools, poolConnections, nextPool, nextConnection,
        receivers⟩ := @terminate_keeps client session ⟨some id, .error .remoteUnavailable⟩
      refine moves connections calls cache ?_ pools (by rw [poolConnections]; exact fun _ _ => fun
        member => member) nextPool nextConnection fun _ => .refl _
      rw [receivers]
      exact fun session member => (List.mem_filter.mp member).1
  | _ =>
      exact moves rfl rfl rfl (fun _ member => member) rfl (fun _ _ member => member) rfl rfl
        fun _ => .refl _

/-- A step of `shutdown`. -/
theorem shutdownStep?_effect {pc : ClientShutdownPc} (stepped : client.shutdownStep? pc = some after) :
    ClientEffect config client after .shutdown := by
  have goes : ∀ {next : ClientInner}, next.calls = client.calls →
      next.placementCache = client.placementCache →
      (∀ session ∈ next.receivers, session ∈ client.receivers) → Fades client next →
      ClientEffect config client next .shutdown := by
    intro next calls cache receivers fades
    exact .other (by rintro session openEvent ⟨⟩) calls cache receivers fades
  have keeps : ∀ {next : ClientInner}, next.calls = client.calls →
      next.placementCache = client.placementCache →
      (∀ session ∈ next.receivers, session ∈ client.receivers) →
      next.connections = client.connections → next.pools = client.pools →
      next.poolConnections = client.poolConnections → next.nextPool = client.nextPool →
      next.nextConnection = client.nextConnection → ClientEffect config client next .shutdown := by
    intro next calls cache receivers connections pools poolConnections nextPool nextConnection
    refine goes calls cache receivers (fades_same connections (.inl pools) ?_ nextPool
      nextConnection)
    rw [poolConnections]
    exact fun _ _ member => member
  have stays : ∀ session ∈ client.receivers, session ∈ client.receivers := fun _ member => member
  cases pc with
  | idle =>
      simp only [shutdownStep?] at stepped
      split at stepped <;> cases stepped
      exact keeps rfl rfl stays rfl rfl rfl rfl rfl
  | collecting =>
      cases stepped
      exact goes rfl rfl stays (fades_same rfl (.inr rfl) (fun _ _ member => member) rfl rfl)
  | pools rest =>
      cases rest with
      | nil =>
          cases stepped
          exact keeps rfl rfl stays rfl rfl rfl rfl rfl
      | cons pool rest =>
          simp only [shutdownStep?] at stepped
          split at stepped <;> cases stepped
          exact goes rfl rfl stays (fades_same rfl (.inl rfl) (setPoolConnections_subset
            (by rintro connection ⟨⟩)) rfl rfl)
  | closing connections rest =>
      cases connections with
      | nil =>
          cases stepped
          exact keeps rfl rfl stays rfl rfl rfl rfl rfl
      | cons connection others =>
          cases stepped
          refine goes rfl rfl stays (@fades_modify client _ connection (fun connection =>
            if connection.closed then connection
            else { connection with closed := true, sender := connection.sender.close }) rfl ?_
              (.inl rfl) (fun _ _ member => member) rfl rfl)
          intro connection
          split
          · exact .refl _
          · exact ⟨rfl, fun _ member => member, fun _ => rfl⟩
  | aborting =>
      cases stepped
      refine goes rfl rfl stays (@fades_of_connections client _ (fun _ connection =>
        if connection.registered then
          { connection with registered := false, abortRequested := true }
        else connection) rfl ?_ (.inl rfl) (fun _ _ member => member) rfl rfl)
      intro id connection
      split <;> exact .refl _
  | unregistering sessions =>
      cases stepped
      exact keeps rfl rfl (by rintro session ⟨⟩) rfl rfl rfl rfl rfl
  | clearing | snapshotting =>
      cases stepped
      exact keeps rfl rfl stays rfl rfl rfl rfl rfl
  | terminating sessions =>
      cases sessions <;> cases stepped <;> exact keeps rfl rfl stays rfl rfl rfl rfl rfl
  | returned => cases stepped

/-- Every step of a Client has one of the effects. -/
theorem step?_effect {event : ClientEvent} (stepped : client.step? config event = some after) :
    ClientEffect config client after event := by
  have keeps : ∀ {event : ClientEvent}, (∀ session openEvent, event ≠ .call session openEvent) →
      after.calls = client.calls → after.placementCache = client.placementCache →
      after.receivers = client.receivers → Fades client after →
      ClientEffect config client after event := by
    intro event outside calls cache receivers fades
    exact .other outside calls cache (by rw [receivers]; exact fun _ member => member) fades
  have same : after.connections = client.connections → after.pools = client.pools →
      after.poolConnections = client.poolConnections → after.nextPool = client.nextPool →
      after.nextConnection = client.nextConnection → Fades client after := by
    intro connections pools poolConnections nextPool nextConnection
    refine fades_same connections (.inl pools) ?_ nextPool nextConnection
    rw [poolConnections]
    exact fun _ _ member => member
  cases event with
  | begin session address =>
      simp only [step?, begin?] at stepped
      split at stepped
      · rename_i unknown running
        cases stepped
        exact .begin unknown rfl rfl rfl (same rfl rfl rfl rfl rfl)
      · cases stepped
  | call session event =>
      obtain ⟨call, found, moved⟩ := Option.bind_eq_some_iff.mp stepped
      obtain ⟨next, effect⟩ := openStep?_effects rfl moved
      exact .call found effect
  | loop id event =>
      obtain ⟨connection, found, moved⟩ := Option.bind_eq_some_iff.mp stepped
      exact loopStep?_effect moved
  | transmit id =>
      obtain ⟨connection, found, moved⟩ := Option.bind_eq_some_iff.mp stepped
      obtain ⟨received, waiting, rfl⟩ := Option.map_eq_some_iff.mp moved
      exact keeps (by rintro session openEvent ⟨⟩) rfl rfl rfl (@fades_modify client _ id
        (fun connection => { connection with sender := received.2 }) rfl (fun _ => .refl _)
          (.inl rfl) (fun _ _ member => member) rfl rfl)
  | hangUp id =>
      cases stepped
      exact keeps (by rintro session openEvent ⟨⟩) rfl rfl rfl (@fades_modify client _ id
        (fun connection => { connection with sender := connection.sender.close }) rfl
          (fun _ => .refl _) (.inl rfl) (fun _ _ member => member) rfl rfl)
  | send session payload =>
      simp only [step?, send?] at stepped
      split at stepped <;> cases stepped
      exact keeps (by rintro session openEvent ⟨⟩) rfl rfl rfl (same rfl rfl rfl rfl rfl)
  | sending index =>
      obtain ⟨send, present, moved⟩ := Option.bind_eq_some_iff.mp stepped
      obtain ⟨⟨address, connection⟩, opened, sent⟩ := Option.bind_eq_some_iff.mp moved
      obtain ⟨session, payload, pc⟩ := send
      cases pc with
      | checking =>
          cases sent
          exact keeps (by rintro session openEvent ⟨⟩) rfl rfl rfl (same rfl rfl rfl rfl rfl)
      | sending =>
          cases sent
          exact keeps (by rintro session openEvent ⟨⟩) rfl rfl rfl (@fades_modify client _
            connection (fun found => { found with 
              sender := found.sender.offer ⟨none, envelopeAction address session payload⟩ }) rfl (fun _ => .refl _) (.inl rfl)
                (fun _ _ member => member) rfl rfl)
      | returned => cases sent
  | recv session =>
      obtain ⟨received, waiting, rfl⟩ := Option.map_eq_some_iff.mp stepped
      exact keeps (by rintro session openEvent ⟨⟩) rfl rfl rfl (same rfl rfl rfl rfl rfl)
  | shutdown => exact shutdownStep?_effect stepped

end ClientInner

end Coactor.Client
