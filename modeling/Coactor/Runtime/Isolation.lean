import Coactor.Runtime.Moves

/-!
# Connections and each other's Sessions

A connection task checks that a Session is its own and acts on the Session in
a later step, by address and Session ID alone.  In between the Session may have
ended and have been registered again on another connection.  Without such a
registration no connection task touches a Session of another connection.
-/

namespace Coactor.Runtime

open Coactor.Foundation.Transition
open Coactor.Coordination
open Server

variable {server after : Server} {config : RuntimeConfig}

/-! ## Sessions a connection task is about to act on -/

abbrev SessionKey := ActorAddress × SessionId

def SessionEntry.key (entry : SessionEntry) : SessionKey :=
  (entry.opening.address, entry.opening.session)

/-- The connection task closes the Sessions of a lost connection. -/
def ConnPc.isLost : ConnPc → Bool
  | .disconnecting _ | .closeUnregister _ _ (some _) | .closeDispatch _ _ (some _) => true
  | _ => false

/-- The Sessions a connection task has registered or checked and may still act
on; those of a lost connection count only if `lost` says so. -/
def ConnPc.keys (lost : Bool) : ConnPc → List SessionKey
  | .openDispatch opening _ _ | .openAwait opening | .openUnregister opening _ =>
      [(opening.address, opening.session)]
  | .actionSink address session _ | .actionDispatch address session _ _ => [(address, session)]
  | .closeUnregister address session none | .closeDispatch address session none =>
      [(address, session)]
  | .closeUnregister address session (some rest) | .closeDispatch address session (some rest) =>
      if lost then (address, session) :: rest else []
  | .disconnecting rest => if lost then rest else []
  | _ => []

/-- A Session is registered only while no other connection task may still act
on its key. -/
def Uncontested (lost : Bool) (server : Server) : Bool × ServerEvent → Prop
  | (_, .conn id (.advance _)) =>
      match (server.conns id).pc with
      | .openRegister address session _ =>
          ∀ other, other ≠ id → (address, session) ∉ (server.conns other).pc.keys lost
      | _ => True
  | _ => True

/-- One registration for a key, and it is that of the connection task which may
act on it. -/
structure Exclusive (lost : Bool) (server : Server) : Prop where
  single : ∀ first ∈ server.registry, ∀ second ∈ server.registry, first.key = second.key →
    first = second
  own : ∀ id, ∀ key ∈ (server.conns id).pc.keys lost, ∀ entry ∈ server.registry,
    entry.key = key → entry.connection = id
  alone : ∀ first second key, key ∈ (server.conns first).pc.keys lost →
    key ∈ (server.conns second).pc.keys lost → first = second

theorem exclusive_fresh (lost : Bool) (config : RuntimeConfig) :
    Exclusive lost (.fresh config) where
  single := by
    intro first member
    cases member
  own := by
    intro id key member
    cases member
  alone := by
    intro first second key member
    cases member

namespace SessionRegistry

theorem names_iff {address : ActorAddress} {session : SessionId} {entry : SessionEntry} :
    names address session entry = true ↔ entry.key = (address, session) := by
  simp [names, SessionEntry.key]

theorem contains_eq_false {registry : SessionRegistry} {address : ActorAddress}
    {session : SessionId} (absent : registry.contains address session = false) :
    ∀ entry ∈ registry, entry.key ≠ (address, session) := by
  intro entry member same
  have named := names_iff.mpr same
  simp only [contains, List.any_eq_false] at absent
  exact absent entry member named

theorem bound_entry {registry : SessionRegistry} {address : ActorAddress} {session : SessionId}
    {connection : Nat} (bound : registry.isBoundTo address session connection = true) :
    ∃ entry ∈ registry, entry.key = (address, session) ∧ entry.connection = connection := by
  simp only [isBoundTo, List.any_eq_true, Bool.and_eq_true, beq_iff_eq] at bound
  obtain ⟨entry, member, named, connected⟩ := bound
  exact ⟨entry, member, names_iff.mp named, connected⟩

theorem bySender_entry {registry : SessionRegistry} {key : SessionKey} {connection : Nat}
    (sent : key ∈ registry.bySender connection) :
    ∃ entry ∈ registry, entry.key = key ∧ entry.connection = connection := by
  simp only [bySender, List.mem_map, List.mem_filter, beq_iff_eq] at sent
  obtain ⟨entry, ⟨member, connected⟩, rfl⟩ := sent
  exact ⟨entry, member, rfl, connected⟩

theorem mem_unregisterActor {registry : SessionRegistry} {address : ActorAddress}
    {session : SessionId} {entry : SessionEntry} :
    entry ∈ registry.unregisterActor address session ↔
      entry ∈ registry ∧ entry.key ≠ (address, session) := by
  simp only [unregisterActor, List.mem_filter, Bool.not_eq_eq_eq_not, Bool.not_true,
    ← Bool.not_eq_true, names_iff, ne_eq]

end SessionRegistry

theorem inbound_keys (lost : Bool) (envelope : Envelope) : envelope.inbound.keys lost = [] :=
  envelope.inbound_cases (motive := fun pc => pc.keys lost = []) rfl (fun _ _ _ => rfl)
    (fun _ _ => rfl) (fun _ => rfl) fun _ _ => rfl

/-- A quiet move comes to a key by checking it. -/
theorem QuietMove.keys {lost : Bool} {id : Nat} {pc next : ConnPc}
    (move : QuietMove server id pc next) {key : SessionKey} (member : key ∈ next.keys lost) :
    key ∈ pc.keys lost ∨ ∃ entry ∈ server.registry, entry.key = key ∧ entry.connection = id := by
  cases move with
  | receive envelope =>
      rw [inbound_keys] at member
      cases member
  | disconnect =>
      cases lost with
      | false => cases member
      | true => exact .inr (SessionRegistry.bySender_entry member)
  | bound bound | closing bound =>
      rw [List.mem_singleton.mp member]
      exact .inr (SessionRegistry.bound_entry bound)
  | @unclosed address session next absent =>
      cases next with
      | none => cases member
      | some rest =>
          cases lost with
          | false => cases member
          | true => exact .inl (.tail _ member)
  | lost | noted | sink present | acting early | dispatching early | undispatched early
  | turnedDown sent | unanswered dropped => exact .inl member
  | _ => cases member

/-- A connection task comes to a dispatch by registering. -/
theorem ConnMove.into_dispatch {id : Nat} {pc next : ConnPc}
    (move : ConnMove config server after id pc next)
    {opening : Opening} {reservation : Bool} {stage : DispatchStage}
    (there : next = .openDispatch opening reservation stage) :
    (∃ reservation stage, pc = .openDispatch opening reservation stage) ∨
      (opening.serial = server.nextOpening ∧ after.nextOpening = server.nextOpening + 1) := by
  cases move with
  | quiet same move =>
      cases move with
      | receive envelope =>
          have keys := congrArg (ConnPc.keys false) there
          rw [inbound_keys] at keys
          cases keys
      | dispatching =>
          cases there
          exact .inl ⟨_, _, rfl⟩
      | noted => exact .inl ⟨_, _, there⟩
      | @unclosed _ _ onward => cases onward <;> cases there
      | _ => cases there
  | register _ _ _ _ _ nextOpening =>
      cases there
      exact .inr ⟨rfl, nextOpening⟩
  | unopened _ _ _ _ onward => rcases onward with ⟨error, rfl⟩ | rfl <;> cases there
  | unacted _ _ _ _ onward => rcases onward with rfl | rfl <;> cases there
  | @closed _ _ onward | @unheard _ _ onward => cases onward <;> cases there
  | _ => cases there

/-! ## The invariant -/

/-- A connection task registers a Session. -/
structure Registers (before after : Server) (id : Nat) (pc : ConnPc) (key : SessionKey) : Prop where
  here : ∃ reservation, pc = .openRegister key.1 key.2 reservation
  absent : ∀ entry ∈ before.registry, entry.key ≠ key
  registry : after.registry = before.registry ++ [⟨⟨key.1, key.2, before.nextOpening⟩, id⟩]

/-- Only going on registers a Session. -/
theorem Registers.advance {authorityValid : Bool} {id : Nat} {key : SessionKey}
    {event : ConnEvent} (registers : Registers server after id (server.conns id).pc key)
    (stepped : server.step? config authorityValid (.conn id event) = some after) :
    ∃ panics, event = .advance panics := by
  obtain ⟨reservation, here⟩ := registers.here
  rcases connStep?_working (by rw [here]; rfl) stepped with advanced | ⟨-, same⟩
  · exact advanced
  · have grown := congrArg List.length (same.registry.symm.trans registers.registry)
    simp at grown

/-- A connection task adds an entry only by registering. -/
theorem ConnMove.registry {id : Nat} {pc next : ConnPc}
    (move : ConnMove config server after id pc next) :
    (∀ entry ∈ after.registry, entry ∈ server.registry) ∨
      ∃ key, Registers server after id pc key ∧ next.keys false = [key] ∧ next.keys true = [key] := by
  have kept : after.registry = server.registry → ∀ entry ∈ after.registry,
      entry ∈ server.registry := by
    intro same entry member
    rwa [same] at member
  cases move with
  | quiet same => exact .inl (kept same.registry)
  | @register address session reservation absent registry =>
      exact .inr ⟨(address, session), ⟨⟨reservation, rfl⟩,
        SessionRegistry.contains_eq_false absent, registry⟩, rfl, rfl⟩
  | opened _ registry | unopened _ registry | acted _ registry | unacted _ registry
  | closed _ registry => exact .inl (kept registry)
  | unheard same => exact .inl (kept same.registry)
  | unregister registry | close _ registry =>
      refine .inl fun entry member => ?_
      rw [registry] at member
      exact (SessionRegistry.mem_unregisterActor.mp member).1

theorem ConnMove.keys {lost : Bool} {id : Nat} {pc next : ConnPc}
    (move : ConnMove config server after id pc next) {key : SessionKey}
    (member : key ∈ next.keys lost) :
    key ∈ pc.keys lost ∨
      (∃ entry ∈ server.registry, entry.key = key ∧ entry.connection = id) ∨
      Registers server after id pc key := by
  cases move with
  | quiet same move => exact (move.keys member).imp_right .inl
  | @register address session reservation absent registry =>
      rw [List.mem_singleton.mp member]
      exact .inr (.inr ⟨⟨reservation, rfl⟩, SessionRegistry.contains_eq_false absent, registry⟩)
  | opened => exact .inl member
  | unopened _ _ _ _ onward =>
      rcases onward with ⟨error, rfl⟩ | rfl
      · exact .inl member
      · cases member
  | unregister => cases member
  | acted => cases member
  | unacted _ _ _ _ onward =>
      rcases onward with rfl | rfl <;> cases member
  | @close address session next =>
      cases next with
      | none => exact .inl member
      | some rest => exact .inl member
  | @closed address session next | @unheard address session next =>
      cases next with
      | none => cases member
      | some rest =>
          cases lost with
          | false => cases member
          | true => exact .inl (.tail _ member)

namespace Exclusive

variable {lost : Bool}

/-- Entries and program points that were there before keep the invariant. -/
theorem mono (exclusive : Exclusive lost server)
    (registry : ∀ entry ∈ after.registry, entry ∈ server.registry)
    (keys : ∀ id, ∀ key ∈ (after.conns id).pc.keys lost, key ∈ (server.conns id).pc.keys lost) :
    Exclusive lost after where
  single := fun first one second two =>
    exclusive.single first (registry first one) second (registry second two)
  own := fun id key member entry present =>
    exclusive.own id key (keys id key member) entry (registry entry present)
  alone := fun first second key one two =>
    exclusive.alone first second key (keys first key one) (keys second key two)

theorem register (exclusive : Exclusive lost server) {id : Nat} {key : SessionKey}
    (registers : Registers server after id (server.conns id).pc key)
    (others : ∀ other, other ≠ id → after.conns other = server.conns other)
    (keys : (after.conns id).pc.keys lost = [key])
    (free : ∀ other, other ≠ id → key ∉ (server.conns other).pc.keys lost) :
    Exclusive lost after where
  single := by
    intro first one second two same
    rw [registers.registry, List.mem_append, List.mem_singleton] at one two
    rcases one with one | rfl
    · rcases two with two | rfl
      · exact exclusive.single first one second two same
      · exact absurd same (registers.absent first one)
    · rcases two with two | rfl
      · exact absurd same.symm (registers.absent second two)
      · rfl
  own := by
    intro other claimed member entry present same
    rw [registers.registry, List.mem_append, List.mem_singleton] at present
    by_cases here : other = id
    · subst here
      rw [keys, List.mem_singleton] at member
      rcases present with present | rfl
      · exact absurd (same.trans member) (registers.absent entry present)
      · rfl
    · rw [others other here] at member
      rcases present with present | rfl
      · exact exclusive.own other claimed member entry present same
      · rw [← same] at member
        exact absurd member (free other here)
  alone := by
    have foreign : ∀ other claimed, other ≠ id → claimed ∈ (after.conns other).pc.keys lost →
        claimed ≠ key := by
      rintro other claimed different member rfl
      rw [others other different] at member
      exact free other different member
    intro first second claimed one two
    by_cases firstHere : first = id
    · by_cases secondHere : second = id
      · exact firstHere.trans secondHere.symm
      · subst firstHere
        rw [keys, List.mem_singleton] at one
        exact absurd one (foreign second claimed secondHere two)
    · by_cases secondHere : second = id
      · subst secondHere
        rw [keys, List.mem_singleton] at two
        exact absurd two (foreign first claimed firstHere one)
      · rw [others first firstHere] at one
        rw [others second secondHere] at two
        exact exclusive.alone first second claimed one two

theorem connMove (exclusive : Exclusive lost server) {id : Nat}
    (others : ∀ other, other ≠ id → after.conns other = server.conns other)
    (move : ConnMove config server after id (server.conns id).pc (after.conns id).pc)
    (free : ∀ key, Registers server after id (server.conns id).pc key →
      ∀ other, other ≠ id → key ∉ (server.conns other).pc.keys lost) :
    Exclusive lost after := by
  rcases move.registry with kept | ⟨key, registers, unlostKeys, lostKeys⟩
  · have claimed : ∀ key ∈ (after.conns id).pc.keys lost,
        key ∈ (server.conns id).pc.keys lost ∨
          ∃ entry ∈ server.registry, entry.key = key ∧ entry.connection = id := by
      intro key member
      rcases move.keys member with old | bound | registers
      · exact .inl old
      · exact .inr bound
      · have added : (⟨⟨key.1, key.2, server.nextOpening⟩, id⟩ : SessionEntry) ∈ after.registry := by
          rw [registers.registry]
          exact List.mem_append_right _ List.mem_cons_self
        exact absurd rfl (registers.absent _ (kept _ added))
    have foreign : ∀ other key, other ≠ id → key ∈ (server.conns other).pc.keys lost →
        key ∉ (after.conns id).pc.keys lost := by
      intro other key different theirs ours
      rcases claimed key ours with old | ⟨entry, present, same, connected⟩
      · exact different (exclusive.alone other id key theirs old)
      · exact different ((exclusive.own other key theirs entry present same).symm.trans connected)
    constructor
    · exact fun first one second two =>
        exclusive.single first (kept first one) second (kept second two)
    · intro other key member entry present same
      by_cases here : other = id
      · subst here
        rcases claimed key member with old | ⟨found, stored, named, connected⟩
        · exact exclusive.own other key old entry (kept entry present) same
        · rw [exclusive.single entry (kept entry present) found stored (same.trans named.symm)]
          exact connected
      · rw [others other here] at member
        exact exclusive.own other key member entry (kept entry present) same
    · intro first second key one two
      by_cases firstHere : first = id
      · by_cases secondHere : second = id
        · exact firstHere.trans secondHere.symm
        · subst firstHere
          rw [others second secondHere] at two
          exact absurd one (foreign second key secondHere two)
      · by_cases secondHere : second = id
        · subst secondHere
          rw [others first firstHere] at one
          exact absurd two (foreign first key firstHere one)
        · rw [others first firstHere] at one
          rw [others second secondHere] at two
          exact exclusive.alone first second key one two
  · refine exclusive.register registers others ?_ (free key registers)
    cases lost with
    | false => exact unlostKeys
    | true => exact lostKeys

theorem step? (exclusive : Exclusive lost server) {label : Bool × ServerEvent}
    (met : Uncontested lost server label)
    (stepped : server.step? config label.1 label.2 = some after) : Exclusive lost after := by
  obtain ⟨authorityValid, event⟩ := label
  have move := step?_moves stepped
  cases move with
  | @conn id event control others move =>
      refine exclusive.connMove others move ?_
      intro key registers other different
      obtain ⟨panics, rfl⟩ := registers.advance stepped
      obtain ⟨reservation, here⟩ := registers.here
      simp only [Uncontested, here] at met
      exact met other different
  | task found effect move =>
      refine exclusive.mono ?_ (by rw [effect.conns]; exact fun _ _ => id)
      intro entry present
      rcases move.registry with same | ⟨session, rest, onward, -, -, removed⟩
      · rwa [same] at present
      · rw [removed] at present
        exact (SessionRegistry.mem_unregisterActor.mp present).1
  | shutdown effect | fence effect =>
      refine exclusive.mono (fun entry present => effect.registry.subset present) ?_
      intro id key member
      rwa [effect.conns id] at member

end Exclusive

theorem exclusive_of_reachable {lost : Bool}
    (reach : (serverSystem config).ReachableWhile (Uncontested lost) server) :
    Exclusive lost server := by
  refine invariant_of_step (Exclusive lost) ?_ ?_ reach
  · rintro _ rfl
    exact exclusive_fresh lost config
  · intro before label after exclusive met stepped
    exact exclusive.step? met stepped

/-! ## What one connection does to the Sessions of another -/

/-- The sink registered for a Session. -/
def SessionRegistry.lookup (registry : SessionRegistry) (address : ActorAddress)
    (session : SessionId) : Option SessionEntry :=
  registry.find? (SessionRegistry.names address session)

/-- An Action or a `SessionClosed` for this Session. -/
def MailboxMessage.concerns (session : SessionId) : MailboxMessage → Bool
  | .action other _ => other == session
  | .sessionClosed other => other == session
  | .sessionOpened _ => false

/-- The Actions and `SessionClosed` messages of a Session in one mailbox of its
address. -/
def Server.queued (server : Server) (address : ActorAddress) (session : SessionId)
    (generation : Nat) : List MailboxMessage :=
  match server.tasks generation with
  | some task =>
      if task.address = address then task.mailbox.filter (MailboxMessage.concerns session) else []
  | none => []

theorem SessionRegistry.lookup_append {registry : SessionRegistry} {address : ActorAddress}
    {session : SessionId} {entry : SessionEntry} (found : registry.lookup address session = some entry)
    (added : List SessionEntry) :
    SessionRegistry.lookup (registry ++ added) address session = some entry := by
  have head : List.find? (names address session) registry = some entry := found
  simp [lookup, head]

theorem SessionRegistry.lookup_unregister {registry : SessionRegistry} {address other : ActorAddress}
    {session session' : SessionId} (different : (address, session) ≠ (other, session')) :
    (registry.unregisterActor other session').lookup address session =
      registry.lookup address session := by
  rw [lookup, unregisterActor, List.find?_filter]
  congr 1
  funext entry
  cases named : names address session entry with
  | false => simp
  | true =>
      have apart : names other session' entry = false := by
        rw [← Bool.not_eq_true, names_iff, names_iff.mp named]
        exact different
      simp [apart]

theorem SessionRegistry.lookup_entry {registry : SessionRegistry} {address : ActorAddress}
    {session : SessionId} {entry : SessionEntry}
    (found : registry.lookup address session = some entry) :
    entry ∈ registry ∧ entry.key = (address, session) :=
  ⟨List.mem_of_find?_eq_some found, names_iff.mp (List.find?_some found)⟩

theorem Appended.queued {address other : ActorAddress} {message : MailboxMessage}
    {session : SessionId} {generation : Nat} {task : ActorTask}
    (appended : Appended server after address message generation task) (ok : RoutesOk server)
    (apart : address = other → message.concerns session = false) (inspected : Nat) :
    after.queued other session inspected = server.queued other session inspected := by
  by_cases same : inspected = generation
  · subst same
    have placed : task.address = address := by
      obtain ⟨found, present, placed⟩ := ok.task address _ appended.route
      rw [appended.found, Option.some.injEq] at present
      rw [present, placed]
    unfold Server.queued
    rw [appended.tasks, appended.found, Function.update_self]
    by_cases here : address = other
    · simp [placed, here, apart here]
    · simp [placed, here]
  · unfold Server.queued
    rw [appended.tasks, Function.update_of_ne same]

theorem Spawned.queued {address other : ActorAddress} {message : MailboxMessage}
    {session : SessionId} (spawned : Spawned server after address message) (ok : RoutesOk server)
    (apart : address = other → message.concerns session = false) (inspected : Nat) :
    after.queued other session inspected = server.queued other session inspected := by
  unfold Server.queued
  by_cases same : inspected = server.nextGeneration
  · rw [same, spawned.tasks, Function.update_self, ok.fresh_generation]
    by_cases here : address = other
    · simp [here, apart here]
    · simp [here]
  · rw [spawned.tasks, Function.update_of_ne same]

theorem Delivery.queued {address other : ActorAddress} {message : MailboxMessage}
    {session : SessionId} (delivery : Delivery server after address message)
    (ok : RoutesOk server) (apart : address = other → message.concerns session = false)
    (inspected : Nat) :
    after.queued other session inspected = server.queued other session inspected := by
  cases delivery with
  | appended generation task appended => exact appended.queued ok apart inspected
  | spawned spawned => exact spawned.queued ok apart inspected

theorem queued_of_tasks {address : ActorAddress} {session : SessionId} {inspected : Nat}
    (tasks : after.tasks = server.tasks) :
    after.queued address session inspected = server.queued address session inspected := by
  unfold Server.queued
  rw [tasks]

/-- While no Session is registered that another connection task may still act
on, handling an Envelope of one connection neither ends nor rebinds a Session
of another connection, and puts nothing into a mailbox for it. -/
theorem connections_leave_others_alone
    (reach : (serverSystem config).ReachableWhile (Uncontested false) server)
    {authorityValid : Bool} {id : Nat} {event : ConnEvent}
    (stepped : server.step? config authorityValid (.conn id event) = some after)
    (envelope : (server.conns id).pc.isLost = false)
    {address : ActorAddress} {session : SessionId} {entry : SessionEntry}
    (registered : server.registry.lookup address session = some entry)
    (foreign : entry.connection ≠ id) :
    after.registry.lookup address session = some entry ∧
      ∀ generation, after.queued address session generation =
        server.queued address session generation := by
  have exclusive := exclusive_of_reachable reach
  have ok := routesOk_of_reachable (reachable_of_reachableWhile reach)
  obtain ⟨present, named⟩ := SessionRegistry.lookup_entry registered
  have apart : (address, session) ∉ (server.conns id).pc.keys false := by
    intro claimed
    exact foreign (exclusive.own id _ claimed entry present named)
  have kept : after.registry = server.registry →
      after.registry.lookup address session = some entry := fun same => same ▸ registered
  cases step?_moves stepped with
  | conn control others move =>
      generalize (server.conns id).pc = pc at move envelope apart
      generalize (after.conns id).pc = next at move
      cases move with
      | quiet same => exact ⟨kept same.registry, fun _ => queued_of_tasks same.tasks⟩
      | register absent registry routes tasks =>
          refine ⟨?_, fun _ => queued_of_tasks tasks⟩
          rw [registry]
          exact SessionRegistry.lookup_append registered _
      | opened delivery registry => exact ⟨kept registry, delivery.queued ok fun _ => rfl⟩
      | unopened refusal registry =>
          exact ⟨kept registry, fun _ => queued_of_tasks refusal.tasks⟩
      | unregister registry routes tasks =>
          refine ⟨?_, fun _ => queued_of_tasks tasks⟩
          rw [registry, SessionRegistry.lookup_unregister]
          · exact registered
          · simpa [ConnPc.keys] using apart
      | acted delivery registry =>
          refine ⟨kept registry, delivery.queued ok ?_⟩
          rintro rfl
          simp only [MailboxMessage.concerns, beq_eq_false_iff_ne]
          rintro rfl
          exact apart List.mem_cons_self
      | unacted refusal registry =>
          exact ⟨kept registry, fun _ => queued_of_tasks refusal.tasks⟩
      | @close _ _ rest _ registry _ tasks =>
          cases rest with
          | some rest => cases envelope
          | none =>
              refine ⟨?_, fun _ => queued_of_tasks tasks⟩
              rw [registry, SessionRegistry.lookup_unregister]
              · exact registered
              · simpa [ConnPc.keys] using apart
      | @closed _ _ rest _ _ appended registry =>
          cases rest with
          | some rest => cases envelope
          | none =>
              refine ⟨kept registry, appended.queued ok ?_⟩
              rintro rfl
              simp only [MailboxMessage.concerns, beq_eq_false_iff_ne]
              rintro rfl
              exact apart List.mem_cons_self
      | unheard same => exact ⟨kept same.registry, fun _ => queued_of_tasks same.tasks⟩

/-! ## Runs of a few connections -/

/-- Connections from this number on have not been accepted. -/
def Unaccepted (limit : Nat) (server : Server) : Prop :=
  ∀ id, limit ≤ id → (server.conns id).pc = .unaccepted

def ServerEvent.connBelow (limit : Nat) : ServerEvent → Bool
  | .conn id _ => decide (id < limit)
  | _ => true

theorem Unaccepted.step? {limit : Nat} (unaccepted : Unaccepted limit server)
    {label : Bool × ServerEvent} (below : label.2.connBelow limit = true)
    (stepped : server.step? config label.1 label.2 = some after) : Unaccepted limit after := by
  obtain ⟨authorityValid, event⟩ := label
  intro id outside
  cases step?_moves stepped with
  | conn control others move =>
      rw [others id (by rintro rfl; simp [ServerEvent.connBelow] at below; omega)]
      exact unaccepted id outside
  | task found effect move =>
      rw [effect.conns]
      exact unaccepted id outside
  | shutdown effect | fence effect =>
      rw [effect.conns]
      exact unaccepted id outside

/-- `Uncontested` among the connections below a number. -/
def uncontested? (limit : Nat) (lost : Bool) (server : Server) : Bool × ServerEvent → Bool
  | (_, .conn id (.advance _)) =>
      match (server.conns id).pc with
      | .openRegister address session _ =>
          (List.range limit).all fun other =>
            other == id || !((server.conns other).pc.keys lost).contains (address, session)
      | _ => true
  | _ => true

theorem uncontested_of_check {limit : Nat} {lost : Bool} {label : Bool × ServerEvent}
    (unaccepted : Unaccepted limit server) (checked : uncontested? limit lost server label = true) :
    Uncontested lost server label := by
  unfold uncontested? at checked
  unfold Uncontested
  split at checked
  · rename_i id panics
    split at checked
    · intro other different
      by_cases below : other < limit
      · have apart := List.all_eq_true.mp checked other (List.mem_range.mpr below)
        simpa [different] using apart
      · rw [unaccepted other (Nat.le_of_not_lt below)]
        exact List.not_mem_nil
    · trivial
  · trivial

theorem meets_uncontested {limit : Nat} {lost : Bool} {labels : List (Bool × ServerEvent)}
    (below : labels.all (fun label => label.2.connBelow limit) = true)
    (checked : (serverSystem config).meets? (fun server label =>
      uncontested? limit lost server label = true) (.fresh config) labels = true) :
    (serverSystem config).Meets (Uncontested lost) (.fresh config) labels :=
  meets_of_check (Unaccepted limit)
    (fun _ label _ member unaccepted stepped =>
      unaccepted.step? (List.all_eq_true.mp below label member) stepped)
    (fun _ _ unaccepted checked => uncontested_of_check unaccepted checked)
    (fun _ _ => rfl) checked

/-- Connection 0 registers a Session and connection 1 sends an Action for it. -/
def foreignAction : List (Bool × ServerEvent) :=
  openToDispatch ++
    [(true, .conn 1 .accept),
      (true, .conn 1 (.receive ⟨2, some cartAddress, some ⟨7⟩, some (.action [1])⟩))]

theorem foreign_action_is_left_out :
    ∃ before after entry, (serverSystem cartRuntime).ReachableWhile (Uncontested false) before ∧
      before.step? cartRuntime true (.conn 1 (.advance false)) = some after ∧
      before.registry.lookup cartAddress ⟨7⟩ = some entry ∧ entry.connection ≠ 1 ∧
      after.registry.lookup cartAddress ⟨7⟩ = some entry ∧
      ∀ generation, after.queued cartAddress ⟨7⟩ generation =
        before.queued cartAddress ⟨7⟩ generation := by
  have meets : (serverSystem cartRuntime).Meets (Uncontested false) (.fresh cartRuntime)
      foreignAction := @meets_uncontested _ 2 _ _ rfl rfl
  have reach := @reachableWhile_of_run? _ _ _ _ _ _ _ (.start rfl) meets rfl
  exact ⟨_, _, ⟨⟨cartAddress, ⟨7⟩, 0⟩, 0⟩, reach, rfl, rfl, by decide,
    @connections_leave_others_alone _ _ _ reach true 1 (.advance false) rfl rfl cartAddress ⟨7⟩
      ⟨⟨cartAddress, ⟨7⟩, 0⟩, 0⟩ rfl (by decide)⟩

/-! ## A registration that comes in between -/

/-- Connection 0 opens a Session whose actor panics and ends it; connection 1
then opens the same Session ID before connection 0 has seen the answer. -/
def reopenedElsewhere : List (Bool × ServerEvent) :=
  openAndActivate ++
    [(true, .task 1 .advance), (true, .task 1 (.returned false)), (true, .task 1 .advance),
      (true, .task 1 .advance)] ++
    ([.accept, .receive ⟨2, some cartAddress, some ⟨7⟩, some .sessionOpen⟩, .advance false,
      .reply (.owner (.ok none)), .reply (.permit true), .reply (.issued 1),
      .reply (.outcome (.ok (.applied ⟨""⟩))), .advance false].map
        fun event => (true, .conn 1 event)) ++
    [(true, .conn 0 (.advance false))]

/-- The failure path of the first open then ends the Session of the second. -/
theorem failed_open_ends_foreign_session :
    ∃ before after entry, (serverSystem cartRuntime).Reachable before ∧
      before.step? cartRuntime true (.conn 0 (.advance false)) = some after ∧
      (before.conns 0).pc.isLost = false ∧
      before.registry.lookup cartAddress ⟨7⟩ = some entry ∧ entry.connection ≠ 0 ∧
      after.registry.lookup cartAddress ⟨7⟩ = none := by
  have reach := @reachable_of_run? _ _ (serverSystem cartRuntime) (.fresh cartRuntime) _
    reopenedElsewhere rfl rfl
  exact ⟨_, _, _, reach, rfl, rfl, rfl, by decide, rfl⟩

end Coactor.Runtime
