import Coactor.Client.PoolCounts
import Coactor.Client.Shutdown

/-!
# Lost connections are left alone

The receive loop of a lost connection takes it out of its pool before it drains
its bound set, and waits for the lock of the pool to do so.  A call binds its
Session only to a connection in a pool that it has locked.  So a bound set that
has been drained stays empty.
-/

namespace Coactor.Client

open Coactor.Coordination
open Coactor.Foundation
open Coactor.Foundation.Transition
open Coactor.Runtime

/-! ## Receive loops that have left the pools -/

/-- The loop has drained the bound set of its connection. -/
def LoopPc.isSpent : LoopPc → Bool
  | .zeroing _ | .ending _ | .failing _ _ | .terminating _ _ | .ended => true
  | _ => false

/-- The loop has taken its connection out of its pool. -/
def LoopPc.isGone : LoopPc → Bool
  | .draining | .zeroing _ | .ending _ | .failing _ _ | .terminating _ _ | .ended => true
  | _ => false

theorem LoopPc.isGone_of_isSpent {pc : LoopPc} (spent : pc.isSpent = true) : pc.isGone = true := by
  cases pc <;> first | rfl | cases spent

/-- What a step of a receive loop does to the pools and to its bound set. -/
inductive LoopTrace (before after : ClientInner) (id : Nat) (connection : TransportConnection) :
    LoopPc → LoopPc → Prop where
  | goes {pc next} (members : after.poolConnections = before.poolConnections)
      (spent : next.isGone = true → pc.isSpent = true) (unlocked : ∀ pool, next ≠ .poolLock pool) :
      LoopTrace before after id connection pc next
  | locks {pool} (found : before.pools.lookup connection.endpoint = some pool)
      (members : after.poolConnections = before.poolConnections) :
      LoopTrace before after id connection .unpooling (.poolLock pool)
  | poolless (absent : before.pools.lookup connection.endpoint = none) :
      LoopTrace before after id connection .unpooling .draining
  | removes {pool} (free : before.poolHolders pool = false)
      (members : after.poolConnections = Function.update before.poolConnections pool
        ((before.poolConnections pool).filter (· != id))) :
      LoopTrace before after id connection (.poolLock pool) .draining
  | drains (members : after.poolConnections = before.poolConnections)
      (empty : ∀ session, ¬ after.Holds id session) :
      LoopTrace before after id connection .draining (.zeroing connection.sessions)
  | aborts {pc} (asked : connection.abortRequested = true) :
      LoopTrace before after id connection pc .ended

namespace ClientInner

variable {client middle after : ClientInner} {id : Nat} {connection : TransportConnection}
  {pc next : LoopPc} {event : LoopEvent}

/-- Every step of a receive loop leaves one of the traces. -/
theorem loopStep?_trace (found : client.connections id = some connection)
    (stepped : client.loopStep? id connection pc event = some after) :
    ∃ next, LoopTrace client after id connection pc next ∧
      (after.connections id).map TransportConnection.loop = some next := by
  have there : ∀ {middle : ClientInner} {change : TransportConnection → TransportConnection},
      middle.connections = client.connections → ((middle.modify id change).connections id).map
        TransportConnection.loop = some (change connection).loop := by
    intro middle change connections
    simp [modify, connections, found]
  have goes : ∀ {middle : ClientInner} {change : TransportConnection → TransportConnection},
      middle.connections = client.connections →
      middle.poolConnections = client.poolConnections →
      ((change connection).loop.isGone = true → pc.isSpent = true) →
      (∀ pool, (change connection).loop ≠ .poolLock pool) →
      ∃ next, LoopTrace client (middle.modify id change) id connection pc next ∧
        ((middle.modify id change).connections id).map TransportConnection.loop = some next := by
    intro middle change connections members spent unlocked
    exact ⟨_, .goes members spent unlocked, there connections⟩
  cases loopStep?_cases stepped with
  | @received inbound =>
      refine goes rfl rfl ?_ ?_
      · intro gone
        unfold Inbound.handle at gone
        split at gone <;> cases gone
      · intro pool here
        unfold Inbound.handle at here
        split at here <;> cases here
  | lost | known | unknown | found | missing | pushed | taken | stale | completed | closed =>
      exact goes rfl rfl (by rintro ⟨⟩) (by rintro pool ⟨⟩)
  | pooled listed => exact ⟨_, .locks listed rfl, there rfl⟩
  | unpooled unlisted => exact ⟨_, .poolless unlisted, there rfl⟩
  | removed free => exact ⟨_, .removes free rfl, there rfl⟩
  | drained =>
      refine ⟨_, .drains rfl ?_, there rfl⟩
      rintro session ⟨binding, bound, member⟩
      simp only [bindings, modify, Function.update_self, found, Option.map_some,
        Option.some.injEq] at bound
      subst bound
      cases member
  | zeroed | ended | fails | terminates | failed =>
      exact goes rfl rfl (fun _ => rfl) (by rintro pool ⟨⟩)
  | @terminated session rest =>
      obtain ⟨connections, -, -, -, members, -⟩ :=
        @terminate_keeps client session ⟨some id, .error .remoteUnavailable⟩
      exact goes connections members (fun _ => rfl) (by rintro pool ⟨⟩)
  | aborted asked | abortedLock asked => exact ⟨_, .aborts asked, there rfl⟩

end ClientInner

/-! ## Calls that hold the lock of a pool -/

/-- The connections that a call which holds the lock of a pool may bind its Session to. -/
def OpenPc.handled : OpenPc → List Nat
  | .choosing _ _ best rest => (best.map Prod.fst).toList ++ rest
  | .binding _ _ connection | .counting _ _ connection | .spawning _ _ connection => [connection]
  | _ => []

theorem handled_of_better {best : Option (Nat × UInt64)} {connection id : Nat} {weight : UInt64}
    {rest : List Nat}
    (listed : id ∈ ((better best connection weight).map Prod.fst).toList ++ rest) :
    id ∈ (best.map Prod.fst).toList ++ connection :: rest := by
  rcases List.mem_append.mp listed with chosen | later
  · unfold better at chosen
    split at chosen
    · split at chosen
      · rw [Option.map_some, Option.toList_some, List.mem_singleton] at chosen
        rw [chosen]
        exact List.mem_append_right _ List.mem_cons_self
      · exact List.mem_append_left _ chosen
    · rw [Option.map_some, Option.toList_some, List.mem_singleton] at chosen
      rw [chosen]
      exact List.mem_append_right _ List.mem_cons_self
  · exact List.mem_append_right _ (List.mem_cons_of_mem _ later)

namespace PoolView

variable {config : ClientConfig} {view result : PoolView} {session : SessionId}
  {event : OpenEvent} {pc next : OpenPc} {gone : Nat → Prop} {id : Nat}

/-- No connection that has left its pool is in a pool or in the hands of a call. -/
structure Sheltered (view : PoolView) (gone : Nat → Prop) : Prop where
  members : ∀ pool, ∀ id ∈ view.members pool, ¬ gone id
  handled : ∀ session pc pool, view.pcs session = some pc → pc.holds? = some pool →
    ∀ id ∈ pc.handled, id ∈ view.members pool

namespace Sheltered

theorem mono {left : Nat → Prop} (sheltered : view.Sheltered gone)
    (fewer : ∀ id, left id → gone id) : view.Sheltered left :=
  ⟨fun pool id member here => sheltered.members pool id member (fewer id here), sheltered.handled⟩

/-- A call that begins holds no lock. -/
theorem begins (sheltered : view.Sheltered gone) (idle : pc.holds? = none) :
    (view.setPc session pc).Sheltered gone where
  members := sheltered.members
  handled other current pool found held := by
    rcases pcs_setPc found with ⟨-, rfl⟩ | ⟨-, earlier⟩
    · rw [idle] at held
      cases held
    · exact sheltered.handled other current pool earlier held

theorem callStep (sheltered : view.Sheltered gone) (pooled : view.Pooled config)
    (here : view.pcs session = some pc) (pcs : result.pcs = view.pcs)
    (members : ∀ pool, result.members pool = view.members pool ∨ pc.holds? = some pool)
    (kept : ∀ pool, ∀ id ∈ result.members pool, ¬ gone id)
    (own : ∀ pool, next.holds? = some pool → ∀ id ∈ next.handled, id ∈ result.members pool) :
    (result.setPc session next).Sheltered gone where
  members := kept
  handled other current pool found held id listed := by
    rcases pcs_setPc found with ⟨-, rfl⟩ | ⟨different, earlier⟩
    · exact own pool held id listed
    · rw [pcs] at earlier
      rcases members pool with same | mine
      · change id ∈ result.members pool
        rw [same]
        exact sheltered.handled other current pool earlier held id listed
      · refine absurd (pooled.exclusion.alone other session pool ?_ ?_) different
        · exact (holds_of_pcs earlier).trans held
        · exact (holds_of_pcs here).trans mine

/-- A step that leaves the members of the pools as they are. -/
theorem keeps (sheltered : view.Sheltered gone) (pooled : view.Pooled config)
    (here : view.pcs session = some pc) (pcs : result.pcs = view.pcs)
    (members : result.members = view.members)
    (own : ∀ pool, next.holds? = some pool → ∀ id ∈ next.handled, id ∈ view.members pool) :
    (result.setPc session next).Sheltered gone := by
  refine sheltered.callStep pooled here pcs (fun pool => .inl (by rw [members])) ?_ ?_
  · rw [members]
    exact sheltered.members
  · rw [members]
    exact own

/-- A call has taken the closed connections out of its pool. -/
theorem sieved (sheltered : view.Sheltered gone) (pooled : view.Pooled config) {target : Target}
    {pool : Nat} {kept : List Nat}
    (here : view.pcs session = some (.retaining target pool kept []))
    (held : next.holds? = some pool) (own : ∀ id ∈ next.handled, id ∈ kept) :
    ((view.setMembers pool kept).setPc session next).Sheltered gone := by
  have fewer := pooled.sieves here
  have members := @members_setMembers view pool kept
  refine sheltered.callStep pooled here rfl (fun other => ?_) (fun other id member => ?_) ?_
  · rcases members other with same | ⟨rfl, -⟩
    · exact .inl same
    · exact .inr rfl
  · rcases members other with same | ⟨rfl, same⟩
    · exact sheltered.members other id (same ▸ member)
    · exact sheltered.members other id (fewer.subset (same ▸ member))
  · intro other held' id listed
    obtain rfl := Option.some.inj (held.symm.trans held')
    simp only [setMembers, Function.update_self]
    exact own id listed

theorem step (sheltered : view.Sheltered gone) (pooled : view.Pooled config)
    (fresh : ¬ gone view.nextConnection) (here : view.pcs session = some pc)
    (step : PoolStep config view session event pc next result) :
    (result.setPc session next).Sheltered gone := by
  have handled := fun pool => sheltered.handled session pc pool here
  have unheld : next.holds? = none → result.pcs = view.pcs → result.members = view.members →
      (result.setPc session next).Sheltered gone := by
    intro idle pcs members
    refine sheltered.keeps pooled here pcs members fun pool held => ?_
    rw [idle] at held
    cases held
  cases step with
  | stays => exact sheltered.keeps pooled here rfl rfl handled
  | apart _ _ there => exact unheld (holds?_of_isApart there) rfl rfl
  | enters => exact unheld rfl (pool_same view _).1 (pool_same view _).2.2
  | releases _ there => exact unheld (holds?_of_isApart there) rfl rfl
  | returns => exact unheld rfl rfl rfl
  | unbinds _ there =>
      exact unheld (OpenPc.holds?_eq_none (OpenPc.lookedUp?_eq_none there)) rfl rfl
  | lowers _ there => exact unheld (holds?_of_isApart there) rfl rfl
  | locks | sieves => exact sheltered.keeps pooled here rfl rfl (by rintro pool - id ⟨⟩)
  | few => exact sheltered.sieved pooled here rfl (by rintro id ⟨⟩)
  | full => exact sheltered.sieved pooled here rfl fun id listed => listed
  | @connects target pool =>
      have members : ∀ other, (view.connect target.endpoint pool).members other =
          view.members other ∨ (other = pool ∧ (view.connect target.endpoint pool).members other =
            view.members pool ++ [view.nextConnection]) := members_setMembers pool _
      refine sheltered.callStep pooled here rfl (fun other => ?_) (fun other id member => ?_) ?_
      · rcases members other with same | ⟨rfl, -⟩
        · exact .inl same
        · exact .inr rfl
      · rcases members other with same | ⟨rfl, same⟩
        · exact sheltered.members other id (same ▸ member)
        · rw [same] at member
          rcases List.mem_append.mp member with old | new
          · exact sheltered.members other id old
          · rw [List.mem_singleton.mp new]
            exact fresh
      · rintro other ⟨⟩ id listed
        rw [List.mem_singleton.mp listed]
        simp [connect, setMembers]
  | @weighs target pool connection best rest =>
      refine sheltered.keeps pooled here rfl rfl ?_
      rintro other ⟨⟩ id listed
      exact handled _ rfl id (handled_of_better listed)
  | chooses =>
      refine sheltered.keeps pooled here rfl rfl ?_
      rintro other ⟨⟩ id listed
      exact handled _ rfl id (List.mem_append_left _ listed)
  | finds | binds | counts => exact sheltered.keeps pooled here rfl rfl handled

end Sheltered

theorem home_adjust {connection : Nat} {change : Account → Account}
    (same : ∀ account, view.accounts connection = some account →
      (change account).endpoint = account.endpoint) :
    (view.adjust connection change).home = view.home := by
  funext other
  by_cases own : other = connection
  · subst own
    simp only [home, adjust, Function.update_self]
    cases found : view.accounts other with
    | none => rfl
    | some account => simp [same account found]
  · simp only [home, adjust, Function.update_of_ne own]

theorem adjust_eq_none {connection : Nat} {change : Account → Account}
    (absent : view.accounts id = none) : (view.adjust connection change).accounts id = none := by
  simp only [adjust]
  by_cases own : id = connection
  · subst own
    rw [Function.update_self, absent]
    rfl
  · rwa [Function.update_of_ne own]

/-- A connection stays where its pool is. -/
theorem home_of_step (pooled : view.Pooled config) {home : Nat} (found : view.home id = some home)
    (step : PoolStep config view session event pc next result) : result.home id = some home := by
  obtain ⟨account, present, looked⟩ := Option.bind_eq_some_iff.mp found
  cases step with
  | @enters target =>
      unfold PoolView.pool
      split
      · exact found
      · refine Option.bind_eq_some_iff.mpr ⟨account, present, ?_⟩
        rw [List.lookup_append, looked]
        rfl
  | connects =>
      refine Option.bind_eq_some_iff.mpr ⟨account, ?_, looked⟩
      rw [← present]
      refine Function.update_of_ne ?_ _ _
      rintro rfl
      rw [pooled.known _ (Nat.le_refl _)] at present
      cases present
  | binds | counts | unbinds | lowers =>
      refine (congrFun (home_adjust ?_) id).trans found
      exact fun _ _ => rfl
  | _ => exact found

/-- Only a call that holds the lock of its pool establishes a connection. -/
theorem housed_of_step (pooled : view.Pooled config) (here : view.pcs session = some pc)
    (step : PoolStep config view session event pc next result)
    (present : result.accounts id ≠ none) :
    view.accounts id ≠ none ∨ ∃ pool, result.home id = some pool := by
  cases step with
  | @enters target =>
      rw [(pool_same view target.endpoint).2.1] at present
      exact .inl present
  | @connects target pool =>
      obtain ⟨account, found⟩ := Option.ne_none_iff_exists'.mp present
      rcases accounts_connect found with ⟨rfl, rfl⟩ | ⟨-, earlier⟩
      · refine .inr ⟨pool, Option.bind_eq_some_iff.mpr ⟨_, found, ?_⟩⟩
        exact pooled.lookedUp session _ target.endpoint pool here rfl
      · exact .inl (by rw [earlier]; exact Option.some_ne_none _)
  | binds | counts | unbinds | lowers => exact .inl fun none => present (adjust_eq_none none)
  | _ => exact .inl present

end PoolView

theorem PoolMove.home {config : ClientConfig} {client : ClientInner} {label : ClientEvent}
    {view : PoolView} (pooled : client.poolView.Pooled config)
    (move : PoolMove config client label view) {id home : Nat}
    (found : client.poolView.home id = some home) : view.home id = some home := by
  cases move with
  | quiet | begins | removes => exact found
  | call here step =>
      have kept := PoolView.home_of_step pooled found step
      exact kept
  | closes =>
      refine (congrFun (PoolView.home_adjust ?_) id).trans found
      exact fun _ _ => rfl
  | departs known departed endpoint =>
      refine (congrFun (PoolView.home_adjust fun account present => ?_) id).trans found
      rw [← Option.some.inj (known.symm.trans present)]
      exact endpoint

theorem PoolMove.housed {config : ClientConfig} {client : ClientInner} {label : ClientEvent}
    {view : PoolView} (pooled : client.poolView.Pooled config)
    (move : PoolMove config client label view) {id : Nat} (present : view.accounts id ≠ none) :
    client.poolView.accounts id ≠ none ∨ ∃ pool, view.home id = some pool := by
  cases move with
  | quiet | begins | removes => exact .inl present
  | call here step =>
      have housed := PoolView.housed_of_step pooled here step present
      exact housed
  | closes | departs => exact .inl fun none => present (PoolView.adjust_eq_none none)

/-! ## Connections that have left the pools -/

variable {config : ClientConfig} {client before after : ClientInner} {label : ClientEvent}

namespace ClientInner

def Gone (client : ClientInner) (id : Nat) : Prop :=
  ∃ connection, client.connections id = some connection ∧ connection.loop.isGone = true

def Spent (client : ClientInner) (id : Nat) : Prop :=
  ∃ connection, client.connections id = some connection ∧ connection.loop.isSpent = true

theorem accounts_eq_some {id : Nat} {connection : TransportConnection}
    (found : client.connections id = some connection) :
    client.poolView.accounts id = some connection.account :=
  congrArg (Option.map TransportConnection.account) found

theorem Spent.gone {id : Nat} (spent : client.Spent id) : client.Gone id := by
  obtain ⟨connection, found, spent⟩ := spent
  exact ⟨connection, found, LoopPc.isGone_of_isSpent spent⟩

end ClientInner

/-- What does not touch a receive loop. -/
def SameLoops (before after : ClientInner) : Prop :=
  ∀ id connection, after.connections id = some connection →
    (connection.loop = .unspawned ∨ connection.loop = .receiving) ∨
      ∃ old, before.connections id = some old ∧ connection.loop = old.loop

theorem ClientMove.sameLoops (move : ClientMove config before after label)
    (outside : ∀ id loopEvent, label ≠ .loop id loopEvent) : SameLoops before after := by
  intro id connection found
  refine (move.sameLoop outside (ClientInner.traffic_eq_some found)).imp_right ?_
  rintro ⟨old, present, same⟩
  obtain ⟨earlier, known, rfl⟩ := Option.map_eq_some_iff.mp present
  exact ⟨earlier, known, same⟩

theorem SameLoops.gone (same : SameLoops before after) {id : Nat} (gone : after.Gone id) :
    before.Gone id := by
  obtain ⟨connection, found, loop⟩ := gone
  rcases same id connection found with (idle | idle) | ⟨old, present, kept⟩
  · rw [idle] at loop
    cases loop
  · rw [idle] at loop
    cases loop
  · exact ⟨old, present, kept ▸ loop⟩

theorem SameLoops.spent (same : SameLoops before after) {id : Nat} (spent : after.Spent id) :
    before.Spent id := by
  obtain ⟨connection, found, loop⟩ := spent
  rcases same id connection found with (idle | idle) | ⟨old, present, kept⟩
  · rw [idle] at loop
    cases loop
  · rw [idle] at loop
    cases loop
  · exact ⟨old, present, kept ▸ loop⟩

/-- A step of a receive loop moves its own loop only. -/
theorem LoopStep.others {id : Nat} {event : LoopEvent} {connection : TransportConnection}
    {next : LoopPc} (step : LoopStep before after id event connection next) {other : Nat}
    (different : other ≠ id) {found : TransportConnection}
    (present : after.connections other = some found) :
    ∃ old, before.connections other = some old ∧ found.loop = old.loop := by
  have traffic := ClientInner.traffic_eq_some present
  rw [step.traffic, Function.update_of_ne different] at traffic
  obtain ⟨old, known, same⟩ := Option.map_eq_some_iff.mp traffic
  exact ⟨old, known, (congrArg Traffic.loop same).symm⟩

/-- Connections that have left the pools are left alone. -/
structure Cleared (client : ClientInner) : Prop where
  sheltered : client.poolView.Sheltered client.Gone
  homes : ∀ id, client.poolView.accounts id ≠ none → ∃ pool, client.poolView.home id = some pool
  locked : ∀ id connection pool, client.connections id = some connection →
    connection.loop = .poolLock pool → client.poolView.home id = some pool
  emptied : ∀ id, client.Spent id → ∀ session, ¬ client.Holds id session
  unasked : client.Each fun connection => connection.abortRequested = false

namespace Cleared

theorem fresh : Cleared .fresh where
  sheltered := ⟨by rintro pool id ⟨⟩, by rintro session pc pool ⟨⟩⟩
  homes := fun id present => absurd rfl present
  locked := by rintro id connection pool ⟨⟩
  emptied := by rintro id ⟨connection, ⟨⟩, -⟩
  unasked := by rintro id connection ⟨⟩

theorem unasked_kept (cleared : Cleared before) (outside : label ≠ .shutdown)
    (stepped : before.step? config label = some after) :
    after.Each fun connection => connection.abortRequested = false := by
  refine ClientInner.step?_each ?_ cleared.unasked outside ?_ ?_ stepped
  · exact ⟨fun _ _ kept => kept, fun _ _ kept => kept, fun _ _ kept => kept,
      fun _ _ kept => kept, fun _ _ _ kept => kept⟩
  · exact fun _ _ _ _ _ _ => rfl
  · exact fun _ _ _ _ _ _ _ _ kept _ => kept

/-- A step outside the receive loops. -/
theorem aside (cleared : Cleared before) (reach : (clientSystem config).Reachable before)
    (running : before.status = .running) (stepped : before.step? config label = some after)
    (outside : label ≠ .shutdown) (apart : ∀ id event, label ≠ .loop id event) :
    Cleared after := by
  have pooled := pooled_of_reachable reach running
  have move := ClientInner.step?_pools outside stepped
  have same := (ClientInner.step?_moves stepped).sameLoops apart
  have unknown : ¬ before.Gone before.nextConnection := by
    rintro ⟨connection, found, -⟩
    have unknown := pooled.known before.nextConnection (Nat.le_refl _)
    rw [ClientInner.accounts_eq_some found] at unknown
    cases unknown
  constructor
  · refine .mono ?_ fun id => same.gone
    generalize after.poolView = view at move
    cases move with
    | quiet => exact cleared.sheltered
    | begins => exact cleared.sheltered.begins rfl
    | call here step => exact cleared.sheltered.step pooled unknown here step
    | closes | departs | removes => exact absurd rfl (apart _ _)
  · intro id present
    rcases move.housed pooled present with old | new
    · obtain ⟨pool, home⟩ := cleared.homes id old
      exact ⟨pool, move.home pooled home⟩
    · exact new
  · intro id connection pool found here
    rcases same id connection found with (idle | idle) | ⟨old, present, loop⟩
    · rw [here] at idle
      cases idle
    · rw [here] at idle
      cases idle
    · exact move.home pooled (cleared.locked id old pool present (loop.symm.trans here))
  · intro id spent session holds
    have before' := cleared.emptied id (same.spent spent)
    cases ClientInner.step?_effect stepped with
    | begin unknown calls cache receivers fades | other outside calls cache receivers fades =>
        exact before' session (fades.holds holds)
    | call found effect =>
        rcases effect.resources.holds_before holds with old | ⟨-, target, pool, here⟩
        · exact before' session old
        · have listed := cleared.sheltered.handled _ _ pool (congrArg (Option.map OpenCall.pc) found)
            (congrArg OpenPc.holds? here) id (by rw [here]; exact List.mem_singleton_self id)
          exact cleared.sheltered.members pool id listed (same.spent spent).gone
  · exact cleared.unasked_kept outside stepped

/-- A step of a receive loop. -/
theorem loopStep (cleared : Cleared before) (reach : (clientSystem config).Reachable before)
    (running : before.status = .running) {id : Nat} {event : LoopEvent}
    (stepped : before.step? config (.loop id event) = some after) : Cleared after := by
  have pooled := pooled_of_reachable reach running
  have taken : before.step? config (.loop id event) = some after := stepped
  have pools := ClientInner.step?_pools (by rintro ⟨⟩) stepped
  obtain ⟨connection, found, moved⟩ := Option.bind_eq_some_iff.mp stepped
  obtain ⟨next, step⟩ := ClientInner.loopStep?_moves found rfl moved
  obtain ⟨there, trace, here⟩ := ClientInner.loopStep?_trace found moved
  have calls : after.poolView.pcs = before.poolView.pcs := by
    funext session
    exact congrArg (Option.map OpenCall.pc) (congrFun step.calls session)
  have fades : ∀ {other session}, after.Holds other session → before.Holds other session := by
    intro other session holds
    cases ClientInner.step?_effect taken with
    | other outside calls cache receivers fades => exact fades.holds holds
  have homed : ∃ pool, before.pools.lookup connection.endpoint = some pool := by
    obtain ⟨pool, home⟩ := cleared.homes id (by simp [ClientInner.accounts_eq_some found])
    refine ⟨pool, ?_⟩
    rwa [PoolView.home, ClientInner.accounts_eq_some found] at home
  have own : ∀ {current}, after.connections id = some current → current.loop = there := by
    intro current present
    rw [present] at here
    exact Option.some.inj here
  have finish : (∀ pool, ∀ other ∈ after.poolConnections pool, other ∈ before.poolConnections pool) →
      (∀ pool, before.poolHolders pool = true →
        after.poolConnections pool = before.poolConnections pool) →
      (there.isGone = true → ∀ pool, id ∉ after.poolConnections pool) →
      (there.isSpent = true → ∀ session, ¬ after.Holds id session) →
      (∀ pool, there = .poolLock pool → before.poolView.home id = some pool) → Cleared after := by
    intro fewer kept left empty locks
    constructor
    · constructor
      · rintro pool other member ⟨current, present, gone⟩
        by_cases same : other = id
        · subst same
          exact left (own present ▸ gone) pool member
        · obtain ⟨old, known, loop⟩ := step.others same present
          exact cleared.sheltered.members pool other (fewer pool other member)
            ⟨old, known, loop ▸ gone⟩
      · intro session pc pool known held other listed
        rw [calls] at known
        have member := cleared.sheltered.handled session pc pool known held other listed
        have taken := pooled.exclusion.held session pool ((PoolView.holds_of_pcs known).trans held)
        change other ∈ after.poolConnections pool
        rw [kept pool taken]
        exact member
    · intro other present
      rcases pools.housed pooled present with old | new
      · obtain ⟨pool, home⟩ := cleared.homes other old
        exact ⟨pool, pools.home pooled home⟩
      · exact new
    · intro other current pool present waits
      refine pools.home pooled ?_
      by_cases same : other = id
      · subst same
        exact locks pool ((own present).symm.trans waits)
      · obtain ⟨old, known, loop⟩ := step.others same present
        exact cleared.locked other old pool known (loop.symm.trans waits)
    · rintro other ⟨current, present, spent⟩ session holds
      by_cases same : other = id
      · subst same
        exact empty (own present ▸ spent) session holds
      · obtain ⟨old, known, loop⟩ := step.others same present
        exact cleared.emptied other ⟨old, known, loop ▸ spent⟩ session (fades holds)
    · exact cleared.unasked_kept (by rintro ⟨⟩) taken
  have inside : connection.loop.isGone = true → ∀ pool, id ∉ before.poolConnections pool :=
    fun gone pool member => cleared.sheltered.members pool id member ⟨connection, found, gone⟩
  have same : after.poolConnections = before.poolConnections →
      (there.isGone = true → connection.loop.isGone = true) →
      (there.isSpent = true → ∀ session, ¬ after.Holds id session) →
      (∀ pool, there = .poolLock pool → before.poolView.home id = some pool) → Cleared after := by
    intro members gone
    refine finish ?_ ?_ ?_
    · rw [members]
      exact fun _ _ member => member
    · rw [members]
      exact fun _ _ => rfl
    · rw [members]
      exact fun left => inside (gone left)
  generalize loop : connection.loop = pc at trace
  cases trace with
  | goes members spent unlocked =>
      refine same members (fun gone => ?_) (fun gone session holds => ?_) ?_
      · rw [loop]
        exact LoopPc.isGone_of_isSpent (spent gone)
      · exact cleared.emptied id ⟨connection, found, loop ▸ spent (LoopPc.isGone_of_isSpent gone)⟩
          session (fades holds)
      · exact fun pool waits => absurd waits (unlocked pool)
  | locks pool members =>
      refine same members (by rintro ⟨⟩) (by rintro ⟨⟩) ?_
      rintro other ⟨⟩
      rw [PoolView.home, ClientInner.accounts_eq_some found]
      exact pool
  | poolless absent =>
      obtain ⟨pool, present⟩ := homed
      rw [absent] at present
      cases present
  | @removes pool free members =>
      have home := cleared.locked id connection pool found loop
      have others : ∀ other, other ≠ pool →
          after.poolConnections other = before.poolConnections other := by
        intro other different
        rw [members, Function.update_of_ne different]
      refine finish (fun other kept member => ?_) (fun other taken => others other ?_)
        (fun _ other member => ?_) (by rintro ⟨⟩) (by rintro other ⟨⟩)
      · by_cases mine : other = pool
        · subst mine
          rw [members, Function.update_self] at member
          exact (List.mem_filter.mp member).1
        · exact others other mine ▸ member
      · rintro rfl
        rw [free] at taken
        cases taken
      · by_cases mine : other = pool
        · subst mine
          rw [members, Function.update_self] at member
          simpa using (List.mem_filter.mp member).2
        · rw [others other mine] at member
          have elsewhere := pooled.homes other id member
          exact mine (Option.some.inj (elsewhere.symm.trans home))
  | drains members empty =>
      exact same members (fun _ => by rw [loop]; rfl) (fun _ => empty) (by rintro pool ⟨⟩)
  | aborts asked =>
      rw [cleared.unasked id connection found] at asked
      cases asked

theorem reachable (reach : (clientSystem config).Reachable client)
    (running : client.status = .running) : Cleared client := by
  refine invariant_of_reachable_step (fun client : ClientInner => client.status = .running →
    Cleared client) ?_ ?_ reach running
  · rintro _ rfl -
    exact fresh
  · intro before label after earlier cleared _ stepped running
    obtain ⟨started, outside⟩ := running_before earlier stepped running
    have taken : before.step? config label = some after := stepped
    by_cases loops : ∃ id event, label = .loop id event
    · obtain ⟨id, event, rfl⟩ := loops
      exact (cleared started).loopStep earlier started taken
    · exact (cleared started).aside earlier started taken outside fun id event is =>
        loops ⟨id, event, is⟩

end Cleared

end Coactor.Client
