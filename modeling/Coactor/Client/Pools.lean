import Coactor.Client.Effects

/-!
# Pools and the endpoints of their connections

Every pool belongs to one endpoint, every connection in a pool leads to the
endpoint of the pool, and a call works only on the pool of its endpoint.  So a
connection that a call has acquired leads to the endpoint it asked for.
-/

namespace Coactor.Client

open Coactor.Coordination
open Coactor.Foundation
open Coactor.Foundation.Transition
open Coactor.Runtime

variable {config : ClientConfig} {client after : ClientInner} {owner : Nat → String}
  {pc onward : OpenPc}

/-- A connection that leads to an endpoint. -/
def ClientInner.LeadsTo (client : ClientInner) (connection : Nat) (endpoint : String) : Prop :=
  ∃ binding, client.bindings connection = some binding ∧ binding.endpoint = endpoint

/-- A call works on the pool of its endpoint and has taken connections to it. -/
structure Follows (client : ClientInner) (owner : Nat → String) (pc : OpenPc) : Prop where
  pool : ∀ pool, pc.pool? = some pool → pool < client.nextPool ∧ owner pool = pc.endpoint
  taken : ∀ connection ∈ pc.taken, client.LeadsTo connection pc.endpoint

/-- Pools, their owners, and what calls have taken from them. -/
structure Leads (client : ClientInner) (owner : Nat → String) : Prop where
  pools : ∀ entry ∈ client.pools, entry.2 < client.nextPool ∧ owner entry.2 = entry.1
  members : ∀ pool, ∀ connection ∈ client.poolConnections pool,
    pool < client.nextPool ∧ client.LeadsTo connection (owner pool)
  calls : ∀ session call, client.calls session = some call → Follows client owner call.pc
  known : ∀ id, client.nextConnection ≤ id → client.bindings id = none

/-- Some assignment of pools to endpoints fits. -/
def PoolsOk (client : ClientInner) : Prop := ∃ owner, Leads client owner

theorem follows_idle (taken : pc.taken = []) (pool : pc.pool? = none) :
    Follows client owner pc where
  pool := by
    rw [pool]
    rintro other ⟨⟩
  taken := by
    rw [taken]
    rintro connection ⟨⟩

theorem Follows.keeps (follows : Follows client owner pc) (keeps : KeepsTo pc onward) :
    Follows client owner onward := by
  rcases keeps.uses with ⟨taken, pool⟩ | ⟨endpoint, taken, pool⟩
  · exact follows_idle taken pool
  · refine ⟨?_, ?_⟩
    · intro other found
      rcases pool with none | same
      · rw [none] at found
        cases found
      · rw [endpoint]
        exact follows.pool other (same ▸ found)
    · intro connection member
      rw [endpoint]
      exact follows.taken connection (taken connection member)

theorem Follows.mono (follows : Follows client owner pc) (nextPool : client.nextPool ≤ after.nextPool)
    {other : Nat → String} (same : ∀ pool, pool < client.nextPool → other pool = owner pool)
    (leadsTo : ∀ connection endpoint, client.LeadsTo connection endpoint →
      after.LeadsTo connection endpoint) : Follows after other pc where
  pool pool found := by
    obtain ⟨less, here⟩ := follows.pool pool found
    exact ⟨Nat.lt_of_lt_of_le less nextPool, (same pool less).trans here⟩
  taken connection member := leadsTo connection _ (follows.taken connection member)

namespace Leads

/-- A step of a call that gives no pool a new owner. -/
theorem callStep (leads : Leads client owner) {session : SessionId} {next : OpenCall}
    (calls : after.calls = Function.update client.calls session (some next))
    (leadsTo : ∀ connection endpoint, client.LeadsTo connection endpoint →
      after.LeadsTo connection endpoint)
    (pools : after.pools = client.pools) (nextPool : after.nextPool = client.nextPool)
    (members : ∀ pool, ∀ connection ∈ after.poolConnections pool,
      pool < client.nextPool ∧ after.LeadsTo connection (owner pool))
    (known : ∀ id, after.nextConnection ≤ id → after.bindings id = none)
    (follows : Follows after owner next.pc) : Leads after owner where
  pools := by
    rw [pools, nextPool]
    exact leads.pools
  members := by
    rw [nextPool]
    exact members
  calls other call found := by
    rw [calls] at found
    by_cases same : other = session
    · rw [same, Function.update_self, Option.some.injEq] at found
      exact found ▸ follows
    · rw [Function.update_of_ne same] at found
      exact (leads.calls other call found).mono (Nat.le_of_eq nextPool.symm) (fun _ _ => rfl) leadsTo
  known := known

theorem members_mono (leads : Leads client owner)
    (leadsTo : ∀ connection endpoint, client.LeadsTo connection endpoint →
      after.LeadsTo connection endpoint)
    (less : ∀ pool, ∀ connection ∈ after.poolConnections pool,
      connection ∈ client.poolConnections pool) :
    ∀ pool, ∀ connection ∈ after.poolConnections pool,
      pool < client.nextPool ∧ after.LeadsTo connection (owner pool) := by
  intro pool connection member
  obtain ⟨below, leads'⟩ := leads.members pool connection (less pool connection member)
  exact ⟨below, leadsTo connection _ leads'⟩

end Leads

theorem Fades.leadsTo (fades : Fades client after) {connection : Nat} {endpoint : String}
    (leadsTo : client.LeadsTo connection endpoint) : after.LeadsTo connection endpoint := by
  obtain ⟨binding, found, rfl⟩ := leadsTo
  have rel := fades.bindings connection
  rw [found] at rel
  generalize there : after.bindings connection = later at rel
  cases rel with
  | some faded => exact ⟨_, there, faded.endpoint⟩

theorem Fades.known (fades : Fades client after)
    (known : ∀ id, client.nextConnection ≤ id → client.bindings id = none) :
    ∀ id, after.nextConnection ≤ id → after.bindings id = none := by
  intro id above
  rw [fades.nextConnection] at above
  have rel := fades.bindings id
  rw [known id above] at rel
  generalize there : after.bindings id = later at rel ⊢
  cases rel
  rfl

theorem leadsTo_same (same : after.bindings = client.bindings) {connection : Nat}
    {endpoint : String} (leadsTo : client.LeadsTo connection endpoint) :
    after.LeadsTo connection endpoint := by
  unfold ClientInner.LeadsTo
  rw [same]
  exact leadsTo

/-- Changing one bound set leaves every connection to its endpoint. -/
theorem leadsTo_update {id : Nat} {change : Binding → Binding}
    (endpoint : ∀ binding, (change binding).endpoint = binding.endpoint)
    (bindings : after.bindings = Function.update client.bindings id
      ((client.bindings id).map change)) {connection : Nat} {target : String}
    (leadsTo : client.LeadsTo connection target) : after.LeadsTo connection target := by
  obtain ⟨binding, found, rfl⟩ := leadsTo
  unfold ClientInner.LeadsTo
  rw [bindings]
  by_cases same : connection = id
  · subst same
    rw [Function.update_self, found]
    exact ⟨_, rfl, endpoint binding⟩
  · rw [Function.update_of_ne same]
    exact ⟨binding, found, rfl⟩

theorem known_update {id : Nat} {change : Binding → Binding}
    (bindings : after.bindings = Function.update client.bindings id
      ((client.bindings id).map change)) (nextConnection : after.nextConnection = client.nextConnection)
    (known : ∀ id, client.nextConnection ≤ id → client.bindings id = none) :
    ∀ id, after.nextConnection ≤ id → after.bindings id = none := by
  intro other above
  rw [nextConnection] at above
  rw [bindings]
  by_cases same : other = id
  · subst same
    rw [Function.update_self, known other above]
    rfl
  · rw [Function.update_of_ne same]
    exact known other above

namespace Leads

variable {session : SessionId} {next : OpenCall}

/-- A step that touches no pool and no bound set. -/
theorem quietStep (leads : Leads client owner)
    (calls : after.calls = Function.update client.calls session (some next))
    (bindings : after.bindings = client.bindings) (pools : after.pools = client.pools)
    (poolConnections : after.poolConnections = client.poolConnections)
    (nextPool : after.nextPool = client.nextPool)
    (nextConnection : after.nextConnection = client.nextConnection)
    (follows : Follows client owner next.pc) : Leads after owner := by
  have leadsTo := fun connection endpoint => @leadsTo_same client after bindings connection endpoint
  refine leads.callStep calls leadsTo pools nextPool (leads.members_mono leadsTo ?_) ?_
    (follows.mono (Nat.le_of_eq nextPool.symm) (fun _ _ => rfl) leadsTo)
  · rw [poolConnections]
    exact fun _ _ member => member
  · rw [bindings, nextConnection]
    exact leads.known

theorem sameStep (leads : Leads client owner)
    (calls : after.calls = Function.update client.calls session (some next))
    (same : SameResources client after) (follows : Follows client owner next.pc) :
    Leads after owner :=
  leads.quietStep calls same.bindings same.pools same.poolConnections same.nextPool
    same.nextConnection follows

/-- A step that changes one bound set. -/
theorem bindingStep (leads : Leads client owner) {id : Nat} {change : Binding → Binding}
    (calls : after.calls = Function.update client.calls session (some next))
    (endpoint : ∀ binding, (change binding).endpoint = binding.endpoint)
    (bindings : after.bindings = Function.update client.bindings id
      ((client.bindings id).map change))
    (pools : after.pools = client.pools)
    (poolConnections : after.poolConnections = client.poolConnections)
    (nextPool : after.nextPool = client.nextPool)
    (nextConnection : after.nextConnection = client.nextConnection)
    (follows : Follows client owner next.pc) : Leads after owner := by
  have leadsTo := fun connection target => @leadsTo_update client after id change endpoint bindings
    connection target
  refine leads.callStep calls leadsTo pools nextPool (leads.members_mono leadsTo ?_)
    (known_update bindings nextConnection leads.known)
    (follows.mono (Nat.le_of_eq nextPool.symm) (fun _ _ => rfl) leadsTo)
  rw [poolConnections]
  exact fun _ _ member => member

/-- A pool just made belongs to its endpoint from now on. -/
theorem pooled (leads : Leads client owner) {target : Target}
    (calls : after.calls = Function.update client.calls session (some next))
    (there : next.pc = .poolLock target (client.pool target.endpoint).1)
    (bindings : after.bindings = client.bindings)
    (pools : after.pools = (client.pool target.endpoint).2.pools)
    (poolConnections : after.poolConnections = client.poolConnections)
    (nextPool : after.nextPool = (client.pool target.endpoint).2.nextPool)
    (nextConnection : after.nextConnection = client.nextConnection) : PoolsOk after := by
  have leadsTo := fun connection endpoint => @leadsTo_same client after bindings connection endpoint
  have less : ∀ pool, ∀ connection ∈ after.poolConnections pool,
      connection ∈ client.poolConnections pool := by
    rw [poolConnections]
    exact fun _ _ member => member
  have known : ∀ id, after.nextConnection ≤ id → after.bindings id = none := by
    rw [bindings, nextConnection]
    exact leads.known
  unfold ClientInner.pool at there pools nextPool
  split at there
  · rename_i pool found
    rw [found] at pools nextPool
    obtain ⟨earlier, later, split, -⟩ := List.lookup_eq_some_iff.mp found
    obtain ⟨below, owns⟩ := leads.pools (target.endpoint, pool) (by simp [split])
    refine ⟨owner, leads.callStep calls leadsTo pools nextPool (leads.members_mono leadsTo less)
      known ?_⟩
    rw [there]
    refine ⟨?_, by rintro connection ⟨⟩⟩
    rintro _ ⟨⟩
    rw [nextPool]
    exact ⟨below, owns⟩
  · rename_i unfound
    rw [unfound] at pools nextPool
    have old : ∀ pool, pool < client.nextPool →
        Function.update owner client.nextPool target.endpoint pool = owner pool :=
      fun pool below => Function.update_of_ne (Nat.ne_of_lt below) _ _
    have more : client.nextPool ≤ after.nextPool := by
      rw [nextPool]
      exact Nat.le_succ _
    refine ⟨Function.update owner client.nextPool target.endpoint, ?_, ?_, ?_, known⟩
    · intro entry member
      rw [pools] at member
      rcases List.mem_append.mp member with earlier | new
      · obtain ⟨below, owns⟩ := leads.pools entry earlier
        exact ⟨Nat.lt_of_lt_of_le below more, (old entry.2 below).trans owns⟩
      · obtain rfl := List.mem_singleton.mp new
        rw [nextPool, Function.update_self]
        exact ⟨Nat.lt_succ_self _, rfl⟩
    · intro pool connection member
      obtain ⟨below, leads'⟩ := leads.members_mono leadsTo less pool connection member
      rw [old pool below]
      exact ⟨Nat.lt_of_lt_of_le below more, leads'⟩
    · intro other call found
      rw [calls] at found
      by_cases same : other = session
      · rw [same, Function.update_self, Option.some.injEq] at found
        rw [← found, there]
        refine ⟨?_, by rintro connection ⟨⟩⟩
        rintro pool ⟨⟩
        rw [nextPool, Function.update_self]
        exact ⟨Nat.lt_succ_self _, rfl⟩
      · rw [Function.update_of_ne same] at found
        exact (leads.calls other call found).mono more old leadsTo

/-- A connection just established leads to the endpoint of its pool. -/
theorem connected (leads : Leads client owner) {target : Target} {pool : Nat}
    (calls : after.calls = Function.update client.calls session (some next))
    (follows : Follows client owner (.connecting target pool))
    (there : next.pc = .binding target pool client.nextConnection)
    (bindings : after.bindings = Function.update client.bindings client.nextConnection
      (some ⟨target.endpoint, [], false⟩))
    (pools : after.pools = client.pools)
    (poolConnections : after.poolConnections = Function.update client.poolConnections pool
      (client.poolConnections pool ++ [client.nextConnection]))
    (nextPool : after.nextPool = client.nextPool)
    (nextConnection : after.nextConnection = client.nextConnection + 1) : Leads after owner := by
  have leadsTo : ∀ connection endpoint, client.LeadsTo connection endpoint →
      after.LeadsTo connection endpoint := by
    rintro connection endpoint ⟨binding, found, rfl⟩
    unfold ClientInner.LeadsTo
    rw [bindings, Function.update_of_ne]
    · exact ⟨binding, found, rfl⟩
    · rintro rfl
      rw [leads.known _ (Nat.le_refl _)] at found
      cases found
  have new : after.LeadsTo client.nextConnection target.endpoint := by
    unfold ClientInner.LeadsTo
    rw [bindings, Function.update_self]
    exact ⟨_, rfl, rfl⟩
  obtain ⟨below, owns⟩ := follows.pool pool rfl
  refine leads.callStep calls leadsTo pools nextPool ?_ ?_ ?_
  · intro other connection member
    rw [poolConnections] at member
    by_cases same : other = pool
    · rw [same, Function.update_self] at member
      rw [same]
      rcases List.mem_append.mp member with earlier | last
      · obtain ⟨-, leads'⟩ := leads.members pool connection earlier
        exact ⟨below, leadsTo connection _ leads'⟩
      · rw [List.mem_singleton.mp last, owns]
        exact ⟨below, new⟩
    · rw [Function.update_of_ne same] at member
      obtain ⟨less, leads'⟩ := leads.members other connection member
      exact ⟨less, leadsTo connection _ leads'⟩
  · intro id above
    rw [nextConnection] at above
    rw [bindings, Function.update_of_ne (by omega)]
    exact leads.known id (by omega)
  · rw [there]
    refine ⟨by rintro other ⟨⟩, ?_⟩
    intro connection member
    rw [List.mem_singleton.mp member]
    exact new

end Leads

theorem Fades.leads (fades : Fades client after) (leads : Leads client owner)
    (calls : ∀ session call, after.calls session = some call → Follows client owner call.pc) :
    Leads after owner where
  pools := by
    rw [fades.nextPool]
    rcases fades.pools with same | none
    · rw [same]
      exact leads.pools
    · rw [none]
      rintro entry ⟨⟩
  members := by
    rw [fades.nextPool]
    exact leads.members_mono (fun _ _ => fades.leadsTo) fades.poolConnections
  calls session call found := (calls session call found).mono (Nat.le_of_eq fades.nextPool.symm)
    (fun _ _ => rfl) fun _ _ => fades.leadsTo
  known := fades.known leads.known

namespace PoolsOk

theorem fresh : PoolsOk .fresh :=
  ⟨fun _ => "", by rintro entry ⟨⟩, by rintro pool connection ⟨⟩, by rintro session call ⟨⟩,
    fun _ _ => rfl⟩

theorem openEffect (ok : PoolsOk client) {session : SessionId} {call next : OpenCall}
    {event : OpenEvent} (found : client.calls session = some call)
    (effect : OpenEffect config client after session call next event) : PoolsOk after := by
  obtain ⟨owner, leads⟩ := ok
  have follows := leads.calls session call found
  have calls := effect.calls
  have move := effect.resources
  generalize here : call.pc = pc at move follows
  generalize there : next.pc = onward at move
  have idle : ∀ {later : OpenPc}, next.pc = later → later.taken = [] ∧ later.pool? = none →
      Follows client owner next.pc := by
    rintro later rfl ⟨taken, pool⟩
    exact follows_idle taken pool
  cases move with
  | keeps same keeps => exact ⟨owner, leads.sameStep calls same (there ▸ follows.keeps keeps)⟩
  | pooled bindings receivers pools poolConnections nextPool nextConnection =>
      exact leads.pooled calls there bindings pools poolConnections nextPool nextConnection
  | @locked target pool same =>
      refine ⟨owner, leads.sameStep calls same (there ▸ ⟨follows.pool, ?_⟩)⟩
      obtain ⟨below, owns⟩ := follows.pool pool rfl
      intro connection member
      obtain ⟨-, leads'⟩ := leads.members pool connection member
      exact owns ▸ leads'
  | @retained target pool kept _ bindings receivers pools poolConnections nextPool nextConnection
      keeps =>
      have leadsTo := fun connection endpoint =>
        @leadsTo_same client after bindings connection endpoint
      obtain ⟨below, owns⟩ := follows.pool pool rfl
      refine ⟨owner, leads.callStep calls leadsTo pools nextPool ?_ ?_
        (there ▸ (follows.keeps keeps).mono (Nat.le_of_eq nextPool.symm) (fun _ _ => rfl) leadsTo)⟩
      · intro other connection member
        rw [poolConnections] at member
        by_cases same : other = pool
        · rw [same, Function.update_self] at member
          rw [same, owns]
          exact ⟨below, leadsTo connection _ (follows.taken connection
            (List.mem_append_left _ member))⟩
        · rw [Function.update_of_ne same] at member
          obtain ⟨less, leads'⟩ := leads.members other connection member
          exact ⟨less, leadsTo connection _ leads'⟩
      · rw [bindings, nextConnection]
        exact leads.known
  | connected bindings receivers pools poolConnections nextPool nextConnection =>
      exact ⟨owner, leads.connected calls follows there bindings pools poolConnections nextPool
        nextConnection⟩
  | rebound same =>
      exact ⟨owner, leads.sameStep calls same (there ▸ ⟨by rintro pool ⟨⟩, follows.taken⟩)⟩
  | bound bindings receivers pools poolConnections nextPool nextConnection =>
      refine ⟨owner, leads.bindingStep calls ?_ bindings pools poolConnections nextPool
        nextConnection (there ▸ ⟨by rintro pool ⟨⟩, follows.taken⟩)⟩
      exact fun _ => rfl
  | unbinds bound bindings receivers pools poolConnections nextPool nextConnection free idle'
      unfailed =>
      refine ⟨owner, leads.bindingStep calls ?_ bindings pools poolConnections nextPool
        nextConnection (idle there idle')⟩
      exact fun _ => rfl
  | unbound same bound unheld free idle' unfailed =>
      exact ⟨owner, leads.sameStep calls same (idle there idle')⟩
  | unregisters bindings receivers pools poolConnections nextPool nextConnection leaving bound
      idle' returned =>
      exact ⟨owner, leads.quietStep calls bindings pools poolConnections nextPool nextConnection
        (idle there idle')⟩
  | abandons same awaiting => exact ⟨owner, leads.sameStep calls same (idle there ⟨rfl, rfl⟩)⟩

theorem effect (ok : PoolsOk client) {event : ClientEvent}
    (effect : ClientEffect config client after event) : PoolsOk after := by
  cases effect with
  | @begin session address unknown calls cache receivers fades =>
      obtain ⟨owner, leads⟩ := ok
      refine ⟨owner, fades.leads leads fun other call found => ?_⟩
      rw [calls] at found
      by_cases same : other = session
      · rw [same, Function.update_self, Option.some.injEq] at found
        exact found ▸ follows_idle rfl rfl
      · rw [Function.update_of_ne same] at found
        exact leads.calls other call found
  | call found effect => exact ok.openEffect found effect
  | other outside calls cache receivers fades =>
      obtain ⟨owner, leads⟩ := ok
      exact ⟨owner, fades.leads leads (calls ▸ leads.calls)⟩

theorem reachable (reach : (clientSystem config).Reachable client) : PoolsOk client := by
  refine invariant_of_step PoolsOk ?_ ?_ reach
  · rintro _ rfl
    exact fresh
  · intro before event after ok _ stepped
    exact ok.effect (ClientInner.step?_effect stepped)

/-- A call sends its `SessionOpen` to the endpoint of its iteration. -/
theorem leadsTo (ok : PoolsOk client) {session : SessionId} {call : OpenCall}
    (found : client.calls session = some call) {target : Target} {connection ticket : Nat}
    (here : call.pc = .sending target connection ticket) :
    client.LeadsTo connection target.endpoint := by
  obtain ⟨owner, leads⟩ := ok
  have follows := leads.calls session call found
  rw [here] at follows
  exact follows.taken connection (List.mem_singleton_self connection)

end PoolsOk

end Coactor.Client
