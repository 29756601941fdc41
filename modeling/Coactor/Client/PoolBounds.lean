import Coactor.Foundation.Exclusion
import Coactor.Client.Pending
import Coactor.Client.PoolMoves

/-!
# Pools hold the open connections, and not too many

Only the holder of its lock adds to a pool.  It first takes out what is closed,
so it knows how many connections are left, and nobody else can push one before
it gives the lock back.  A receive loop takes a connection out of its pool only
after it has marked it closed.
-/

namespace Coactor.Client

open Coactor.Coordination
open Coactor.Foundation
open Coactor.Foundation.Transition
open Coactor.Runtime

variable {config : ClientConfig} {view result : PoolView} {session : SessionId}
  {event : OpenEvent} {pc next : OpenPc}

namespace PoolView

/-- The pool whose lock the call of a Session holds. -/
def holds (view : PoolView) (session : SessionId) : Option Nat :=
  (view.pcs session).bind OpenPc.holds?

def hasDeparted (view : PoolView) (id : Nat) : Bool := (view.accounts id).any Account.departed

/-- What a call that holds the lock of a pool knows about it. -/
def Works (config : ClientConfig) (view : PoolView) : OpenPc → Prop
  | .retaining _ pool kept rest => (kept ++ rest).Sublist (view.members pool) ∧
      ∀ id ∈ view.members pool, view.isClosed id = false → id ∈ kept ++ rest
  | .connecting _ pool => (view.members pool).length < config.maxConnectionsPerEndpoint
  | .choosing _ pool best rest =>
      ∀ id ∈ (best.map Prod.fst).toList ++ rest, view.home id = some pool
  | _ => True

/-- Pools hold the open connections of their endpoints, and not too many, and
calls work on the pools they hold. -/
structure Pooled (config : ClientConfig) (view : PoolView) : Prop where
  exclusion : Exclusion view.holders view.holds
  lookedUp : ∀ session pc endpoint pool, view.pcs session = some pc →
    pc.lookedUp? = some (endpoint, pool) → view.pools.lookup endpoint = some pool
  returned : ∀ session pc id, view.pcs session = some pc → pc.returns? = some id →
    view.home id = pc.holds?
  works : ∀ session pc, view.pcs session = some pc → view.Works config pc
  homes : ∀ pool, ∀ id ∈ view.members pool, view.home id = some pool
  few : ∀ pool, (view.members pool).length ≤ config.maxConnectionsPerEndpoint
  known : ∀ id, view.nextConnection ≤ id → view.accounts id = none
  pooled : ∀ id, view.isClosed id = false →
    ∃ pool, view.home id = some pool ∧ id ∈ view.members pool
  departed : ∀ id, view.hasDeparted id = true → view.isClosed id = true

/-! ## Frames -/

theorem pcs_setPc {other : SessionId} (found : (view.setPc session next).pcs other = some pc) :
    (other = session ∧ pc = next) ∨ (other ≠ session ∧ view.pcs other = some pc) := by
  simp only [setPc] at found
  by_cases same : other = session
  · rw [same, Function.update_self, Option.some.injEq] at found
    exact .inl ⟨same, found.symm⟩
  · rw [Function.update_of_ne same] at found
    exact .inr ⟨same, found⟩

theorem holds_setPc :
    (view.setPc session next).holds = Function.update view.holds session next.holds? := by
  funext other
  by_cases same : other = session
  · subst same
    simp [holds, setPc]
  · simp [holds, setPc, Function.update_of_ne same]

theorem holds_of_pcs (here : view.pcs session = some pc) : view.holds session = pc.holds? := by
  rw [holds, here, Option.bind_some]

/-- What holds of the call of a Session still does, if the step of a call keeps it. -/
theorem pcs_moved {holds : OpenPc → Prop} (here : view.pcs session = some pc)
    (pcs : result.pcs = view.pcs) (onward : holds pc → holds next) {other : SessionId}
    (before : ∃ pc, view.pcs other = some pc ∧ holds pc) :
    ∃ pc, (result.setPc session next).pcs other = some pc ∧ holds pc := by
  obtain ⟨current, found, met⟩ := before
  simp only [setPc, pcs]
  by_cases own : other = session
  · subst own
    obtain rfl := Option.some.inj (here.symm.trans found)
    rw [Function.update_self]
    exact ⟨next, rfl, onward met⟩
  · rw [Function.update_of_ne own]
    exact ⟨current, found, met⟩

/-- The members of the pools when those of one of them have changed. -/
theorem members_setMembers (pool : Nat) (members : List Nat) (other : Nat) :
    (view.setMembers pool members).members other = view.members other ∨
      (other = pool ∧ (view.setMembers pool members).members other = members) := by
  by_cases same : other = pool
  · subst same
    exact .inr ⟨rfl, Function.update_self _ _ _⟩
  · exact .inl (Function.update_of_ne same _ _)

/-- The connections when one of them has changed. -/
theorem accounts_adjust {id other : Nat} {change : Account → Account} {account : Account}
    (found : (view.adjust id change).accounts other = some account) :
    (other = id ∧ ∃ before, view.accounts id = some before ∧ account = change before) ∨
      (other ≠ id ∧ view.accounts other = some account) := by
  simp only [adjust] at found
  by_cases own : other = id
  · subst own
    rw [Function.update_self] at found
    obtain ⟨before, present, rfl⟩ := Option.map_eq_some_iff.mp found
    exact .inl ⟨rfl, before, present, rfl⟩
  · rw [Function.update_of_ne own] at found
    exact .inr ⟨own, found⟩

theorem adjust_ne_none {id other : Nat} {change : Account → Account}
    (present : view.accounts other ≠ none) : (view.adjust id change).accounts other ≠ none := by
  simp only [adjust]
  by_cases own : other = id
  · subst own
    rw [Function.update_self]
    simpa using present
  · rwa [Function.update_of_ne own]

/-- The connections when one has just been established. -/
theorem accounts_connect {endpoint : String} {pool other : Nat} {account : Account}
    (found : (view.connect endpoint pool).accounts other = some account) :
    (other = view.nextConnection ∧ account = ⟨endpoint, [], 0, false, false⟩) ∨
      (other ≠ view.nextConnection ∧ view.accounts other = some account) := by
  simp only [connect, setMembers] at found
  by_cases own : other = view.nextConnection
  · subst own
    rw [Function.update_self, Option.some.injEq] at found
    exact .inl ⟨rfl, found.symm⟩
  · rw [Function.update_of_ne own] at found
    exact .inr ⟨own, found⟩

/-- Looking up a pool changes neither calls nor connections nor members. -/
theorem pool_same (view : PoolView) (endpoint : String) :
    (view.pool endpoint).2.pcs = view.pcs ∧ (view.pool endpoint).2.accounts = view.accounts ∧
      (view.pool endpoint).2.members = view.members := by
  unfold PoolView.pool
  split <;> exact ⟨rfl, rfl, rfl⟩

theorem Works.mono (works : view.Works config pc)
    (members : ∀ pool, pc.holds? = some pool → result.members pool = view.members pool)
    (homes : ∀ pool, ∀ id ∈ view.members pool, view.home id = some pool)
    (home : ∀ id pool, view.home id = some pool → result.home id = some pool)
    (closed : ∀ id pool, view.home id = some pool → result.isClosed id = false →
      view.isClosed id = false) : result.Works config pc := by
  cases pc with
  | retaining target pool kept rest =>
      obtain ⟨sublist, covers⟩ := works
      have same := members pool rfl
      constructor
      · rw [same]
        exact sublist
      · rw [same]
        intro id member open'
        exact covers id member (closed id pool (homes pool id member) open')
  | connecting target pool =>
      have same := members pool rfl
      change (result.members pool).length < _
      rw [same]
      exact works
  | choosing target pool best rest => exact fun id member => home id pool (works id member)
  | _ => trivial

namespace Pooled

/-- A step of a call, from what it does to the pools. -/
theorem callStep (pooled : Pooled config view) (here : view.pcs session = some pc)
    (pcs : result.pcs = view.pcs)
    (exclusion : Exclusion result.holders (Function.update view.holds session next.holds?))
    (lookups : ∀ endpoint pool, view.pools.lookup endpoint = some pool →
      result.pools.lookup endpoint = some pool)
    (home : ∀ id pool, view.home id = some pool → result.home id = some pool)
    (closed : ∀ id pool, view.home id = some pool → result.isClosed id = false →
      view.isClosed id = false)
    (members : ∀ pool, result.members pool = view.members pool ∨ pc.holds? = some pool)
    (homes : ∀ pool, ∀ id ∈ result.members pool, result.home id = some pool)
    (few : ∀ pool, (result.members pool).length ≤ config.maxConnectionsPerEndpoint)
    (known : ∀ id, result.nextConnection ≤ id → result.accounts id = none)
    (kept : ∀ id, result.isClosed id = false →
      ∃ pool, result.home id = some pool ∧ id ∈ result.members pool)
    (departed : ∀ id, result.hasDeparted id = true → result.isClosed id = true)
    (lookedUp : ∀ endpoint pool, next.lookedUp? = some (endpoint, pool) →
      result.pools.lookup endpoint = some pool)
    (returned : ∀ id, next.returns? = some id → result.home id = next.holds?)
    (works : result.Works config next) : Pooled config (result.setPc session next) where
  exclusion := by
    have same : result.holds = view.holds := by
      funext other
      rw [holds, pcs, holds]
    rw [holds_setPc, same]
    exact exclusion
  lookedUp other current endpoint pool found looked := by
    rcases pcs_setPc found with ⟨-, rfl⟩ | ⟨-, earlier⟩
    · exact lookedUp endpoint pool looked
    · exact lookups endpoint pool (pooled.lookedUp other current endpoint pool (pcs ▸ earlier) looked)
  returned other current id found returns := by
    rcases pcs_setPc found with ⟨-, rfl⟩ | ⟨-, earlier⟩
    · exact returned id returns
    · have before := pooled.returned other current id (pcs ▸ earlier) returns
      cases current with
      | binding | counting | spawning => exact home id _ before
      | _ => cases returns
  works other current found := by
    rcases pcs_setPc found with ⟨-, rfl⟩ | ⟨own, earlier⟩
    · exact works
    · rw [pcs] at earlier
      refine (pooled.works other current earlier).mono (fun pool held => ?_) pooled.homes home closed
      rcases members pool with same | own'
      · exact same
      · refine absurd (pooled.exclusion.alone other session pool ?_ ?_) own
        · exact (holds_of_pcs earlier).trans held
        · exact (holds_of_pcs here).trans own'
  homes := homes
  few := few
  known := known
  pooled := kept
  departed := departed

end Pooled

/-- What the pools need to know of every connection. -/
def marks (view : PoolView) (id : Nat) : Option (String × Bool × Bool) :=
  (view.accounts id).map fun account => (account.endpoint, account.closed, account.departed)

theorem marks_adjust {id : Nat} {change : Account → Account}
    (same : ∀ account, ((change account).endpoint, (change account).closed,
      (change account).departed) = (account.endpoint, account.closed, account.departed)) :
    (view.adjust id change).marks = view.marks := by
  funext other
  by_cases own : other = id
  · subst own
    simp only [marks, adjust, Function.update_self, Option.map_map]
    exact congrArg (Option.map · (view.accounts other)) (funext same)
  · simp only [marks, adjust, Function.update_of_ne own]

theorem home_eq_marks (id : Nat) :
    view.home id = (view.marks id).bind fun marks => view.pools.lookup marks.1 := by
  rw [home, marks, Option.bind_map]
  rfl

theorem isClosed_eq_marks (id : Nat) :
    view.isClosed id = (view.marks id).all fun marks => marks.2.1 := by
  rw [isClosed, marks]
  cases view.accounts id <;> rfl

theorem hasDeparted_eq_marks (id : Nat) :
    view.hasDeparted id = (view.marks id).any fun marks => marks.2.2 := by
  rw [hasDeparted, marks]
  cases view.accounts id <;> rfl

theorem accounts_eq_none_iff (id : Nat) : view.accounts id = none ↔ view.marks id = none := by
  rw [marks, Option.map_eq_none_iff]

theorem home_congr (marks : result.marks = view.marks) (pools : result.pools = view.pools) :
    result.home = view.home := by
  funext id
  rw [home_eq_marks, home_eq_marks, marks, pools]

theorem isClosed_congr (marks : result.marks = view.marks) : result.isClosed = view.isClosed := by
  funext id
  rw [isClosed_eq_marks, isClosed_eq_marks, marks]

theorem hasDeparted_congr (marks : result.marks = view.marks) :
    result.hasDeparted = view.hasDeparted := by
  funext id
  rw [hasDeparted_eq_marks, hasDeparted_eq_marks, marks]

theorem known_congr (marks : result.marks = view.marks)
    (nextConnection : result.nextConnection = view.nextConnection)
    (known : ∀ id, view.nextConnection ≤ id → view.accounts id = none) :
    ∀ id, result.nextConnection ≤ id → result.accounts id = none := by
  intro id above
  rw [accounts_eq_none_iff, marks, ← accounts_eq_none_iff]
  exact known id (nextConnection ▸ above)

theorem works_congr (marks : result.marks = view.marks) (pools : result.pools = view.pools)
    (members : result.members = view.members) (works : view.Works config pc) :
    result.Works config pc := by
  have home := home_congr marks pools
  have closed := isClosed_congr marks
  cases pc with
  | retaining target pool kept rest =>
      simp only [Works, members, closed]
      exact works
  | connecting target pool =>
      simp only [Works, members]
      exact works
  | choosing target pool best rest =>
      simp only [Works, home]
      exact works
  | _ => trivial

namespace Pooled

/-- A step that leaves pools and connections as they are, except for the bound
sets and their counters. -/
theorem moves (pooled : Pooled config view) (here : view.pcs session = some pc)
    (pcs : result.pcs = view.pcs) (marks : result.marks = view.marks)
    (pools : result.pools = view.pools) (members : result.members = view.members)
    (nextConnection : result.nextConnection = view.nextConnection)
    (exclusion : Exclusion result.holders (Function.update view.holds session next.holds?))
    (lookedUp : ∀ endpoint pool, next.lookedUp? = some (endpoint, pool) →
      view.pools.lookup endpoint = some pool)
    (returned : ∀ id, next.returns? = some id → view.home id = next.holds?)
    (works : view.Works config next) : Pooled config (result.setPc session next) := by
  have home := home_congr marks pools
  have closed := isClosed_congr marks
  refine pooled.callStep here pcs exclusion ?_ ?_ ?_ ?_ ?_ ?_
    (known_congr marks nextConnection pooled.known) ?_ ?_ ?_ ?_
    (works_congr marks pools members works)
  · rw [pools]
    exact fun _ _ found => found
  · rw [home]
    exact fun _ _ found => found
  · rw [closed]
    exact fun _ _ _ found => found
  · rw [members]
    exact fun _ => .inl rfl
  · rw [members, home]
    exact pooled.homes
  · rw [members]
    exact pooled.few
  · rw [closed, home, members]
    exact pooled.pooled
  · rw [hasDeparted_congr marks, closed]
    exact pooled.departed
  · rw [pools]
    exact lookedUp
  · rw [home]
    exact returned

/-- A step that goes on with the lock it holds, if any. -/
theorem keeps (pooled : Pooled config view) (here : view.pcs session = some pc)
    (pcs : result.pcs = view.pcs) (marks : result.marks = view.marks)
    (pools : result.pools = view.pools) (members : result.members = view.members)
    (nextConnection : result.nextConnection = view.nextConnection)
    (holders : result.holders = view.holders) (held : next.holds? = pc.holds?)
    (looked : next.lookedUp? = pc.lookedUp?)
    (returned : ∀ id, next.returns? = some id → view.home id = next.holds?)
    (works : view.Works config next) : Pooled config (result.setPc session next) := by
  refine pooled.moves here pcs marks pools members nextConnection ?_ ?_ returned works
  · rw [holders]
    exact pooled.exclusion.keep (held.trans (holds_of_pcs here).symm)
  · intro endpoint pool found
    exact pooled.lookedUp session pc endpoint pool here (looked.symm.trans found)

/-- A step that leaves `acquire_connection`, or takes place outside it. -/
theorem leaves (pooled : Pooled config view) (here : view.pcs session = some pc)
    (pcs : result.pcs = view.pcs) (marks : result.marks = view.marks)
    (pools : result.pools = view.pools) (members : result.members = view.members)
    (nextConnection : result.nextConnection = view.nextConnection)
    (exclusion : Exclusion result.holders (Function.update view.holds session none))
    (unlooked : next.lookedUp? = none) : Pooled config (result.setPc session next) := by
  refine pooled.moves here pcs marks pools members nextConnection ?_ ?_ ?_ ?_
  · rw [OpenPc.holds?_eq_none unlooked]
    exact exclusion
  · intro endpoint pool found
    rw [unlooked] at found
    cases found
  · intro id found
    cases next with
    | binding | counting | spawning => cases unlooked
    | _ => cases found
  · cases next with
    | retaining | connecting | choosing => cases unlooked
    | _ => trivial

/-- A call that holds no lock and goes on without one. -/
theorem outside (pooled : Pooled config view) (here : view.pcs session = some pc)
    (unheld : pc.holds? = none) :
    Exclusion view.holders (Function.update view.holds session none) :=
  pooled.exclusion.keep (unheld.symm.trans (holds_of_pcs here).symm)

/-- The holder of a lock gives it back. -/
theorem frees (pooled : Pooled config view) (here : view.pcs session = some pc) {pool : Nat}
    (held : pc.holds? = some pool) :
    Exclusion (view.setHolder pool false).holders (Function.update view.holds session none) :=
  pooled.exclusion.release ((holds_of_pcs here).trans held)

/-- What a call that has gone through its pool has left of it. -/
theorem sieves (pooled : Pooled config view) {target : Target} {pool : Nat} {kept : List Nat}
    (here : view.pcs session = some (.retaining target pool kept [])) :
    kept.Sublist (view.members pool) := by
  have sublist := (pooled.works session _ here).1
  rwa [List.append_nil] at sublist

/-- A call has taken the closed connections out of its pool. -/
theorem sieved (pooled : Pooled config view) {target : Target} {pool : Nat} {kept : List Nat}
    (here : view.pcs session = some (.retaining target pool kept []))
    (held : next.holds? = some pool) (looked : next.lookedUp? = some (target.endpoint, pool))
    (unreturned : next.returns? = none)
    (works : (view.setMembers pool kept).Works config next) :
    Pooled config ((view.setMembers pool kept).setPc session next) := by
  have sublist := pooled.sieves here
  have covers := (pooled.works session _ here).2
  rw [List.append_nil] at covers
  have members := @members_setMembers view pool kept
  refine pooled.callStep here rfl ?_ (fun _ _ found => found) (fun _ _ found => found)
    (fun _ _ _ found => found) ?_ ?_ ?_ pooled.known ?_ pooled.departed ?_ ?_ works
  · exact pooled.exclusion.keep (held.trans (holds_of_pcs here).symm)
  · intro other
    rcases members other with same | ⟨rfl, -⟩
    · exact .inl same
    · exact .inr rfl
  · intro other id member
    rcases members other with same | ⟨rfl, same⟩
    · exact pooled.homes other id (same ▸ member)
    · exact pooled.homes other id (sublist.subset (same ▸ member))
  · intro other
    rcases members other with same | ⟨rfl, same⟩
    · rw [same]
      exact pooled.few other
    · rw [same]
      exact Nat.le_trans sublist.length_le (pooled.few other)
  · intro id open'
    obtain ⟨other, home, member⟩ := pooled.pooled id open'
    refine ⟨other, home, ?_⟩
    rcases members other with same | ⟨rfl, same⟩
    · rw [same]
      exact member
    · rw [same]
      exact covers id member open'
  · intro endpoint other found
    rw [looked] at found
    cases found
    exact pooled.lookedUp session _ _ _ here rfl
  · intro id found
    rw [unreturned] at found
    cases found

/-- A pool just looked up is the one of its endpoint from now on. -/
theorem entered (pooled : Pooled config view) {target : Target}
    (here : view.pcs session = some (.pooling target)) :
    Pooled config ((view.pool target.endpoint).2.setPc session
      (.poolLock target (view.pool target.endpoint).1)) := by
  unfold PoolView.pool
  cases known : view.pools.lookup target.endpoint with
  | some pool =>
      refine pooled.moves here rfl rfl rfl rfl rfl (pooled.outside here rfl) ?_ ?_ trivial
      · rintro endpoint other ⟨⟩
        exact known
      · rintro id ⟨⟩
  | none =>
      have lookups : ∀ endpoint pool, view.pools.lookup endpoint = some pool →
          (view.pools ++ [(target.endpoint, view.nextPool)]).lookup endpoint = some pool := by
        intro endpoint pool found
        rw [List.lookup_append, found]
        rfl
      have home : ∀ id pool, view.home id = some pool → ({ view with
          pools := view.pools ++ [(target.endpoint, view.nextPool)]
          nextPool := view.nextPool + 1 } : PoolView).home id = some pool := by
        intro id pool found
        obtain ⟨account, present, looked⟩ := Option.bind_eq_some_iff.mp found
        exact Option.bind_eq_some_iff.mpr ⟨account, present, lookups _ _ looked⟩
      refine pooled.callStep here rfl (pooled.outside here rfl) lookups home
        (fun _ _ _ found => found) (fun _ => .inl rfl) ?_ pooled.few pooled.known ?_
        pooled.departed ?_ ?_ trivial
      · exact fun pool id member => home id pool (pooled.homes pool id member)
      · intro id open'
        obtain ⟨pool, found, member⟩ := pooled.pooled id open'
        exact ⟨pool, home id pool found, member⟩
      · rintro endpoint pool ⟨⟩
        rw [List.lookup_append, known]
        simp
      · rintro id ⟨⟩

/-- A connection just established is in the pool of its endpoint. -/
theorem connected (pooled : Pooled config view) {target : Target} {pool : Nat}
    (here : view.pcs session = some (.connecting target pool)) :
    Pooled config ((view.connect target.endpoint pool).setPc session
      (.binding target pool view.nextConnection)) := by
  have looked := pooled.lookedUp session _ _ _ here rfl
  have accounts : (view.connect target.endpoint pool).accounts =
    Function.update view.accounts view.nextConnection
      (some ⟨target.endpoint, [], 0, false, false⟩) := rfl
  have old : ∀ {id}, id ≠ view.nextConnection →
      (view.connect target.endpoint pool).accounts id = view.accounts id := by
    intro id other
    rw [accounts, Function.update_of_ne other]
  have new : (view.connect target.endpoint pool).accounts view.nextConnection =
      some ⟨target.endpoint, [], 0, false, false⟩ := by
    rw [accounts, Function.update_self]
  have existing : ∀ {id other}, view.home id = some other → id ≠ view.nextConnection := by
    rintro id other found rfl
    rw [home, pooled.known _ (Nat.le_refl _)] at found
    cases found
  have homeNew : (view.connect target.endpoint pool).home view.nextConnection = some pool := by
    rw [home, new, Option.bind_some]
    exact looked
  have homeOld : ∀ id other, view.home id = some other →
      (view.connect target.endpoint pool).home id = some other := by
    intro id other found
    rw [home, old (existing found)]
    exact found
  have members : ∀ other, (view.connect target.endpoint pool).members other = view.members other ∨
      (other = pool ∧ (view.connect target.endpoint pool).members other =
        view.members pool ++ [view.nextConnection]) := members_setMembers pool _
  refine pooled.callStep here rfl ?_ (fun _ _ found => found) homeOld ?_ ?_ ?_ ?_ ?_ ?_ ?_ ?_ ?_
    trivial
  · exact pooled.exclusion.keep (holds_of_pcs here).symm
  · intro id other found open'
    rw [isClosed, old (existing found)] at open'
    exact open'
  · intro other
    rcases members other with same | ⟨rfl, -⟩
    · exact .inl same
    · exact .inr rfl
  · intro other id member
    rcases members other with same | ⟨rfl, same⟩
    · exact homeOld id other (pooled.homes other id (same ▸ member))
    · rw [same] at member
      rcases List.mem_append.mp member with earlier | last
      · exact homeOld id other (pooled.homes other id earlier)
      · rw [List.mem_singleton.mp last]
        exact homeNew
  · intro other
    rcases members other with same | ⟨rfl, same⟩
    · rw [same]
      exact pooled.few other
    · rw [same, List.length_append]
      exact pooled.works session _ here
  · intro id above
    have above' : view.nextConnection + 1 ≤ id := above
    rw [old (Nat.ne_of_gt above')]
    exact pooled.known id (Nat.le_of_succ_le above')
  · intro id open'
    by_cases own : id = view.nextConnection
    · subst own
      refine ⟨pool, homeNew, ?_⟩
      rcases members pool with same | ⟨-, same⟩
      · exact absurd same (by simp [connect, setMembers])
      · rw [same]
        exact List.mem_append_right _ (List.mem_singleton_self _)
    · rw [isClosed, old own] at open'
      obtain ⟨other, found, member⟩ := pooled.pooled id open'
      refine ⟨other, homeOld id other found, ?_⟩
      rcases members other with same | ⟨rfl, same⟩
      · rw [same]
        exact member
      · rw [same]
        exact List.mem_append_left _ member
  · intro id departed
    by_cases own : id = view.nextConnection
    · rw [hasDeparted, own, new] at departed
      cases departed
    · rw [hasDeparted, old own] at departed
      rw [isClosed, old own]
      exact pooled.departed id departed
  · rintro endpoint other ⟨⟩
    exact looked
  · rintro id ⟨⟩
    exact homeNew

theorem step (pooled : Pooled config view) (here : view.pcs session = some pc)
    (step : PoolStep config view session event pc next result) :
    Pooled config (result.setPc session next) := by
  have returned := fun id => pooled.returned session pc id here
  have works := pooled.works session pc here
  cases step with
  | stays => exact pooled.keeps here rfl rfl rfl rfl rfl rfl rfl rfl returned works
  | apart unheld level there =>
      exact pooled.leaves here rfl rfl rfl rfl rfl (pooled.outside here unheld)
        (OpenPc.isApart_iff.mp there).1
  | enters => exact pooled.entered here
  | @locks target pool free =>
      refine pooled.moves here rfl rfl rfl rfl rfl (pooled.exclusion.acquire free) ?_ ?_ ?_
      · rintro endpoint other ⟨⟩
        exact pooled.lookedUp session _ _ _ here rfl
      · rintro id ⟨⟩
      · exact ⟨List.Sublist.refl _, fun id member _ => member⟩
  | @sieves target pool connection kept rest =>
      refine pooled.keeps here rfl rfl rfl rfl rfl rfl rfl rfl (by rintro id ⟨⟩) ?_
      obtain ⟨sublist, covers⟩ := works
      split
      · rename_i closed
        constructor
        · refine List.Sublist.trans ?_ sublist
          exact (List.Sublist.refl kept).append (List.sublist_cons_self connection rest)
        · intro id member open'
          rcases List.mem_append.mp (covers id member open') with early | late
          · exact List.mem_append_left _ early
          · rcases List.mem_cons.mp late with rfl | later
            · rw [closed] at open'
              cases open'
            · exact List.mem_append_right _ later
      · rw [Works, List.append_assoc]
        exact ⟨sublist, covers⟩
  | @few target pool kept few =>
      refine pooled.sieved here rfl rfl rfl ?_
      simp only [Works, setMembers, Function.update_self]
      exact few
  | @full target pool kept full =>
      refine pooled.sieved here rfl rfl rfl ?_
      intro id member
      refine pooled.homes pool id (works.1.subset ?_)
      rw [List.append_nil]
      exact member
  | connects => exact pooled.connected here
  | releases held there =>
      exact pooled.leaves here rfl rfl rfl rfl rfl (pooled.frees here held)
        (OpenPc.isApart_iff.mp there).1
  | @weighs target pool connection best rest =>
      refine pooled.keeps here rfl rfl rfl rfl rfl rfl rfl rfl (by rintro id ⟨⟩) ?_
      intro id member
      refine works id ?_
      rcases List.mem_append.mp member with chosen | later
      · unfold better at chosen
        split at chosen
        · split at chosen
          · rw [Option.map_some, Option.toList_some, List.mem_singleton] at chosen
            rw [chosen]
            exact List.mem_append_right _ List.mem_cons_self
          · exact List.mem_append_left _ chosen
        · rw [Option.map_some, Option.toList_some, List.mem_singleton] at chosen
          rw [chosen]
          exact List.mem_append_right _ List.mem_cons_self
      · exact List.mem_append_right _ (List.mem_cons_of_mem _ later)
  | @chooses target pool connection least =>
      refine pooled.keeps here rfl rfl rfl rfl rfl rfl rfl rfl ?_ trivial
      rintro id ⟨⟩
      exact works connection List.mem_cons_self
  | finds => exact pooled.keeps here rfl rfl rfl rfl rfl rfl rfl rfl returned trivial
  | binds | counts =>
      exact pooled.keeps here rfl (marks_adjust fun _ => rfl) rfl rfl rfl rfl rfl rfl returned
        trivial
  | returns =>
      exact pooled.leaves here rfl rfl rfl rfl rfl (pooled.frees here rfl) rfl
  | unbinds unbinding there =>
      have apart := OpenPc.isApart_iff.mp (OpenPc.isApart_of_unbinds unbinding)
      exact pooled.leaves here rfl (marks_adjust fun _ => rfl) rfl rfl rfl
        (pooled.outside here (OpenPc.holds?_eq_none apart.1)) (OpenPc.lookedUp?_eq_none there)
  | lowers lowering there =>
      exact pooled.leaves here rfl (marks_adjust fun _ => rfl) rfl rfl rfl
        (pooled.outside here (OpenPc.holds?_eq_none (OpenPc.lookedUp?_eq_none lowering)))
        (OpenPc.isApart_iff.mp there).1

/-- A step that takes away connections, or closes them. -/
theorem aside (pooled : Pooled config view) (pcs : result.pcs = view.pcs)
    (holders : result.holders = view.holders) (pools : result.pools = view.pools)
    (home : result.home = view.home)
    (closed : ∀ id, result.isClosed id = false → view.isClosed id = false)
    (known : ∀ id, result.nextConnection ≤ id → result.accounts id = none)
    (members : ∀ pool, result.members pool = view.members pool ∨ view.holders pool = false)
    (fewer : ∀ pool, (result.members pool).Sublist (view.members pool))
    (kept : ∀ pool, ∀ id ∈ view.members pool, result.isClosed id = false →
      id ∈ result.members pool)
    (departed : ∀ id, result.hasDeparted id = true → result.isClosed id = true) :
    Pooled config result where
  exclusion := by
    have same : result.holds = view.holds := by
      funext other
      rw [holds, pcs, holds]
    rw [holders, same]
    exact pooled.exclusion
  lookedUp := by
    rw [pcs, pools]
    exact pooled.lookedUp
  returned := by
    rw [pcs, home]
    exact pooled.returned
  works other current found := by
    rw [pcs] at found
    refine (pooled.works other current found).mono (fun pool held => ?_) pooled.homes ?_ ?_
    · rcases members pool with same | free
      · exact same
      · rw [pooled.exclusion.held other pool ((holds_of_pcs found).trans held)] at free
        cases free
    · rw [home]
      exact fun _ _ found => found
    · exact fun id _ _ open' => closed id open'
  homes pool id member := by
    rw [home]
    exact pooled.homes pool id ((fewer pool).subset member)
  few pool := Nat.le_trans (fewer pool).length_le (pooled.few pool)
  known := known
  pooled id open' := by
    obtain ⟨pool, found, member⟩ := pooled.pooled id (closed id open')
    rw [home]
    exact ⟨pool, found, kept pool id member open'⟩
  departed := departed

/-- A step that changes one connection and leaves it with its endpoint. -/
theorem adjusts (pooled : Pooled config view) {id : Nat} {change : Account → Account}
    (endpoint : ∀ account, view.accounts id = some account →
      (change account).endpoint = account.endpoint)
    (closed : ∀ account, view.accounts id = some account → account.closed = true →
      (change account).closed = true)
    (departed : ∀ account, view.accounts id = some account → (change account).departed = true →
      (change account).closed = true) : Pooled config (view.adjust id change) := by
  have accounts : ∀ other, (view.adjust id change).accounts other = view.accounts other ∨
      ∃ account, other = id ∧ view.accounts id = some account ∧
        (view.adjust id change).accounts id = some (change account) := by
    intro other
    by_cases own : other = id
    · subst own
      simp only [adjust, Function.update_self]
      cases view.accounts other with
      | none => exact .inl rfl
      | some account => exact .inr ⟨account, trivial, rfl, rfl⟩
    · exact .inl (Function.update_of_ne own _ _)
  refine pooled.aside rfl rfl rfl ?_ ?_ ?_ (fun _ => .inl rfl) (fun _ => .refl _)
    (fun _ _ member _ => member) ?_
  · funext other
    rcases accounts other with same | ⟨account, rfl, found, changed⟩
    · rw [home, same]
      rfl
    · rw [home, changed, home, found, Option.bind_some, Option.bind_some, endpoint account found]
      rfl
  · intro other open'
    rcases accounts other with same | ⟨account, rfl, found, changed⟩
    · rw [isClosed, same] at open'
      exact open'
    · rw [isClosed, changed] at open'
      rw [isClosed, found, Option.all_some]
      cases was : account.closed with
      | false => rfl
      | true =>
          rw [Option.all_some, closed account found was] at open'
          cases open'
  · intro other above
    rcases accounts other with same | ⟨account, rfl, found, changed⟩
    · rw [same]
      exact pooled.known other above
    · rw [pooled.known other above] at found
      cases found
  · intro other left
    rcases accounts other with same | ⟨account, rfl, found, changed⟩
    · rw [hasDeparted, same] at left
      rw [isClosed, same]
      exact pooled.departed other left
    · rw [hasDeparted, changed] at left
      rw [isClosed, changed]
      exact departed account found left

theorem begins (pooled : Pooled config view) (unknown : view.pcs session = none)
    {program : OwnerProgram} : Pooled config (view.setPc session (.resolving program)) where
  exclusion := by
    rw [holds_setPc]
    refine pooled.exclusion.keep ?_
    rw [holds, unknown]
    rfl
  lookedUp other current endpoint pool found looked := by
    rcases pcs_setPc found with ⟨-, rfl⟩ | ⟨-, earlier⟩
    · cases looked
    · exact pooled.lookedUp other current endpoint pool earlier looked
  returned other current id found returns := by
    rcases pcs_setPc found with ⟨-, rfl⟩ | ⟨-, earlier⟩
    · cases returns
    · exact pooled.returned other current id earlier returns
  works other current found := by
    rcases pcs_setPc found with ⟨-, rfl⟩ | ⟨-, earlier⟩
    · trivial
    · exact works_congr rfl rfl rfl (pooled.works other current earlier)
  homes := pooled.homes
  few := pooled.few
  known := pooled.known
  pooled := pooled.pooled
  departed := pooled.departed

/-- A receive loop takes a closed connection out of its pool. -/
theorem removes (pooled : Pooled config view) {id pool : Nat} (departed : view.hasDeparted id = true)
    (free : view.holders pool = false) :
    Pooled config (view.setMembers pool ((view.members pool).filter (· != id))) := by
  have members := @members_setMembers view pool ((view.members pool).filter (· != id))
  refine pooled.aside rfl rfl rfl rfl (fun _ open' => open') pooled.known ?_ ?_ ?_ pooled.departed
  · intro other
    rcases members other with same | ⟨rfl, -⟩
    · exact .inl same
    · exact .inr free
  · intro other
    rcases members other with same | ⟨rfl, same⟩
    · simp only [same, List.Sublist.refl]
    · rw [same]
      exact List.filter_sublist
  · intro other kept member open'
    rcases members other with same | ⟨rfl, same⟩
    · rw [same]
      exact member
    · rw [same]
      refine List.mem_filter.mpr ⟨member, ?_⟩
      rw [bne_iff_ne]
      rintro rfl
      have opened : view.isClosed kept = false := open'
      rw [pooled.departed kept departed] at opened
      cases opened

end Pooled

end PoolView

/-! ## Running Clients -/

variable {client before after : ClientInner}

theorem PoolMove.pooled {label : ClientEvent} {view : PoolView}
    (pooled : client.poolView.Pooled config) (move : PoolMove config client label view) :
    view.Pooled config := by
  cases move with
  | quiet => exact pooled
  | begins unknown => exact pooled.begins unknown
  | call here step => exact pooled.step here step
  | closes losing =>
      exact pooled.adjusts (fun _ _ => rfl) (fun _ _ _ => rfl) fun _ _ _ => rfl
  | @departs id event account found departed change endpoint closed =>
      have own : ∀ other, client.poolView.accounts id = some other → other = account := by
        intro other present
        exact Option.some.inj (present.symm.trans found)
      have ended : account.closed = true := by
        have closed := pooled.departed id
        rw [PoolView.hasDeparted, PoolView.isClosed, found] at closed
        exact closed departed
      refine pooled.adjusts ?_ ?_ ?_
      · rintro other present
        rw [own other present]
        exact endpoint
      · rintro other present -
        rw [own other present, closed]
        exact ended
      · rintro other present -
        rw [own other present, closed]
        exact ended
  | removes found departed free =>
      refine pooled.removes ?_ free
      rw [PoolView.hasDeparted, found]
      exact departed

/-- Only `shutdown` changes the status. -/
theorem status_of_step {label : ClientEvent} (stepped : before.step? config label = some after)
    (outside : label ≠ .shutdown) : after.status = before.status := by
  have move := ClientInner.step?_moves stepped
  cases move with
  | begin unknown started calls receivers begun same channels sends status => exact status
  | call found step => exact step.aside.status
  | loop found step => exact step.status
  | transmit found traffic opens | act opened here found traffic sent opens => exact opens.status
  | hangUp traffic opens | send traffic opens => exact opens.status
  | sending traffic silent opens => exact opens.status
  | recv waiting channels traffic opens => exact opens.status
  | shutdown step => exact absurd rfl outside

/-- A running Client has not been shut down before. -/
theorem running_before {label : ClientEvent} (reach : (clientSystem config).Reachable before)
    (stepped : before.step? config label = some after) (running : after.status = .running) :
    before.status = .running ∧ label ≠ .shutdown := by
  have outside : label ≠ .shutdown := by
    rintro rfl
    cases ClientInner.step?_moves stepped with
    | shutdown step =>
        have stopped : after.status = .stopped := by
          refine step.stops.2 ?_
          by_cases idle : before.shutdown = .idle
          · exact .inr idle
          · exact .inl ((PendingOk.reachable reach).stopped idle).1
        rw [stopped] at running
        cases running
  exact ⟨(status_of_step stepped outside).symm.trans running, outside⟩

theorem pooled_of_reachable (reach : (clientSystem config).Reachable client)
    (running : client.status = .running) : client.poolView.Pooled config := by
  refine invariant_of_reachable_step
    (fun client : ClientInner => client.status = .running → client.poolView.Pooled config)
    ?_ ?_ reach running
  · rintro _ rfl -
    refine ⟨.idle fun _ => rfl, ?_, ?_, ?_, ?_, fun _ => Nat.zero_le _, fun _ _ => rfl, ?_, ?_⟩
    · rintro session pc endpoint pool ⟨⟩
    · rintro session pc id ⟨⟩
    · rintro session pc ⟨⟩
    · rintro pool id ⟨⟩
    · rintro id ⟨⟩
    · rintro id ⟨⟩
  · intro before label after earlier pooled _ stepped running
    obtain ⟨started, open'⟩ := running_before earlier stepped running
    exact (ClientInner.step?_pools open' stepped).pooled (pooled started)

end Coactor.Client
