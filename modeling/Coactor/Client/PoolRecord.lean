import Coactor.Client.PoolCounts

/-!
# Recorded acquisitions

A record of what `acquire_connection` has returned.  As long as no Session is
unbound and no connection is lost, a bound set holds the Sessions that the record
has for its connection, and perhaps one whose call has not returned yet.
-/

namespace Coactor.Client

open Coactor.Foundation
open Coactor.Foundation.Transition
open Coactor.Runtime

/-! ## Recorded acquisitions -/

/-- A connection that `acquire_connection` has returned for a Session. -/
structure Acquisition where
  session : SessionId
  endpoint : String
  connection : Nat
  deriving DecidableEq

/-- The connections acquired for an endpoint, newest first. -/
def acquiredFor (acquired : List Acquisition) (endpoint : String) : List Nat :=
  (acquired.filter fun acquisition => acquisition.endpoint == endpoint).map
    Acquisition.connection

/-- What a step of a call adds to the record. -/
def returned (session : SessionId) : OpenPc → OpenPc → List Acquisition
  | .spawning target _ connection, .acquired _ _ => [⟨session, target.endpoint, connection⟩]
  | _, _ => []

/-- What a step of a Client adds to the record. -/
def returnedBy (before after : ClientInner) : ClientEvent → List Acquisition
  | .call session _ =>
      match before.calls session, after.calls session with
      | some call, some next => returned session call.pc next.pc
      | _, _ => []
  | _ => []

/-- A Client with the record of its acquisitions. -/
structure Acquiring where
  client : ClientInner
  acquired : List Acquisition

/-- Every interleaving of the tasks of one Client, with its acquisitions recorded. -/
def acquiringSystem (config : ClientConfig) : System Acquiring ClientEvent where
  initial := fun state => state = ⟨.fresh, []⟩
  step? := fun state event => (state.client.step? config event).map fun after =>
    ⟨after, returnedBy state.client after event ++ state.acquired⟩

/-- The step does not unbind a Session, mark a connection closed or shut the Client down. -/
def retains (state : Acquiring) : ClientEvent → Bool
  | .call session .advance =>
      (state.client.calls session).all fun call => call.pc.unbinds?.isNone
  | .loop id _ => !state.client.isLosing id
  | .shutdown => false
  | _ => true

variable {config : ClientConfig} {view result : PoolView} {session : SessionId}
  {event : OpenEvent} {pc next : OpenPc} {id : Nat} {acquired : List Acquisition}

/-- The connection that a call has bound its Session to and not yet returned. -/
def OpenPc.bindsTo? : OpenPc → Option Nat
  | .counting _ _ connection | .spawning _ _ connection => some connection
  | _ => none

namespace PoolView

/-- The endpoint and the bound set of a connection. -/
def sets (view : PoolView) (id : Nat) : Option (String × List SessionId) :=
  (view.accounts id).map fun account => (account.endpoint, account.sessions)

/-- No connection is closed and no Session has been unbound. -/
structure Lasting (view : PoolView) : Prop where
  opened : ∀ id account, view.accounts id = some account → account.closed = false
  level : ∀ session pc, view.pcs session = some pc → pc.lowers? = none

/-- No two endpoints share a pool, and no connection is twice in one. -/
structure Keyed (view : PoolView) : Prop where
  below : ∀ endpoint pool, view.pools.lookup endpoint = some pool → pool < view.nextPool
  alone : ∀ one two pool, view.pools.lookup one = some pool → view.pools.lookup two = some pool →
    one = two
  nodup : ∀ pool, (view.members pool).Nodup

/-- Bound sets and pools agree with the record. -/
structure Booked (view : PoolView) (acquired : List Acquisition) : Prop where
  endpoints : ∀ acquisition ∈ acquired, ∃ sessions,
    view.sets acquisition.connection = some (acquisition.endpoint, sessions)
  past : ∀ acquisition ∈ acquired, ∃ pc, view.pcs acquisition.session = some pc ∧
    pc.hasAcquired = true
  distinct : (acquired.map Acquisition.session).Nodup
  bound : ∀ id endpoint sessions, view.sets id = some (endpoint, sessions) →
    ∀ session, session ∈ sessions ↔
      (∃ acquisition ∈ acquired, acquisition.session = session ∧ acquisition.connection = id) ∨
        ∃ pc, view.pcs session = some pc ∧ pc.bindsTo? = some id
  used : ∀ pool, ∀ id ∈ view.members pool,
    (∃ acquisition ∈ acquired, acquisition.connection = id) ∨
      ∃ session pc, view.pcs session = some pc ∧ pc.returns? = some id

/-! ## Steps that keep what is bound -/

theorem sets_adjust {change : Account → Account}
    (same : ∀ account, ((change account).endpoint, (change account).sessions) =
      (account.endpoint, account.sessions)) : (view.adjust id change).sets = view.sets := by
  funext other
  by_cases own : other = id
  · subst own
    simp only [sets, adjust, Function.update_self, Option.map_map]
    exact congrArg (Option.map · (view.accounts other)) (funext same)
  · simp only [sets, adjust, Function.update_of_ne own]

theorem sets_bind (connection : Nat) (session : SessionId) :
    (view.adjust connection fun account =>
      { account with sessions := account.sessions ++ [session] }).sets =
      Function.update view.sets connection
        ((view.sets connection).map fun set => (set.1, set.2 ++ [session])) := by
  funext other
  by_cases own : other = connection
  · subst own
    simp only [sets, adjust, Function.update_self, Option.map_map]
    rfl
  · simp only [sets, adjust, Function.update_of_ne own]

theorem sets_connect (endpoint : String) (pool : Nat) :
    (view.connect endpoint pool).sets =
      Function.update view.sets view.nextConnection (some (endpoint, [])) := by
  funext other
  by_cases own : other = view.nextConnection
  · subst own
    simp [sets, connect, setMembers]
  · simp [sets, connect, setMembers, Function.update_of_ne own]

theorem Lasting.step (lasting : view.Lasting) (kept : event = .advance → pc.unbinds? = none)
    (step : PoolStep config view session event pc next result)
    (here : view.pcs session = some pc) : (result.setPc session next).Lasting := by
  have frame : ∀ {result : PoolView} {next : OpenPc}, result.pcs = view.pcs →
      (∀ id account, result.accounts id = some account → account.closed = false) →
      next.lowers? = none → (result.setPc session next).Lasting := by
    intro result next pcs opened level
    refine ⟨opened, fun other current found => ?_⟩
    rcases pcs_setPc found with ⟨-, rfl⟩ | ⟨-, earlier⟩
    · exact level
    · exact lasting.level other current (pcs ▸ earlier)
  have adjusts : ∀ {id : Nat} {change : Account → Account},
      (∀ account, (change account).closed = account.closed) →
      ∀ other account, (view.adjust id change).accounts other = some account →
        account.closed = false := by
    intro id change same other account found
    rcases accounts_adjust found with ⟨rfl, before, present, rfl⟩ | ⟨-, earlier⟩
    · exact (same before).trans (lasting.opened other before present)
    · exact lasting.opened other account earlier
  cases step with
  | stays => exact frame rfl lasting.opened (lasting.level session pc here)
  | apart unheld level there | releases held there =>
      exact frame rfl lasting.opened (OpenPc.isApart_iff.mp there).2
  | @enters target =>
      obtain ⟨pcs, accounts, -⟩ := pool_same view target.endpoint
      exact frame pcs (accounts ▸ lasting.opened) rfl
  | locks | sieves | few | full | weighs | chooses | finds | returns =>
      exact frame rfl lasting.opened rfl
  | @connects target pool =>
      refine frame rfl ?_ rfl
      intro other account found
      rcases accounts_connect found with ⟨-, rfl⟩ | ⟨-, earlier⟩
      · rfl
      · exact lasting.opened other account earlier
  | binds | counts => exact frame rfl (adjusts fun _ => rfl) rfl
  | unbinds unbinding there bound advance =>
      rw [kept advance] at unbinding
      cases unbinding
  | lowers lowering =>
      rw [lasting.level session pc here] at lowering
      cases lowering

theorem Keyed.step (keyed : view.Keyed) (pooled : view.Pooled config)
    (step : PoolStep config view session event pc next result)
    (here : view.pcs session = some pc) : (result.setPc session next).Keyed := by
  have sieved : ∀ {target : Target} {pool : Nat} {kept : List Nat},
      view.pcs session = some (.retaining target pool kept []) →
      ((view.setMembers pool kept).setPc session next).Keyed := by
    intro target pool kept here
    refine ⟨keyed.below, keyed.alone, fun other => ?_⟩
    change ((view.setMembers pool kept).members other).Nodup
    rcases view.members_setMembers pool kept other with same | ⟨rfl, same⟩
    · rw [same]
      exact keyed.nodup other
    · rw [same]
      exact (pooled.sieves here).nodup (keyed.nodup other)
  cases step with
  | stays | apart | locks | sieves | releases | weighs | chooses | finds | binds | counts | returns
  | unbinds | lowers => exact ⟨keyed.below, keyed.alone, keyed.nodup⟩
  | @enters target =>
      unfold PoolView.pool
      cases known : view.pools.lookup target.endpoint with
      | some pool => exact ⟨keyed.below, keyed.alone, keyed.nodup⟩
      | none =>
          have lookups : ∀ endpoint pool, (view.pools ++
              [(target.endpoint, view.nextPool)]).lookup endpoint = some pool →
              view.pools.lookup endpoint = some pool ∨
                (endpoint = target.endpoint ∧ pool = view.nextPool) := by
            intro endpoint pool found
            rw [List.lookup_append] at found
            cases earlier : view.pools.lookup endpoint with
            | some other =>
                rw [earlier] at found
                exact .inl found
            | none =>
                rw [earlier, Option.none_or] at found
                obtain ⟨front, back, whole, -⟩ := List.lookup_eq_some_iff.mp found
                have member : (endpoint, pool) ∈ [(target.endpoint, view.nextPool)] := by
                  rw [whole]
                  exact List.mem_append_right _ List.mem_cons_self
                cases List.mem_singleton.mp member
                exact .inr ⟨rfl, rfl⟩
          refine ⟨fun endpoint pool found => ?_, fun one two pool first second => ?_, keyed.nodup⟩
          · rcases lookups endpoint pool found with earlier | ⟨-, rfl⟩
            · exact Nat.lt_succ_of_lt (keyed.below endpoint pool earlier)
            · exact Nat.lt_succ_self _
          · rcases lookups one pool first with old | ⟨rfl, rfl⟩
            · rcases lookups two pool second with old' | ⟨rfl, rfl⟩
              · exact keyed.alone one two pool old old'
              · exact absurd (keyed.below one _ old) (Nat.lt_irrefl _)
            · rcases lookups two _ second with old' | ⟨rfl, -⟩
              · exact absurd (keyed.below two _ old') (Nat.lt_irrefl _)
              · rfl
  | few | full => exact sieved here
  | @connects target pool =>
      refine ⟨keyed.below, keyed.alone, fun other => ?_⟩
      change ((view.connect target.endpoint pool).members other).Nodup
      rcases view.members_setMembers pool (view.members pool ++ [view.nextConnection]) other with
        same | ⟨rfl, same⟩
      · exact same.symm ▸ keyed.nodup other
      · refine same.symm ▸ List.nodup_append.mpr ⟨keyed.nodup other, List.nodup_singleton _, ?_⟩
        rintro one member two last rfl
        rw [List.mem_singleton.mp last] at member
        have belongs := pooled.homes other _ member
        rw [home, pooled.known _ (Nat.le_refl _)] at belongs
        cases belongs

/-! ## The record -/

namespace Booked

/-- A step that changes no bound set and returns no connection. -/
theorem frame (booked : view.Booked acquired) (here : view.pcs session = some pc)
    (pcs : result.pcs = view.pcs) (sets : result.sets = view.sets)
    (past : pc.hasAcquired = true → next.hasAcquired = true)
    (binds : next.bindsTo? = pc.bindsTo?)
    (members : ∀ pool, ∀ id ∈ result.members pool, id ∈ view.members pool)
    (returns : ∀ id, pc.returns? = some id → next.returns? = some id ∨
      ∃ acquisition ∈ acquired, acquisition.connection = id) :
    (result.setPc session next).Booked acquired := by
  have pcsNow : (result.setPc session next).pcs = Function.update view.pcs session (some next) := by
    rw [setPc, pcs]
  have setsNow : (result.setPc session next).sets = view.sets := sets
  refine ⟨?_, ?_, booked.distinct, ?_, ?_⟩
  · rw [setsNow]
    exact booked.endpoints
  · intro acquisition member
    exact pcs_moved here pcs past (booked.past acquisition member)
  · rw [setsNow]
    intro id endpoint sessions found other
    rw [booked.bound id endpoint sessions found other]
    refine or_congr_right ⟨?_, ?_⟩
    · exact pcs_moved here pcs fun bound => binds.trans bound
    · rintro ⟨current, found, bound⟩
      rcases pcs_setPc found with ⟨rfl, rfl⟩ | ⟨-, earlier⟩
      · exact ⟨pc, here, binds.symm.trans bound⟩
      · exact ⟨current, pcs ▸ earlier, bound⟩
  · intro pool id member
    rcases booked.used pool id (members pool id member) with old | ⟨other, current, found, met⟩
    · exact .inl old
    · by_cases own : other = session
      · subst own
        obtain rfl := Option.some.inj (here.symm.trans found)
        rcases returns id met with onward | old
        · refine .inr ⟨other, next, ?_, onward⟩
          rw [pcsNow, Function.update_self]
        · exact .inl old
      · refine .inr ⟨other, current, ?_, met⟩
        rw [pcsNow, Function.update_of_ne own]
        exact found

/-- Nobody is bound to a connection that does not exist yet. -/
theorem unknown (booked : view.Booked acquired) (pooled : view.Pooled config)
    (none : view.accounts id = none) :
    (∀ acquisition ∈ acquired, acquisition.connection ≠ id) ∧
      ∀ session pc, view.pcs session = some pc → pc.returns? ≠ some id := by
  constructor
  · rintro acquisition member rfl
    obtain ⟨sessions, found⟩ := booked.endpoints acquisition member
    rw [sets, none] at found
    cases found
  · intro session pc found returns
    have belongs := pooled.returned session pc id found returns
    rw [home, none] at belongs
    cases pc with
    | binding | counting | spawning => cases belongs
    | _ => cases returns

theorem connected (booked : view.Booked acquired) (pooled : view.Pooled config) {target : Target}
    {pool : Nat} (here : view.pcs session = some (.connecting target pool)) :
    ((view.connect target.endpoint pool).setPc session
      (.binding target pool view.nextConnection)).Booked acquired := by
  have none := pooled.known view.nextConnection (Nat.le_refl _)
  obtain ⟨unacquired, unreturned⟩ := booked.unknown pooled none
  refine ⟨?_, ?_, booked.distinct, ?_, ?_⟩
  · intro acquisition member
    change ∃ sessions, (view.connect target.endpoint pool).sets acquisition.connection = _
    rw [sets_connect, Function.update_of_ne (unacquired acquisition member)]
    exact booked.endpoints acquisition member
  · intro acquisition member
    exact pcs_moved here rfl (by rintro ⟨⟩) (booked.past acquisition member)
  · intro id endpoint sessions found other
    change (view.connect target.endpoint pool).sets id = _ at found
    rw [sets_connect] at found
    by_cases own : id = view.nextConnection
    · rw [own, Function.update_self] at found
      cases found
      subst own
      refine ⟨by rintro ⟨⟩, ?_⟩
      rintro (⟨acquisition, member, -, same⟩ | ⟨pc, now, binds⟩)
      · exact absurd same (unacquired acquisition member)
      · rcases pcs_setPc now with ⟨-, rfl⟩ | ⟨-, earlier⟩
        · cases binds
        · refine absurd ?_ (unreturned other pc earlier)
          cases pc with
          | counting | spawning => exact binds
          | _ => cases binds
    · rw [Function.update_of_ne own] at found
      rw [booked.bound id endpoint sessions found other]
      refine or_congr_right ⟨?_, ?_⟩
      · exact pcs_moved here rfl (by rintro ⟨⟩)
      · rintro ⟨pc, now, binds⟩
        rcases pcs_setPc now with ⟨-, rfl⟩ | ⟨-, earlier⟩
        · cases binds
        · exact ⟨pc, earlier, binds⟩
  · intro other id member
    have either : id ∈ view.members other ∨ id = view.nextConnection := by
      rcases view.members_setMembers pool (view.members pool ++ [view.nextConnection]) other with
        same | ⟨rfl, same⟩
      · exact .inl (same ▸ member)
      · exact (List.mem_append.mp (same ▸ member)).imp_right List.mem_singleton.mp
    rcases either with earlier | rfl
    · refine (booked.used other id earlier).imp_right ?_
      rintro ⟨current, met⟩
      exact ⟨current, pcs_moved here rfl (by rintro ⟨⟩) met⟩
    · exact .inr ⟨session, .binding target pool view.nextConnection, Function.update_self _ _ _, rfl⟩

/-- A call that has not acquired yet is not in the record. -/
theorem unrecorded (booked : view.Booked acquired) (here : view.pcs session = some pc)
    (early : pc.hasAcquired = false) :
    ∀ acquisition ∈ acquired, acquisition.session ≠ session := by
  rintro acquisition member rfl
  obtain ⟨current, found, past⟩ := booked.past acquisition member
  obtain rfl := Option.some.inj (here.symm.trans found)
  rw [early] at past
  cases past

theorem binds (booked : view.Booked acquired) {target : Target} {pool connection : Nat}
    (here : view.pcs session = some (.binding target pool connection)) :
    ((view.adjust connection fun account =>
      { account with sessions := account.sessions ++ [session] }).setPc session
        (.counting target pool connection)).Booked acquired := by
  have unrecorded := booked.unrecorded here rfl
  have pcs : ((view.adjust connection fun account =>
      { account with sessions := account.sessions ++ [session] }).setPc session
        (.counting target pool connection)).pcs =
    Function.update view.pcs session (some (.counting target pool connection)) := rfl
  have sets : ((view.adjust connection fun account =>
      { account with sessions := account.sessions ++ [session] }).setPc session
        (.counting target pool connection)).sets =
    Function.update view.sets connection
      ((view.sets connection).map fun set => (set.1, set.2 ++ [session])) :=
    sets_bind connection session
  refine ⟨?_, ?_, booked.distinct, ?_, ?_⟩
  · intro acquisition member
    obtain ⟨sessions, found⟩ := booked.endpoints acquisition member
    rw [sets]
    by_cases own : acquisition.connection = connection
    · rw [own] at found ⊢
      rw [Function.update_self, found]
      exact ⟨_, rfl⟩
    · rw [Function.update_of_ne own]
      exact ⟨sessions, found⟩
  · intro acquisition member
    exact pcs_moved here rfl (by rintro ⟨⟩) (booked.past acquisition member)
  · intro id endpoint sessions found other
    rw [sets] at found
    rw [pcs]
    by_cases own : other = session
    · subst own
      have unbound : ∀ earlier, view.sets id = some (endpoint, earlier) → other ∉ earlier := by
        intro earlier before member
        rcases (booked.bound id endpoint earlier before other).mp member with
          ⟨acquisition, member, same, -⟩ | ⟨pc, found, binds⟩
        · exact unrecorded acquisition member same
        · obtain rfl := Option.some.inj (here.symm.trans found)
          cases binds
      have recorded : ¬ ∃ acquisition ∈ acquired,
          acquisition.session = other ∧ acquisition.connection = id := by
        rintro ⟨acquisition, member, same, -⟩
        exact unrecorded acquisition member same
      simp only [recorded, false_or, Function.update_self, Option.some.injEq, exists_eq_left',
        OpenPc.bindsTo?]
      by_cases at' : id = connection
      · subst at'
        rw [Function.update_self] at found
        obtain ⟨⟨home, earlier⟩, before, pair⟩ := Option.map_eq_some_iff.mp found
        cases pair
        exact ⟨fun _ => rfl, fun _ => List.mem_append_right _ (List.mem_singleton_self other)⟩
      · rw [Function.update_of_ne at'] at found
        exact ⟨fun member => absurd member (unbound sessions found), fun same => absurd same.symm at'⟩
    · rw [Function.update_of_ne own]
      by_cases at' : id = connection
      · subst at'
        rw [Function.update_self] at found
        obtain ⟨⟨home, earlier⟩, before, pair⟩ := Option.map_eq_some_iff.mp found
        cases pair
        rw [← booked.bound id home earlier before other, List.mem_append, List.mem_singleton]
        exact ⟨fun member => member.resolve_right own, .inl⟩
      · rw [Function.update_of_ne at'] at found
        exact booked.bound id endpoint sessions found other
  · intro other id member
    refine (booked.used other id member).imp_right ?_
    rintro ⟨current, met⟩
    have onward : (OpenPc.binding target pool connection).returns? = some id →
        (OpenPc.counting target pool connection).returns? = some id := fun returns => returns
    exact ⟨current, @pcs_moved _ _ _ _ _ (fun pc => pc.returns? = some id) here rfl onward _ met⟩

theorem returns (booked : view.Booked acquired) (pooled : view.Pooled config) (keyed : view.Keyed)
    {target : Target} {pool connection : Nat}
    (here : view.pcs session = some (.spawning target pool connection)) :
    ((view.setHolder pool false).setPc session (.acquired target connection)).Booked
      (⟨session, target.endpoint, connection⟩ :: acquired) := by
  have unrecorded := booked.unrecorded here rfl
  have pcs : ((view.setHolder pool false).setPc session (.acquired target connection)).pcs =
    Function.update view.pcs session (some (.acquired target connection)) := rfl
  have sets : ((view.setHolder pool false).setPc session (.acquired target connection)).sets =
    view.sets := rfl
  have leads : ∃ sessions, view.sets connection = some (target.endpoint, sessions) := by
    have belongs := pooled.returned session _ connection here rfl
    obtain ⟨account, present, looked⟩ := Option.bind_eq_some_iff.mp belongs
    have same := keyed.alone _ _ pool looked (pooled.lookedUp session _ _ _ here rfl)
    refine ⟨account.sessions, ?_⟩
    rw [PoolView.sets, present, Option.map_some, same]
  refine ⟨?_, ?_, ?_, ?_, ?_⟩
  · rw [sets]
    intro acquisition member
    rcases List.mem_cons.mp member with rfl | earlier
    · exact leads
    · exact booked.endpoints acquisition earlier
  · rw [pcs]
    intro acquisition member
    rcases List.mem_cons.mp member with rfl | earlier
    · exact ⟨_, Function.update_self _ _ _, rfl⟩
    · rw [Function.update_of_ne (unrecorded acquisition earlier)]
      exact booked.past acquisition earlier
  · refine List.nodup_cons.mpr ⟨fun member => ?_, booked.distinct⟩
    obtain ⟨acquisition, earlier, same⟩ := List.mem_map.mp member
    exact unrecorded acquisition earlier same
  · rw [sets, pcs]
    intro id endpoint sessions found other
    rw [booked.bound id endpoint sessions found other]
    by_cases own : other = session
    · subst own
      have recorded : ∀ {acquisition}, acquisition ∈ acquired → acquisition.session = other →
          False := fun member same => unrecorded _ member same
      rw [here, Function.update_self]
      constructor
      · rintro (⟨acquisition, member, same, -⟩ | ⟨pc, same, binds⟩)
        · exact (recorded member same).elim
        · cases same
          cases binds
          exact .inl ⟨_, List.mem_cons_self, rfl, rfl⟩
      · rintro (⟨acquisition, member, same, leads⟩ | ⟨pc, same, binds⟩)
        · rcases List.mem_cons.mp member with rfl | earlier
          · exact .inr ⟨_, rfl, congrArg some leads⟩
          · exact (recorded earlier same).elim
        · cases same
          cases binds
    · rw [Function.update_of_ne own]
      refine or_congr_left ⟨?_, ?_⟩
      · rintro ⟨acquisition, member, same⟩
        exact ⟨acquisition, List.mem_cons_of_mem _ member, same⟩
      · rintro ⟨acquisition, member, same, leads⟩
        rcases List.mem_cons.mp member with rfl | earlier
        · exact absurd same.symm own
        · exact ⟨acquisition, earlier, same, leads⟩
  · intro other id member
    rcases booked.used other id member with ⟨acquisition, old, leads⟩ | ⟨current, pc, found, returns⟩
    · exact .inl ⟨acquisition, List.mem_cons_of_mem _ old, leads⟩
    · rw [pcs]
      by_cases own : current = session
      · subst own
        obtain rfl := Option.some.inj (here.symm.trans found)
        exact .inl ⟨_, List.mem_cons_self, Option.some.inj returns⟩
      · refine .inr ⟨current, pc, ?_, returns⟩
        rw [Function.update_of_ne own]
        exact found

theorem step (booked : view.Booked acquired) (pooled : view.Pooled config) (keyed : view.Keyed)
    (lasting : view.Lasting) (kept : event = .advance → pc.unbinds? = none)
    (here : view.pcs session = some pc)
    (step : PoolStep config view session event pc next result) :
    (result.setPc session next).Booked (returned session pc next ++ acquired) := by
  have quiet : returned session pc next = [] → (result.setPc session next).Booked acquired →
      (result.setPc session next).Booked (returned session pc next ++ acquired) := by
    intro none booked
    rw [none]
    exact booked
  have sieved : ∀ {target : Target} {pool : Nat} {kept : List Nat},
      view.pcs session = some (.retaining target pool kept []) →
      ∀ other, ∀ id ∈ (view.setMembers pool kept).members other, id ∈ view.members other := by
    intro target pool kept here other id member
    rcases view.members_setMembers pool kept other with same | ⟨rfl, same⟩
    · exact same ▸ member
    · exact (pooled.sieves here).subset (same ▸ member)
  cases step with
  | stays =>
      refine quiet ?_ (booked.frame here rfl rfl id rfl (fun _ _ member => member)
        fun _ returns => .inl returns)
      cases pc <;> rfl
  | apart unheld level there advances =>
      have apart := OpenPc.isApart_iff.mp there
      refine quiet ?_ (booked.frame here rfl rfl (fun past => advances past kept) ?_
        (fun _ _ member => member) ?_)
      · cases pc with
        | spawning => cases unheld
        | _ => rfl
      · cases pc with
        | counting | spawning => cases unheld
        | _ =>
            cases next with
            | counting | spawning => cases apart.1
            | _ => rfl
      · cases pc with
        | binding | counting | spawning => cases unheld
        | _ => rintro id ⟨⟩
  | @enters target =>
      obtain ⟨pcs, accounts, members⟩ := pool_same view target.endpoint
      have sets : (view.pool target.endpoint).2.sets = view.sets := by
        funext id
        rw [PoolView.sets, accounts, PoolView.sets]
      refine quiet rfl (booked.frame here pcs sets (by rintro ⟨⟩) rfl ?_ (by rintro id ⟨⟩))
      rw [members]
      exact fun _ _ member => member
  | locks | sieves | weighs =>
      exact quiet rfl (booked.frame here rfl rfl (by rintro ⟨⟩) rfl (fun _ _ member => member)
        (by rintro id ⟨⟩))
  | few | full =>
      exact quiet rfl (booked.frame here rfl rfl (by rintro ⟨⟩) rfl (sieved here)
        (by rintro id ⟨⟩))
  | connects => exact quiet rfl (booked.connected pooled here)
  | releases held there unbound =>
      have apart := OpenPc.isApart_iff.mp there
      refine quiet ?_ (booked.frame here rfl rfl ?_ ?_ (fun _ _ member => member) ?_)
      · cases pc with
        | spawning => cases unbound
        | _ => rfl
      · cases pc with
        | retaining | connecting | choosing | binding | counting | spawning => rintro ⟨⟩
        | _ => cases held
      · cases pc with
        | counting | spawning => cases unbound
        | _ =>
            cases next with
            | counting | spawning => cases apart.1
            | _ => rfl
      · rw [unbound]
        rintro id ⟨⟩
  | chooses =>
      exact quiet rfl (booked.frame here rfl rfl (by rintro ⟨⟩) rfl (fun _ _ member => member)
        (by rintro id ⟨⟩))
  | @finds target pool connection bound =>
      obtain ⟨account, found, member⟩ := (Option.any_eq_true _ _).mp bound
      have set : view.sets connection = some (account.endpoint, account.sessions) := by
        rw [sets, found]
        rfl
      rcases (booked.bound connection _ _ set session).mp (of_decide_eq_true member) with
        ⟨acquisition, recorded, same, -⟩ | ⟨pc, current, binds⟩
      · exact absurd same (booked.unrecorded here rfl acquisition recorded)
      · obtain rfl := Option.some.inj (here.symm.trans current)
        cases binds
  | binds => exact quiet rfl (booked.binds here)
  | counts =>
      exact quiet rfl (booked.frame here rfl (sets_adjust fun _ => rfl) (by rintro ⟨⟩) rfl
        (fun _ _ member => member) fun _ returns => .inl returns)
  | returns => exact booked.returns pooled keyed here
  | unbinds unbinding there bound advance =>
      rw [kept advance] at unbinding
      cases unbinding
  | lowers lowering =>
      rw [lasting.level session pc here] at lowering
      cases lowering

/-- A call that begins has done nothing yet. -/
theorem begins (booked : view.Booked acquired) (unknown : view.pcs session = none)
    (early : next.hasAcquired = false) (unbound : next.bindsTo? = none) :
    (view.setPc session next).Booked acquired := by
  have pcs : (view.setPc session next).pcs = Function.update view.pcs session (some next) := rfl
  have others : ∀ {other pc}, view.pcs other = some pc →
      (view.setPc session next).pcs other = some pc := by
    intro other pc found
    rw [pcs, Function.update_of_ne]
    · exact found
    · rintro rfl
      rw [unknown] at found
      cases found
  refine ⟨booked.endpoints, ?_, booked.distinct, ?_, ?_⟩
  · intro acquisition member
    obtain ⟨pc, found, past⟩ := booked.past acquisition member
    exact ⟨pc, others found, past⟩
  · intro id endpoint sessions found other
    rw [booked.bound id endpoint sessions found other]
    refine or_congr_right ⟨?_, ?_⟩
    · rintro ⟨pc, before, binds⟩
      exact ⟨pc, others before, binds⟩
    · rintro ⟨pc, now, binds⟩
      rcases pcs_setPc now with ⟨-, rfl⟩ | ⟨-, earlier⟩
      · rw [unbound] at binds
        cases binds
      · exact ⟨pc, earlier, binds⟩
  · intro pool id member
    rcases booked.used pool id member with old | ⟨other, pc, found, returns⟩
    · exact .inl old
    · exact .inr ⟨other, pc, others found, returns⟩

end Booked

end PoolView

end Coactor.Client
