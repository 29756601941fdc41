import Coactor.Foundation.Spread
import Coactor.Client.PoolRecord

/-!
# Sessions spread over the connections of an endpoint

While a call holds the lock of a pool, the counters of its connections count the
recorded acquisitions.  So as long as no Session is unbound and no connection is
lost, each acquisition takes a new connection or one that was acquired least
often, and the Sessions are spread evenly.
-/

namespace Coactor.Client

open Coactor.Foundation
open Coactor.Foundation.Transition
open Coactor.Runtime

variable {config : ClientConfig} {view result : PoolView} {session : SessionId}
  {event : OpenEvent} {pc next : OpenPc} {id : Nat} {acquired : List Acquisition}

namespace PoolView

/-! ## Loads -/

theorem mem_acquiredFor {endpoint : String} : id ∈ acquiredFor acquired endpoint ↔
    ∃ acquisition ∈ acquired, acquisition.endpoint = endpoint ∧ acquisition.connection = id := by
  simp only [acquiredFor, List.mem_map, List.mem_filter, beq_iff_eq, and_assoc]

/-- The holder of a pool is not about to return a connection, nor is anybody else. -/
def Unreturned (view : PoolView) (pool : Nat) : Prop :=
  ∀ session pc, view.pcs session = some pc → pc.holds? = some pool → pc.returns? = none

theorem bindsTo_returns (binds : pc.bindsTo? = some id) : pc.returns? = some id := by
  cases pc with
  | counting | spawning => exact binds
  | _ => cases binds

theorem Unreturned.unbound {pool : Nat} (unreturned : view.Unreturned pool) (pooled : view.Pooled config)
    (belongs : view.home id = some pool) {pc : OpenPc} (here : view.pcs session = some pc) :
    pc.returns? ≠ some id := by
  intro returns
  have held := (pooled.returned session pc id here returns).symm.trans belongs
  rw [unreturned session pc here held] at returns
  cases returns

/-- A bound set holds the Sessions that have acquired its connection. -/
theorem Booked.load (booked : view.Booked acquired) {endpoint : String} {sessions : List SessionId}
    (found : view.sets id = some (endpoint, sessions)) (nodup : sessions.Nodup)
    (unbound : ∀ session pc, view.pcs session = some pc → pc.bindsTo? ≠ some id) :
    sessions.length = (acquiredFor acquired endpoint).count id := by
  have own : ∀ acquisition ∈ acquired, acquisition.connection = id →
      acquisition.endpoint = endpoint := by
    rintro acquisition member rfl
    obtain ⟨other, same⟩ := booked.endpoints acquisition member
    rw [found] at same
    cases same
    rfl
  have same : sessions.Perm ((acquired.filter fun acquisition =>
      acquisition.connection == id).map Acquisition.session) := by
    refine (List.perm_ext_iff_of_nodup nodup ?_).mpr fun session => ?_
    · exact (List.filter_sublist.map Acquisition.session).nodup booked.distinct
    · rw [booked.bound id endpoint sessions found session, List.mem_map]
      constructor
      · rintro (⟨acquisition, member, same, leads⟩ | ⟨pc, here, binds⟩)
        · exact ⟨acquisition, List.mem_filter.mpr ⟨member, beq_iff_eq.mpr leads⟩, same⟩
        · exact absurd binds (unbound session pc here)
      · rintro ⟨acquisition, member, same⟩
        obtain ⟨recorded, leads⟩ := List.mem_filter.mp member
        exact .inl ⟨acquisition, recorded, same, beq_iff_eq.mp leads⟩
  rw [same.length_eq, List.length_map, ← List.countP_eq_length_filter, acquiredFor, List.count,
    List.countP_map, List.countP_filter]
  refine List.countP_congr fun acquisition member => ?_
  simp only [Function.comp_apply, Bool.and_eq_true, beq_iff_eq]
  exact ⟨fun leads => ⟨leads, own acquisition member leads⟩, And.left⟩

/-- A recorded connection belongs into the pool of its endpoint. -/
theorem Booked.home (booked : view.Booked acquired) {acquisition : Acquisition}
    (recorded : acquisition ∈ acquired) : ∃ account,
      view.accounts acquisition.connection = some account ∧
        view.home acquisition.connection = view.pools.lookup acquisition.endpoint := by
  obtain ⟨sessions, found⟩ := booked.endpoints acquisition recorded
  obtain ⟨account, present, pair⟩ := Option.map_eq_some_iff.mp found
  refine ⟨account, present, ?_⟩
  rw [PoolView.home, present, Option.bind_some, (Prod.mk.inj pair).1]

/-- While no acquisition is under way, the members of a pool are the connections
acquired for its endpoint. -/
theorem Booked.members (booked : view.Booked acquired) (pooled : view.Pooled config)
    (keyed : view.Keyed) (lasting : view.Lasting) {endpoint : String} {pool : Nat}
    (looked : view.pools.lookup endpoint = some pool) (unreturned : view.Unreturned pool) :
    (view.members pool).toFinset = (acquiredFor acquired endpoint).toFinset := by
  ext id
  rw [List.mem_toFinset, List.mem_toFinset, mem_acquiredFor]
  constructor
  · intro member
    have belongs := pooled.homes pool id member
    rcases booked.used pool id member with ⟨acquisition, recorded, rfl⟩ | ⟨session, pc, here, returns⟩
    · refine ⟨acquisition, recorded, ?_, rfl⟩
      obtain ⟨account, -, same⟩ := booked.home recorded
      exact keyed.alone _ _ pool (same.symm.trans belongs) looked
    · exact absurd returns (unreturned.unbound pooled belongs here)
  · rintro ⟨acquisition, recorded, rfl, rfl⟩
    obtain ⟨account, present, same⟩ := booked.home recorded
    have opened : view.isClosed acquisition.connection = false := by
      rw [isClosed, present]
      exact lasting.opened _ account present
    obtain ⟨other, belongs, member⟩ := pooled.pooled _ opened
    rw [same, looked] at belongs
    cases belongs
    exact member

/-- No bound set is larger than `usize` can count. -/
def Fits (view : PoolView) : Prop :=
  ∀ id endpoint sessions, view.sets id = some (endpoint, sessions) →
    sessions.length < UInt64.size

/-- The counter of a connection counts its acquisitions. -/
theorem Booked.counter (booked : view.Booked acquired) (pooled : view.Pooled config)
    (counted : view.Counted) (lasting : view.Lasting) (fits : view.Fits) {endpoint : String}
    {pool : Nat} (keyed : view.Keyed) (looked : view.pools.lookup endpoint = some pool)
    (unreturned : view.Unreturned pool) (member : id ∈ view.members pool) :
    (view.boundSessions id).toNat = (acquiredFor acquired endpoint).count id := by
  have belongs := pooled.homes pool id member
  obtain ⟨account, present, found⟩ := Option.bind_eq_some_iff.mp belongs
  obtain rfl := keyed.alone _ _ pool found looked
  have set : view.sets id = some (account.endpoint, account.sessions) := by
    rw [sets, present, Option.map_some]
  have settled : view.Settled id := by
    intro session pc here
    constructor
    · intro raises
      refine unreturned.unbound pooled belongs here ?_
      cases pc with
      | counting => exact raises
      | _ => cases raises
    · rw [lasting.level session pc here]
      rintro ⟨⟩
  obtain ⟨nodup, same⟩ := counted.settled settled present (lasting.opened id account present)
  rw [boundSessions, present, Option.elim_some, same,
    UInt64.toNat_ofNat_of_lt' (fits id _ _ set)]
  exact booked.load set nodup fun session pc here binds =>
    unreturned.unbound pooled belongs here (bindsTo_returns binds)

/-! ## Choices -/

/-- The counters of bound sets that a call goes through to find a least one. -/
def Lightest (view : PoolView) (seen : List Nat) : Option (Nat × UInt64) → Prop
  | none => seen = []
  | some (connection, least) => connection ∈ seen ∧ least = view.boundSessions connection ∧
      ∀ other ∈ seen, least ≤ view.boundSessions other

/-- What a call that holds the lock of a pool has found out about it. -/
def Sifts (config : ClientConfig) (view : PoolView) : OpenPc → Prop
  | .retaining _ pool kept rest => kept ++ rest = view.members pool
  | .choosing _ pool best rest =>
      config.maxConnectionsPerEndpoint ≤ (view.members pool).length ∧
        ∃ seen, view.members pool = seen ++ rest ∧ view.Lightest seen best
  | _ => True

/-- The connections of every endpoint have been acquired one after the other as a
new one or as a least chosen one. -/
structure Weighed (config : ClientConfig) (view : PoolView) (acquired : List Acquisition) :
    Prop where
  chosen : ∀ endpoint,
    LeastChosen config.maxConnectionsPerEndpoint (acquiredFor acquired endpoint)
  choice : ∀ session pc id, view.pcs session = some pc → pc.returns? = some id →
    LeastChosen config.maxConnectionsPerEndpoint (id :: acquiredFor acquired pc.endpoint)
  sifts : ∀ session pc, view.pcs session = some pc → view.Sifts config pc

theorem returns_lookedUp {pc : OpenPc} (returns : pc.returns? = some id) : ∃ pool,
    pc.holds? = some pool ∧ pc.lookedUp? = some (pc.endpoint, pool) := by
  cases pc with
  | binding target pool | counting target pool | spawning target pool => exact ⟨pool, rfl, rfl⟩
  | _ => cases returns

theorem apart_returns {pc : OpenPc} (unlooked : pc.lookedUp? = none) : pc.returns? = none := by
  cases pc with
  | binding | counting | spawning => cases unlooked
  | _ => rfl

theorem sifts_of_unlooked {pc : OpenPc} (unlooked : pc.lookedUp? = none) :
    view.Sifts config pc := by
  cases pc with
  | retaining | choosing => cases unlooked
  | _ => trivial

/-- Counters seen one after the other. -/
theorem Lightest.weigh {seen : List Nat} {best : Option (Nat × UInt64)}
    (lightest : view.Lightest seen best) (connection : Nat) :
    view.Lightest (seen ++ [connection])
      (better best connection (view.boundSessions connection)) := by
  have last : ∀ least, (∀ other ∈ seen, least ≤ view.boundSessions other) →
      least ≤ view.boundSessions connection →
      ∀ other ∈ seen ++ [connection], least ≤ view.boundSessions other := by
    intro least earlier new other member
    rcases List.mem_append.mp member with old | newest
    · exact earlier other old
    · rw [List.mem_singleton.mp newest]
      exact new
  cases best with
  | none =>
      obtain rfl : seen = [] := lightest
      exact ⟨List.mem_singleton_self connection, rfl,
        last _ (by rintro other ⟨⟩) (UInt64.le_refl _)⟩
  | some best =>
      obtain ⟨chosen, least⟩ := best
      obtain ⟨member, same, light⟩ := lightest
      simp only [better]
      split
      · rename_i less
        refine ⟨List.mem_append_right _ (List.mem_singleton_self connection), rfl,
          last _ (fun other old => ?_) (UInt64.le_refl _)⟩
        exact UInt64.le_trans (UInt64.le_of_lt less) (light other old)
      · rename_i more
        exact ⟨List.mem_append_left _ member, same, last _ light (UInt64.not_lt.mp more)⟩

theorem Lightest.congr {seen : List Nat} {best : Option (Nat × UInt64)}
    (lightest : view.Lightest seen best)
    (same : ∀ id ∈ seen, result.boundSessions id = view.boundSessions id) :
    result.Lightest seen best := by
  cases best with
  | none => exact lightest
  | some best =>
      obtain ⟨member, least, light⟩ := lightest
      refine ⟨member, least.trans (same _ member).symm, fun other old => ?_⟩
      rw [same other old]
      exact light other old

theorem Sifts.congr {pc : OpenPc} (sifts : view.Sifts config pc)
    (members : ∀ pool, pc.holds? = some pool → result.members pool = view.members pool)
    (bounds : ∀ pool, pc.holds? = some pool → ∀ id ∈ view.members pool,
      result.boundSessions id = view.boundSessions id) : result.Sifts config pc := by
  cases pc with
  | retaining target pool kept rest => exact Eq.trans sifts (members pool rfl).symm
  | choosing target pool best rest =>
      obtain ⟨full, seen, whole, lightest⟩ := sifts
      have same := members pool rfl
      refine ⟨?_, seen, same.trans whole, lightest.congr fun id member => bounds pool rfl id ?_⟩
      · rw [same]
        exact full
      · rw [whole]
        exact List.mem_append_left _ member
  | _ => trivial

namespace Weighed

/-- A step that adds nothing to the record, from what it does to the pools of
others. -/
theorem frame (weighed : view.Weighed config acquired) (pooled : view.Pooled config)
    (here : view.pcs session = some pc) (pcs : result.pcs = view.pcs)
    (members : ∀ pool, result.members pool = view.members pool ∨ pc.holds? = some pool)
    (bounds : ∀ id pool, view.home id = some pool → pc.holds? ≠ some pool →
      result.boundSessions id = view.boundSessions id)
    (choice : ∀ id, next.returns? = some id →
      LeastChosen config.maxConnectionsPerEndpoint (id :: acquiredFor acquired next.endpoint))
    (sifts : result.Sifts config next) : (result.setPc session next).Weighed config acquired where
  chosen := weighed.chosen
  choice other current id found returns := by
    rcases pcs_setPc found with ⟨-, rfl⟩ | ⟨-, earlier⟩
    · exact choice id returns
    · exact weighed.choice other current id (pcs ▸ earlier) returns
  sifts other current found := by
    have moved : ∀ {current}, result.Sifts config current →
        (result.setPc session next).Sifts config current := by
      intro current sifts
      exact sifts.congr (fun _ _ => rfl) fun _ _ _ _ => rfl
    rcases pcs_setPc found with ⟨-, rfl⟩ | ⟨own, earlier⟩
    · exact moved sifts
    · rw [pcs] at earlier
      have different : ∀ pool, current.holds? = some pool → pc.holds? ≠ some pool := by
        intro pool held same
        exact own (pooled.exclusion.alone other session pool ((holds_of_pcs earlier).trans held)
          ((holds_of_pcs here).trans same))
      refine moved ((weighed.sifts other current earlier).congr ?_ ?_)
      · exact fun pool held => (members pool).resolve_right (different pool held)
      · exact fun pool held id member =>
          bounds id pool (pooled.homes pool id member) (different pool held)

/-- A step that changes no pool and no counter. -/
theorem keeps (weighed : view.Weighed config acquired) (pooled : view.Pooled config)
    (here : view.pcs session = some pc) (pcs : result.pcs = view.pcs)
    (members : result.members = view.members) (accounts : result.accounts = view.accounts)
    (choice : ∀ id, next.returns? = some id →
      LeastChosen config.maxConnectionsPerEndpoint (id :: acquiredFor acquired next.endpoint))
    (sifts : view.Sifts config next) : (result.setPc session next).Weighed config acquired := by
  have bounds : result.boundSessions = view.boundSessions := by
    funext id
    rw [boundSessions, accounts, boundSessions]
  refine weighed.frame pooled here pcs (fun pool => .inl (congrFun members pool))
    (fun id _ _ _ => congrFun bounds id) choice ?_
  exact sifts.congr (fun pool _ => congrFun members pool) fun _ _ id _ => congrFun bounds id

/-- A step that leaves `acquire_connection`, or takes place outside it. -/
theorem leaves (weighed : view.Weighed config acquired) (pooled : view.Pooled config)
    (here : view.pcs session = some pc) (pcs : result.pcs = view.pcs)
    (members : result.members = view.members) (accounts : result.accounts = view.accounts)
    (unlooked : next.lookedUp? = none) : (result.setPc session next).Weighed config acquired := by
  refine weighed.keeps pooled here pcs members accounts ?_ (sifts_of_unlooked unlooked)
  rw [apart_returns unlooked]
  rintro id ⟨⟩

/-- A call that holds the lock of a pool and returns nothing keeps others from
returning a connection of it. -/
theorem unreturned (pooled : view.Pooled config) (here : view.pcs session = some pc)
    {pool : Nat} (held : pc.holds? = some pool) (none : pc.returns? = none) :
    view.Unreturned pool := by
  intro other current found held'
  have same := pooled.exclusion.alone other session pool ((holds_of_pcs found).trans held')
    ((holds_of_pcs here).trans held)
  subst same
  obtain rfl := Option.some.inj (found.symm.trans here)
  exact none

/-- A new connection is chosen as long as there may be more. -/
theorem fresh (weighed : view.Weighed config acquired) (pooled : view.Pooled config)
    (keyed : view.Keyed) (lasting : view.Lasting) (booked : view.Booked acquired)
    {target : Target} {pool : Nat} (here : view.pcs session = some (.connecting target pool)) :
    LeastChosen config.maxConnectionsPerEndpoint
      (view.nextConnection :: acquiredFor acquired target.endpoint) := by
  have looked := pooled.lookedUp session _ _ _ here rfl
  have same := booked.members pooled keyed lasting looked (unreturned pooled here rfl rfl)
  refine .fresh (weighed.chosen target.endpoint) ?_ ?_
  · rw [← same, List.toFinset_card_of_nodup (keyed.nodup pool)]
    exact pooled.works session _ here
  · rw [mem_acquiredFor]
    rintro ⟨acquisition, recorded, -, leads⟩
    exact (booked.unknown pooled (pooled.known _ (Nat.le_refl _))).1 acquisition recorded leads

/-- The connection with the least counter has been chosen least often. -/
theorem least (weighed : view.Weighed config acquired) (pooled : view.Pooled config)
    (counted : view.Counted) (keyed : view.Keyed) (lasting : view.Lasting)
    (booked : view.Booked acquired) (fits : view.Fits) {target : Target} {pool connection : Nat}
    {least : UInt64}
    (here : view.pcs session = some (.choosing target pool (some (connection, least)) [])) :
    LeastChosen config.maxConnectionsPerEndpoint
      (connection :: acquiredFor acquired target.endpoint) := by
  have looked := pooled.lookedUp session _ _ _ here rfl
  have unreturned := unreturned pooled here rfl rfl
  have same := booked.members pooled keyed lasting looked unreturned
  obtain ⟨full, seen, whole, member, lowest, light⟩ := weighed.sifts session _ here
  rw [List.append_nil] at whole
  subst whole
  have counter : ∀ {id}, id ∈ view.members pool →
      (view.boundSessions id).toNat = (acquiredFor acquired target.endpoint).count id :=
    fun member => booked.counter pooled counted lasting fits keyed looked unreturned member
  refine .least (weighed.chosen target.endpoint) ?_ ?_ ?_
  · rw [← same, List.toFinset_card_of_nodup (keyed.nodup pool)]
    exact full
  · rw [← List.mem_toFinset, ← same, List.mem_toFinset]
    exact member
  · intro other chosen
    rw [← List.mem_toFinset, ← same, List.mem_toFinset] at chosen
    rw [← counter member, ← counter chosen, ← lowest]
    exact UInt64.le_iff_toNat_le.mp (light other chosen)

theorem acquiredFor_cons (acquisition : Acquisition) (acquired : List Acquisition)
    (endpoint : String) : acquiredFor (acquisition :: acquired) endpoint =
      if acquisition.endpoint = endpoint then
        acquisition.connection :: acquiredFor acquired endpoint
      else acquiredFor acquired endpoint := by
  unfold acquiredFor
  by_cases same : acquisition.endpoint = endpoint
  · rw [if_pos same, List.filter_cons_of_pos (by simpa using same), List.map_cons]
  · rw [if_neg same, List.filter_cons_of_neg (by simpa using same)]

/-- The holder of the lock returns the connection it has chosen. -/
theorem returns (weighed : view.Weighed config acquired) (pooled : view.Pooled config)
    {target : Target} {pool connection : Nat}
    (here : view.pcs session = some (.spawning target pool connection)) :
    ((view.setHolder pool false).setPc session (.acquired target connection)).Weighed config
      (⟨session, target.endpoint, connection⟩ :: acquired) := by
  have choice := weighed.choice session _ connection here rfl
  have left : ((view.setHolder pool false).setPc session (.acquired target connection)).Weighed
      config acquired := weighed.leaves pooled here rfl rfl rfl rfl
  refine ⟨fun endpoint => ?_, fun other current id found returns => ?_, left.sifts⟩
  · rw [acquiredFor_cons]
    split
    · rename_i same
      exact same ▸ choice
    · exact weighed.chosen endpoint
  · have before := left.choice other current id found returns
    rw [acquiredFor_cons, if_neg]
    · exact before
    · intro same
      rcases pcs_setPc found with ⟨-, rfl⟩ | ⟨own, earlier⟩
      · cases returns
      · obtain ⟨taken, held, looked⟩ := returns_lookedUp returns
        have theirs := pooled.lookedUp other current _ taken earlier looked
        have ours := pooled.lookedUp session _ _ _ here rfl
        change view.pools.lookup target.endpoint = some pool at ours
        have one : taken = pool := by
          change target.endpoint = current.endpoint at same
          rw [← same, ours] at theirs
          exact (Option.some.inj theirs).symm
        refine own (pooled.exclusion.alone other session pool ?_ (holds_of_pcs here))
        exact (holds_of_pcs earlier).trans (one ▸ held)

theorem step (weighed : view.Weighed config acquired) (pooled : view.Pooled config)
    (counted : view.Counted) (keyed : view.Keyed) (lasting : view.Lasting)
    (booked : view.Booked acquired) (fits : view.Fits)
    (still : event = .advance → pc.unbinds? = none) (here : view.pcs session = some pc)
    (step : PoolStep config view session event pc next result) :
    (result.setPc session next).Weighed config (returned session pc next ++ acquired) := by
  have quiet : returned session pc next = [] →
      (result.setPc session next).Weighed config acquired →
      (result.setPc session next).Weighed config (returned session pc next ++ acquired) := by
    intro none weighed
    rw [none]
    exact weighed
  have choice := fun id => weighed.choice session pc id here
  have sifts := weighed.sifts session pc here
  have sieved : ∀ {target : Target} {pool : Nat} {kept : List Nat},
      OpenPc.retaining target pool kept [] = pc →
      (view.setMembers pool kept).members = view.members := by
    rintro target pool kept rfl
    have same : kept = view.members pool := by
      rw [← sifts, List.append_nil]
    rw [same]
    exact Function.update_eq_self _ _
  have adjusts : ∀ {target : Target} {pool connection : Nat} {change : Account → Account},
      pc.returns? = some connection → ∀ id other, view.home id = some other →
      pc.holds? ≠ some other →
      (view.adjust connection change).boundSessions id = view.boundSessions id := by
    intro target pool connection change returns id other belongs free
    have different : id ≠ connection := by
      rintro rfl
      exact free ((pooled.returned session pc id here returns).symm.trans belongs)
    simp only [boundSessions, adjust, Function.update_of_ne different]
  cases step with
  | stays =>
      refine quiet ?_ (weighed.keeps pooled here rfl rfl rfl choice sifts)
      cases pc <;> rfl
  | apart unheld level there =>
      refine quiet ?_ (weighed.leaves pooled here rfl rfl rfl (OpenPc.isApart_iff.mp there).1)
      cases pc with
      | spawning => cases unheld
      | _ => rfl
  | @enters target =>
      obtain ⟨pcs, accounts, members⟩ := pool_same view target.endpoint
      exact quiet rfl (weighed.keeps pooled here pcs members accounts (by rintro id ⟨⟩) trivial)
  | locks =>
      exact quiet rfl (weighed.keeps pooled here rfl rfl rfl (by rintro id ⟨⟩) (List.nil_append _))
  | @sieves target pool connection kept rest =>
      have whole : kept ++ connection :: rest = view.members pool := sifts
      have belongs : view.home connection = some pool := by
        refine pooled.homes pool connection ?_
        rw [← whole]
        exact List.mem_append_right _ List.mem_cons_self
      obtain ⟨account, present, -⟩ := Option.bind_eq_some_iff.mp belongs
      have opened : view.isClosed connection = false := by
        rw [isClosed, present]
        exact lasting.opened connection account present
      refine quiet rfl (weighed.keeps pooled here rfl rfl rfl (by rintro id ⟨⟩) ?_)
      rw [opened]
      exact (List.append_assoc kept [connection] rest).trans whole
  | few =>
      exact quiet rfl (weighed.keeps pooled here rfl (sieved rfl) rfl (by rintro id ⟨⟩) trivial)
  | @full target pool kept full =>
      have same : kept = view.members pool := (List.append_nil kept).symm.trans sifts
      refine quiet rfl (weighed.keeps pooled here rfl (sieved rfl) rfl (by rintro id ⟨⟩)
        ⟨?_, [], same.symm, rfl⟩)
      rw [← same]
      exact full
  | @connects target pool =>
      refine quiet rfl (weighed.frame pooled here rfl ?_ ?_ ?_ trivial)
      · intro other
        by_cases same : other = pool
        · exact .inr (congrArg some same.symm)
        · exact .inl (Function.update_of_ne same _ _)
      · intro id other belongs _
        have different : id ≠ view.nextConnection := by
          rintro rfl
          rw [home, pooled.known _ (Nat.le_refl _)] at belongs
          cases belongs
        simp only [boundSessions, connect, setMembers, Function.update_of_ne different]
      · rintro id ⟨⟩
        exact weighed.fresh pooled keyed lasting booked here
  | releases held there unbound =>
      refine quiet ?_ (weighed.leaves pooled here rfl rfl rfl (OpenPc.isApart_iff.mp there).1)
      cases pc with
      | spawning => cases unbound
      | _ => rfl
  | @weighs target pool connection best rest =>
      obtain ⟨full, seen, whole, lightest⟩ := sifts
      refine quiet rfl (weighed.keeps pooled here rfl rfl rfl (by rintro id ⟨⟩)
        ⟨full, seen ++ [connection], ?_, lightest.weigh connection⟩)
      rw [whole, List.append_assoc]
      rfl
  | chooses =>
      refine quiet rfl (weighed.keeps pooled here rfl rfl rfl ?_ trivial)
      rintro id ⟨⟩
      exact weighed.least pooled counted keyed lasting booked fits here
  | finds => exact quiet rfl (weighed.keeps pooled here rfl rfl rfl choice trivial)
  | @binds target pool connection =>
      exact quiet rfl (weighed.frame pooled here rfl (fun _ => .inl rfl)
        (@adjusts target pool connection _ rfl) choice trivial)
  | @counts target pool connection =>
      exact quiet rfl (weighed.frame pooled here rfl (fun _ => .inl rfl)
        (@adjusts target pool connection _ rfl) choice trivial)
  | returns => exact weighed.returns pooled here
  | unbinds unbinding there bound advance =>
      rw [still advance] at unbinding
      cases unbinding
  | lowers lowering =>
      rw [lasting.level session pc here] at lowering
      cases lowering

theorem begins (weighed : view.Weighed config acquired) (unlooked : next.lookedUp? = none) :
    (view.setPc session next).Weighed config acquired where
  chosen := weighed.chosen
  choice other current id found returns := by
    rcases pcs_setPc found with ⟨-, rfl⟩ | ⟨-, earlier⟩
    · rw [apart_returns unlooked] at returns
      cases returns
    · exact weighed.choice other current id earlier returns
  sifts other current found := by
    rcases pcs_setPc found with ⟨-, rfl⟩ | ⟨-, earlier⟩
    · exact sifts_of_unlooked unlooked
    · exact (weighed.sifts other current earlier).congr (fun _ _ => rfl) fun _ _ _ _ => rfl

end Weighed

/-- As long as nothing is unbound, a bound set that fits has always fitted. -/
theorem Fits.before (fits : (result.setPc session next).Fits) (pooled : view.Pooled config)
    (still : event = .advance → pc.unbinds? = none) (lasting : view.Lasting)
    (here : view.pcs session = some pc)
    (step : PoolStep config view session event pc next result) : view.Fits := by
  have same : result.sets = view.sets → view.Fits := by
    intro same id endpoint sessions found
    exact fits id endpoint sessions ((congrFun same id).trans found)
  cases step with
  | stays | apart | locks | sieves | few | full | releases | weighs | chooses | finds | returns =>
      exact same rfl
  | @enters target =>
      refine same ?_
      unfold PoolView.pool
      split <;> rfl
  | @connects target pool =>
      intro id endpoint sessions found
      refine fits id endpoint sessions ?_
      change (view.connect target.endpoint pool).sets id = _
      rw [sets_connect, Function.update_of_ne]
      · exact found
      · rintro rfl
        rw [sets, pooled.known _ (Nat.le_refl _)] at found
        cases found
  | @binds target pool connection =>
      intro id endpoint sessions found
      by_cases own : id = connection
      · subst own
        have more := fits id endpoint (sessions ++ [session]) (by
          change (view.adjust id _).sets id = _
          rw [sets_bind, Function.update_self, found]
          rfl)
        rw [List.length_append] at more
        exact Nat.lt_of_le_of_lt (Nat.le_add_right _ _) more
      · refine fits id endpoint sessions ?_
        change (view.adjust connection _).sets id = _
        rw [sets_bind, Function.update_of_ne own]
        exact found
  | counts => exact same (sets_adjust fun _ => rfl)
  | unbinds unbinding there bound advance =>
      rw [still advance] at unbinding
      cases unbinding
  | lowers lowering =>
      rw [lasting.level session pc here] at lowering
      cases lowering

end PoolView

end Coactor.Client
