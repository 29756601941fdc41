import Coactor.Client.Attempts
import Coactor.Client.PoolSpread

/-!
# The connection pools of a running Client

What the pools, bound sets and counters of a Client are like in every state, and
how the Sessions are spread in a run that unbinds none and loses no connection.
-/

namespace Coactor.Client

open Coactor.Foundation
open Coactor.Foundation.Transition
open Coactor.Runtime

variable {config : ClientConfig} {state : Acquiring} {after : ClientInner}
  {session : SessionId} {label : ClientEvent} {id : Nat}

/-! ## Runs that keep what is bound -/

/-- A recorded run is a run of the Client. -/
theorem client_of_acquiring {guard : Acquiring → ClientEvent → Prop}
    (reach : (acquiringSystem config).ReachableWhile guard state) :
    (clientSystem config).Reachable state.client := by
  refine invariant_of_step
    (fun state : Acquiring => (clientSystem config).Reachable state.client) ?_ ?_ reach
  · rintro _ rfl
    exact .start rfl
  · intro before label after earlier _ stepped
    obtain ⟨client, moved, rfl⟩ := Option.map_eq_some_iff.mp stepped
    exact .step earlier trivial moved

/-- A step in which nothing is unbound and no connection is lost. -/
inductive RetainedStep (config : ClientConfig) (view : PoolView) :
    PoolView → List Acquisition → Prop where
  | quiet : RetainedStep config view view []
  | begins {session : SessionId} (unknown : view.pcs session = none) :
      RetainedStep config view (view.setPc session (.resolving resolveOwner)) []
  | call {session : SessionId} {event : OpenEvent} {pc next : OpenPc} {result : PoolView}
      (here : view.pcs session = some pc) (still : event = .advance → pc.unbinds? = none)
      (step : PoolStep config view session event pc next result) :
      RetainedStep config view (result.setPc session next) (returned session pc next)

theorem retained_step (pooled : state.client.poolView.Pooled config)
    (lasting : state.client.poolView.Lasting) (retained : retains state label = true)
    (stepped : state.client.step? config label = some after) :
    RetainedStep config state.client.poolView after.poolView
      (returnedBy state.client after label) := by
  have open' : label ≠ .shutdown := by
    rintro rfl
    cases retained
  have move := ClientInner.step?_pools open' stepped
  have stayed : ∀ {id account}, state.client.poolView.accounts id = some account →
      account.departed = false := by
    intro id account found
    have ended := pooled.departed id
    rw [PoolView.hasDeparted, PoolView.isClosed, found, Option.any_some, Option.all_some,
      lasting.opened id account found] at ended
    exact Bool.eq_false_iff.mpr fun departed => Bool.false_ne_true (ended departed)
  generalize there : after.poolView = view at move
  cases move with
  | quiet outside =>
      have nothing : returnedBy state.client after label = [] := by
        cases label with
        | call session event => exact absurd rfl (outside session event)
        | _ => rfl
      rw [nothing]
      exact .quiet
  | begins unknown => exact .begins unknown
  | @call session event pc next result here step =>
      have returns : returnedBy state.client after (.call session event) =
          returned session pc next := by
        obtain ⟨call, found, rfl⟩ := Option.map_eq_some_iff.mp here
        have now : after.poolView.pcs session = some next := by
          rw [there]
          exact Function.update_self _ _ _
        obtain ⟨onward, known, rfl⟩ := Option.map_eq_some_iff.mp now
        simp only [returnedBy, found, known]
      rw [returns]
      refine .call here ?_ step
      rintro rfl
      obtain ⟨call, found, rfl⟩ := Option.map_eq_some_iff.mp here
      simp only [retains, found, Option.all_some] at retained
      exact Option.isNone_iff_eq_none.mp retained
  | @closes id event losing =>
      simp only [retains, losing] at retained
      cases retained
  | departs found departed =>
      rw [stayed found] at departed
      cases departed
  | removes found departed =>
      rw [stayed found] at departed
      cases departed

/-- What a run that keeps what is bound knows about its record. -/
structure PoolView.Recorded (view : PoolView) (acquired : List Acquisition) : Prop where
  lasting : view.Lasting
  keyed : view.Keyed
  booked : view.Booked acquired

namespace RetainedStep

variable {view next : PoolView} {added acquired : List Acquisition}

theorem recorded (step : RetainedStep config view next added) (pooled : view.Pooled config)
    (recorded : view.Recorded acquired) : next.Recorded (added ++ acquired) := by
  obtain ⟨lasting, keyed, booked⟩ := recorded
  cases step with
  | quiet => exact ⟨lasting, keyed, booked⟩
  | @begins session unknown =>
      refine ⟨⟨lasting.opened, fun other pc found => ?_⟩, ⟨keyed.below, keyed.alone, keyed.nodup⟩,
        booked.begins unknown rfl rfl⟩
      rcases PoolView.pcs_setPc found with ⟨-, rfl⟩ | ⟨-, earlier⟩
      · rfl
      · exact lasting.level other pc earlier
  | call here still step =>
      exact ⟨lasting.step still step here, keyed.step pooled step here,
        booked.step pooled keyed lasting still here step⟩

theorem fits (step : RetainedStep config view next added) (pooled : view.Pooled config)
    (lasting : view.Lasting) (fits : next.Fits) : view.Fits := by
  cases step with
  | quiet => exact fits
  | begins unknown => exact fits
  | call here still step => exact fits.before pooled still lasting here step

theorem weighed (step : RetainedStep config view next added) (pooled : view.Pooled config)
    (counted : view.Counted) (recorded : view.Recorded acquired) (fits : view.Fits)
    (weighed : view.Weighed config acquired) : next.Weighed config (added ++ acquired) := by
  obtain ⟨lasting, keyed, booked⟩ := recorded
  cases step with
  | quiet => exact weighed
  | begins unknown => exact weighed.begins rfl
  | call here still step =>
      exact weighed.step pooled counted keyed lasting booked fits still here step

end RetainedStep

/-- What holds in every run that keeps what is bound. -/
structure Retained (config : ClientConfig) (state : Acquiring) : Prop where
  running : state.client.status = .running
  recorded : state.client.poolView.Recorded state.acquired
  weighed : state.client.poolView.Fits →
    state.client.poolView.Weighed config state.acquired

theorem retained_of_reachable
    (reach : (acquiringSystem config).ReachableWhile
      (fun state label => retains state label = true) state) : Retained config state := by
  refine invariant_of_reachable_step (Retained config) ?_ ?_ reach
  · rintro _ rfl
    refine ⟨rfl, ⟨⟨?_, ?_⟩, ⟨?_, ?_, fun _ => List.nodup_nil⟩, ⟨?_, ?_, List.nodup_nil, ?_, ?_⟩⟩,
      fun _ => ⟨fun _ => .none, ?_, ?_⟩⟩
    · rintro id account ⟨⟩
    · rintro session pc ⟨⟩
    · rintro endpoint pool ⟨⟩
    · rintro one two pool ⟨⟩
    · rintro acquisition ⟨⟩
    · rintro acquisition ⟨⟩
    · rintro id endpoint sessions ⟨⟩
    · rintro pool id ⟨⟩
    · rintro session pc id ⟨⟩
    · rintro session pc ⟨⟩
  · intro before label _ earlier retained met stepped
    obtain ⟨after, moved, rfl⟩ := Option.map_eq_some_iff.mp stepped
    have reach := client_of_acquiring earlier
    have pooled := pooled_of_reachable reach retained.running
    have counted := counted_of_reachable reach retained.running
    have lasting := retained.recorded.lasting
    have step := retained_step pooled lasting met moved
    refine ⟨?_, step.recorded pooled retained.recorded, fun fits => ?_⟩
    · refine (status_of_step moved ?_).trans retained.running
      rintro rfl
      cases met
    · have fitted := step.fits pooled lasting fits
      exact step.weighed pooled counted retained.recorded fitted (retained.weighed fitted)

/-! ## The pools -/

/-- The pools of a Client: a pool has no more connections than it may have and all
of its endpoint that are not closed, no Session is bound to two connections, and
the counter of a connection that is not closed counts its bound set whenever no
call is between the two. -/
structure SoundPools (config : ClientConfig) (client : ClientInner) : Prop where
  bounded : ∀ endpoint pool, client.pools.lookup endpoint = some pool →
    (client.poolConnections pool).length ≤ config.maxConnectionsPerEndpoint
  pooled : ∀ id connection, client.connections id = some connection →
    connection.closed = false → ∃ pool, client.pools.lookup connection.endpoint = some pool ∧
      id ∈ client.poolConnections pool
  once : ∀ session one two first second, client.connections one = some first →
    client.connections two = some second → session ∈ first.sessions →
    session ∈ second.sessions → one = two
  counted : ∀ id connection, client.connections id = some connection →
    connection.closed = false →
    (∀ session call, client.calls session = some call →
      call.pc.raises? ≠ some id ∧ call.pc.lowers? ≠ some id) →
    connection.sessions.Nodup ∧
      connection.boundSessions = UInt64.ofNat connection.sessions.length

/-- The acquisitions for every endpoint: each is by another Session, they use as
many connections as possible, evenly, and the bound set of a connection that nobody
is acquiring holds as many Sessions as have acquired it. -/
structure EvenPools (config : ClientConfig) (state : Acquiring) : Prop where
  distinct : (state.acquired.map Acquisition.session).Nodup
  spread : ∀ endpoint,
    Spread config.maxConnectionsPerEndpoint (acquiredFor state.acquired endpoint)
  loads : ∀ id connection, state.client.connections id = some connection →
    (∀ session call, state.client.calls session = some call → call.pc.bindsTo? ≠ some id) →
    connection.sessions.length = (acquiredFor state.acquired connection.endpoint).count id

/-- `HashSet::len` of every bound set is a `usize`. -/
def ClientInner.Countable (client : ClientInner) : Prop :=
  ∀ id connection, client.connections id = some connection →
    connection.sessions.length < UInt64.size

theorem soundPools_of_reachable {client : ClientInner}
    (reach : (clientSystem config).Reachable client) (running : client.status = .running) :
    SoundPools config client := by
  have pooled := pooled_of_reachable reach running
  have counted := counted_of_reachable reach running
  have account : ∀ {id connection}, client.connections id = some connection →
      client.poolView.accounts id = some connection.account :=
    fun found => congrArg (Option.map TransportConnection.account) found
  refine ⟨fun endpoint pool _ => pooled.few pool, ?_, ?_, ?_⟩
  · intro id connection found opened
    have open' : client.poolView.isClosed id = false := by
      rw [PoolView.isClosed, account found]
      exact opened
    obtain ⟨pool, belongs, member⟩ := pooled.pooled id open'
    rw [PoolView.home, account found] at belongs
    exact ⟨pool, belongs, member⟩
  · intro session one two first second found found' member member'
    have binding : ∀ {id : Nat} {connection : TransportConnection},
        client.connections id = some connection → session ∈ connection.sessions →
        client.Holds id session := by
      intro id connection found member
      exact ⟨connection.binding, congrArg (Option.map TransportConnection.binding) found, member⟩
    exact holds_once reach (binding found member) (binding found' member')
  · intro id connection found opened between
    refine counted.settled (fun session pc here => ?_) (account found) opened
    obtain ⟨call, known, rfl⟩ := Option.map_eq_some_iff.mp here
    exact between session call known

theorem evenPools_of_reachable
    (reach : (acquiringSystem config).ReachableWhile
      (fun state label => retains state label = true) state)
    (countable : state.client.Countable) : EvenPools config state := by
  have retained := retained_of_reachable reach
  obtain ⟨lasting, keyed, booked⟩ := retained.recorded
  have counted := counted_of_reachable (client_of_acquiring reach) retained.running
  have fits : state.client.poolView.Fits := by
    intro id endpoint sessions found
    obtain ⟨account, present, pair⟩ := Option.map_eq_some_iff.mp found
    obtain ⟨connection, known, rfl⟩ := Option.map_eq_some_iff.mp present
    cases pair
    exact countable id connection known
  refine ⟨booked.distinct, fun endpoint => ((retained.weighed fits).chosen endpoint).spread, ?_⟩
  intro id connection found free
  have account : state.client.poolView.accounts id = some connection.account :=
    congrArg (Option.map TransportConnection.account) found
  have set : state.client.poolView.sets id = some (connection.endpoint, connection.sessions) := by
    rw [PoolView.sets, account]
    rfl
  refine booked.load set (counted.nodup id _ account (lasting.opened id _ account)) ?_
  intro session pc here
  obtain ⟨call, known, rfl⟩ := Option.map_eq_some_iff.mp here
  exact free session call known

/-- On a running Client every pool is bounded and holds what is not closed, every
Session is bound once and every counter counts its bound set; and in a run that
unbinds no Session and loses no connection the acquisitions for an endpoint are
spread evenly over as many connections as it may have. -/
theorem pools_are_bounded_and_even :
    (∀ client, (clientSystem config).Reachable client → client.status = .running →
      SoundPools config client) ∧
    ∀ state, (acquiringSystem config).ReachableWhile
        (fun state label => retains state label = true) state →
      state.client.Countable → EvenPools config state :=
  ⟨fun _ => soundPools_of_reachable, fun _ => evenPools_of_reachable⟩

/-- A Client with fewer than `2 ^ 64` Sessions has no larger bound sets. -/
theorem countable_of_begun
    (reach : (acquiringSystem config).ReachableWhile
      (fun state label => retains state label = true) state)
    (few : state.client.begun.length < UInt64.size) : state.client.Countable := by
  intro id connection found
  have earlier := client_of_acquiring reach
  have retained := retained_of_reachable reach
  have account : state.client.poolView.accounts id = some connection.account :=
    congrArg (Option.map TransportConnection.account) found
  have nodup : connection.sessions.Nodup :=
    (counted_of_reachable earlier retained.running).nodup id _ account
      (retained.recorded.lasting.opened id _ account)
  have subset : ∀ session ∈ connection.sessions, session ∈ state.client.begun := by
    intro session member
    obtain ⟨call, known, -⟩ := (Tidy.reachable earlier).bound id session
      ⟨connection.binding, congrArg (Option.map TransportConnection.binding) found, member⟩
    exact (PendingOk.reachable earlier).begun session call known
  exact Nat.lt_of_le_of_lt (nodup.subperm subset).length_le few

/-- A call that opens a new connection, or finds so many in a full pool. -/
def acquires (session : SessionId) (members : Nat) (full : Bool) : List ClientEvent :=
  [.begin session cartAddress, .call session (.reply (.owner (.ok none))),
    .call session (.nodes [shop "node-a" "host-a"] ["host-a"])] ++
    .replicate (3 + members) (.call session .advance) ++
    (if full then .replicate (members + 1) (.call session .advance)
      else [.call session .connected]) ++ .replicate 3 (.call session .advance)

/-- Three Sessions for a Server that may have two connections. -/
def threeSessions : List ClientEvent :=
  acquires ⟨1⟩ 0 false ++ acquires ⟨2⟩ 1 false ++ acquires ⟨3⟩ 2 true

theorem three_sessions_are_spread :
    ∃ state, acquiredFor state.acquired "host-a" = [1, 2, 1] ∧
      SoundPools storefront state.client ∧ EvenPools storefront state := by
  have reach := @reachableWhile_of_run? _ _ (acquiringSystem storefront)
    (fun state label => retains state label = true) _ _ threeSessions (.start rfl)
    (meets_of_meets? rfl) rfl
  refine ⟨_, rfl, (pools_are_bounded_and_even).1 _ (client_of_acquiring reach) rfl,
    (pools_are_bounded_and_even).2 _ reach (countable_of_begun reach (by decide))⟩

end Coactor.Client
