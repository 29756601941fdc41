import Mathlib.Data.UInt
import Coactor.Foundation.Occupancy
import Coactor.Client.PoolBounds
import Coactor.Client.Residue

/-!
# Counters of bound Sessions

The bound set of a connection and its counter change in two steps.  Between them
the counter is behind, by the calls that have bound and not yet counted and by
those that have unbound and not yet counted.
-/

namespace Coactor.Client

open Coactor.Foundation
open Coactor.Foundation.Transition
open Coactor.Runtime

variable {config : ClientConfig} {view result : PoolView} {session : SessionId}
  {event : OpenEvent} {pc next : OpenPc} {id : Nat}

/-! ## Calls between a bound set and its counter -/

/-- The call has bound its Session to this connection and not yet counted it. -/
def raisesAt (id : Nat) (pc : Option OpenPc) : Bool :=
  pc.any fun pc => decide (pc.raises? = some id)

/-- The call has unbound its Session from this connection and not yet counted it. -/
def lowersAt (id : Nat) (pc : Option OpenPc) : Bool :=
  pc.any fun pc => decide (pc.lowers? = some id)

namespace PoolView

/-- How many calls still have to raise a counter. -/
noncomputable def raising (view : PoolView) (id : Nat) : Nat := occupancy (raisesAt id) view.pcs

/-- How many calls still have to lower a counter. -/
noncomputable def lowering (view : PoolView) (id : Nat) : Nat := occupancy (lowersAt id) view.pcs

/-- The counter of an open connection is as far behind its bound set as there are
calls between the two. -/
structure Counted (view : PoolView) : Prop where
  finite : (occupied Option.isSome view.pcs).Finite
  lowered : ∀ session pc id, view.pcs session = some pc → pc.lowers? = some id →
    view.accounts id ≠ none
  nodup : ∀ id account, view.accounts id = some account → account.closed = false →
    account.sessions.Nodup
  counted : ∀ id account, view.accounts id = some account → account.closed = false →
    account.boundSessions + UInt64.ofNat (view.raising id) =
      UInt64.ofNat account.sessions.length + UInt64.ofNat (view.lowering id)

/-- No call stands between the bound set of a connection and its counter. -/
def Settled (view : PoolView) (id : Nat) : Prop :=
  ∀ session pc, view.pcs session = some pc → pc.raises? ≠ some id ∧ pc.lowers? ≠ some id

theorem raising_eq_zero (settled : ∀ session pc, view.pcs session = some pc →
    pc.raises? ≠ some id) : view.raising id = 0 := by
  rw [raising, occupancy, occupied_eq_empty, Set.ncard_empty]
  intro session
  cases found : view.pcs session with
  | none => rfl
  | some pc => exact decide_eq_false (settled session pc found)

theorem lowering_eq_zero (settled : ∀ session pc, view.pcs session = some pc →
    pc.lowers? ≠ some id) : view.lowering id = 0 := by
  rw [lowering, occupancy, occupied_eq_empty, Set.ncard_empty]
  intro session
  cases found : view.pcs session with
  | none => rfl
  | some pc => exact decide_eq_false (settled session pc found)

/-- The counter of a connection that nobody is binding to or unbinding from. -/
theorem Counted.settled (counted : view.Counted) (settled : view.Settled id) {account : Account}
    (found : view.accounts id = some account) (open' : account.closed = false) :
    account.sessions.Nodup ∧ account.boundSessions = UInt64.ofNat account.sessions.length := by
  have same := counted.counted id account found open'
  rw [raising_eq_zero fun session pc here => (settled session pc here).1,
    lowering_eq_zero fun session pc here => (settled session pc here).2] at same
  refine ⟨counted.nodup id account found open', ?_⟩
  simpa using same

namespace Counted

theorem finite_at {held : Option OpenPc → Bool} (counted : view.Counted)
    (none : held none = false) : (occupied held view.pcs).Finite := by
  refine counted.finite.subset fun session holds => ?_
  change held (view.pcs session) = true at holds
  change (view.pcs session).isSome = true
  cases found : view.pcs session with
  | none =>
      rw [found, none] at holds
      cases holds
  | some pc => rfl

/-- A step of a call trades what it lets a counter be behind. -/
theorem raising_setPc (counted : view.Counted) (id : Nat) :
    UInt64.ofNat ((view.setPc session next).raising id) +
        UInt64.ofNat (raisesAt id (view.pcs session)).toNat =
      UInt64.ofNat (view.raising id) + UInt64.ofNat (raisesAt id (some next)).toNat := by
  rw [← UInt64.ofNat_add, ← UInt64.ofNat_add]
  exact congrArg UInt64.ofNat (occupancy_update (counted.finite_at rfl))

theorem lowering_setPc (counted : view.Counted) (id : Nat) :
    UInt64.ofNat ((view.setPc session next).lowering id) +
        UInt64.ofNat (lowersAt id (view.pcs session)).toNat =
      UInt64.ofNat (view.lowering id) + UInt64.ofNat (lowersAt id (some next)).toNat := by
  rw [← UInt64.ofNat_add, ← UInt64.ofNat_add]
  exact congrArg UInt64.ofNat (occupancy_update (counted.finite_at rfl))

/-- A step of a call, from what it does to one connection after the other. -/
theorem callStep (counted : view.Counted) (pcs : result.pcs = view.pcs)
    (known : ∀ id, view.accounts id ≠ none → result.accounts id ≠ none)
    (lowered : ∀ id, next.lowers? = some id → result.accounts id ≠ none)
    (nodup : ∀ id account, result.accounts id = some account → account.closed = false →
      account.sessions.Nodup)
    (each : ∀ id now, result.accounts id = some now → now.closed = false →
      (view.accounts id = none ∧ now.sessions = [] ∧ now.boundSessions = 0 ∧
        (result.setPc session next).Settled id) ∨
      ∃ account, view.accounts id = some account ∧ account.closed = false ∧
        now.boundSessions + UInt64.ofNat account.sessions.length +
            UInt64.ofNat (raisesAt id (some next)).toNat +
            UInt64.ofNat (lowersAt id (view.pcs session)).toNat =
          account.boundSessions + UInt64.ofNat now.sessions.length +
            UInt64.ofNat (raisesAt id (view.pcs session)).toNat +
            UInt64.ofNat (lowersAt id (some next)).toNat) :
    (result.setPc session next).Counted where
  finite := by
    simp only [setPc, pcs]
    exact finite_update counted.finite
  lowered other current id found lowers := by
    rcases pcs_setPc found with ⟨-, rfl⟩ | ⟨-, earlier⟩
    · exact lowered id lowers
    · exact known id (counted.lowered other current id (pcs ▸ earlier) lowers)
  nodup := nodup
  counted id now found open' := by
    rcases each id now found open' with ⟨-, empty, zero, settled⟩ | ⟨account, before, was, trade⟩
    · rw [raising_eq_zero fun other pc here => (settled other pc here).1,
        lowering_eq_zero fun other pc here => (settled other pc here).2, empty, zero]
      rfl
    · have same := counted.counted id account before was
      have raised := @raising_setPc view session next counted id
      have lowered := @lowering_setPc view session next counted id
      have raising : (result.setPc session next).raising id =
          (view.setPc session next).raising id := by
        simp only [PoolView.raising, setPc, pcs]
      have lowering : (result.setPc session next).lowering id =
          (view.setPc session next).lowering id := by
        simp only [PoolView.lowering, setPc, pcs]
      rw [raising, lowering]
      grind

/-- A step that changes no bound set and no counter. -/
theorem levels (counted : view.Counted) (here : view.pcs session = some pc)
    (pcs : result.pcs = view.pcs) (accounts : result.accounts = view.accounts)
    (raises : next.raises? = pc.raises?) (lowers : next.lowers? = pc.lowers?) :
    (result.setPc session next).Counted := by
  refine counted.callStep pcs ?_ ?_ ?_ ?_
  · rw [accounts]
    exact fun _ => id
  · rw [accounts, lowers]
    exact fun other => counted.lowered session pc other here
  · rw [accounts]
    exact counted.nodup
  · rw [accounts, here]
    intro other account found open'
    refine .inr ⟨account, found, open', ?_⟩
    simp only [raisesAt, lowersAt, Option.any_some, raises, lowers]

/-- A step that changes the bound set or the counter of one connection. -/
theorem adjusts (counted : view.Counted) (here : view.pcs session = some pc)
    {change : Account → Account} (closed : ∀ account, (change account).closed = account.closed)
    (nodup : ∀ account, view.accounts id = some account → account.sessions.Nodup →
      (change account).sessions.Nodup)
    (lowered : ∀ other, next.lowers? = some other → view.accounts other ≠ none)
    (raises : ∀ other, other ≠ id → pc.raises? ≠ some other ∧ next.raises? ≠ some other)
    (lowers : ∀ other, other ≠ id → pc.lowers? ≠ some other ∧ next.lowers? ≠ some other)
    (trade : ∀ account, view.accounts id = some account → account.sessions.Nodup →
      (change account).boundSessions + UInt64.ofNat account.sessions.length +
          UInt64.ofNat (raisesAt id (some next)).toNat +
          UInt64.ofNat (lowersAt id (some pc)).toNat =
        account.boundSessions + UInt64.ofNat (change account).sessions.length +
          UInt64.ofNat (raisesAt id (some pc)).toNat +
          UInt64.ofNat (lowersAt id (some next)).toNat) :
    ((view.adjust id change).setPc session next).Counted := by
  refine counted.callStep rfl (fun _ => adjust_ne_none)
    (fun other found => adjust_ne_none (lowered other found)) ?_ ?_
  · intro other now found open'
    rcases accounts_adjust found with ⟨rfl, account, before, rfl⟩ | ⟨-, before⟩
    · exact nodup account before (counted.nodup other account before ((closed account).symm.trans open'))
    · exact counted.nodup other now before open'
  · intro other now found open'
    rw [here]
    rcases accounts_adjust found with ⟨rfl, account, before, rfl⟩ | ⟨own, before⟩
    · have was := (closed account).symm.trans open'
      exact .inr ⟨account, before, was, trade account before (counted.nodup other account before was)⟩
    · refine .inr ⟨now, before, open', ?_⟩
      obtain ⟨raisesNot, raisesNot'⟩ := raises other own
      obtain ⟨lowersNot, lowersNot'⟩ := lowers other own
      simp [raisesAt, lowersAt, raisesNot, raisesNot', lowersNot, lowersNot']

theorem length_filter_ne {sessions : List SessionId} (nodup : sessions.Nodup)
    (member : session ∈ sessions) :
    (sessions.filter (· != session)).length + 1 = sessions.length := by
  rw [← nodup.erase_eq_filter]
  exact List.length_erase_add_one member

theorem apart_level {pc : OpenPc} (apart : pc.isApart = true) :
    pc.raises? = none ∧ pc.lowers? = none := by
  obtain ⟨unlooked, level⟩ := OpenPc.isApart_iff.mp apart
  exact ⟨OpenPc.raises?_eq_none unlooked, level⟩

theorem step (counted : view.Counted) (pooled : view.Pooled config)
    (here : view.pcs session = some pc)
    (step : PoolStep config view session event pc next result) :
    (result.setPc session next).Counted := by
  cases step with
  | stays | locks | sieves | few | full | weighs | chooses | finds | returns =>
      exact counted.levels here rfl rfl rfl rfl
  | apart unheld level there =>
      obtain ⟨raises, lowers⟩ := apart_level there
      refine counted.levels here rfl rfl (raises.trans ?_) (lowers.trans level.symm)
      cases pc with
      | counting => cases unheld
      | _ => rfl
  | @enters target =>
      obtain ⟨pcs, accounts, -⟩ := pool_same view target.endpoint
      exact counted.levels here pcs accounts rfl rfl
  | @connects target pool =>
      have unknown := pooled.known view.nextConnection (Nat.le_refl _)
      have old : ∀ {other}, view.accounts other ≠ none →
          (view.connect target.endpoint pool).accounts other = view.accounts other := by
        intro other present
        refine Function.update_of_ne ?_ _ _
        rintro rfl
        exact present unknown
      refine counted.callStep rfl ?_ (by rintro other ⟨⟩) ?_ ?_
      · intro other present
        rw [old present]
        exact present
      · intro other account found open'
        rcases accounts_connect found with ⟨-, rfl⟩ | ⟨-, earlier⟩
        · exact List.nodup_nil
        · exact counted.nodup other account earlier open'
      · intro other now found open'
        rcases accounts_connect found with ⟨rfl, rfl⟩ | ⟨-, earlier⟩
        · refine .inl ⟨unknown, rfl, rfl, ?_⟩
          intro current pc found
          rcases pcs_setPc found with ⟨-, rfl⟩ | ⟨-, earlier⟩
          · exact ⟨by rintro ⟨⟩, by rintro ⟨⟩⟩
          · constructor
            · intro raises
              cases pc with
              | counting target pool connection =>
                  cases raises
                  have home := pooled.returned current _ view.nextConnection earlier rfl
                  rw [PoolView.home, unknown] at home
                  cases home
              | _ => cases raises
            · intro lowers
              exact counted.lowered current pc _ earlier lowers unknown
        · refine .inr ⟨now, earlier, open', ?_⟩
          rw [here]
          simp [raisesAt, lowersAt, OpenPc.raises?, OpenPc.lowers?]
  | releases held there unbound =>
      obtain ⟨raises, lowers⟩ := apart_level there
      refine counted.levels here rfl rfl (raises.trans ?_) (lowers.trans ?_)
      · cases pc with
        | counting => cases unbound
        | _ => rfl
      · cases pc with
        | uncounting | dropUncounting => cases held
        | _ => rfl
  | @binds target pool connection unbound =>
      refine counted.adjusts here ?_ ?_ (by rintro other ⟨⟩) ?_ ?_ ?_
      · exact fun _ => rfl
      · intro account found nodup
        rw [isBound, found, Option.any_some] at unbound
        exact List.nodup_append.mpr ⟨nodup, List.nodup_singleton session, by
          rintro other member one first rfl
          rw [List.mem_singleton.mp first] at member
          exact of_decide_eq_false unbound member⟩
      · intro other own
        refine ⟨by rintro ⟨⟩, ?_⟩
        rintro ⟨⟩
        exact own rfl
      · exact fun other own => ⟨by rintro ⟨⟩, by rintro ⟨⟩⟩
      · intro account found nodup
        simp only [raisesAt, lowersAt, Option.any_some, OpenPc.raises?, OpenPc.lowers?,
          List.length_append, UInt64.ofNat_add]
        simp
        grind
  | @counts target pool connection =>
      refine counted.adjusts here ?_ (fun _ _ nodup => nodup) (by rintro other ⟨⟩) ?_ ?_ ?_
      · exact fun _ => rfl
      · intro other own
        refine ⟨?_, by rintro ⟨⟩⟩
        rintro ⟨⟩
        exact own rfl
      · exact fun other own => ⟨by rintro ⟨⟩, by rintro ⟨⟩⟩
      · intro account found nodup
        simp [raisesAt, lowersAt, OpenPc.raises?, OpenPc.lowers?]
        grind
  | @unbinds _ _ connection unbinding there bound =>
      obtain ⟨raises, level⟩ := apart_level (OpenPc.isApart_of_unbinds unbinding)
      have raises' := OpenPc.raises?_eq_none (OpenPc.lookedUp?_eq_none there)
      obtain ⟨account, found, member⟩ := (Option.any_eq_true _ _).mp bound
      refine counted.adjusts here ?_ (fun _ _ nodup => nodup.filter _) ?_ ?_ ?_ ?_
      · exact fun _ => rfl
      · intro other lowers
        rw [there] at lowers
        cases lowers
        rw [found]
        rintro ⟨⟩
      · intro other own
        rw [raises, raises']
        exact ⟨by rintro ⟨⟩, by rintro ⟨⟩⟩
      · intro other own
        rw [level, there]
        refine ⟨by rintro ⟨⟩, ?_⟩
        rintro ⟨⟩
        exact own rfl
      · intro other present nodup
        obtain rfl := Option.some.inj (present.symm.trans found)
        have shorter := congrArg UInt64.ofNat
          (length_filter_ne nodup (of_decide_eq_true member))
        rw [UInt64.ofNat_add] at shorter
        simp only [raisesAt, lowersAt, Option.any_some, raises, raises', level, there]
        simp
        grind
  | @lowers _ _ connection lowering there =>
      obtain ⟨raises, level⟩ := apart_level there
      have raises' := OpenPc.raises?_eq_none (OpenPc.lookedUp?_eq_none lowering)
      refine counted.adjusts here ?_ (fun _ _ nodup => nodup) ?_ ?_ ?_ ?_
      · exact fun _ => rfl
      · rw [level]
        rintro other ⟨⟩
      · intro other own
        rw [raises, raises']
        exact ⟨by rintro ⟨⟩, by rintro ⟨⟩⟩
      · intro other own
        rw [level, lowering]
        refine ⟨?_, by rintro ⟨⟩⟩
        rintro ⟨⟩
        exact own rfl
      · intro account found nodup
        simp only [raisesAt, lowersAt, Option.any_some, raises, raises', level, lowering]
        simp
        grind

/-- A step that changes no call and no open connection. -/
theorem aside (counted : view.Counted) (pcs : result.pcs = view.pcs)
    (known : ∀ id, view.accounts id ≠ none → result.accounts id ≠ none)
    (accounts : ∀ id account, result.accounts id = some account → account.closed = false →
      view.accounts id = some account) : result.Counted where
  finite := by
    rw [pcs]
    exact counted.finite
  lowered other current id found lowers :=
    known id (counted.lowered other current id (pcs ▸ found) lowers)
  nodup id account found open' := counted.nodup id account (accounts id account found open') open'
  counted id account found open' := by
    have same := counted.counted id account (accounts id account found open') open'
    simp only [raising, lowering, pcs] at same ⊢
    exact same

/-- A step that changes a connection which is closed afterwards. -/
theorem closes (counted : view.Counted) {change : Account → Account}
    (closed : ∀ account, view.accounts id = some account → (change account).closed = true) :
    (view.adjust id change).Counted := by
  refine counted.aside rfl (fun _ => adjust_ne_none) fun other account found open' => ?_
  rcases accounts_adjust found with ⟨rfl, before, present, rfl⟩ | ⟨-, earlier⟩
  · rw [closed before present] at open'
    cases open'
  · exact earlier

theorem begins (counted : view.Counted) (unknown : view.pcs session = none)
    (raises : next.raises? = none) (lowers : next.lowers? = none) :
    (view.setPc session next).Counted := by
  refine counted.callStep rfl (fun _ present => present) ?_ counted.nodup ?_
  · rw [lowers]
    rintro other ⟨⟩
  · intro other account found open'
    rw [unknown]
    refine .inr ⟨account, found, open', ?_⟩
    simp only [raisesAt, lowersAt, Option.any_some, raises, lowers]
    rfl

end Counted

end PoolView

/-! ## Running Clients -/

variable {client after : ClientInner}

theorem PoolMove.counted {label : ClientEvent} (pooled : client.poolView.Pooled config)
    (counted : client.poolView.Counted) (move : PoolMove config client label view) :
    view.Counted := by
  cases move with
  | quiet => exact counted
  | begins unknown => exact counted.begins unknown rfl rfl
  | call here step => exact counted.step pooled here step
  | closes losing => exact counted.closes fun _ _ => rfl
  | @departs id event account found departed change endpoint closed =>
      refine counted.closes fun other present => ?_
      obtain rfl := Option.some.inj (present.symm.trans found)
      have ended := pooled.departed id
      rw [PoolView.hasDeparted, PoolView.isClosed, found] at ended
      rw [closed]
      exact ended departed
  | removes => exact counted.aside rfl (fun _ present => present) fun _ _ found _ => found

theorem counted_of_reachable (reach : (clientSystem config).Reachable client)
    (running : client.status = .running) : client.poolView.Counted := by
  refine invariant_of_reachable_step
    (fun client : ClientInner => client.status = .running → client.poolView.Counted) ?_ ?_ reach
    running
  · rintro _ rfl -
    refine ⟨?_, ?_, ?_, ?_⟩
    · refine Set.Finite.subset Set.finite_empty ?_
      rintro session ⟨⟩
    · rintro session pc id ⟨⟩
    · rintro id account ⟨⟩
    · rintro id account ⟨⟩
  · intro before label after earlier counted _ stepped running
    obtain ⟨started, open'⟩ := running_before earlier stepped running
    exact (ClientInner.step?_pools open' stepped).counted (pooled_of_reachable earlier started)
      (counted started)

/-! ## Bound sets apart from each other -/

/-- A Session is added to the bound set of a connection only by its own call. -/
theorem ResourceMove.holds_before {onward : OpenPc} (move : ResourceMove client after session pc onward)
    {other : SessionId} (holds : after.Holds id other) :
    client.Holds id other ∨
      (other = session ∧ ∃ target pool, pc = .binding target pool id) := by
  cases move with
  | keeps same | locked same | rebound same | unbound same | abandons same =>
      exact .inl (holds_same same.bindings holds)
  | pooled bindings | retained bindings | unregisters bindings =>
      exact .inl (holds_same bindings holds)
  | connected bindings =>
      obtain ⟨binding, found, member⟩ := holds
      rw [bindings] at found
      by_cases same : id = client.nextConnection
      · rw [same, Function.update_self, Option.some.injEq] at found
        rw [← found] at member
        cases member
      · rw [Function.update_of_ne same] at found
        exact .inl ⟨binding, found, member⟩
  | @bound target pool connection bindings =>
      rcases holds_update bindings holds with old | ⟨rfl, binding, known, member⟩
      · exact .inl old
      · rcases List.mem_append.mp member with earlier | new
        · exact .inl ⟨binding, known, earlier⟩
        · exact .inr ⟨List.mem_singleton.mp new, target, pool, rfl⟩
  | unbinds bound bindings =>
      rcases holds_update bindings holds with old | ⟨rfl, binding, known, member⟩
      · exact .inl old
      · exact .inl ⟨binding, known, (List.mem_filter.mp member).1⟩

/-- No Session is in two bound sets. -/
theorem holds_once (reach : (clientSystem config).Reachable client) {one two : Nat}
    (first : client.Holds one session) (second : client.Holds two session) : one = two := by
  refine invariant_of_reachable_step (fun client : ClientInner => ∀ one two session,
    client.Holds one session → client.Holds two session → one = two) ?_ ?_ reach one two session
      first second
  · rintro _ rfl one two session ⟨binding, ⟨⟩, -⟩
  · intro before label after earlier once _ stepped one two session first second
    have effect := ClientInner.step?_effect stepped
    cases effect with
    | begin unknown calls cache receivers fades =>
        exact once one two session (fades.holds first) (fades.holds second)
    | other outside calls cache receivers fades =>
        exact once one two session (fades.holds first) (fades.holds second)
    | @call own event call next found effect =>
        have unbound : ∀ {id target pool other}, before.Holds id own →
            call.pc ≠ .binding target pool other := by
          intro id target pool other holds here
          obtain ⟨current, known, bound⟩ := (Tidy.reachable earlier).bound id own holds
          obtain rfl := Option.some.inj (found.symm.trans known)
          rw [here] at bound
          rcases bound with none | gone
          · cases none
          · cases gone
        rcases effect.resources.holds_before first with old | ⟨rfl, target, pool, here⟩
        · rcases effect.resources.holds_before second with old' | ⟨rfl, target, pool, here⟩
          · exact once one two session old old'
          · exact absurd here (unbound old)
        · rcases effect.resources.holds_before second with old' | ⟨-, target', pool', there⟩
          · exact absurd here (unbound old')
          · rw [here] at there
            cases there
            rfl

end Coactor.Client
