import Coactor.Coordination.LeaseExclusion

/-!
# Leases and authority with sub-millisecond instants

A stored lease ends at a whole millisecond, the authority of its session at the
nanosecond, and the lease may end first.  What is left of the exclusion is this:
a session whose authority is valid and that has not given its lease back finds a
lease of its own in the store, as long as no session takes over a lease whose
session may still be valid, and no renewal is taken up late.
-/

namespace Coactor.Coordination

open Coactor.Foundation.Transition
open Coactor.Foundation.ConditionalStore

variable {leases : LeaseStamp} {configs : NodeSessionId → ServerRuntimeConfig}
variable {state after : LeaseState}

/-! ## Sessions whose term is over -/

/-- The authority of a session, or the one that `start` would construct for the
operation under way. -/
def NodeSession.prospect? (session : NodeSession) : Option NodeAuthority :=
  match session.authority with
  | some authority => some authority
  | none => session.phase.started?.map fun started => .new started session.config.nodeLeaseTtl

/-- Neither the authority of a session nor the one it may construct is valid. -/
def NodeSession.TermOver (session : NodeSession) (now : Nat) : Prop :=
  ∀ authority, session.prospect? = some authority → authority.isValid now = false

theorem NodeSession.TermOver.later {session : NodeSession} {now later : Nat}
    (ended : session.TermOver now) (forward : now ≤ later) : session.TermOver later := by
  intro authority prospect
  have invalid := ended authority prospect
  rw [← Bool.not_eq_true, NodeAuthority.isValid_iff] at invalid ⊢
  exact fun valid => invalid ⟨valid.1, Nat.lt_of_le_of_lt forward valid.2⟩

theorem NodeSession.TermOver.invalid {session : NodeSession} {now : Nat}
    (ended : session.TermOver now) : session.authorityValid now = false := by
  rw [← Bool.not_eq_true, NodeSession.authorityValid_iff]
  rintro ⟨authority, constructed, valid⟩
  have invalid := ended authority (by rw [NodeSession.prospect?, constructed])
  rw [← Bool.not_eq_true, NodeAuthority.isValid_iff] at invalid
  exact invalid valid

/-- No renewal is taken up late, and no lease is taken over that has expired in
milliseconds while the authority of its session is, or may become, valid, unless
the session is giving it back. -/
structure Tenable (leases : LeaseStamp) (state : LeaseState) (label : LeaseLabel) : Prop where
  takesUp : ∀ id input, label = .session id input →
    AuthorityLoss.Timely ⟨state.now, state.sessions id⟩ (.input input)
  takesOver : ∀ id node started revision expiresAt object, label = .session id .advance →
    (state.sessions id).phase = .inspected node started (some (revision, expiresAt)) →
    expiresAt ≤ wallTimeMillis (state.now / nanosPerMilli) →
    state.store.objects (state.sessions id).config.nodeId = some object →
    object.revision leases.stamp = revision →
    (state.sessions object.body.node.sessionId).released = false →
      (state.sessions object.body.node.sessionId).TermOver state.now

section Session

variable {id : NodeSessionId} {label : LeaseLabel}

/-- A session that has written its lease does not begin a new term before it is
started. -/
theorem prospect?_step {input : LeaseInput} {session : NodeSession}
    (ok : SessionOk leases state.store state.now id (state.sessions id))
    (wrote : ¬ NoWrites state.store id) (missing : (state.sessions id).authority = none)
    (stepped : (state.sessions id).step? id state.now input = some session)
    {authority : NodeAuthority} (prospect : session.prospect? = some authority) :
    (state.sessions id).prospect? = some authority := by
  rw [NodeSession.prospect?, missing]
  cases constructed : session.authority with
  | none =>
      simp only [NodeSession.prospect?, constructed, Option.map_eq_some_iff] at prospect
      obtain ⟨started, kept, rfl⟩ := prospect
      rcases step?_started stepped kept with earlier | ⟨-, drafted⟩
      · rw [earlier, step?_config stepped]
        rfl
      · obtain ⟨node, hphase⟩ := drafted missing
        have phase := ok.phase
        rw [hphase] at phase
        exact absurd phase.2 wrote
  | some made =>
      simp only [NodeSession.prospect?, constructed, Option.some.injEq] at prospect
      subst prospect
      rcases AuthorityLoss.step?_constructs missing stepped with
        none | ⟨node, started, revision, hphase, same⟩
      · rw [none] at constructed
        cases constructed
      · rw [hphase]
        exact same.symm.trans constructed

/-- The term of a session that has written its lease stays over. -/
theorem NodeSession.TermOver.step? (invariant : LeaseInvariant leases state)
    (tenable : Tenable leases state label) (stepped : state.step? leases label = some after)
    (wrote : ¬ NoWrites state.store id) (ended : (state.sessions id).TermOver state.now) :
    (after.sessions id).TermOver after.now := by
  rcases LeaseState.session_step? stepped id with same | ⟨input, rfl, moved⟩
  · rw [same]
    refine ended.later ?_
    rcases LeaseState.now_step? stepped with still | ⟨elapsed, -, later⟩ <;> omega
  · have still : after.now = state.now := by
      rcases LeaseState.now_step? stepped with still | ⟨elapsed, other, -⟩
      · exact still
      · cases other
    rw [still]
    intro authority prospect
    cases held : (state.sessions id).authority with
    | none =>
        exact ended authority
          (prospect?_step (invariant.sessions id) wrote held moved prospect)
    | some earlier =>
        have lost : (⟨state.now, state.sessions id⟩ : AuthorityLoss.TimedSession).valid = false :=
          ended.invalid
        have advanced : AuthorityLoss.TimedSession.step? id ⟨state.now, state.sessions id⟩
            (.input input) = some ⟨state.now, after.sessions id⟩ := by
          simp [AuthorityLoss.TimedSession.step?, moved]
        obtain ⟨stays, gone⟩ :=
          AuthorityLoss.step?_keeps_loss (tenable.takesUp id input rfl) advanced held lost
        obtain ⟨next, constructed⟩ := Option.ne_none_iff_exists'.mp stays
        have here : authority = next := by
          simp only at constructed
          simpa [NodeSession.prospect?, constructed] using prospect.symm
        rw [AuthorityLoss.valid_eq_false_iff _ constructed] at gone
        rw [here, ← Bool.not_eq_true, NodeAuthority.isValid_iff]
        exact gone

end Session

/-! ## The invariant -/

/-- A session that has written a lease and not given it back is the one named by
the stored lease, or its term is over.  Whoever is about to take a lease over
has found the term of its session over. -/
structure TenancyOk (leases : LeaseStamp) (state : LeaseState) : Prop where
  holds : ∀ key older, Written state.store key older →
    (state.sessions older.issuer.session).released = false →
      (∃ object, state.store.objects key = some object ∧
        object.issuer.session = older.issuer.session) ∨
      (state.sessions older.issuer.session).TermOver state.now
  acquires : ∀ ticket write object, state.store.writes ticket = some write →
    write.fate = .pending → write.issuer.operation = .acquire →
    state.store.objects write.key = some object →
    write.condition = some (object.revision leases.stamp) →
    (state.sessions object.issuer.session).released = false →
      (state.sessions object.issuer.session).TermOver state.now
  putting : ∀ id node started object,
    (state.sessions id).phase = .putting node started (some (object.revision leases.stamp)) →
    state.store.objects (state.sessions id).config.nodeId = some object →
    (state.sessions object.issuer.session).released = false →
      (state.sessions object.issuer.session).TermOver state.now

theorem LeaseInvariant.wrote (invariant : LeaseInvariant leases state) {key : String}
    {object : LeaseObject} (stored : state.store.objects key = some object) :
    ¬ NoWrites state.store object.issuer.session := by
  intro silent
  obtain ⟨ticket, write, found, -, -, issuer, -⟩ :=
    invariant.store.wellformed.written _ _ stored
  exact silent ticket write found (congrArg LeaseIssuer.session issuer)

/-- What is expected of a revision written before does not concern the lease
that is written next. -/
theorem LeaseInvariant.not_next (invariant : LeaseInvariant leases state) {key : String}
    {now : Nat} {write : LeaseWrite} {object : LeaseObject}
    (expired : Expired leases state.store key now (object.revision leases.stamp))
    (made : write.object state.store.serials = some object) : False := by
  obtain ⟨seen, written, same, -⟩ := expired
  have serial := leases.fresh _ _ _ _ same
  have earlier := invariant.store.wellformed.written_lt written
  rw [object_serial made] at serial
  omega

namespace TenancyOk

/-- A step of the clock or of a session that leaves the stored leases alone. -/
theorem kept {label : LeaseLabel} (ok : TenancyOk leases state)
    (invariant : LeaseInvariant leases state) (tenable : Tenable leases state label)
    (stepped : state.step? leases label = some after)
    (objects : after.store.objects = state.store.objects)
    (written : ∀ key object, Written after.store key object → Written state.store key object)
    (released : ∀ id, (after.sessions id).released = false →
      (state.sessions id).released = false)
    (acquires : ∀ ticket write, after.store.writes ticket = some write →
      write.fate = .pending → write.issuer.operation = .acquire →
      state.store.writes ticket = some write ∨
        ∃ id node started, (state.sessions id).phase = .putting node started write.condition ∧
          write.key = (state.sessions id).config.nodeId)
    (putting : ∀ id node started object,
      (after.sessions id).phase = .putting node started (some (object.revision leases.stamp)) →
      state.store.objects (after.sessions id).config.nodeId = some object →
      (state.sessions object.issuer.session).released = false →
        (state.sessions object.issuer.session).TermOver state.now) :
    TenancyOk leases after := by
  have lasts : ∀ key object, state.store.objects key = some object →
      (state.sessions object.issuer.session).TermOver state.now →
        (after.sessions object.issuer.session).TermOver after.now :=
    fun key object stored ended =>
      ended.step? invariant tenable stepped (invariant.wrote stored)
  constructor
  case holds =>
    intro key older wrote open'
    obtain ⟨ticket, write, found, rest⟩ := written key older wrote
    rcases ok.holds key older ⟨ticket, write, found, rest⟩ (released _ open') with
      ⟨object, stored, own⟩ | ended
    · exact .inl ⟨object, objects ▸ stored, own⟩
    · refine .inr (ended.step? invariant tenable stepped fun silent => ?_)
      exact silent ticket write found (congrArg LeaseIssuer.session rest.2.2.1)
  case acquires =>
    intro ticket write object found pending operation stored condition open'
    rw [objects] at stored
    rcases acquires ticket write found pending operation with
      old | ⟨id, node, started, hphase, key⟩
    · exact lasts _ _ stored (ok.acquires ticket write object old pending operation stored
        condition (released _ open'))
    · refine lasts _ _ stored (ok.putting id node started object ?_ (key ▸ stored)
        (released _ open'))
      rw [hphase, condition]
  case putting =>
    intro id node started object hphase stored open'
    rw [objects] at stored
    exact lasts _ _ stored (putting id node started object hphase stored (released _ open'))

/-- Settling a write, late or never, keeps the invariant. -/
theorem settle {ticket : Nat} (ok : TenancyOk leases state)
    (invariant : LeaseInvariant leases state) {store : LeaseStore}
    (settled : state.store.settle? leases.stamp ticket = some store) :
    TenancyOk leases { state with store := store } := by
  obtain ⟨write, found, pending, ⟨holds, rfl⟩ | rfl⟩ := settle?_cases settled
  · have replaced : ∀ object, state.store.objects write.key = some object →
        (state.sessions object.issuer.session).released = false →
          (∃ made, write.object state.store.serials = some made ∧
            made.issuer.session = object.issuer.session) ∨
          (state.sessions object.issuer.session).TermOver state.now := by
      intro object stored open'
      cases operation : write.issuer.operation with
      | acquire =>
          refine .inr (ok.acquires ticket write object found pending operation stored ?_ open')
          rw [← holds, Store.current, stored, Option.map_some]
      | renew =>
          have own := invariant.store.replaces_own found holds stored (by simp [operation])
          obtain ⟨body, hbody⟩ :=
            Option.ne_none_iff_exists'.mp (invariant.store.keeps ticket write found operation)
          exact .inl ⟨_, by rw [Write.object, hbody]; rfl, own.symm⟩
      | release =>
          have own := invariant.store.replaces_own found holds stored (by simp [operation])
          have gone := (invariant.store.release ticket write found operation).1
          rw [← own, open'] at gone
          cases gone
    constructor
    case holds =>
      intro key older wrote open'
      by_cases same : key = write.key
      · subst same
        simp only [Store.apply, Function.update_self]
        rcases (written_apply_iff found pending).mp wrote with earlier | ⟨-, made⟩
        · rcases ok.holds _ older earlier open' with ⟨object, stored, own⟩ | ended
          · have next := replaced object stored (own ▸ open')
            rwa [own] at next
          · exact .inr ended
        · exact .inl ⟨older, made, rfl⟩
      · simp only [Store.apply, Function.update_of_ne same]
        rcases (written_apply_iff found pending).mp wrote with earlier | ⟨hkey, -⟩
        · exact ok.holds key older earlier open'
        · exact absurd hkey.symm same
    case acquires =>
      intro other known object foundOther waiting operation stored condition
      rcases writes_apply_cases foundOther with ⟨-, rfl⟩ | ⟨-, old⟩
      · cases waiting
      · by_cases same : known.key = write.key
        · simp only [Store.apply, same, Function.update_self] at stored
          exact (invariant.not_next
            (invariant.store.acquire other known old operation _ condition) stored).elim
        · simp only [Store.apply, Function.update_of_ne same] at stored
          exact ok.acquires other known object old waiting operation stored condition
    case putting =>
      intro id node started object hphase stored
      by_cases same : (state.sessions id).config.nodeId = write.key
      · simp only [Store.apply, same, Function.update_self] at stored
        have phase := (invariant.sessions id).phase
        rw [hphase] at phase
        exact (invariant.not_next (phase.2.2.2 _ rfl) stored).elim
      · simp only [Store.apply, Function.update_of_ne same] at stored
        exact ok.putting id node started object hphase stored
  · constructor
    case holds =>
      exact fun key older wrote open' =>
        ok.holds key older ((written_refuse_iff found pending).mp wrote) open'
    case acquires =>
      intro other known object foundOther waiting operation stored condition
      rcases writes_refuse_cases foundOther with ⟨-, rfl⟩ | ⟨-, old⟩
      · cases waiting
      · exact ok.acquires other known object old waiting operation stored condition
    case putting => exact ok.putting

/-- A session that is about to take a lease over has just judged it expired. -/
theorem step?_putting {id : NodeSessionId} {now : Nat} {session next : NodeSession}
    {input : LeaseInput} {node : NodeRecord} {started : Nat} {revision : Revision}
    (stepped : session.step? id now input = some next)
    (hphase : next.phase = .putting node started (some revision)) :
    input = .advance ∧ ∃ expiresAt,
      session.phase = .inspected node started (some (revision, expiresAt)) ∧
        expiresAt ≤ wallTimeMillis (now / nanosPerMilli) := by
  simp only [NodeSession.step?] at stepped
  split at stepped
  · unfold NodeSession.startStep at stepped
    split at stepped
    case h_6 node' started' revision' expiresAt inspected =>
      split at stepped
      · rename_i past
        cases stepped
        cases hphase
        exact ⟨rfl, expiresAt, inspected, past⟩
      · cases stepped
        cases hphase
    all_goals
      (try split at stepped) <;> cases stepped <;> cases hphase
  · split at stepped
    · rename_i built
      unfold NodeSession.startStep at stepped
      split at stepped
      case h_6 inspected =>
        rw [built] at inspected
        cases inspected
      all_goals
        (try split at stepped) <;> cases stepped <;> cases hphase
    · unfold NodeSession.renewalStep at stepped
      split at stepped
      all_goals
        (try split at stepped) <;> cases stepped <;> cases hphase

/-- A session that has given its lease back does not take it again. -/
theorem step?_stays_released {id : NodeSessionId} {input : LeaseInput} {next : NodeSession}
    (stepped : (state.sessions id).step? id state.now input = some next)
    (gone : (state.sessions id).released = true) : next.released = true := by
  cases input with
  | issued ticket =>
      rcases step?_issued rfl stepped with ⟨_, _, _, -, rfl⟩ | ⟨_, _, _, -, rfl⟩ | ⟨_, _, -, rfl⟩
      · exact gone
      · exact gone
      · rfl
  | _ => exact (step?_released (by rintro _ ⟨⟩) stepped).trans gone

/-- An input to a session keeps the invariant. -/
theorem session {id : NodeSessionId} {input : LeaseInput} (ok : TenancyOk leases state)
    (invariant : LeaseInvariant leases state)
    (tenable : Tenable leases state (.session id input))
    (stepped : state.step? leases (.session id input) = some after) : TenancyOk leases after := by
  have names : ∀ key object, state.store.objects key = some object →
      object.body.node.sessionId = object.issuer.session := fun key object stored =>
    (invariant.store.written_lease (invariant.store.wellformed.written _ _ stored)).1
  have frame := @kept _ _ _ _ ok invariant tenable stepped
  simp only [LeaseState.step?, Option.ite_none_right_eq_some, Option.bind_eq_some_iff,
    Option.map_eq_some_iff] at stepped
  obtain ⟨answerable, store, sent, next, moved, rfl⟩ := stepped
  have putting : ∀ other node started object,
      (Function.update state.sessions id next other).phase =
        .putting node started (some (object.revision leases.stamp)) →
      state.store.objects (Function.update state.sessions id next other).config.nodeId =
        some object → (state.sessions object.issuer.session).released = false →
          (state.sessions object.issuer.session).TermOver state.now := by
    intro other node started object hphase stored
    by_cases same : other = id
    · subst same
      rw [Function.update_self] at hphase stored
      rw [step?_config moved] at stored
      obtain ⟨rfl, expiresAt, inspected, past⟩ := step?_putting moved hphase
      rw [← names _ object stored]
      exact tenable.takesOver other node started _ expiresAt object rfl inspected past stored rfl
    · rw [Function.update_of_ne same] at hphase stored
      exact ok.putting other node started object hphase stored
  have released : ∀ other, (Function.update state.sessions id next other).released = false →
      (state.sessions other).released = false := by
    intro other
    rw [← Bool.not_eq_true, ← Bool.not_eq_true]
    exact fun open' gone => open' (released_update (step?_stays_released moved) other gone)
  cases which : input with
  | issued ticket =>
      subst which
      simp only [LeaseState.sent, Option.map_eq_some_iff] at sent
      obtain ⟨write, built, rfl⟩ := sent
      have idle : write.fate = .pending := by
        unfold NodeSession.write? at built
        split at built <;> cases built <;> rfl
      refine frame rfl
        (fun _ _ => (written_issue_iff invariant.store.wellformed idle).mp) released ?_ putting
      intro other known found pending operation
      rcases writes_issue_cases found with ⟨-, rfl⟩ | old
      · refine .inr ⟨id, ?_⟩
        unfold NodeSession.write? at built
        split at built
        · rename_i node started revision hphase
          cases built
          have phase := (invariant.sessions id).phase
          rw [hphase] at phase
          exact ⟨node, started, hphase, phase.1.nodeId⟩
        · cases built
          cases operation
        · cases built
          cases operation
        · cases built
      · exact .inl old
  | _ =>
      subst which
      cases sent
      exact frame rfl (fun _ _ wrote => wrote) released (fun _ _ found _ _ => .inl found) putting

/-- Every tenable step keeps the invariant. -/
theorem step? {label : LeaseLabel} (ok : TenancyOk leases state)
    (invariant : LeaseInvariant leases state) (tenable : Tenable leases state label)
    (stepped : state.step? leases label = some after) : TenancyOk leases after := by
  cases label with
  | tick elapsed =>
      have frame := @kept _ _ _ _ ok invariant tenable stepped
      simp only [LeaseState.step?, Option.ite_none_right_eq_some, Option.some.injEq] at stepped
      obtain ⟨-, rfl⟩ := stepped
      exact frame rfl (fun _ _ wrote => wrote) (fun _ open' => open')
        (fun _ _ found _ _ => .inl found) ok.putting
  | settle ticket =>
      obtain ⟨store, settled, rfl⟩ := Option.map_eq_some_iff.mp stepped
      exact ok.settle invariant settled
  | session id input => exact ok.session invariant tenable stepped

end TenancyOk

theorem tenancyOk_of_reachable
    (reach : (leaseSystem leases configs).ReachableWhile (Tenable leases) state) :
    TenancyOk leases state := by
  refine invariant_of_reachable_step (TenancyOk leases) ?_ ?_ reach
  · rintro start ⟨-, empty, fresh⟩
    refine ⟨?_, ?_, ?_⟩
    · rintro key older ⟨ticket, write, found, -⟩
      rw [empty] at found
      cases found
    · intro ticket write object found
      rw [empty] at found
      cases found
    · intro id node started object hphase
      rw [fresh] at hphase
      cases hphase
  · intro before label after earlier ok tenable stepped
    exact ok.step? (leaseInvariant_of_reachable (reachable_of_reachableWhile earlier)) tenable
      stepped

/-- The stored lease of this session's node is its own. -/
def HoldsNode (state : LeaseState) (id : NodeSessionId) : Prop :=
  ∃ object : LeaseObject, state.store.objects (state.sessions id).config.nodeId = some object ∧
    object.body.node.sessionId = id

/-- In tenable runs a session that may serve is named by the stored lease of its
node, expired or not. -/
theorem holdsNode_of_valid
    (reach : (leaseSystem leases configs).ReachableWhile (Tenable leases) state)
    {id : NodeSessionId} (valid : (state.sessions id).authorityValid state.now = true)
    (kept : (state.sessions id).released = false) : HoldsNode state id := by
  have invariant := leaseInvariant_of_reachable (reachable_of_reachableWhile reach)
  obtain ⟨authority, constructed, -⟩ := NodeSession.authorityValid_iff.mp valid
  obtain ⟨-, started, -, older, wrote, rfl, -⟩ :=
    (invariant.sessions id).authority authority constructed
  rcases (tenancyOk_of_reachable reach).holds _ older wrote kept with ⟨object, stored, own⟩ | ended
  · have names := (invariant.store.written_lease (invariant.store.wellformed.written _ _ stored)).1
    exact ⟨object, stored, names.trans own⟩
  · rw [ended.invalid] at valid
    cases valid

/-- Only one session can be named by the stored lease of one node. -/
theorem HoldsNode.unique {first second : NodeSessionId} (one : HoldsNode state first)
    (two : HoldsNode state second)
    (node : (state.sessions first).config.nodeId = (state.sessions second).config.nodeId) :
    first = second := by
  obtain ⟨object, stored, own⟩ := one
  obtain ⟨object', stored', own'⟩ := two
  rw [node, stored', Option.some.injEq] at stored
  subst stored
  exact own.symm.trans own'

end Coactor.Coordination
