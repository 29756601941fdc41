import Coactor.Coordination.LeaseInvariant
import Coactor.Coordination.LeaseTerms

/-!
# Mutual exclusion of Node Sessions

The invariant of the lease store is kept by the clock, by settling writes late
or never, and by every step of every session.  It gives the exclusion when all
instants and TTLs are whole milliseconds: a session whose authority is valid and
that has not given its lease back finds its own unexpired lease in the store.
-/

namespace Coactor.Coordination

open Coactor.Foundation.Transition
open Coactor.Foundation.ConditionalStore

variable {leases : LeaseStamp}

/-! ## Steps of the clock and of the store -/

section Steps

variable {state : LeaseState}

theorem StoreOk.tick (ok : StoreOk leases state) {later : Nat} (forward : state.now ≤ later)
    (bounded : later / nanosPerMilli < u64Max) : StoreOk leases { state with now := later } where
  wellformed := ok.wellformed
  clock := bounded
  key := ok.key
  put := by
    intro ticket write body found hbody
    obtain ⟨session, lower, upper⟩ := ok.put ticket write body found hbody
    have longer := leaseTerm_mono forward
      (state.sessions write.issuer.session).config.nodeLeaseTtl
    refine ⟨session, lower, Nat.le_trans upper ?_⟩
    simp only
    omega
  acquire := fun ticket write found operation revision condition =>
    (ok.acquire ticket write found operation revision condition).mono (.refl _)
      (Nat.div_le_div_right forward)
  renew := ok.renew
  release := ok.release
  keeps := ok.keeps
  covers := fun key older written kept live =>
    ok.covers key older written kept (Nat.lt_of_le_of_lt (Nat.div_le_div_right forward) live)

/-- Sessions may move as long as they keep their configuration and do not take
back a release. -/
theorem StoreOk.resession (ok : StoreOk leases state) {sessions : NodeSessionId → NodeSession}
    (config : ∀ id, (sessions id).config = (state.sessions id).config)
    (released : ∀ id, (state.sessions id).released = true → (sessions id).released = true) :
    StoreOk leases { state with sessions := sessions } where
  wellformed := ok.wellformed
  clock := ok.clock
  key := by
    intro ticket write found
    rw [config]
    exact ok.key ticket write found
  put := by
    intro ticket write body found hbody
    simp only [config]
    exact ok.put ticket write body found hbody
  acquire := ok.acquire
  renew := ok.renew
  release := by
    intro ticket write found operation
    obtain ⟨gone, rest⟩ := ok.release ticket write found operation
    exact ⟨released _ gone, rest⟩
  keeps := ok.keeps
  covers := by
    intro key older written kept live
    refine ok.covers key older written ?_ live
    rw [← Bool.not_eq_true] at kept ⊢
    exact fun gone => kept (released _ gone)

/-- What a write must satisfy when it is sent. -/
structure WriteOk (leases : LeaseStamp) (state : LeaseState) (write : LeaseWrite) : Prop where
  pending : write.fate = .pending
  key : write.key = (state.sessions write.issuer.session).config.nodeId
  put : ∀ body, write.body = some body →
    body.node.sessionId = write.issuer.session ∧
    min (body.node.sampledAtUnixMs +
      (state.sessions write.issuer.session).config.nodeLeaseTtl / nanosPerMilli) u64Max ≤
        body.expiresAtUnixMs ∧
    body.expiresAtUnixMs = min (leaseTerm state.now
      (state.sessions write.issuer.session).config.nodeLeaseTtl) u64Max
  acquire : write.issuer.operation = .acquire → ∀ revision, write.condition = some revision →
    Expired leases state.store write.key (state.now / nanosPerMilli) revision
  known : write.issuer.operation ≠ .acquire →
    ∃ object, Written state.store write.key object ∧
      write.condition = some (object.revision leases.stamp) ∧
      object.issuer.session = write.issuer.session
  released : write.issuer.operation = .release →
    (state.sessions write.issuer.session).released = true
  keeps : write.issuer.operation = .renew → write.body ≠ none

theorem StoreOk.issue (ok : StoreOk leases state) {write : LeaseWrite}
    (writeOk : WriteOk leases state write) :
    StoreOk leases { state with store := state.store.issue write } := by
  have wf := ok.wellformed
  have grows := grows_issue wf write
  have same : ∀ key object, Written (state.store.issue write) key object →
      Written state.store key object :=
    fun _ _ => (written_issue_iff wf writeOk.pending).mp
  constructor
  case wellformed => exact wf.issue writeOk.pending
  case clock => exact ok.clock
  case key =>
    intro ticket known found
    rcases writes_issue_cases found with ⟨-, rfl⟩ | old
    · exact writeOk.key
    · exact ok.key ticket known old
  case put =>
    intro ticket known body found hbody
    rcases writes_issue_cases found with ⟨-, rfl⟩ | old
    · obtain ⟨session, lower, upper⟩ := writeOk.put body hbody
      exact ⟨session, lower, Nat.le_of_eq upper⟩
    · exact ok.put ticket known body old hbody
  case acquire =>
    intro ticket known found operation revision condition
    rcases writes_issue_cases found with ⟨-, rfl⟩ | old
    · exact (writeOk.acquire operation revision condition).mono grows (Nat.le_refl _)
    · exact (ok.acquire ticket known old operation revision condition).mono grows (Nat.le_refl _)
  case renew =>
    intro ticket known body found operation hbody
    rcases writes_issue_cases found with ⟨-, rfl⟩ | old
    · obtain ⟨object, written, condition, session⟩ := writeOk.known (by simp [operation])
      refine ⟨object, grows.written _ _ written, condition, session, ?_⟩
      intro older earlier issuer _
      obtain ⟨_, other, foundOther, -, bodyOther, issuerOther, -⟩ := same _ _ earlier
      have upper := (ok.put _ _ _ foundOther bodyOther).2.2
      rw [issuerOther, issuer] at upper
      rw [(writeOk.put body hbody).2.2]
      exact upper
    · obtain ⟨object, written, condition, session, bound⟩ :=
        ok.renew ticket known body old operation hbody
      exact ⟨object, grows.written _ _ written, condition, session,
        fun older earlier => bound older (same _ _ earlier)⟩
  case release =>
    intro ticket known found operation
    rcases writes_issue_cases found with ⟨-, rfl⟩ | old
    · obtain ⟨object, written, rest⟩ := writeOk.known (by simp [operation])
      exact ⟨writeOk.released operation, object, grows.written _ _ written, rest⟩
    · obtain ⟨gone, object, written, rest⟩ := ok.release ticket known old operation
      exact ⟨gone, object, grows.written _ _ written, rest⟩
  case keeps =>
    intro ticket known found operation
    rcases writes_issue_cases found with ⟨-, rfl⟩ | old
    · exact writeOk.keeps operation
    · exact ok.keeps ticket known old operation
  case covers =>
    intro key older written kept live
    exact ok.covers key older (same _ _ written) kept live

/-- A refused write changes nothing that the invariant reads. -/
theorem StoreOk.refuse (ok : StoreOk leases state) {ticket : Nat} {write : LeaseWrite}
    (found : state.store.writes ticket = some write) (pending : write.fate = .pending) :
    StoreOk leases { state with store := state.store.refuse ticket write } := by
  have same : ∀ key object, Written (state.store.refuse ticket write) key object ↔
      Written state.store key object := fun _ _ => written_refuse_iff found pending
  have origin : ∀ other known, (state.store.refuse ticket write).writes other = some known →
      ∃ fate, state.store.writes other = some { known with fate := fate } := by
    intro other known foundOther
    rcases writes_refuse_cases foundOther with ⟨rfl, rfl⟩ | ⟨-, old⟩
    · exact ⟨write.fate, found⟩
    · exact ⟨known.fate, old⟩
  constructor
  case wellformed => exact ok.wellformed.refuse found pending
  case clock => exact ok.clock
  case key =>
    intro other known foundOther
    obtain ⟨fate, old⟩ := origin other known foundOther
    have earlier := ok.key other _ old
    exact earlier
  case put =>
    intro other known body foundOther
    obtain ⟨fate, old⟩ := origin other known foundOther
    have earlier := ok.put other _ body old
    exact earlier
  case acquire =>
    intro other known foundOther
    obtain ⟨fate, old⟩ := origin other known foundOther
    simpa only [Expired, same] using ok.acquire other _ old
  case renew =>
    intro other known body foundOther
    obtain ⟨fate, old⟩ := origin other known foundOther
    simpa only [same] using ok.renew other _ body old
  case release =>
    intro other known foundOther
    obtain ⟨fate, old⟩ := origin other known foundOther
    simpa only [same] using ok.release other _ old
  case keeps =>
    intro other known foundOther
    obtain ⟨fate, old⟩ := origin other known foundOther
    have earlier := ok.keeps other _ old
    exact earlier
  case covers =>
    intro key older written kept live
    exact ok.covers key older ((same _ _).mp written) kept live

/-- A matching write replaces the very lease it was conditioned on. -/
theorem StoreOk.matching (ok : StoreOk leases state) {write : LeaseWrite}
    (holds : state.store.current leases.stamp write.key = write.condition)
    {object seen : LeaseObject} (stored : state.store.objects write.key = some object)
    (written : Written state.store write.key seen)
    (condition : write.condition = some (seen.revision leases.stamp)) : object = seen := by
  rw [← holds, Store.current, stored, Option.map_some, Option.some.injEq] at condition
  exact ok.wellformed.stored_of_revision_eq leases.fresh written stored condition

/-- An acquisition replaces an expired lease. -/
theorem StoreOk.acquire_replaces (ok : StoreOk leases state) {ticket : Nat}
    {write : LeaseWrite} (found : state.store.writes ticket = some write)
    (holds : state.store.current leases.stamp write.key = write.condition)
    {object : LeaseObject} (stored : state.store.objects write.key = some object)
    (operation : write.issuer.operation = .acquire) :
    object.body.expiresAtUnixMs ≤ state.now / nanosPerMilli := by
  have condition : write.condition = some (object.revision leases.stamp) := by
    rw [← holds, Store.current, stored, Option.map_some]
  obtain ⟨seen, written, same, past⟩ := ok.acquire ticket write found operation _ condition
  rw [ok.matching holds stored written (by rw [condition, same])]
  exact past

/-- A renewal or a release replaces a lease of its own session. -/
theorem StoreOk.replaces_own (ok : StoreOk leases state) {ticket : Nat}
    {write : LeaseWrite} (found : state.store.writes ticket = some write)
    (holds : state.store.current leases.stamp write.key = write.condition)
    {object : LeaseObject} (stored : state.store.objects write.key = some object)
    (operation : write.issuer.operation ≠ .acquire) :
    object.issuer.session = write.issuer.session := by
  cases which : write.issuer.operation with
  | acquire => exact absurd which operation
  | renew =>
      obtain ⟨body, hbody⟩ := Option.ne_none_iff_exists'.mp (ok.keeps ticket write found which)
      obtain ⟨seen, written, same, session, -⟩ := ok.renew ticket write body found which hbody
      rw [ok.matching holds stored written same]
      exact session
  | release =>
      obtain ⟨-, seen, written, same, session⟩ := ok.release ticket write found which
      rw [ok.matching holds stored written same]
      exact session

/-- A lease that is alive and not given back survives a matching write. -/
theorem StoreOk.covers_apply (ok : StoreOk leases state) {ticket : Nat} {write : LeaseWrite}
    (found : state.store.writes ticket = some write)
    (holds : state.store.current leases.stamp write.key = write.condition)
    {older : LeaseObject} (written : Written state.store write.key older)
    (kept : (state.sessions older.issuer.session).released = false)
    (live : state.now / nanosPerMilli < older.body.expiresAtUnixMs) :
    ∃ object, write.object state.store.serials = some object ∧
      object.issuer.session = older.issuer.session ∧
      older.body.expiresAtUnixMs ≤ object.body.expiresAtUnixMs := by
  obtain ⟨object, stored, session, lasts⟩ := ok.covers write.key older written kept live
  cases operation : write.issuer.operation with
  | acquire =>
      have past := ok.acquire_replaces found holds stored operation
      omega
  | renew =>
      have own := ok.replaces_own found holds stored (by simp [operation])
      obtain ⟨body, hbody⟩ :=
        Option.ne_none_iff_exists'.mp (ok.keeps ticket write found operation)
      obtain ⟨seen, writtenSeen, same, -, bound⟩ :=
        ok.renew ticket write body found operation hbody
      have newest := ok.wellformed.newest _ _ older stored written
      rw [ok.matching holds stored writtenSeen same] at newest
      have outlasts := bound older written (session.symm.trans own) newest
      refine ⟨⟨body, write.issuer, state.store.serials⟩, ?_, own.symm.trans session, outlasts⟩
      simp [Write.object, hbody]
  | release =>
      have own := ok.replaces_own found holds stored (by simp [operation])
      have gone := (ok.release ticket write found operation).1
      rw [← own, session, kept] at gone
      cases gone

theorem StoreOk.apply (ok : StoreOk leases state) {ticket : Nat} {write : LeaseWrite}
    (found : state.store.writes ticket = some write) (pending : write.fate = .pending)
    (holds : state.store.current leases.stamp write.key = write.condition) :
    StoreOk leases { state with store := state.store.apply ticket write } := by
  have wf := ok.wellformed
  have settled : state.store.settle? leases.stamp ticket = some (state.store.apply ticket write) := by
    simp [Store.settle?, found, pending, holds]
  have grows := grows_settle? settled
  constructor
  case wellformed => exact wf.apply found pending
  case clock => exact ok.clock
  case key =>
    intro other known foundOther
    obtain ⟨fate, old⟩ := writes_settle? settled foundOther
    have earlier := ok.key other _ old
    exact earlier
  case put =>
    intro other known body foundOther
    obtain ⟨fate, old⟩ := writes_settle? settled foundOther
    have earlier := ok.put other _ body old
    exact earlier
  case acquire =>
    intro other known foundOther operation revision condition
    obtain ⟨fate, old⟩ := writes_settle? settled foundOther
    exact (ok.acquire other _ old operation revision condition).mono grows (Nat.le_refl _)
  case renew =>
    intro other known body foundOther operation hbody
    obtain ⟨fate, old⟩ := writes_settle? settled foundOther
    obtain ⟨object, written, condition, session, bound⟩ :=
      ok.renew other _ body old operation hbody
    refine ⟨object, grows.written _ _ written, condition, session, ?_⟩
    intro older earlier issuer before
    rcases (written_apply_iff found pending).mp earlier with known | ⟨-, made⟩
    · exact bound older known issuer before
    · have late := wf.written_lt written
      rw [object_serial made] at before
      omega
  case release =>
    intro other known foundOther operation
    obtain ⟨fate, old⟩ := writes_settle? settled foundOther
    obtain ⟨gone, object, written, rest⟩ := ok.release other _ old operation
    exact ⟨gone, object, grows.written _ _ written, rest⟩
  case keeps =>
    intro other known foundOther
    obtain ⟨fate, old⟩ := writes_settle? settled foundOther
    have earlier := ok.keeps other _ old
    exact earlier
  case covers =>
    intro key older written kept live
    by_cases same : key = write.key
    · subst same
      simp only [Store.apply, Function.update_self]
      rcases (written_apply_iff found pending).mp written with earlier | ⟨-, made⟩
      · exact ok.covers_apply found holds earlier kept live
      · exact ⟨older, made, rfl, Nat.le_refl _⟩
    · simp only [Store.apply, Function.update_of_ne same]
      rcases (written_apply_iff found pending).mp written with earlier | ⟨hkey, -⟩
      · exact ok.covers key older earlier kept live
      · exact absurd hkey.symm same

end Steps

/-! ## The invariant over whole runs -/

section Runs

variable {configs : NodeSessionId → ServerRuntimeConfig} {state after : LeaseState}

theorem leaseInvariant_initial (initial : (leaseSystem leases configs).initial state) :
    LeaseInvariant leases state := by
  obtain ⟨now, store, sessions⟩ := state
  obtain ⟨bounded, rfl, rfl⟩ := initial
  have nothing : ∀ ticket write, (Store.empty : LeaseStore).writes ticket ≠ some write :=
    fun _ _ found => by cases found
  refine ⟨⟨wellformed_empty, bounded, ?_, ?_, ?_, ?_, ?_, ?_, ?_⟩, fun id => ⟨?_, ?_⟩⟩
  · exact fun ticket write found => absurd found (nothing _ _)
  · exact fun ticket write _ found => absurd found (nothing _ _)
  · exact fun ticket write found => absurd found (nothing _ _)
  · exact fun ticket write _ found => absurd found (nothing _ _)
  · exact fun ticket write found => absurd found (nothing _ _)
  · exact fun ticket write found => absurd found (nothing _ _)
  · rintro key older ⟨ticket, write, found, -⟩
    exact absurd found (nothing _ _)
  · exact fun ticket write found => absurd found (nothing _ _)
  · exact fun authority constructed => by cases constructed

theorem LeaseInvariant.settle (invariant : LeaseInvariant leases state) {ticket : Nat}
    {store : LeaseStore} (settled : state.store.settle? leases.stamp ticket = some store) :
    LeaseInvariant leases { state with store := store } where
  store := by
    obtain ⟨write, found, pending, ⟨holds, rfl⟩ | rfl⟩ := settle?_cases settled
    · exact invariant.store.apply found pending holds
    · exact invariant.store.refuse found pending
  sessions := fun id =>
    (invariant.sessions id).mono (quiet_settle settled id) (Nat.le_refl _)

/-- A session that moves keeps its configuration; every other one is untouched. -/
theorem config_update {id : NodeSessionId} {session : NodeSession}
    (config : session.config = (state.sessions id).config) (other : NodeSessionId) :
    (Function.update state.sessions id session other).config = (state.sessions other).config := by
  by_cases same : other = id
  · subst same
    simpa using config
  · simp [Function.update_of_ne same]

theorem released_update {id : NodeSessionId} {session : NodeSession}
    (released : (state.sessions id).released = true → session.released = true)
    (other : NodeSessionId) (gone : (state.sessions other).released = true) :
    (Function.update state.sessions id session other).released = true := by
  by_cases same : other = id
  · subst same
    simpa using released gone
  · simpa [Function.update_of_ne same] using gone

theorem LeaseInvariant.silent (invariant : LeaseInvariant leases state) {id : NodeSessionId}
    {input : LeaseInput} {session : NodeSession}
    (answerable : state.answerable leases id input = true)
    (silent : ∀ ticket, input ≠ .issued ticket)
    (stepped : (state.sessions id).step? id state.now input = some session) :
    LeaseInvariant leases
      { state with sessions := Function.update state.sessions id session } where
  store := invariant.store.resession (config_update (step?_config stepped))
    (released_update fun gone => (step?_released silent stepped).trans gone)
  sessions := by
    intro other
    by_cases same : other = id
    · subst same
      simp only [Function.update_self]
      exact (invariant.sessions other).step? invariant.store answerable silent stepped
    · simpa [Function.update_of_ne same] using invariant.sessions other

/-- Sending a sound write keeps the invariant. -/
theorem LeaseInvariant.send (invariant : LeaseInvariant leases state) {id : NodeSessionId}
    {session : NodeSession} {write : LeaseWrite}
    (config : session.config = (state.sessions id).config)
    (released : (state.sessions id).released = true → session.released = true)
    (issuer : write.issuer.session = id)
    (writeOk : WriteOk leases
      { state with sessions := Function.update state.sessions id session } write)
    (ok : SessionOk leases (state.store.issue write) state.now id session) :
    LeaseInvariant leases
      { state with
        store := state.store.issue write
        sessions := Function.update state.sessions id session } where
  store := (invariant.store.resession (config_update config) (released_update released)).issue
    writeOk
  sessions := by
    intro other
    by_cases same : other = id
    · subst same
      simpa only [Function.update_self] using ok
    · simp only [Function.update_of_ne same]
      refine (invariant.sessions other).mono ?_ (Nat.le_refl _)
      exact quiet_issue invariant.store.wellformed fun mine => same (mine.symm.trans issuer)

theorem putNodeAt_ok {id : NodeSessionId} {node : NodeRecord} {config : ServerRuntimeConfig}
    (bounded : state.now / nanosPerMilli < u64Max) (ok : NodeOk config state.now id node) :
    (putNodeAt node config.nodeLeaseTtl state.now).node.sessionId = id ∧
      min ((putNodeAt node config.nodeLeaseTtl state.now).node.sampledAtUnixMs +
        config.nodeLeaseTtl / nanosPerMilli) u64Max ≤
          (putNodeAt node config.nodeLeaseTtl state.now).expiresAtUnixMs ∧
      (putNodeAt node config.nodeLeaseTtl state.now).expiresAtUnixMs =
        min (leaseTerm state.now config.nodeLeaseTtl) u64Max := by
  have expiry := @putNodeAt_expiry node config.nodeLeaseTtl state.now bounded
  have sampled : (putNodeAt node config.nodeLeaseTtl state.now).node.sampledAtUnixMs ≤
    state.now / nanosPerMilli := ok.sampled
  refine ⟨ok.sessionId, ?_, expiry⟩
  unfold leaseTerm at expiry
  omega

/-- `put_node` of `acquire_node`. -/
theorem LeaseInvariant.acquire (invariant : LeaseInvariant leases state) {id : NodeSessionId}
    {node : NodeRecord} {started : Nat} {revision : Option Revision}
    (hphase : (state.sessions id).phase = .putting node started revision) :
    LeaseInvariant leases
      { state with
        store := state.store.issue
          { key := node.nodeId, issuer := ⟨id, .acquire⟩,
            body := some (putNodeAt node (state.sessions id).config.nodeLeaseTtl state.now),
            condition := revision }
        sessions := Function.update state.sessions id
          ((state.sessions id).goto (.awaitingAcquire node started state.store.tickets)) } := by
  have ok := invariant.sessions id
  have holds := ok.phase
  rw [hphase] at holds
  obtain ⟨nodeOk, none, early, past⟩ := holds
  have body := putNodeAt_ok invariant.store.clock nodeOk
  have grows := grows_issue invariant.store.wellformed
    { key := node.nodeId, issuer := ⟨id, .acquire⟩,
      body := some (putNodeAt node (state.sessions id).config.nodeLeaseTtl state.now),
      condition := revision }
  have longer := leaseTerm_mono early (state.sessions id).config.nodeLeaseTtl
  have lasts : min (leaseTerm started (state.sessions id).config.nodeLeaseTtl) u64Max ≤
      (putNodeAt node (state.sessions id).config.nodeLeaseTtl state.now).expiresAtUnixMs := by
    omega
  refine invariant.send rfl (fun gone => gone) rfl ?_ ⟨⟨nodeOk, ?_, ?_⟩, ?_⟩
  · constructor
    case pending => rfl
    case key => simpa using nodeOk.nodeId
    case put =>
      intro written same
      cases same
      simpa using body
    case acquire =>
      intro _ expected condition
      have expired := past expected condition
      rwa [← nodeOk.nodeId] at expired
    case known => exact fun foreign => absurd rfl foreign
    case released => exact fun other => by cases other
    case keeps => exact fun other => by cases other
  · intro ticket write written found issuer same
    rcases writes_issue_cases found with ⟨-, rfl⟩ | old
    · cases same
      exact lasts
    · exact absurd issuer (none ticket write old)
  · exact ⟨_, _, Function.update_self .., rfl, rfl, lasts⟩
  · intro authority constructed
    obtain ⟨term, begun, deadline, covered⟩ := ok.authority authority constructed
    exact ⟨term, begun, deadline, covered.mono grows⟩

/-- `put_node` of `renew_node`. -/
theorem LeaseInvariant.renew (invariant : LeaseInvariant leases state) {id : NodeSessionId}
    {node : NodeRecord} {revision : Revision} {started : Nat}
    (hphase : (state.sessions id).phase = .renewing node revision started) :
    LeaseInvariant leases
      { state with
        store := state.store.issue
          { key := node.nodeId, issuer := ⟨id, .renew⟩,
            body := some (putNodeAt node (state.sessions id).config.nodeLeaseTtl state.now),
            condition := some revision }
        sessions := Function.update state.sessions id
          ((state.sessions id).goto
            (.awaitingRenewal node revision started state.store.tickets)) } := by
  have ok := invariant.sessions id
  have holds := ok.phase
  rw [hphase] at holds
  obtain ⟨nodeOk, known, early⟩ := holds
  have body := putNodeAt_ok invariant.store.clock nodeOk
  have grows := grows_issue invariant.store.wellformed
    { key := node.nodeId, issuer := ⟨id, .renew⟩,
      body := some (putNodeAt node (state.sessions id).config.nodeLeaseTtl state.now),
      condition := some revision }
  have sampled := nodeOk.sampled
  have lasts : min (leaseTerm started (state.sessions id).config.nodeLeaseTtl) u64Max ≤
      (putNodeAt node (state.sessions id).config.nodeLeaseTtl state.now).expiresAtUnixMs := by
    unfold leaseTerm at body ⊢
    omega
  refine invariant.send rfl (fun gone => gone) rfl ?_ ⟨⟨nodeOk, known.mono grows, early, ?_⟩, ?_⟩
  · constructor
    case pending => rfl
    case key => simpa using nodeOk.nodeId
    case put =>
      intro written same
      cases same
      simpa using body
    case acquire => exact fun other => by cases other
    case known =>
      intro _
      obtain ⟨object, written, same, issuer⟩ := known
      rw [← nodeOk.nodeId] at written
      exact ⟨object, written, by rw [same], issuer⟩
    case released => exact fun other => by cases other
    case keeps => exact fun _ => Option.some_ne_none _
  · exact ⟨_, _, Function.update_self .., rfl, rfl, lasts⟩
  · intro authority constructed
    obtain ⟨term, begun, deadline, covered⟩ := ok.authority authority constructed
    exact ⟨term, begun, deadline, covered.mono grows⟩

/-- The delete of `release_node`. -/
theorem LeaseInvariant.release (invariant : LeaseInvariant leases state) {id : NodeSessionId}
    {node : NodeRecord} {revision : Revision}
    (hphase : (state.sessions id).phase = .exited node revision true) (ticket : Nat) :
    LeaseInvariant leases
      { state with
        store := state.store.issue
          { key := node.nodeId, issuer := ⟨id, .release⟩, body := none,
            condition := some revision }
        sessions := Function.update state.sessions id
          { state.sessions id with released := true, phase := .awaitingRelease ticket } } := by
  have ok := invariant.sessions id
  have holds := ok.phase
  rw [hphase] at holds
  obtain ⟨nodeOk, known⟩ := holds
  have grows := grows_issue invariant.store.wellformed
    { key := node.nodeId, issuer := ⟨id, .release⟩, body := none, condition := some revision }
  refine invariant.send rfl (fun _ => rfl) rfl ?_ ⟨trivial, ?_⟩
  · constructor
    case pending => rfl
    case key => simpa using nodeOk.nodeId
    case put => exact fun _ same => by cases same
    case acquire => exact fun other => by cases other
    case known =>
      intro _
      obtain ⟨object, written, same, issuer⟩ := known
      rw [← nodeOk.nodeId] at written
      exact ⟨object, written, by rw [same], issuer⟩
    case released => exact fun _ => by simp
    case keeps => exact fun other => by cases other
  · intro authority constructed
    obtain ⟨term, begun, deadline, covered⟩ := ok.authority authority constructed
    exact ⟨term, begun, deadline, covered.mono grows⟩

/-- Every step of the clock, of the store and of a session keeps the invariant. -/
theorem LeaseInvariant.step? (invariant : LeaseInvariant leases state) {label : LeaseLabel}
    (stepped : state.step? leases label = some after) : LeaseInvariant leases after := by
  cases label with
  | tick elapsed =>
      simp only [LeaseState.step?, Option.ite_none_right_eq_some, Option.some.injEq] at stepped
      obtain ⟨bounded, rfl⟩ := stepped
      have forward := Nat.le_add_right state.now elapsed
      exact ⟨invariant.store.tick forward bounded,
        fun id => (invariant.sessions id).mono (.refl _ id) forward⟩
  | settle ticket =>
      obtain ⟨store, settled, rfl⟩ := Option.map_eq_some_iff.mp stepped
      exact invariant.settle settled
  | session id input =>
      simp only [LeaseState.step?, Option.ite_none_right_eq_some, Option.bind_eq_some_iff,
        Option.map_eq_some_iff] at stepped
      obtain ⟨answerable, store, sent, session, moved, rfl⟩ := stepped
      cases which : input with
      | issued ticket =>
          subst which
          simp only [LeaseState.answerable, beq_iff_eq] at answerable
          subst answerable
          simp only [LeaseState.sent, Option.map_eq_some_iff] at sent
          obtain ⟨write, built, rfl⟩ := sent
          rcases step?_issued rfl moved with ⟨node, started, revision, hphase, rfl⟩ |
            ⟨node, revision, started, hphase, rfl⟩ | ⟨node, revision, hphase, rfl⟩
          · simp only [NodeSession.write?, hphase, Option.some.injEq] at built
            subst built
            exact invariant.acquire hphase
          · simp only [NodeSession.write?, hphase, Option.some.injEq] at built
            subst built
            exact invariant.renew hphase
          · simp only [NodeSession.write?, hphase, Option.some.injEq] at built
            subst built
            exact invariant.release hphase _
      | _ =>
          subst which
          cases sent
          exact invariant.silent answerable (fun _ => (by rintro ⟨⟩)) moved

theorem leaseInvariant_of_reachable (reach : (leaseSystem leases configs).Reachable state) :
    LeaseInvariant leases state :=
  invariant_of_step (LeaseInvariant leases) (fun _ => leaseInvariant_initial)
    (fun _ _ _ invariant _ stepped => invariant.step? stepped) reach

theorem config_of_reachable (reach : (leaseSystem leases configs).Reachable state)
    (id : NodeSessionId) : (state.sessions id).config = configs id := by
  refine invariant_of_step (fun state : LeaseState => (state.sessions id).config = configs id)
    ?_ ?_ reach
  · rintro start ⟨-, -, sessions⟩
    rw [sessions]
    rfl
  · intro before label after same _ stepped
    rcases LeaseState.session_step? stepped id with kept | ⟨input, -, moved⟩
    · rw [kept]
      exact same
    · exact (step?_config moved).trans same

/-- In runs at whole milliseconds, with whole TTLs, the deadlines are whole. -/
theorem wholeSession_of_reachable (ttls : ∀ id, WholeMillis (configs id).nodeLeaseTtl)
    (reach : (leaseSystem leases configs).ReachableWhile
      (fun state _ => WholeMillis state.now) state) (id : NodeSessionId) :
    WholeSession (state.sessions id) := by
  refine invariant_of_reachable_step (fun state : LeaseState => WholeSession (state.sessions id))
    ?_ ?_ reach
  · rintro start ⟨-, -, sessions⟩
    rw [sessions]
    exact wholeSession_fresh _
  · intro before label after earlier ok instant stepped
    have reached := reachable_of_reachableWhile (.step earlier instant stepped)
    rcases LeaseState.session_step? stepped id with same | ⟨input, -, moved⟩
    · rw [same]
      exact ok
    · refine ok.step? instant (fun authority constructed => ?_) moved
      have term :=
        (((leaseInvariant_of_reachable reached).sessions id).authority authority constructed).1
      rw [term, config_of_reachable reached]
      exact ttls id

/-- The stored lease of this session's node is its own and has not expired. -/
def HoldsLease (state : LeaseState) (id : NodeSessionId) : Prop :=
  ∃ object : LeaseObject, state.store.objects (state.sessions id).config.nodeId = some object ∧
    object.issuer.session = id ∧ object.body.node.sessionId = id ∧
    object.body.isExpiredAt state.now = false

theorem LeaseInvariant.holdsLease (invariant : LeaseInvariant leases state) {id : NodeSessionId}
    (whole : WholeSession (state.sessions id))
    (term : WholeMillis (state.sessions id).config.nodeLeaseTtl)
    (valid : (state.sessions id).authorityValid state.now = true)
    (kept : (state.sessions id).released = false) : HoldsLease state id := by
  have storeOk := invariant.store
  have bounded := storeOk.clock
  obtain ⟨authority, constructed, -, early⟩ := NodeSession.authorityValid_iff.mp valid
  obtain ⟨-, started, deadline, older, written, rfl, lasts⟩ :=
    (invariant.sessions id).authority authority constructed
  have before := (whole.deadline authority constructed).div_lt early
  rw [deadline, term.div_add] at before
  have live : state.now / nanosPerMilli < older.body.expiresAtUnixMs := by
    unfold leaseTerm at lasts
    omega
  obtain ⟨object, stored, session, outlasts⟩ := storeOk.covers _ older written kept live
  have names := (storeOk.written_lease (storeOk.wellformed.written _ _ stored)).1
  refine ⟨object, stored, session, names.trans session, ?_⟩
  rw [← Bool.not_eq_true, isExpiredAt_iff_of_lt bounded]
  omega

/-- Only one session can find its own lease under one node. -/
theorem HoldsLease.unique {first second : NodeSessionId} (one : HoldsLease state first)
    (two : HoldsLease state second)
    (node : (state.sessions first).config.nodeId = (state.sessions second).config.nodeId) :
    first = second := by
  obtain ⟨object, stored, session, -⟩ := one
  obtain ⟨object', stored', session', -⟩ := two
  rw [node, stored'] at stored
  cases stored
  exact session.symm.trans session'

/-- A renewal or a release never changes a lease written by another session. -/
theorem LeaseInvariant.changes_own (invariant : LeaseInvariant leases state) {ticket : Nat}
    {write : LeaseWrite} {store : LeaseStore}
    (found : state.store.writes ticket = some write)
    (operation : write.issuer.operation ≠ .acquire)
    (settled : state.store.settle? leases.stamp ticket = some store)
    {key : String} {object : LeaseObject} (stored : state.store.objects key = some object)
    (changed : store.objects key ≠ some object) :
    object.issuer.session = write.issuer.session := by
  obtain ⟨write', found', -, ⟨holds, rfl⟩ | rfl⟩ := settle?_cases settled
  · rw [found] at found'
    cases found'
    by_cases same : key = write.key
    · subst same
      exact invariant.store.replaces_own found holds stored operation
    · simp only [Store.apply, Function.update_of_ne same] at changed
      exact absurd stored changed
  · exact absurd stored changed

/-- In every state reached at whole milliseconds a session that may serve holds
the stored lease of its node, no two sessions of a node may serve at once, and
renewals and releases leave the leases of other sessions alone. -/
theorem node_lease_mutual_exclusion (ttls : ∀ id, WholeMillis (configs id).nodeLeaseTtl)
    (reach : (leaseSystem leases configs).ReachableWhile
      (fun state _ => WholeMillis state.now) state) :
    (∀ id, (state.sessions id).authorityValid state.now = true →
      (state.sessions id).released = false → HoldsLease state id) ∧
    (∀ first second,
      (state.sessions first).config.nodeId = (state.sessions second).config.nodeId →
      (state.sessions first).authorityValid state.now = true →
      (state.sessions first).released = false →
      (state.sessions second).authorityValid state.now = true →
      (state.sessions second).released = false → first = second) ∧
    (∀ ticket write after key object, state.store.writes ticket = some write →
      write.issuer.operation ≠ .acquire →
      state.store.settle? leases.stamp ticket = some after →
      state.store.objects key = some object → after.objects key ≠ some object →
      object.issuer.session = write.issuer.session) := by
  have reached := reachable_of_reachableWhile reach
  have invariant := leaseInvariant_of_reachable reached
  have holds : ∀ id, (state.sessions id).authorityValid state.now = true →
      (state.sessions id).released = false → HoldsLease state id := by
    intro id valid kept
    refine invariant.holdsLease (wholeSession_of_reachable ttls reach id) ?_ valid kept
    rw [config_of_reachable reached]
    exact ttls id
  refine ⟨holds, ?_, ?_⟩
  · intro first second node valid kept valid' kept'
    exact (holds first valid kept).unique (holds second valid' kept') node
  · intro ticket write store key object found operation settled stored changed
    exact invariant.changes_own found operation settled stored changed

end Runs

/-! ## A session that has acquired its lease -/

/-- Revisions that count the applied writes. -/
def countedLeases : LeaseStamp where
  stamp := fun serial _ => ⟨String.ofList (List.replicate serial 'v')⟩
  fresh := by
    intro m n _ _ same
    have lengths := congrArg (fun revision => revision.value.toList.length) same
    simpa using lengths

def startedLeases : LeaseState where
  now := 100000000
  store := .empty
  sessions := fun _ => .fresh ⟨"node-a", "node-a:1", 10000000, 8⟩

/-- One session reads, writes and confirms its lease. -/
def acquisition : List LeaseLabel :=
  [.session ⟨"a-1"⟩ .advance, .session ⟨"a-1"⟩ .advance, .session ⟨"a-1"⟩ (.found (.ok none)),
    .session ⟨"a-1"⟩ .advance, .session ⟨"a-1"⟩ (.issued 0), .settle 0, .tick 3000000,
    .session ⟨"a-1"⟩ (.outcome (.ok (.applied ⟨""⟩))), .session ⟨"a-1"⟩ .advance]

/-- After the acquisition the session is valid and holds the stored lease. -/
theorem acquisition_holds_lease :
    ∃ state, (leaseSystem countedLeases fun _ => ⟨"node-a", "node-a:1", 10000000, 8⟩).run?
        startedLeases acquisition = some state ∧
      (state.sessions ⟨"a-1"⟩).authorityValid state.now = true ∧
      HoldsLease state ⟨"a-1"⟩ := by
  have initial : (leaseSystem countedLeases fun _ =>
      ⟨"node-a", "node-a:1", 10000000, 8⟩).ReachableWhile (fun state _ => WholeMillis state.now)
        startedLeases := .start ⟨by decide, rfl, rfl⟩
  have whole := @meets_of_meets? _ _ (leaseSystem countedLeases fun _ =>
    ⟨"node-a", "node-a:1", 10000000, 8⟩) (fun state _ => WholeMillis state.now) _ startedLeases
      acquisition (by decide)
  have reach := reachableWhile_of_run? initial whole rfl
  exact ⟨_, rfl, by decide,
    (node_lease_mutual_exclusion (fun _ => by decide) reach).1 ⟨"a-1"⟩ (by decide)
      (by decide)⟩

end Coactor.Coordination
