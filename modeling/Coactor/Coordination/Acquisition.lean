import Coactor.Coordination.AuthorityLoss
import Coactor.Coordination.LeaseExclusion

/-!
# The acquisition of a started session

`ServerStarter::start` sends one `acquire_node`, and goes on only after it has
been applied: the store has answered so, or the lease has been read back.  So a
started session has no acquisition left that could still take effect.
-/

namespace Coactor.Coordination

open Coactor.Foundation.Transition
open Coactor.Foundation.ConditionalStore

variable {leases : LeaseStamp} {configs : NodeSessionId → ServerRuntimeConfig}
variable {state after : LeaseState}

/-- This is the only write of the session. -/
def SoleWrite (store : LeaseStore) (id : NodeSessionId) (ticket : Nat) : Prop :=
  ∀ other write, store.writes other = some write → write.issuer.session = id → other = ticket

/-- Every acquisition of the session has been applied. -/
def Acquired (store : LeaseStore) (id : NodeSessionId) : Prop :=
  ∀ ticket write, store.writes ticket = some write → write.issuer = ⟨id, .acquire⟩ →
    ∃ serial, write.fate = .applied serial

/-- What a session has written before its authority is constructed. -/
def StartPhaseOk (store : LeaseStore) (id : NodeSessionId) : LeasePhase → Prop
  | .unstarted | .drafted _ | .acquiring _ _ | .inspected _ _ _ | .putting _ _ _ =>
      NoWrites store id
  | .awaitingAcquire _ _ ticket => SoleWrite store id ticket
  | .confirmingStart _ _ _ | .readingStart _ _ _ => ∃ ticket, SoleWrite store id ticket
  | .acquired _ _ _ => Acquired store id
  | _ => True

/-- What a session has written before it is started, and that its acquisition
has been applied by then. -/
structure StartOk (store : LeaseStore) (id : NodeSessionId) (session : NodeSession) : Prop where
  starting : session.authority = none → StartPhaseOk store id session.phase
  constructed : session.authority ≠ none → Acquired store id

/-! ## Steps of others -/

section Growth

variable {before later : LeaseStore} {id : NodeSessionId}

theorem SoleWrite.mono (quiet : Quiet before later id) {ticket : Nat}
    (sole : SoleWrite before id ticket) : SoleWrite later id ticket := by
  intro other write found issuer
  obtain ⟨fate, old⟩ := quiet.origin other write found issuer
  exact sole other _ old issuer

/-- The store changes, and no acquisition of this session that was applied is
touched. -/
structure KeepsAcquired (before later : LeaseStore) (id : NodeSessionId) : Prop where
  quiet : Quiet before later id
  applied : ∀ ticket write serial, before.writes ticket = some write →
    write.fate = .applied serial → later.writes ticket = some write

theorem keepsAcquired_settle {ticket : Nat}
    (settled : before.settle? leases.stamp ticket = some later) :
    KeepsAcquired before later id :=
  ⟨quiet_settle settled id, fun _ _ _ => applied_of_settle? settled⟩

theorem keepsAcquired_issue (wf : Wellformed before) {write : LeaseWrite}
    (other : write.issuer.session ≠ id) : KeepsAcquired before (before.issue write) id :=
  ⟨quiet_issue wf other, fun _ _ _ found _ => writes_issue_of_some wf found⟩

theorem Acquired.mono (keeps : KeepsAcquired before later id) (acquired : Acquired before id) :
    Acquired later id := by
  intro ticket write found issuer
  obtain ⟨fate, old⟩ := keeps.quiet.origin ticket write found (by rw [issuer])
  obtain ⟨serial, applied⟩ := acquired ticket _ old issuer
  have kept := keeps.applied ticket _ serial old applied
  rw [found, Option.some.injEq] at kept
  exact ⟨serial, kept ▸ applied⟩

theorem StartOk.mono {session : NodeSession} (keeps : KeepsAcquired before later id)
    (ok : StartOk before id session) : StartOk later id session where
  starting := by
    intro missing
    have phase := ok.starting missing
    cases hphase : session.phase <;> rw [hphase] at phase
    case awaitingAcquire => exact SoleWrite.mono keeps.quiet phase
    case confirmingStart =>
      obtain ⟨ticket, sole⟩ := phase
      exact ⟨ticket, sole.mono keeps.quiet⟩
    case readingStart =>
      obtain ⟨ticket, sole⟩ := phase
      exact ⟨ticket, sole.mono keeps.quiet⟩
    case acquired => exact Acquired.mono keeps phase
    all_goals first
      | exact NoWrites.mono keeps.quiet phase
      | trivial
  constructed := fun constructed => (ok.constructed constructed).mono keeps

end Growth

/-! ## Steps of the session -/

section Session

variable {id : NodeSessionId} {input : LeaseInput} {session : NodeSession}

/-- A step of a session with authority leaves it one. -/
theorem step?_stays_constructed (constructed : (state.sessions id).authority ≠ none)
    (stepped : (state.sessions id).step? id state.now input = some session) :
    session.authority ≠ none := by
  obtain ⟨authority, found⟩ := Option.ne_none_iff_exists'.mp constructed
  rcases AuthorityLoss.step?_authority found stepped with
    same | ⟨_, _, _, _, _, same⟩ | ⟨_, _, same, _⟩ <;> simp [same]

/-- An acquisition that is confirmed has been applied. -/
theorem acquired_of_readBack (invariant : LeaseInvariant leases state) {node : NodeRecord}
    {revision : Revision} {ticket : Nat} (sole : SoleWrite state.store id ticket)
    (own : node.sessionId = id)
    (read : state.readNodeLease leases (state.sessions id).config.nodeId =
      some (node, revision)) : Acquired state.store id := by
  simp only [LeaseState.readNodeLease] at read
  split at read
  · cases read
  · rename_i object stored
    rw [Option.ite_none_left_eq_some, Option.some.injEq, Prod.mk.injEq] at read
    obtain ⟨-, rfl, -⟩ := read
    obtain ⟨there, write, found, -, body, -, applied⟩ :=
      invariant.store.wellformed.written _ _ stored
    have issuer := (invariant.store.put there write object.body found body).1
    have here := sole there write found (issuer.symm.trans own)
    subst here
    intro other known found' issuer'
    have same := sole other known found' (by rw [issuer'])
    subst same
    rw [found, Option.some.injEq] at found'
    exact ⟨object.serial, found' ▸ applied⟩

/-- A step of a session that sends nothing keeps what it has written. -/
theorem StartOk.silent (invariant : LeaseInvariant leases state)
    (ok : StartOk state.store id (state.sessions id))
    (answerable : state.answerable leases id input = true)
    (silent : ∀ ticket, input ≠ .issued ticket)
    (stepped : (state.sessions id).step? id state.now input = some session) :
    StartOk state.store id session := by
  by_cases constructed : (state.sessions id).authority = none
  · have phase := ok.starting constructed
    have phaseOk := (invariant.sessions id).phase
    simp only [NodeSession.step?, constructed, NodeSession.startStep] at stepped
    split at stepped
    case h_7 ticket _ => exact absurd rfl (silent ticket)
    case h_8 node started ticket revision hphase =>
      cases stepped
      rw [hphase] at phase
      refine ⟨fun _ => ?_, fun made => absurd constructed made⟩
      intro other write found issuer
      have same := phase other write found (by rw [issuer])
      subst same
      simp only [LeaseState.answerable, hphase, LeasePhase.awaits, Option.bind_some, found]
        at answerable
      split at answerable
      · rename_i serial same
        cases same
        exact ⟨serial, rfl⟩
      · rename_i serial same
        cases same
        exact ⟨serial, rfl⟩
      · cases answerable
    case h_9 node started ticket error hphase =>
      cases stepped
      rw [hphase] at phase
      exact ⟨fun _ => ⟨ticket, phase⟩, fun made => absurd constructed made⟩
    case h_13 node started left reply hphase =>
      rw [hphase] at phase phaseOk
      obtain ⟨ticket, sole⟩ := phase
      split at stepped
      · rename_i revision confirmed
        cases stepped
        refine ⟨fun _ => ?_, fun made => absurd constructed made⟩
        unfold NodeSession.confirmed at confirmed
        split at confirmed
        · rw [Option.ite_none_right_eq_some, Option.some.injEq] at confirmed
          obtain ⟨rfl, rfl⟩ := confirmed
          simp only [LeaseState.answerable, beq_iff_eq] at answerable
          exact acquired_of_readBack invariant sole phaseOk.1.sessionId answerable.symm
        · cases confirmed
      · cases stepped
        exact ⟨fun _ => ⟨ticket, sole⟩, fun made => absurd constructed made⟩
    case h_14 node started revision hphase =>
      cases stepped
      rw [hphase] at phase
      exact ⟨(by rintro ⟨⟩), fun _ => phase⟩
    all_goals first
      | (cases stepped; done)
      | (rename_i hphase
         rw [hphase] at phase
         cases stepped
         exact ⟨fun _ => phase, fun made => absurd constructed made⟩)
      | (cases stepped; exact ⟨fun _ => trivial, fun made => absurd constructed made⟩)
      | (rename_i hphase
         rw [hphase] at phase
         split at stepped <;> cases stepped <;>
           first
             | exact ⟨fun _ => phase, fun made => absurd constructed made⟩
             | exact ⟨fun _ => trivial, fun made => absurd constructed made⟩)
  · exact ⟨fun missing => absurd missing (step?_stays_constructed constructed stepped),
      fun _ => ok.constructed constructed⟩

theorem write?_issuer {now : Nat} {write : LeaseWrite}
    (built : session.write? id now = some write) : write.issuer.session = id := by
  unfold NodeSession.write? at built
  split at built <;> cases built <;> rfl

/-- A session that sends a write keeps what it has written. -/
theorem StartOk.send (invariant : LeaseInvariant leases state)
    (ok : StartOk state.store id (state.sessions id)) {write : LeaseWrite}
    (built : (state.sessions id).write? id state.now = some write)
    (stepped : (state.sessions id).step? id state.now (.issued state.store.tickets) =
      some session) :
    StartOk (state.store.issue write) id session := by
  have wf := invariant.store.wellformed
  have acquired : write.issuer.operation ≠ .acquire → Acquired state.store id →
      Acquired (state.store.issue write) id := by
    intro operation acquired ticket known found issuer
    rcases writes_issue_cases found with ⟨-, rfl⟩ | old
    · exact absurd (by rw [issuer]) operation
    · exact acquired ticket known old issuer
  by_cases constructed : (state.sessions id).authority = none
  · rcases step?_issued rfl stepped with ⟨node, started, revision, hphase, rfl⟩ |
      ⟨node, revision, started, hphase, rfl⟩ | ⟨node, revision, hphase, rfl⟩
    · have none := ok.starting constructed
      rw [hphase] at none
      refine ⟨fun _ => ?_, fun made => absurd constructed made⟩
      intro other known found issuer
      rcases writes_issue_cases found with ⟨same, -⟩ | old
      · exact same
      · exact absurd issuer (none other known old)
    · exact ⟨fun _ => trivial, fun made => absurd constructed made⟩
    · exact ⟨fun _ => trivial, fun made => absurd constructed made⟩
  · refine ⟨fun missing => absurd missing (step?_stays_constructed constructed stepped),
      fun _ => acquired ?_ (ok.constructed constructed)⟩
    rcases step?_issued rfl stepped with ⟨node, started, revision, hphase, -⟩ |
      ⟨node, revision, started, hphase, -⟩ | ⟨node, revision, hphase, -⟩
    · obtain ⟨authority, found⟩ := Option.ne_none_iff_exists'.mp constructed
      simp [NodeSession.step?, found, hphase, NodeSession.renewalStep] at stepped
    · simp only [NodeSession.write?, hphase, Option.some.injEq] at built
      subst built
      rintro ⟨⟩
    · simp only [NodeSession.write?, hphase, Option.some.injEq] at built
      subst built
      rintro ⟨⟩

end Session

/-! ## Whole runs -/

theorem startOk_step? (invariant : LeaseInvariant leases state)
    (ok : ∀ id, StartOk state.store id (state.sessions id)) {label : LeaseLabel}
    (stepped : state.step? leases label = some after) (id : NodeSessionId) :
    StartOk after.store id (after.sessions id) := by
  cases label with
  | tick elapsed =>
      simp only [LeaseState.step?, Option.ite_none_right_eq_some, Option.some.injEq] at stepped
      obtain ⟨-, rfl⟩ := stepped
      exact ok id
  | settle ticket =>
      obtain ⟨store, settled, rfl⟩ := Option.map_eq_some_iff.mp stepped
      exact (ok id).mono (keepsAcquired_settle settled)
  | session other input =>
      simp only [LeaseState.step?, Option.ite_none_right_eq_some, Option.bind_eq_some_iff,
        Option.map_eq_some_iff] at stepped
      obtain ⟨answerable, store, sent, session, moved, rfl⟩ := stepped
      cases which : input with
      | issued ticket =>
          subst which
          simp only [LeaseState.answerable, beq_iff_eq] at answerable
          subst answerable
          simp only [LeaseState.sent, Option.map_eq_some_iff] at sent
          obtain ⟨write, built, rfl⟩ := sent
          by_cases same : id = other
          · subst same
            simp only [Function.update_self]
            exact (ok id).send invariant built moved
          · simp only [Function.update_of_ne same]
            refine (ok id).mono (keepsAcquired_issue invariant.store.wellformed ?_)
            rw [write?_issuer built]
            exact fun equal => same equal.symm
      | _ =>
          subst which
          cases sent
          by_cases same : id = other
          · subst same
            simp only [Function.update_self]
            exact (ok id).silent invariant answerable (fun _ => (by rintro ⟨⟩)) moved
          · simpa only [Function.update_of_ne same] using ok id

theorem startOk_of_reachable (reach : (leaseSystem leases configs).Reachable state)
    (id : NodeSessionId) : StartOk state.store id (state.sessions id) := by
  refine invariant_of_reachable_step (fun state : LeaseState =>
    ∀ id, StartOk state.store id (state.sessions id)) ?_ ?_ reach id
  · rintro start ⟨-, empty, sessions⟩ id
    rw [empty, sessions]
    exact ⟨fun _ _ _ found => (by cases found), fun made => absurd rfl made⟩
  · intro before label after earlier ok _ stepped
    exact startOk_step? (leaseInvariant_of_reachable earlier) ok stepped

/-- A release deletes the lease. -/
theorem release_deletes (reach : (leaseSystem leases configs).Reachable state) (ticket : Nat)
    (write : LeaseWrite) (found : state.store.writes ticket = some write)
    (release : write.issuer.operation = .release) : write.body = none := by
  refine invariant_of_step (fun state : LeaseState => ∀ ticket write,
    state.store.writes ticket = some write → write.issuer.operation = .release →
      write.body = none) ?_ ?_ reach ticket write found release
  · rintro start ⟨-, empty, -⟩ ticket write found
    rw [empty] at found
    cases found
  · intro before label after deletes _ stepped ticket write found release
    cases label with
    | tick elapsed =>
        simp only [leaseSystem, LeaseState.step?, Option.ite_none_right_eq_some,
          Option.some.injEq] at stepped
        obtain ⟨-, rfl⟩ := stepped
        exact deletes ticket write found release
    | settle other =>
        obtain ⟨store, settled, rfl⟩ := Option.map_eq_some_iff.mp stepped
        obtain ⟨fate, old⟩ := writes_settle? settled found
        have kept := deletes ticket _ old release
        exact kept
    | session id input =>
        simp only [leaseSystem, LeaseState.step?, Option.ite_none_right_eq_some,
          Option.bind_eq_some_iff, Option.map_eq_some_iff] at stepped
        obtain ⟨-, store, sent, session, -, rfl⟩ := stepped
        cases input with
        | issued issued =>
            simp only [LeaseState.sent, Option.map_eq_some_iff] at sent
            obtain ⟨written, built, rfl⟩ := sent
            rcases writes_issue_cases found with ⟨-, rfl⟩ | old
            · unfold NodeSession.write? at built
              split at built <;> cases built <;> first
                | rfl
                | cases release
            · exact deletes ticket write old release
        | _ =>
            cases sent
            exact deletes ticket write found release

end Coactor.Coordination
