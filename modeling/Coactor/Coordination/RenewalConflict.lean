import Coactor.Coordination.Acquisition

/-!
# A conflict in the renewal loop

The renewal loop keeps the revision of the lease it wrote last and fences when
a renewal under that revision meets a conflict.  The revision falls behind the
store when a renewal whose call ended in a timeout or an error is applied all
the same.  As long as that does not happen, the stored lease of the session is
always the one it knows, and a conflict means that the lease is gone or is
another session's.
-/

namespace Coactor.Coordination

open Coactor.Foundation.Transition
open Coactor.Foundation.ConditionalStore

variable {leases : LeaseStamp} {configs : NodeSessionId → ServerRuntimeConfig}
variable {state after : LeaseState} {store later : LeaseStore} {id : NodeSessionId}
variable {nodeId : String}

/-! ## Which renewals may be applied -/

/-- The session still waits for this renewal, still looks for its effect, or
has left the renewal loop. -/
def LeasePhase.heeds (ticket : Nat) : LeasePhase → Bool
  | .awaitingRenewal _ _ _ awaited => awaited == ticket
  | .confirming _ _ _ _ _ | .reading _ _ _ _ _ | .losing _ _ | .fencing _ _ | .exited _ _ _
  | .awaitingRelease _ | .finished | .failed => true
  | _ => false

/-- A renewal that has been applied. -/
def appliedRenewal (write : LeaseWrite) : Bool :=
  write.issuer.operation == .renew &&
    match write.fate with
    | .applied _ => true
    | _ => false

/-- A renewal call ends in a timeout or an error only if its write has not been
applied, and the write of such a call is not applied later. -/
def renewalsHeeded (leases : LeaseStamp) (state : LeaseState) : LeaseLabel → Bool
  | .session id (.outcome .elapsed) | .session id (.outcome (.failed _)) =>
      (((state.sessions id).phase.awaits).bind state.store.writes).all fun write =>
        !appliedRenewal write
  | .settle ticket => (state.store.writes ticket).all fun write =>
      write.issuer.operation != .renew ||
        state.store.current leases.stamp write.key != write.condition ||
        (state.sessions write.issuer.session).phase.heeds ticket
  | _ => true

/-- The condition as a guard on the steps of a run. -/
def RenewalsHeeded (leases : LeaseStamp) (state : LeaseState) (label : LeaseLabel) : Prop :=
  renewalsHeeded leases state label = true

instance (leases : LeaseStamp) (state : LeaseState) (label : LeaseLabel) :
    Decidable (RenewalsHeeded leases state label) :=
  inferInstanceAs (Decidable (_ = true))

theorem RenewalsHeeded.heeds {ticket : Nat} {write : LeaseWrite}
    (heeded : RenewalsHeeded leases state (.settle ticket))
    (found : state.store.writes ticket = some write) (renew : write.issuer.operation = .renew)
    (holds : state.store.current leases.stamp write.key = write.condition) :
    (state.sessions write.issuer.session).phase.heeds ticket = true := by
  simpa [RenewalsHeeded, renewalsHeeded, found, renew, holds] using heeded

/-- A renewal call that ends without an outcome has not been applied. -/
theorem RenewalsHeeded.notApplied {reply : Reply (MutationOutcome Revision)} {ticket : Nat}
    {write : LeaseWrite} (heeded : RenewalsHeeded leases state (.session id (.outcome reply)))
    (silent : ∀ outcome, reply ≠ .ok outcome)
    (waiting : (state.sessions id).phase.awaits = some ticket)
    (found : state.store.writes ticket = some write) (renew : write.issuer.operation = .renew)
    (serial : Nat) : write.fate ≠ .applied serial := by
  intro applied
  cases reply with
  | ok outcome => exact silent outcome rfl
  | elapsed =>
      simp [RenewalsHeeded, renewalsHeeded, waiting, found, appliedRenewal, renew, applied]
        at heeded
  | failed error =>
      simp [RenewalsHeeded, renewalsHeeded, waiting, found, appliedRenewal, renew, applied]
        at heeded

/-! ## The revision a session keeps -/

/-- If the stored lease is the session's, it has this revision. -/
def KeepsCurrent (leases : LeaseStamp) (store : LeaseStore) (nodeId : String)
    (id : NodeSessionId) (revision : Revision) : Prop :=
  ∀ object : LeaseObject, store.objects nodeId = some object → object.issuer.session = id →
    object.revision leases.stamp = revision

/-- The stored lease is not the session's. -/
def LostLease (store : LeaseStore) (nodeId : String) (id : NodeSessionId) : Prop :=
  ∀ object : LeaseObject, store.objects nodeId = some object → object.issuer.session ≠ id

theorem LostLease.keepsCurrent (lost : LostLease store nodeId id) (revision : Revision) :
    KeepsCurrent leases store nodeId id revision :=
  fun object stored own => absurd own (lost object stored)

/-- What the fate of an awaited renewal says about the stored lease. -/
def FateOk (leases : LeaseStamp) (store : LeaseStore) (nodeId : String) (id : NodeSessionId)
    (write : LeaseWrite) (revision : Revision) : Prop :=
  match write.fate with
  | .pending => KeepsCurrent leases store nodeId id revision
  | .refused => LostLease store nodeId id
  | .applied serial => ∀ body, write.body = some body →
      KeepsCurrent leases store nodeId id (leases.stamp serial body)

/-- The renewal a session awaits, sent under the revision it keeps. -/
def AwaitsRenewal (leases : LeaseStamp) (store : LeaseStore) (nodeId : String)
    (id : NodeSessionId) (ticket : Nat) (revision : Revision) : Prop :=
  ∃ write, store.writes ticket = some write ∧ write.issuer = ⟨id, .renew⟩ ∧
    write.key = nodeId ∧ write.condition = some revision ∧
    FateOk leases store nodeId id write revision

/-- The phases between the acquisition and the end of the renewal loop. -/
def LeasePhase.inLoop : LeasePhase → Bool
  | .acquired _ _ _ | .granted _ _ _ | .constructed _ _ | .sleeping _ _ | .woken _ _
  | .permitted _ _ | .undecided _ _ | .begun _ _ _ | .sampled _ _ _ | .renewing _ _ _
  | .awaitingRenewal _ _ _ _ | .confirming _ _ _ _ _ | .reading _ _ _ _ _ => true
  | _ => false

/-- The revision kept while no renewal is under way. -/
def LeasePhase.kept? : LeasePhase → Option Revision
  | .acquired _ _ revision | .granted _ revision _ | .constructed _ revision
  | .sleeping _ revision | .woken _ revision | .permitted _ revision | .undecided _ revision
  | .begun _ revision _ | .sampled _ revision _ | .renewing _ revision _ => some revision
  | _ => none

/-- The renewal that is awaited, and the revision it was sent under. -/
def LeasePhase.renewal? : LeasePhase → Option (Nat × Revision)
  | .awaitingRenewal _ revision _ ticket => some (ticket, revision)
  | _ => none

/-- In the renewal loop the acquisition has been applied, and the kept revision
is current unless a renewal is under way. -/
structure RenewalOk (leases : LeaseStamp) (store : LeaseStore) (nodeId : String)
    (id : NodeSessionId) (phase : LeasePhase) : Prop where
  acquired : phase.inLoop = true → Acquired store id
  kept : ∀ revision, phase.kept? = some revision →
    KeepsCurrent leases store nodeId id revision
  awaits : ∀ ticket revision, phase.renewal? = some (ticket, revision) →
    AwaitsRenewal leases store nodeId id ticket revision

theorem renewal?_iff {phase : LeasePhase} {ticket : Nat} {revision : Revision} :
    phase.renewal? = some (ticket, revision) ↔
      ∃ node started, phase = .awaitingRenewal node revision started ticket := by
  constructor
  · intro found
    unfold LeasePhase.renewal? at found
    split at found
    · cases found
      exact ⟨_, _, rfl⟩
    · cases found
  · rintro ⟨node, started, rfl⟩
    rfl

theorem renewalOk_of_not_inLoop {phase : LeasePhase} (outside : phase.inLoop = false) :
    RenewalOk leases store nodeId id phase := by
  constructor <;> cases phase <;> simp_all [LeasePhase.inLoop, LeasePhase.kept?,
    LeasePhase.renewal?]

/-! ## Steps that leave the stored lease alone -/

theorem KeepsCurrent.congr (same : later.objects nodeId = store.objects nodeId)
    {revision : Revision} (kept : KeepsCurrent leases store nodeId id revision) :
    KeepsCurrent leases later nodeId id revision := by
  intro object stored
  exact kept object (same ▸ stored)

theorem LostLease.congr (same : later.objects nodeId = store.objects nodeId)
    (lost : LostLease store nodeId id) : LostLease later nodeId id := by
  intro object stored
  exact lost object (same ▸ stored)

theorem FateOk.congr (same : later.objects nodeId = store.objects nodeId) {write : LeaseWrite}
    {revision : Revision} (ok : FateOk leases store nodeId id write revision) :
    FateOk leases later nodeId id write revision := by
  unfold FateOk at ok ⊢
  split at ok
  · exact ok.congr same
  · exact ok.congr same
  · exact fun body written => (ok body written).congr same

/-- The stored lease of the node and the awaited write are as before. -/
structure LeavesAlone (store later : LeaseStore) (nodeId : String) (id : NodeSessionId)
    (phase : LeasePhase) : Prop where
  object : later.objects nodeId = store.objects nodeId
  awaited : ∀ ticket revision write, phase.renewal? = some (ticket, revision) →
    store.writes ticket = some write → later.writes ticket = some write
  acquired : Acquired store id → Acquired later id

theorem RenewalOk.congr {phase : LeasePhase} (alone : LeavesAlone store later nodeId id phase)
    (ok : RenewalOk leases store nodeId id phase) :
    RenewalOk leases later nodeId id phase where
  acquired := fun inLoop => alone.acquired (ok.acquired inLoop)
  kept := fun revision same => (ok.kept revision same).congr alone.object
  awaits := by
    intro ticket revision same
    obtain ⟨write, found, issuer, key, condition, fate⟩ := ok.awaits ticket revision same
    exact ⟨write, alone.awaited ticket revision write same found, issuer, key, condition,
      fate.congr alone.object⟩

theorem Acquired.issue {write : LeaseWrite} (notAcquire : write.issuer ≠ ⟨id, .acquire⟩)
    (acquired : Acquired store id) : Acquired (store.issue write) id := by
  intro ticket known found issuer
  rcases writes_issue_cases found with ⟨-, rfl⟩ | old
  · exact absurd issuer notAcquire
  · exact acquired ticket known old issuer

/-- Sending a write leaves the stored leases alone. -/
theorem leavesAlone_issue (wf : Wellformed store) {write : LeaseWrite}
    (notAcquire : write.issuer ≠ ⟨id, .acquire⟩) (phase : LeasePhase) :
    LeavesAlone store (store.issue write) nodeId id phase where
  object := rfl
  awaited := fun _ _ _ _ found => writes_issue_of_some wf found
  acquired := fun acquired => acquired.issue notAcquire

/-! ## Settling -/

/-- Once the lease is lost, nothing is left that the kept revision could miss. -/
theorem RenewalOk.of_lost {phase : LeasePhase} (ok : RenewalOk leases store nodeId id phase)
    (lost : LostLease later nodeId id) (grows : Acquired store id → Acquired later id)
    (awaited : ∀ ticket revision write, phase.renewal? = some (ticket, revision) →
      store.writes ticket = some write → later.writes ticket = some write) :
    RenewalOk leases later nodeId id phase where
  acquired := fun inLoop => grows (ok.acquired inLoop)
  kept := fun revision _ => lost.keepsCurrent revision
  awaits := by
    intro ticket revision same
    obtain ⟨write, found, issuer, key, condition, -⟩ := ok.awaits ticket revision same
    refine ⟨write, awaited ticket revision write same found, issuer, key, condition, ?_⟩
    unfold FateOk
    split
    · exact lost.keepsCurrent _
    · exact lost
    · exact fun _ _ => lost.keepsCurrent _

/-- The awaited renewal is refused only if the lease is lost. -/
theorem awaitsRenewal_refuse {ticket : Nat} {write : LeaseWrite} {revision : Revision}
    (settled : store.settle? leases.stamp ticket = some (store.refuse ticket write))
    (pending : write.fate = .pending) (found : store.writes ticket = some write)
    (awaits : AwaitsRenewal leases store nodeId id ticket revision) :
    AwaitsRenewal leases (store.refuse ticket write) nodeId id ticket revision := by
  obtain ⟨known, found', issuer, key, condition, fate⟩ := awaits
  rw [found] at found'
  cases found'
  have here : (store.refuse ticket write).writes ticket =
      some { write with fate := .refused } := Function.update_self ..
  have differs := condition_of_refused settled found here rfl
  refine ⟨_, here, issuer, key, condition, ?_⟩
  intro object stored own
  rw [FateOk, pending] at fate
  apply differs
  rw [key, condition, Store.current, show store.objects nodeId = some object from stored,
    Option.map_some, fate object stored own]

/-- The awaited renewal is applied: its own revision is the current one. -/
theorem awaitsRenewal_apply {ticket : Nat} {write : LeaseWrite} {revision : Revision}
    (found : store.writes ticket = some write)
    (awaits : AwaitsRenewal leases store nodeId id ticket revision) :
    AwaitsRenewal leases (store.apply ticket write) nodeId id ticket revision := by
  obtain ⟨known, found', issuer, key, condition, -⟩ := awaits
  rw [found] at found'
  cases found'
  refine ⟨_, Function.update_self .., issuer, key, condition, ?_⟩
  intro body written object stored own
  have sent : write.body = some body := written
  simp only [Store.apply, ← key, Function.update_self, Write.object, sent, Option.map_some,
    Option.some.injEq] at stored
  subst stored
  rfl

/-- A write to the session's node that another session sent, or a delete,
leaves no lease of the session behind. -/
theorem lostLease_apply {ticket : Nat} {write : LeaseWrite} (key : write.key = nodeId)
    (foreign : write.issuer.session ≠ id ∨ write.body = none) :
    LostLease (store.apply ticket write) nodeId id := by
  intro object stored own
  simp only [Store.apply, ← key, Function.update_self, Write.object,
    Option.map_eq_some_iff] at stored
  obtain ⟨body, present, rfl⟩ := stored
  rcases foreign with other | deletes
  · exact other own
  · rw [deletes] at present
    cases present

/-- Settling the awaited renewal itself. -/
theorem RenewalOk.settle_awaited {phase : LeasePhase} {ticket : Nat} {revision : Revision}
    (awaited : phase.renewal? = some (ticket, revision))
    (settled : store.settle? leases.stamp ticket = some later)
    (ok : RenewalOk leases store nodeId id phase) : RenewalOk leases later nodeId id phase where
  acquired := fun inLoop => (ok.acquired inLoop).mono (keepsAcquired_settle settled)
  kept := by
    obtain ⟨node, started, rfl⟩ := renewal?_iff.mp awaited
    rintro _ ⟨⟩
  awaits := by
    intro ticket' revision' same
    cases awaited.symm.trans same
    obtain ⟨write, found, pending, ⟨-, rfl⟩ | rfl⟩ := settle?_cases settled
    · exact awaitsRenewal_apply found (ok.awaits ticket revision same)
    · exact awaitsRenewal_refuse settled pending found (ok.awaits ticket revision same)

/-- A renewal that is heeded but not awaited finds no revision kept. -/
theorem not_kept_of_heeds {phase : LeasePhase} {ticket : Nat} (heeds : phase.heeds ticket = true)
    (unawaited : ∀ revision, phase.renewal? ≠ some (ticket, revision)) :
    phase.kept? = none ∧ phase.renewal? = none := by
  cases phase <;> simp_all [LeasePhase.heeds, LeasePhase.kept?, LeasePhase.renewal?]

/-- Settling another write of anybody. -/
theorem RenewalOk.settle_other (reach : (leaseSystem leases configs).Reachable state)
    {ticket : Nat} (heeded : RenewalsHeeded leases state (.settle ticket))
    (settled : state.store.settle? leases.stamp ticket = some later)
    (unawaited : ∀ revision, (state.sessions id).phase.renewal? ≠ some (ticket, revision))
    (ok : RenewalOk leases state.store nodeId id (state.sessions id).phase) :
    RenewalOk leases later nodeId id (state.sessions id).phase := by
  have grows : Acquired state.store id → Acquired later id :=
    fun acquired => acquired.mono (keepsAcquired_settle settled)
  have different : ∀ other revision, (state.sessions id).phase.renewal? = some (other, revision) →
      other ≠ ticket := by
    rintro other revision awaited rfl
    exact unawaited revision awaited
  obtain ⟨write, found, pending, ⟨holds, rfl⟩ | rfl⟩ := settle?_cases settled
  · have untouched : ∀ other revision known,
        (state.sessions id).phase.renewal? = some (other, revision) →
        state.store.writes other = some known →
        (state.store.apply ticket write).writes other = some known := by
      intro other revision known awaited there
      simpa [Store.apply, Function.update_of_ne (different other revision awaited)] using there
    by_cases key : write.key = nodeId
    · by_cases own : write.issuer.session = id
      · cases operation : write.issuer.operation with
        | acquire =>
            refine renewalOk_of_not_inLoop (Bool.eq_false_iff.mpr fun inLoop => ?_)
            have issuer : write.issuer = ⟨id, .acquire⟩ := by rw [← own, ← operation]
            obtain ⟨serial, applied⟩ := ok.acquired inLoop ticket write found issuer
            rw [pending] at applied
            cases applied
        | release =>
            exact ok.of_lost
              (lostLease_apply key (.inr (release_deletes reach ticket write found operation)))
              grows untouched
        | renew =>
            have heeds := heeded.heeds found operation holds
            rw [own] at heeds
            obtain ⟨noneKept, noneAwaited⟩ := not_kept_of_heeds heeds unawaited
            refine ⟨fun inLoop => grows (ok.acquired inLoop), ?_, ?_⟩
            · intro revision kept
              rw [noneKept] at kept
              cases kept
            · intro other revision awaited
              rw [noneAwaited] at awaited
              cases awaited
      · exact ok.of_lost (lostLease_apply key (.inl own)) grows untouched
    · exact ok.congr ⟨by simp [Store.apply, Function.update_of_ne (Ne.symm key)], untouched, grows⟩
  · have alone : (state.store.refuse ticket write).objects nodeId =
        state.store.objects nodeId := rfl
    refine RenewalOk.congr ⟨alone, ?_, grows⟩ ok
    intro other revision known awaited there
    simpa [Store.refuse, Function.update_of_ne (different other revision awaited)] using there

theorem RenewalOk.settle (reach : (leaseSystem leases configs).Reachable state) {ticket : Nat}
    (heeded : RenewalsHeeded leases state (.settle ticket))
    (settled : state.store.settle? leases.stamp ticket = some later)
    (ok : RenewalOk leases state.store nodeId id (state.sessions id).phase) :
    RenewalOk leases later nodeId id (state.sessions id).phase := by
  by_cases awaited : ∃ revision, (state.sessions id).phase.renewal? = some (ticket, revision)
  · obtain ⟨revision, awaited⟩ := awaited
    exact ok.settle_awaited awaited settled
  · exact ok.settle_other reach heeded settled (not_exists.mp awaited)

/-! ## Steps of the session -/

/-- A phase that keeps a current revision. -/
theorem renewalOk_of_kept {phase : LeasePhase} {revision : Revision}
    (acquired : Acquired store id) (kept : KeepsCurrent leases store nodeId id revision)
    (keeps : phase.kept? = some revision) (quiet : phase.renewal? = none) :
    RenewalOk leases store nodeId id phase where
  acquired := fun _ => acquired
  kept := by
    intro other same
    cases keeps.symm.trans same
    exact kept
  awaits := by
    intro ticket other same
    rw [quiet] at same
    cases same

/-- From one phase of the loop to another that keeps the same revision. -/
theorem RenewalOk.move {phase next : LeasePhase} {revision : Revision}
    (ok : RenewalOk leases store nodeId id phase) (inLoop : phase.inLoop = true)
    (keeps : phase.kept? = some revision) (keeps' : next.kept? = some revision)
    (quiet : next.renewal? = none) : RenewalOk leases store nodeId id next :=
  renewalOk_of_kept (ok.acquired inLoop) (ok.kept revision keeps) keeps' quiet

/-- A phase of the loop that keeps no revision. -/
theorem renewalOk_of_acquired {phase : LeasePhase} (acquired : Acquired store id)
    (free : phase.kept? = none) (quiet : phase.renewal? = none) :
    RenewalOk leases store nodeId id phase where
  acquired := fun _ => acquired
  kept := by
    intro revision same
    rw [free] at same
    cases same
  awaits := by
    intro ticket revision same
    rw [quiet] at same
    cases same

/-- A read-back finds the revision that is stored. -/
theorem keepsCurrent_of_readBack {reply : Reply (Option (NodeRecord × Revision))}
    {node : NodeRecord} {revision : Revision}
    (answerable : state.answerable leases id (.readBack reply) = true)
    (confirmed : NodeSession.confirmed node reply = some revision) :
    KeepsCurrent leases state.store (state.sessions id).config.nodeId id revision := by
  intro object stored own
  cases reply with
  | elapsed => cases confirmed
  | failed error => cases confirmed
  | ok found =>
      simp only [LeaseState.answerable, beq_iff_eq, LeaseState.readNodeLease, stored] at answerable
      split at answerable
      · subst answerable
        cases confirmed
      · subst answerable
        simp only [NodeSession.confirmed, Option.ite_none_right_eq_some,
          Option.some.injEq] at confirmed
        exact confirmed.2

/-- An `Applied` answer names the awaited write as it was applied. -/
theorem applied_of_answerable {ticket : Nat} {write : LeaseWrite} {body : StoredNodeLease}
    {revision : Revision} (waiting : (state.sessions id).phase.awaits = some ticket)
    (found : state.store.writes ticket = some write) (sent : write.body = some body)
    (answerable : state.answerable leases id (.outcome (.ok (.applied revision))) = true) :
    ∃ serial, write.fate = .applied serial ∧ revision = leases.stamp serial body := by
  obtain ⟨key, issuer, sentBody, condition, fate⟩ := write
  cases sent
  simp only [LeaseState.answerable, waiting, Option.bind_some, found] at answerable
  cases fate with
  | pending => simp at answerable
  | refused => simp at answerable
  | applied serial => exact ⟨serial, rfl, by simpa using answerable⟩

/-- A `Conflict` answer tells that the awaited write was refused. -/
theorem refused_of_answerable {ticket : Nat} {write : LeaseWrite}
    (waiting : (state.sessions id).phase.awaits = some ticket)
    (found : state.store.writes ticket = some write)
    (answerable : state.answerable leases id (.outcome (.ok .conflict)) = true) :
    write.fate = .refused := by
  simp only [LeaseState.answerable, waiting, Option.bind_some, found] at answerable
  split at answerable
  · rename_i same
    cases same
    rfl
  · cases answerable

/-- After the acquisition was answered `Applied`, its revision is current. -/
theorem keepsCurrent_of_acquired (invariant : LeaseInvariant leases state) {ticket : Nat}
    {write : LeaseWrite} {body : StoredNodeLease} {serial : Nat}
    (sole : SoleWrite state.store id ticket) (found : state.store.writes ticket = some write)
    (sent : write.body = some body) (applied : write.fate = .applied serial) :
    KeepsCurrent leases state.store nodeId id (leases.stamp serial body) := by
  intro object stored own
  obtain ⟨other, known, there, -, body', issuer, applied'⟩ :=
    invariant.store.wellformed.written _ _ stored
  cases sole other known there (by rw [issuer, own])
  rw [found] at there
  cases there
  rw [sent, Option.some.injEq] at body'
  rw [applied, Fate.applied.injEq] at applied'
  rw [Object.revision, ← body', ← applied']

variable {input : LeaseInput} {session : NodeSession}

theorem StartOk.acquired {node : NodeRecord} {begun : Nat} {revision : Revision}
    (ok : StartOk store id session) (phase : session.phase = .acquired node begun revision) :
    Acquired store id := by
  by_cases built : session.authority = none
  · have starting := ok.starting built
    rw [phase] at starting
    exact starting
  · exact ok.constructed built

/-- The last step of `ServerStarter::start`. -/
theorem renewalOk_constructed {node : NodeRecord} {revision : Revision}
    (hphase : (state.sessions id).phase = .constructed node revision)
    (ok : RenewalOk leases store nodeId id (state.sessions id).phase)
    (stepped : NodeSession.startStep id state.now (state.sessions id)
      (state.sessions id).phase input = some session) :
    RenewalOk leases store nodeId id session.phase := by
  rw [hphase] at ok stepped
  cases input with
  | advance =>
      simp only [NodeSession.startStep] at stepped
      split at stepped
      · cases stepped
        exact ok.move rfl rfl rfl rfl
      · cases stepped
        exact renewalOk_of_not_inLoop rfl
  | _ => cases stepped

/-- The steps of `ServerStarter::start` between two writes, before the authority
is constructed. -/
theorem renewalOk_startStep (invariant : LeaseInvariant leases state)
    (unbuilt : (state.sessions id).authority = none)
    (start : StartOk state.store id (state.sessions id))
    (started : StartOk state.store id session)
    (ok : RenewalOk leases state.store (state.sessions id).config.nodeId id
      (state.sessions id).phase)
    (answerable : state.answerable leases id input = true)
    (stepped : NodeSession.startStep id state.now (state.sessions id)
      (state.sessions id).phase input = some session) :
    RenewalOk leases state.store (state.sessions id).config.nodeId id session.phase := by
  have phaseOk := (invariant.sessions id).phase
  have starting := start.starting unbuilt
  unfold NodeSession.startStep at stepped
  split at stepped
  case h_8 node begun ticket revision hphase =>
    cases stepped
    rw [hphase] at phaseOk starting
    obtain ⟨-, -, write, body, found, issuer, sent, -⟩ := phaseOk
    obtain ⟨serial, applied, rfl⟩ :=
      applied_of_answerable (by rw [hphase]; rfl) found sent answerable
    exact renewalOk_of_kept (started.acquired rfl)
      (keepsCurrent_of_acquired invariant starting found sent applied) rfl rfl
  case h_13 node begun left reply hphase =>
    split at stepped
    · rename_i revision confirmed
      cases stepped
      exact renewalOk_of_kept (started.acquired rfl)
        (keepsCurrent_of_readBack answerable confirmed) rfl rfl
    · cases stepped
      exact renewalOk_of_not_inLoop rfl
  case h_14 hphase =>
    cases stepped
    rw [hphase] at ok
    exact ok.move rfl rfl rfl rfl
  case h_15 hphase =>
    rw [hphase] at ok
    split at stepped
    · cases stepped
      exact ok.move rfl rfl rfl rfl
    · cases stepped
      exact renewalOk_of_not_inLoop rfl
  case h_16 => cases stepped
  all_goals (try split at stepped) <;> cases stepped <;> exact renewalOk_of_not_inLoop rfl

/-- A renewal that was not applied leaves the kept revision current. -/
theorem FateOk.keepsCurrent {write : LeaseWrite} {revision : Revision}
    (ok : FateOk leases store nodeId id write revision)
    (unapplied : ∀ serial, write.fate ≠ .applied serial) :
    KeepsCurrent leases store nodeId id revision := by
  unfold FateOk at ok
  split at ok
  · exact ok
  · exact ok.keepsCurrent revision
  · rename_i serial applied
    exact absurd applied (unapplied serial)

/-- The steps of the renewal loop between two writes. -/
theorem renewalOk_renewalStep {authority : NodeAuthority}
    (invariant : LeaseInvariant leases state)
    (heeded : RenewalsHeeded leases state (.session id input))
    (ok : RenewalOk leases state.store (state.sessions id).config.nodeId id
      (state.sessions id).phase)
    (answerable : state.answerable leases id input = true)
    (silent : ∀ ticket, input ≠ .issued ticket)
    (stepped : NodeSession.renewalStep state.now (state.sessions id) authority
      (state.sessions id).phase input = some session) :
    RenewalOk leases state.store (state.sessions id).config.nodeId id session.phase := by
  have phaseOk := (invariant.sessions id).phase
  unfold NodeSession.renewalStep at stepped
  split at stepped
  case h_7 ticket _ => exact absurd rfl (silent ticket)
  case h_19 ticket _ => exact absurd rfl (silent ticket)
  case h_8 node revision started ticket next hphase =>
    cases stepped
    have waiting : (state.sessions id).phase.awaits = some ticket := by
      rw [hphase]
      rfl
    rw [hphase] at ok phaseOk
    obtain ⟨write, found, -, -, -, fate⟩ := ok.awaits ticket revision rfl
    obtain ⟨-, -, -, known, body, found', -, sent, -⟩ := phaseOk
    rw [found] at found'
    cases found'
    obtain ⟨serial, applied, rfl⟩ := applied_of_answerable waiting found sent answerable
    rw [FateOk, applied] at fate
    exact renewalOk_of_kept (ok.acquired rfl) (fate body sent) rfl rfl
  case h_9 node revision started ticket error hphase =>
    cases stepped
    rw [hphase] at ok
    exact renewalOk_of_acquired (ok.acquired rfl) rfl rfl
  case h_11 node revision started ticket reply applied unknown conflict hphase =>
    cases stepped
    have waiting : (state.sessions id).phase.awaits = some ticket := by
      rw [hphase]
      rfl
    have silent : ∀ outcome, reply ≠ .ok outcome := by
      rintro outcome rfl
      cases outcome with
      | applied next => exact applied next rfl
      | conflict => exact conflict rfl
      | indeterminate error => exact unknown error rfl
    rw [hphase] at ok
    obtain ⟨write, found, issuer, -, -, fate⟩ := ok.awaits ticket revision rfl
    have unapplied := heeded.notApplied silent waiting found (by rw [issuer])
    exact renewalOk_of_kept (ok.acquired rfl) (fate.keepsCurrent unapplied) rfl rfl
  case h_12 node revision started deadline left hphase =>
    rw [hphase] at ok
    split at stepped
    · cases stepped
      exact renewalOk_of_acquired (ok.acquired rfl) rfl rfl
    · cases stepped
      exact renewalOk_of_not_inLoop rfl
  case h_14 node revision started deadline left reply hphase =>
    rw [hphase] at ok
    split at stepped
    · rename_i next confirmed
      cases stepped
      exact renewalOk_of_kept (ok.acquired rfl) (keepsCurrent_of_readBack answerable confirmed)
        rfl rfl
    · cases stepped
      exact renewalOk_of_acquired (ok.acquired rfl) rfl rfl
  case h_22 => cases stepped
  all_goals
    rename_i hphase
    rw [hphase] at ok
    (try split at stepped) <;> cases stepped <;> first
      | exact ok.move rfl rfl rfl rfl
      | exact renewalOk_of_not_inLoop rfl

theorem renewalOk_silent (invariant : LeaseInvariant leases state)
    (start : StartOk state.store id (state.sessions id))
    (started : StartOk state.store id session)
    (heeded : RenewalsHeeded leases state (.session id input))
    (ok : RenewalOk leases state.store (state.sessions id).config.nodeId id
      (state.sessions id).phase)
    (answerable : state.answerable leases id input = true)
    (silent : ∀ ticket, input ≠ .issued ticket)
    (stepped : (state.sessions id).step? id state.now input = some session) :
    RenewalOk leases state.store (state.sessions id).config.nodeId id session.phase := by
  simp only [NodeSession.step?] at stepped
  split at stepped
  · rename_i unbuilt
    exact renewalOk_startStep invariant unbuilt start started ok answerable stepped
  · split at stepped
    · rename_i hphase
      exact renewalOk_constructed hphase ok (by
        rw [hphase] at stepped ⊢
        exact stepped)
    · exact renewalOk_renewalStep invariant heeded ok answerable silent stepped

/-- Sending a renewal: it is pending, under a revision that is current. -/
theorem renewalOk_issued {write : LeaseWrite}
    (built : (state.sessions id).write? id state.now = some write)
    (nodeOk : ∀ node revision started, (state.sessions id).phase = .renewing node revision started →
      node.nodeId = nodeId)
    (ok : RenewalOk leases state.store nodeId id (state.sessions id).phase)
    (stepped : (state.sessions id).step? id state.now (.issued state.store.tickets) =
      some session) :
    RenewalOk leases (state.store.issue write) nodeId id session.phase := by
  rcases step?_issued rfl stepped with ⟨node, begun, revision, hphase, rfl⟩ |
    ⟨node, revision, begun, hphase, rfl⟩ | ⟨node, revision, hphase, rfl⟩
  · exact renewalOk_of_not_inLoop rfl
  · have key := nodeOk node revision begun hphase
    rw [hphase] at ok
    simp only [NodeSession.write?, hphase, Option.some.injEq] at built
    subst built
    refine ⟨fun _ => (ok.acquired rfl).issue (by simp), ?_, ?_⟩
    · rintro _ ⟨⟩
    · rintro ticket other ⟨⟩
      exact ⟨_, Function.update_self .., rfl, key, rfl, ok.kept revision rfl⟩
  · exact renewalOk_of_not_inLoop rfl

/-! ## Whole runs -/

theorem renewalOk_step? (reach : (leaseSystem leases configs).Reachable state)
    {label : LeaseLabel} (heeded : RenewalsHeeded leases state label)
    (ok : ∀ id, RenewalOk leases state.store (configs id).nodeId id (state.sessions id).phase)
    (stepped : state.step? leases label = some after) (id : NodeSessionId) :
    RenewalOk leases after.store (configs id).nodeId id (after.sessions id).phase := by
  have invariant := leaseInvariant_of_reachable reach
  have started := startOk_of_reachable (.step reach trivial stepped) id
  have config := config_of_reachable reach id
  cases label with
  | tick elapsed =>
      simp only [LeaseState.step?, Option.ite_none_right_eq_some, Option.some.injEq] at stepped
      obtain ⟨-, rfl⟩ := stepped
      exact ok id
  | settle ticket =>
      obtain ⟨store, settled, rfl⟩ := Option.map_eq_some_iff.mp stepped
      have settledOk := RenewalOk.settle reach heeded settled (ok id)
      exact settledOk
  | session other input =>
      simp only [LeaseState.step?, Option.ite_none_right_eq_some, Option.bind_eq_some_iff,
        Option.map_eq_some_iff] at stepped
      obtain ⟨answerable, store, sent, session, moved, rfl⟩ := stepped
      have start := startOk_of_reachable reach id
      cases which : input with
      | issued ticket =>
          subst which
          simp only [LeaseState.answerable, beq_iff_eq] at answerable
          subst answerable
          simp only [LeaseState.sent, Option.map_eq_some_iff] at sent
          obtain ⟨write, built, rfl⟩ := sent
          by_cases same : id = other
          · subst same
            simp only [Function.update_self]
            refine renewalOk_issued built ?_ (ok id) moved
            intro node revision begun hphase
            have phaseOk := (invariant.sessions id).phase
            rw [hphase, config] at phaseOk
            exact phaseOk.1.nodeId
          · simp only [Function.update_of_ne same]
            refine (ok id).congr (leavesAlone_issue invariant.store.wellformed ?_ _)
            intro issuer
            have owner := write?_issuer built
            rw [issuer] at owner
            exact same owner
      | _ =>
          subst which
          cases sent
          by_cases same : id = other
          · subst same
            simp only [Function.update_self] at started ⊢
            rw [← config]
            refine renewalOk_silent invariant start started heeded ?_ answerable
              (fun _ => (by rintro ⟨⟩)) moved
            rw [config]
            exact ok id
          · simpa only [Function.update_of_ne same] using ok id

theorem renewalOk_of_reachable
    (reach : (leaseSystem leases configs).ReachableWhile (RenewalsHeeded leases) state)
    (id : NodeSessionId) :
    RenewalOk leases state.store (configs id).nodeId id (state.sessions id).phase := by
  refine invariant_of_reachable_step (fun state : LeaseState => ∀ id,
    RenewalOk leases state.store (configs id).nodeId id (state.sessions id).phase) ?_ ?_ reach id
  · rintro start ⟨-, -, sessions⟩ id
    rw [sessions]
    exact renewalOk_of_not_inLoop rfl
  · intro before label after earlier ok heeded stepped
    exact renewalOk_step? (reachable_of_reachableWhile earlier) heeded ok stepped

/-- The renewal loop of a session meets a conflict and goes on to fence. -/
def ConflictFences (leases : LeaseStamp) (state after : LeaseState) (id : NodeSessionId) : Prop :=
  (∃ node revision started ticket,
    (state.sessions id).phase = .awaitingRenewal node revision started ticket) ∧
    state.step? leases (.session id (.outcome (.ok .conflict))) = some after

/-- As long as no renewal is applied whose call ended in a timeout or an error,
the loop fences on a conflict only when its lease is gone or another's. -/
theorem conflict_means_lost_lease
    (reach : (leaseSystem leases configs).ReachableWhile (RenewalsHeeded leases) state)
    (fences : ConflictFences leases state after id) :
    LostLease state.store (configs id).nodeId id := by
  obtain ⟨⟨node, revision, begun, ticket, hphase⟩, stepped⟩ := fences
  have ok := renewalOk_of_reachable reach id
  simp only [LeaseState.step?, Option.ite_none_right_eq_some] at stepped
  have waiting : (state.sessions id).phase.awaits = some ticket := by
    rw [hphase]
    rfl
  rw [hphase] at ok
  obtain ⟨write, found, -, -, -, fate⟩ := ok.awaits ticket revision rfl
  have refused := refused_of_answerable waiting found stepped.1
  rw [FateOk, refused] at fate
  exact fate

/-! ## Two runs of one loop -/

/-- From the constructed authority to a renewal sent under this ticket. -/
def beginRenewal (ticket : Nat) : List LeaseLabel :=
  [.advance, .advance, .advance, .sample ⟨8, 8, true⟩, .advance, .issued ticket].map
    (LeaseLabel.session ⟨"a-1"⟩)

/-- The first renewal is applied but times out; the second meets a conflict. -/
def renewalTimesOut : List LeaseLabel :=
  acquisition ++ [.session ⟨"a-1"⟩ .advance] ++ beginRenewal 1 ++
    [.settle 1, .session ⟨"a-1"⟩ (.outcome .elapsed), .session ⟨"a-1"⟩ .advance] ++
    beginRenewal 2 ++ [.settle 2]

/-- A session fences itself over its own renewal. -/
theorem own_renewal_fences :
    ∃ state after, (leaseSystem countedLeases fun _ => ⟨"node-a", "node-a:1", 10000000, 8⟩).run?
        startedLeases renewalTimesOut = some state ∧
      ConflictFences countedLeases state after ⟨"a-1"⟩ ∧
      ¬ LostLease state.store "node-a" ⟨"a-1"⟩ := by
  refine ⟨_, _, rfl, ⟨⟨_, _, _, _, rfl⟩, rfl⟩, fun lost => ?_⟩
  exact lost _ rfl rfl

/-- A renewal is delayed until another session has taken the node over. -/
def renewalComesLate : List LeaseLabel :=
  acquisition ++ [.session ⟨"a-1"⟩ .advance] ++ beginRenewal 1 ++ [.tick 20000000] ++
    [.session ⟨"a-2"⟩ .advance, .session ⟨"a-2"⟩ .advance,
      .session ⟨"a-2"⟩ (.found (.ok (some (⟨""⟩, 110)))), .session ⟨"a-2"⟩ .advance,
      .session ⟨"a-2"⟩ (.issued 2), .settle 2, .settle 1]

/-- The conflict tells that the lease is the other session's. -/
theorem late_renewal_has_lost_lease :
    ∃ state after, (leaseSystem countedLeases fun _ => ⟨"node-a", "node-a:1", 10000000, 8⟩).run?
        startedLeases renewalComesLate = some state ∧
      ConflictFences countedLeases state after ⟨"a-1"⟩ ∧
      LostLease state.store "node-a" ⟨"a-1"⟩ := by
  have initial : (leaseSystem countedLeases fun _ => ⟨"node-a", "node-a:1", 10000000, 8⟩).initial
      startedLeases := ⟨by decide, rfl, rfl⟩
  have meets : (leaseSystem countedLeases fun _ => ⟨"node-a", "node-a:1", 10000000, 8⟩).Meets
      (RenewalsHeeded countedLeases) startedLeases renewalComesLate := meets_of_meets? rfl
  have reach := reachableWhile_of_run? (.start initial) meets rfl
  exact ⟨_, _, rfl, ⟨⟨_, _, _, _, rfl⟩, rfl⟩,
    conflict_means_lost_lease reach ⟨⟨_, _, _, _, rfl⟩, rfl⟩⟩

end Coactor.Coordination
