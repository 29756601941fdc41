import Coactor.Coordination.LeaseSystem

/-!
# The invariant of the Node Lease store

The argument rests on one property of the store: as long as a lease written by
a session has not expired and the session has not given it back, the stored
lease is one of that session and expires no earlier.  It survives every order
of settling, because an acquisition is conditioned on an object that has
expired, and a renewal or a release on an object of its own session.  What a
session must remember for this is a revision it wrote itself, and a written
lease that outlasts the deadline of its authority.
-/

namespace Coactor.Coordination

open Coactor.Foundation.Transition
open Coactor.Foundation.ConditionalStore

variable {leases : LeaseStamp}

/-! ## Instants -/

theorem wallTimeMillis_of_lt {now : Nat} (bounded : now < u64Max) : wallTimeMillis now = now := by
  unfold wallTimeMillis
  omega

/-- The millisecond until which a lease written at this instant lasts. -/
def leaseTerm (started ttl : Nat) : Nat := started / nanosPerMilli + ttl / nanosPerMilli

theorem leaseTerm_mono {started later : Nat} (forward : started ≤ later) (ttl : Nat) :
    leaseTerm started ttl ≤ leaseTerm later ttl :=
  Nat.add_le_add_right (Nat.div_le_div_right forward) _

theorem putNodeAt_expiry {node : NodeRecord} {ttl now : Nat}
    (bounded : now / nanosPerMilli < u64Max) :
    (putNodeAt node ttl now).expiresAtUnixMs = min (leaseTerm now ttl) u64Max := by
  simp only [putNodeAt, putNode, saturatingAdd, wallTimeMillis, leaseTerm]
  generalize now / nanosPerMilli = instant at bounded ⊢
  generalize ttl / nanosPerMilli = term
  omega

theorem isExpiredAt_iff_of_lt {lease : StoredNodeLease} {now : Nat}
    (bounded : now / nanosPerMilli < u64Max) :
    lease.isExpiredAt now = true ↔ lease.expiresAtUnixMs ≤ now / nanosPerMilli := by
  rw [StoredNodeLease.isExpiredAt, decide_eq_true_iff, wallTimeMillis_of_lt bounded]

/-! ## What a session relies on -/

/-- A revision of a lease this session wrote. -/
def Known (leases : LeaseStamp) (store : LeaseStore) (nodeId : String) (id : NodeSessionId)
    (revision : Revision) : Prop :=
  ∃ object, Written store nodeId object ∧ object.revision leases.stamp = revision ∧
    object.issuer.session = id

/-- This session wrote a lease that lasts until this millisecond. -/
def Covered (store : LeaseStore) (nodeId : String) (id : NodeSessionId)
    (deadline : Nat) : Prop :=
  ∃ object : LeaseObject, Written store nodeId object ∧ object.issuer.session = id ∧
    min deadline u64Max ≤ object.body.expiresAtUnixMs

/-- A revision of a lease that has expired. -/
def Expired (leases : LeaseStamp) (store : LeaseStore) (nodeId : String) (now : Nat)
    (revision : Revision) : Prop :=
  ∃ object, Written store nodeId object ∧ object.revision leases.stamp = revision ∧
    object.body.expiresAtUnixMs ≤ now

def NoWrites (store : LeaseStore) (id : NodeSessionId) : Prop :=
  ∀ ticket write, store.writes ticket = some write → write.issuer.session ≠ id

/-- Every lease this session has sent lasts for the term begun at `started`. -/
def LastsFrom (store : LeaseStore) (id : NodeSessionId) (deadline : Nat) : Prop :=
  ∀ ticket write body, store.writes ticket = some write → write.issuer.session = id →
    write.body = some body → min deadline u64Max ≤ body.expiresAtUnixMs

/-- The awaited write is a lease of this session. -/
def Awaits (store : LeaseStore) (id : NodeSessionId) (ticket deadline : Nat) : Prop :=
  ∃ write body, store.writes ticket = some write ∧ write.issuer.session = id ∧
    write.body = some body ∧ min deadline u64Max ≤ body.expiresAtUnixMs

/-- The record a session writes names the session and was sampled in the past. -/
structure NodeOk (config : ServerRuntimeConfig) (now : Nat) (id : NodeSessionId)
    (node : NodeRecord) : Prop where
  nodeId : node.nodeId = config.nodeId
  sessionId : node.sessionId = id
  sampled : node.sampledAtUnixMs ≤ now / nanosPerMilli

/-- What holds at each phase of a session. -/
def PhaseOk (leases : LeaseStamp) (store : LeaseStore) (now : Nat) (id : NodeSessionId)
    (config : ServerRuntimeConfig) : LeasePhase → Prop
  | .unstarted => NoWrites store id
  | .drafted node => NodeOk config now id node ∧ NoWrites store id
  | .acquiring node started => NodeOk config now id node ∧ NoWrites store id ∧ started ≤ now
  | .inspected node started found =>
      NodeOk config now id node ∧ NoWrites store id ∧ started ≤ now ∧
        ∀ revision expiresAt, found = some (revision, expiresAt) →
          Expired leases store config.nodeId expiresAt revision
  | .putting node started revision =>
      NodeOk config now id node ∧ NoWrites store id ∧ started ≤ now ∧
        ∀ expected, revision = some expected →
          Expired leases store config.nodeId (now / nanosPerMilli) expected
  | .awaitingAcquire node started ticket =>
      NodeOk config now id node ∧ LastsFrom store id (leaseTerm started config.nodeLeaseTtl) ∧
        Awaits store id ticket (leaseTerm started config.nodeLeaseTtl)
  | .confirmingStart node started _ =>
      NodeOk config now id node ∧ LastsFrom store id (leaseTerm started config.nodeLeaseTtl)
  | .readingStart node started _ =>
      NodeOk config now id node ∧ LastsFrom store id (leaseTerm started config.nodeLeaseTtl)
  | .acquired node started revision | .granted node revision started =>
      NodeOk config now id node ∧ Known leases store config.nodeId id revision ∧
        Covered store config.nodeId id (leaseTerm started config.nodeLeaseTtl)
  | .constructed node revision | .sleeping node revision | .woken node revision
  | .permitted node revision | .undecided node revision | .losing node revision
  | .fencing node revision | .exited node revision _ =>
      NodeOk config now id node ∧ Known leases store config.nodeId id revision
  | .begun node revision started =>
      NodeOk config now id node ∧ Known leases store config.nodeId id revision ∧ started ≤ now
  | .sampled node revision started | .renewing node revision started
  | .confirming node revision started _ _ | .reading node revision started _ _ =>
      NodeOk config now id node ∧ Known leases store config.nodeId id revision ∧
        started / nanosPerMilli ≤ node.sampledAtUnixMs
  | .awaitingRenewal node revision started ticket =>
      NodeOk config now id node ∧ Known leases store config.nodeId id revision ∧
        started / nanosPerMilli ≤ node.sampledAtUnixMs ∧
        Awaits store id ticket (leaseTerm started config.nodeLeaseTtl)
  | .failed | .awaitingRelease _ | .finished => True

/-- The authority of a session is covered by a lease it wrote. -/
structure SessionOk (leases : LeaseStamp) (store : LeaseStore) (now : Nat)
    (id : NodeSessionId) (session : NodeSession) : Prop where
  phase : PhaseOk leases store now id session.config session.phase
  authority : ∀ authority, session.authority = some authority →
    authority.ttl = session.config.nodeLeaseTtl ∧
      ∃ started, authority.deadline = started + session.config.nodeLeaseTtl ∧
        Covered store session.config.nodeId id (leaseTerm started session.config.nodeLeaseTtl)

/-- The part of the invariant that concerns the store alone. -/
structure StoreOk (leases : LeaseStamp) (state : LeaseState) : Prop where
  wellformed : Wellformed state.store
  clock : state.now / nanosPerMilli < u64Max
  key : ∀ ticket write, state.store.writes ticket = some write →
    write.key = (state.sessions write.issuer.session).config.nodeId
  put : ∀ ticket write body, state.store.writes ticket = some write →
    write.body = some body →
      body.node.sessionId = write.issuer.session ∧
      min (body.node.sampledAtUnixMs +
        (state.sessions write.issuer.session).config.nodeLeaseTtl / nanosPerMilli) u64Max ≤
          body.expiresAtUnixMs ∧
      body.expiresAtUnixMs ≤ min (leaseTerm state.now
        (state.sessions write.issuer.session).config.nodeLeaseTtl) u64Max
  acquire : ∀ ticket write, state.store.writes ticket = some write →
    write.issuer.operation = .acquire → ∀ revision, write.condition = some revision →
      Expired leases state.store write.key (state.now / nanosPerMilli) revision
  renew : ∀ ticket write body, state.store.writes ticket = some write →
    write.issuer.operation = .renew → write.body = some body →
      ∃ object, Written state.store write.key object ∧
        write.condition = some (object.revision leases.stamp) ∧
        object.issuer.session = write.issuer.session ∧
        ∀ older, Written state.store write.key older →
          older.issuer.session = write.issuer.session → older.serial ≤ object.serial →
            older.body.expiresAtUnixMs ≤ body.expiresAtUnixMs
  release : ∀ ticket write, state.store.writes ticket = some write →
    write.issuer.operation = .release →
      (state.sessions write.issuer.session).released = true ∧
      ∃ object, Written state.store write.key object ∧
        write.condition = some (object.revision leases.stamp) ∧
        object.issuer.session = write.issuer.session
  keeps : ∀ ticket write, state.store.writes ticket = some write →
    write.issuer.operation = .renew → write.body ≠ none
  covers : ∀ key older, Written state.store key older →
    (state.sessions older.issuer.session).released = false →
    state.now / nanosPerMilli < older.body.expiresAtUnixMs →
      ∃ object, state.store.objects key = some object ∧
        object.issuer.session = older.issuer.session ∧
        older.body.expiresAtUnixMs ≤ object.body.expiresAtUnixMs

structure LeaseInvariant (leases : LeaseStamp) (state : LeaseState) : Prop where
  store : StoreOk leases state
  sessions : ∀ id, SessionOk leases state.store state.now id (state.sessions id)

/-! ## Growth of the store -/

/-- The store grows and no write of this session is added. -/
structure Quiet (before after : LeaseStore) (id : NodeSessionId) : Prop where
  grows : Grows before after
  origin : ∀ ticket write, after.writes ticket = some write → write.issuer.session = id →
    ∃ fate, before.writes ticket = some { write with fate := fate }

theorem Quiet.refl (store : LeaseStore) (id : NodeSessionId) : Quiet store store id where
  grows := .refl store
  origin := fun _ write found _ => ⟨write.fate, found⟩

theorem quiet_settle {before after : LeaseStore} {ticket : Nat}
    (settled : before.settle? leases.stamp ticket = some after) (id : NodeSessionId) :
    Quiet before after id where
  grows := grows_settle? settled
  origin := fun _ _ found _ => writes_settle? settled found

theorem quiet_issue {store : LeaseStore} (wf : Wellformed store) {write : LeaseWrite}
    {id : NodeSessionId} (other : write.issuer.session ≠ id) :
    Quiet store (store.issue write) id where
  grows := grows_issue wf write
  origin := by
    intro ticket known found issuer
    rcases writes_issue_cases found with ⟨-, rfl⟩ | old
    · exact absurd issuer other
    · exact ⟨known.fate, old⟩

section Growth

variable {before after : LeaseStore} {nodeId : String} {id : NodeSessionId}

theorem Known.mono (grows : Grows before after) {revision : Revision}
    (known : Known leases before nodeId id revision) :
    Known leases after nodeId id revision := by
  obtain ⟨object, written, rest⟩ := known
  exact ⟨object, grows.written _ _ written, rest⟩

theorem Covered.mono (grows : Grows before after) {deadline : Nat}
    (covered : Covered before nodeId id deadline) : Covered after nodeId id deadline := by
  obtain ⟨object, written, rest⟩ := covered
  exact ⟨object, grows.written _ _ written, rest⟩

theorem Expired.mono (grows : Grows before after) {now later : Nat} (forward : now ≤ later)
    {revision : Revision} (expired : Expired leases before nodeId now revision) :
    Expired leases after nodeId later revision := by
  obtain ⟨object, written, same, past⟩ := expired
  exact ⟨object, grows.written _ _ written, same, Nat.le_trans past forward⟩

theorem NoWrites.mono (quiet : Quiet before after id) (none : NoWrites before id) :
    NoWrites after id := by
  intro ticket write found issuer
  obtain ⟨fate, old⟩ := quiet.origin ticket write found issuer
  exact none ticket _ old issuer

theorem LastsFrom.mono (quiet : Quiet before after id) {deadline : Nat}
    (lasts : LastsFrom before id deadline) : LastsFrom after id deadline := by
  intro ticket write body found issuer hbody
  obtain ⟨fate, old⟩ := quiet.origin ticket write found issuer
  exact lasts ticket _ body old issuer hbody

theorem Awaits.mono (grows : Grows before after) {ticket deadline : Nat}
    (awaits : Awaits before id ticket deadline) : Awaits after id ticket deadline := by
  obtain ⟨write, body, found, rest⟩ := awaits
  obtain ⟨fate, kept⟩ := grows.writes ticket write found
  exact ⟨_, body, kept, rest⟩

theorem NodeOk.mono {config : ServerRuntimeConfig} {now later : Nat} {node : NodeRecord}
    (forward : now ≤ later) (ok : NodeOk config now id node) : NodeOk config later id node :=
  { ok with sampled := Nat.le_trans ok.sampled (Nat.div_le_div_right forward) }

/-- What holds at a phase still holds after others have moved. -/
theorem PhaseOk.mono {config : ServerRuntimeConfig} {now later : Nat} {phase : LeasePhase}
    (quiet : Quiet before after id) (forward : now ≤ later)
    (ok : PhaseOk leases before now id config phase) :
    PhaseOk leases after later id config phase := by
  have grows := quiet.grows
  cases phase with
  | unstarted => exact NoWrites.mono quiet ok
  | drafted node => exact ⟨ok.1.mono forward, ok.2.mono quiet⟩
  | acquiring node started =>
      exact ⟨ok.1.mono forward, ok.2.1.mono quiet, Nat.le_trans ok.2.2 forward⟩
  | inspected node started found =>
      refine ⟨ok.1.mono forward, ok.2.1.mono quiet, Nat.le_trans ok.2.2.1 forward, ?_⟩
      exact fun revision expiresAt same =>
        (ok.2.2.2 revision expiresAt same).mono grows (Nat.le_refl _)
  | putting node started revision =>
      refine ⟨ok.1.mono forward, ok.2.1.mono quiet, Nat.le_trans ok.2.2.1 forward, ?_⟩
      exact fun expected same =>
        (ok.2.2.2 expected same).mono grows (Nat.div_le_div_right forward)
  | awaitingAcquire node started ticket =>
      exact ⟨ok.1.mono forward, ok.2.1.mono quiet, ok.2.2.mono grows⟩
  | confirmingStart node started left => exact ⟨ok.1.mono forward, ok.2.mono quiet⟩
  | readingStart node started left => exact ⟨ok.1.mono forward, ok.2.mono quiet⟩
  | acquired node started revision =>
      exact ⟨ok.1.mono forward, ok.2.1.mono grows, ok.2.2.mono grows⟩
  | granted node revision started =>
      exact ⟨ok.1.mono forward, ok.2.1.mono grows, ok.2.2.mono grows⟩
  | constructed node revision => exact ⟨ok.1.mono forward, ok.2.mono grows⟩
  | sleeping node revision => exact ⟨ok.1.mono forward, ok.2.mono grows⟩
  | woken node revision => exact ⟨ok.1.mono forward, ok.2.mono grows⟩
  | permitted node revision => exact ⟨ok.1.mono forward, ok.2.mono grows⟩
  | undecided node revision => exact ⟨ok.1.mono forward, ok.2.mono grows⟩
  | losing node revision => exact ⟨ok.1.mono forward, ok.2.mono grows⟩
  | fencing node revision => exact ⟨ok.1.mono forward, ok.2.mono grows⟩
  | exited node revision release => exact ⟨ok.1.mono forward, ok.2.mono grows⟩
  | begun node revision started =>
      exact ⟨ok.1.mono forward, ok.2.1.mono grows, Nat.le_trans ok.2.2 forward⟩
  | sampled node revision started => exact ⟨ok.1.mono forward, ok.2.1.mono grows, ok.2.2⟩
  | renewing node revision started => exact ⟨ok.1.mono forward, ok.2.1.mono grows, ok.2.2⟩
  | confirming node revision started deadline left =>
      exact ⟨ok.1.mono forward, ok.2.1.mono grows, ok.2.2⟩
  | reading node revision started deadline left =>
      exact ⟨ok.1.mono forward, ok.2.1.mono grows, ok.2.2⟩
  | awaitingRenewal node revision started ticket =>
      exact ⟨ok.1.mono forward, ok.2.1.mono grows, ok.2.2.1, ok.2.2.2.mono grows⟩
  | failed => trivial
  | awaitingRelease ticket => trivial
  | finished => trivial

theorem SessionOk.mono {now later : Nat} {session : NodeSession}
    (quiet : Quiet before after id) (forward : now ≤ later)
    (ok : SessionOk leases before now id session) : SessionOk leases after later id session where
  phase := ok.phase.mono quiet forward
  authority := by
    intro authority constructed
    obtain ⟨term, started, deadline, covered⟩ := ok.authority authority constructed
    exact ⟨term, started, deadline, covered.mono quiet.grows⟩

end Growth

/-! ## Answers of the store -/

section Answers

variable {state : LeaseState} {id : NodeSessionId}

/-- A written lease names its session and lasts a term from its sample. -/
theorem StoreOk.written_lease (ok : StoreOk leases state) {key : String} {object : LeaseObject}
    (written : Written state.store key object) :
    object.body.node.sessionId = object.issuer.session ∧
      min (object.body.node.sampledAtUnixMs +
        (state.sessions object.issuer.session).config.nodeLeaseTtl / nanosPerMilli) u64Max ≤
          object.body.expiresAtUnixMs := by
  obtain ⟨ticket, write, found, -, body, issuer, -⟩ := written
  have put := ok.put ticket write object.body found body
  rw [issuer] at put
  exact ⟨put.1, put.2.1⟩

/-- A lease inspected before an acquisition was written with that expiry. -/
theorem StoreOk.expired_of_found (ok : StoreOk leases state)
    {found : Option (Revision × Nat)}
    (answerable : state.answerable leases id (.found (.ok found)) = true)
    {revision : Revision} {expiresAt : Nat} (same : found = some (revision, expiresAt)) :
    Expired leases state.store (state.sessions id).config.nodeId expiresAt revision := by
  simp only [LeaseState.answerable, beq_iff_eq, LeaseState.readNodeKey] at answerable
  rw [same, eq_comm, Option.map_eq_some_iff] at answerable
  obtain ⟨object, stored, pair⟩ := answerable
  cases pair
  exact ⟨object, ok.wellformed.written _ _ stored, rfl, Nat.le_refl _⟩

/-- An `Applied` answer names a lease this session wrote. -/
theorem StoreOk.known_of_applied (ok : StoreOk leases state) {ticket deadline : Nat}
    {revision : Revision} (awaits : Awaits state.store id ticket deadline)
    (waiting : (state.sessions id).phase.awaits = some ticket)
    (answerable : state.answerable leases id (.outcome (.ok (.applied revision))) = true) :
    Known leases state.store (state.sessions id).config.nodeId id revision ∧
      Covered state.store (state.sessions id).config.nodeId id deadline := by
  obtain ⟨⟨key, issuer, hbody, condition, fate⟩, body, found, rfl, rfl, lasts⟩ := awaits
  have hkey := ok.key ticket _ found
  simp only [LeaseState.answerable, waiting, Option.bind_some, found] at answerable
  cases fate with
  | pending => simp at answerable
  | refused => simp at answerable
  | applied serial =>
      simp only [beq_iff_eq] at answerable
      have written : Written state.store (state.sessions issuer.session).config.nodeId
          ⟨body, issuer, serial⟩ := ⟨ticket, _, found, hkey, rfl, rfl, rfl⟩
      exact ⟨⟨_, written, answerable.symm, rfl⟩, ⟨_, written, rfl, lasts⟩⟩

/-- A read-back that confirms the record finds a lease this session wrote. -/
theorem StoreOk.written_of_readBack (ok : StoreOk leases state)
    {reply : Reply (Option (NodeRecord × Revision))} {node : NodeRecord} {revision : Revision}
    (answerable : state.answerable leases id (.readBack reply) = true)
    (confirmed : NodeSession.confirmed node reply = some revision)
    (session : node.sessionId = id) :
    ∃ object, Written state.store (state.sessions id).config.nodeId object ∧
      object.revision leases.stamp = revision ∧ object.issuer.session = id ∧
      object.body.node = node := by
  cases reply with
  | elapsed => cases confirmed
  | failed error => cases confirmed
  | ok found =>
      simp only [LeaseState.answerable, beq_iff_eq, LeaseState.readNodeLease] at answerable
      cases stored : state.store.objects (state.sessions id).config.nodeId with
      | none =>
          simp only [stored] at answerable
          subst answerable
          cases confirmed
      | some object =>
          simp only [stored] at answerable
          have written := ok.wellformed.written _ _ stored
          split at answerable
          · subst answerable
            cases confirmed
          · subst answerable
            simp only [NodeSession.confirmed, Option.ite_none_right_eq_some,
              Option.some.injEq] at confirmed
            obtain ⟨rfl, rfl⟩ := confirmed
            exact ⟨object, written, rfl, (ok.written_lease written).1.symm.trans session, rfl⟩

end Answers

/-! ## Steps of one session -/

section Session

variable {state : LeaseState} {id : NodeSessionId} {input : LeaseInput} {after : NodeSession}

theorem step?_config (stepped : (state.sessions id).step? id state.now input = some after) :
    after.config = (state.sessions id).config := by
  simp only [NodeSession.step?] at stepped
  split at stepped
  · simp only [NodeSession.startStep] at stepped
    split at stepped <;> (try split at stepped) <;> cases stepped <;> rfl
  · split at stepped
    · simp only [NodeSession.startStep] at stepped
      split at stepped <;> (try split at stepped) <;> cases stepped <;> rfl
    · simp only [NodeSession.renewalStep] at stepped
      split at stepped <;> (try split at stepped) <;> cases stepped <;> rfl

theorem SessionOk.goto {store : LeaseStore} {now : Nat} {session : NodeSession}
    (ok : SessionOk leases store now id session) {phase : LeasePhase}
    (holds : PhaseOk leases store now id session.config phase) :
    SessionOk leases store now id (session.goto phase) where
  phase := holds
  authority := ok.authority

theorem wallTimeMillis_le (now : Nat) : wallTimeMillis now ≤ now := Nat.min_le_left _ _

/-- The steps of `ServerStarter::start` between two writes. -/
theorem SessionOk.startStep (storeOk : StoreOk leases state)
    (ok : SessionOk leases state.store state.now id (state.sessions id))
    (answerable : state.answerable leases id input = true)
    (silent : ∀ ticket, input ≠ .issued ticket)
    (stepped : NodeSession.startStep id state.now (state.sessions id)
      (state.sessions id).phase input = some after) :
    SessionOk leases state.store state.now id after := by
  have holds := ok.phase
  unfold NodeSession.startStep at stepped
  split at stepped
  case h_1 hphase =>
    cases stepped
    rw [hphase] at holds
    exact ok.goto ⟨⟨rfl, rfl, wallTimeMillis_le _⟩, holds⟩
  case h_2 node hphase =>
    cases stepped
    rw [hphase] at holds
    exact ok.goto ⟨holds.1, holds.2, Nat.le_refl _⟩
  case h_3 node started found hphase =>
    cases stepped
    rw [hphase] at holds
    exact ok.goto ⟨holds.1, holds.2.1, holds.2.2,
      fun _ _ same => storeOk.expired_of_found answerable same⟩
  case h_4 =>
    cases stepped
    exact ok.goto trivial
  case h_5 node started hphase =>
    cases stepped
    rw [hphase] at holds
    exact ok.goto ⟨holds.1, holds.2.1, holds.2.2.1, fun _ missing => by cases missing⟩
  case h_6 node started revision expiresAt hphase =>
    rw [hphase] at holds
    split at stepped
    · rename_i past
      cases stepped
      rw [wallTimeMillis_of_lt storeOk.clock] at past
      refine ok.goto ⟨holds.1, holds.2.1, holds.2.2.1, fun expected same => ?_⟩
      cases same
      exact (holds.2.2.2 revision expiresAt rfl).mono (.refl _) past
    · cases stepped
      exact ok.goto trivial
  case h_7 ticket hphase => exact absurd rfl (silent ticket)
  case h_8 node started ticket revision hphase =>
    cases stepped
    rw [hphase] at holds
    have applied := storeOk.known_of_applied holds.2.2 (by rw [hphase]; rfl) answerable
    exact ok.goto ⟨holds.1, applied⟩
  case h_9 hphase =>
    cases stepped
    rw [hphase] at holds
    exact ok.goto ⟨holds.1, holds.2.1⟩
  case h_10 =>
    cases stepped
    exact ok.goto trivial
  case h_11 hphase =>
    rw [hphase] at holds
    split at stepped
    · cases stepped
      exact ok.goto holds
    · cases stepped
      exact ok.goto trivial
  case h_12 =>
    cases stepped
    exact ok.goto trivial
  case h_13 node started left reply hphase =>
    rw [hphase] at holds
    split at stepped
    · rename_i revision confirmed
      cases stepped
      obtain ⟨object, written, same, issuer, -⟩ :=
        storeOk.written_of_readBack answerable confirmed holds.1.sessionId
      refine ok.goto ⟨holds.1, ⟨object, written, same, issuer⟩, object, written, issuer, ?_⟩
      obtain ⟨ticket, write, found, -, body, by', -⟩ := written
      exact holds.2 ticket write object.body found (by' ▸ issuer) body
    · cases stepped
      exact ok.goto holds
  case h_14 node started revision hphase =>
    cases stepped
    rw [hphase] at holds
    refine ⟨⟨holds.1, holds.2.1⟩, fun authority constructed => ?_⟩
    cases constructed
    exact ⟨rfl, started, rfl, holds.2.2⟩
  case h_15 hphase =>
    rw [hphase] at holds
    split at stepped
    · cases stepped
      exact ok.goto holds
    · cases stepped
      exact ok.goto trivial
  case h_16 => cases stepped

/-- The steps of the renewal loop between two writes. -/
theorem SessionOk.renewalStep (storeOk : StoreOk leases state)
    (ok : SessionOk leases state.store state.now id (state.sessions id))
    {authority : NodeAuthority} (constructed : (state.sessions id).authority = some authority)
    (answerable : state.answerable leases id input = true)
    (silent : ∀ ticket, input ≠ .issued ticket)
    (stepped : NodeSession.renewalStep state.now (state.sessions id) authority
      (state.sessions id).phase input = some after) :
    SessionOk leases state.store state.now id after := by
  have holds := ok.phase
  unfold NodeSession.renewalStep at stepped
  split at stepped
  case h_1 hphase =>
    cases stepped
    rw [hphase] at holds
    exact ok.goto holds
  case h_2 hphase =>
    cases stepped
    rw [hphase] at holds
    exact ok.goto holds
  case h_3 hphase =>
    rw [hphase] at holds
    split at stepped
    · cases stepped
      exact ok.goto holds
    · cases stepped
      exact ok.goto holds
  case h_4 hphase =>
    cases stepped
    rw [hphase] at holds
    exact ok.goto ⟨holds.1, holds.2, Nat.le_refl _⟩
  case h_5 node revision started sample hphase =>
    cases stepped
    rw [hphase] at holds
    refine ok.goto ⟨⟨holds.1.nodeId, holds.1.sessionId, wallTimeMillis_le _⟩, holds.2.1, ?_⟩
    simpa [NodeRecord.resample, wallTimeMillis_of_lt storeOk.clock] using
      Nat.div_le_div_right holds.2.2
  case h_6 hphase =>
    rw [hphase] at holds
    split at stepped
    · cases stepped
      exact ok.goto holds
    · cases stepped
      exact ok.goto ⟨holds.1, holds.2.1⟩
  case h_7 ticket hphase => exact absurd rfl (silent ticket)
  case h_8 node revision started ticket next hphase =>
    cases stepped
    rw [hphase] at holds
    exact ok.goto ⟨holds.1,
      storeOk.known_of_applied holds.2.2.2 (by rw [hphase]; rfl) answerable⟩
  case h_9 hphase =>
    cases stepped
    rw [hphase] at holds
    exact ok.goto ⟨holds.1, holds.2.1, holds.2.2.1⟩
  case h_10 hphase =>
    cases stepped
    rw [hphase] at holds
    exact ok.goto ⟨holds.1, holds.2.1⟩
  case h_11 hphase =>
    cases stepped
    rw [hphase] at holds
    exact ok.goto ⟨holds.1, holds.2.1⟩
  case h_12 hphase =>
    rw [hphase] at holds
    split at stepped
    · cases stepped
      exact ok.goto holds
    · cases stepped
      exact ok.goto ⟨holds.1, holds.2.1⟩
  case h_13 hphase =>
    cases stepped
    rw [hphase] at holds
    exact ok.goto ⟨holds.1, holds.2.1⟩
  case h_14 node revision started deadline left reply hphase =>
    rw [hphase] at holds
    split at stepped
    · rename_i next confirmed
      cases stepped
      obtain ⟨object, written, same, issuer, record⟩ :=
        storeOk.written_of_readBack answerable confirmed holds.1.sessionId
      have lasts := (storeOk.written_lease written).2
      rw [issuer, record] at lasts
      have later := holds.2.2
      refine ok.goto ⟨holds.1, ⟨object, written, same, issuer⟩, object, written, issuer, ?_⟩
      unfold leaseTerm
      omega
    · cases stepped
      exact ok.goto holds
  case h_15 node next started hphase =>
    cases stepped
    rw [hphase] at holds
    have term := (ok.authority authority constructed).1
    refine ⟨⟨holds.1, holds.2.1⟩, fun renewed same => ?_⟩
    cases same
    exact ⟨term, started, congrArg (started + ·) term, holds.2.2⟩
  case h_16 hphase =>
    rw [hphase] at holds
    split at stepped
    · cases stepped
      exact ok.goto holds
    · cases stepped
      exact ok.goto holds
  case h_17 hphase =>
    cases stepped
    rw [hphase] at holds
    refine ⟨holds, fun fenced same => ?_⟩
    cases same
    exact ok.authority authority constructed
  case h_18 hphase =>
    cases stepped
    rw [hphase] at holds
    exact ok.goto holds
  case h_19 ticket hphase => exact absurd rfl (silent ticket)
  case h_20 | h_21 =>
    cases stepped
    exact ok.goto trivial
  case h_22 => cases stepped

/-- A step of a session that sends nothing keeps what the session relies on. -/
theorem SessionOk.step? (storeOk : StoreOk leases state)
    (ok : SessionOk leases state.store state.now id (state.sessions id))
    (answerable : state.answerable leases id input = true)
    (silent : ∀ ticket, input ≠ .issued ticket)
    (stepped : (state.sessions id).step? id state.now input = some after) :
    SessionOk leases state.store state.now id after := by
  simp only [NodeSession.step?] at stepped
  split at stepped
  · exact ok.startStep storeOk answerable silent stepped
  · rename_i authority constructed
    split at stepped
    · exact ok.startStep storeOk answerable silent stepped
    · exact ok.renewalStep storeOk constructed answerable silent stepped

/-- Only sending the delete of `release_node` marks a session as released. -/
theorem step?_released (silent : ∀ ticket, input ≠ .issued ticket)
    (stepped : (state.sessions id).step? id state.now input = some after) :
    after.released = (state.sessions id).released := by
  simp only [NodeSession.step?] at stepped
  split at stepped
  · simp only [NodeSession.startStep] at stepped
    split at stepped <;> (try split at stepped) <;> cases stepped <;> rfl
  · split at stepped
    · simp only [NodeSession.startStep] at stepped
      split at stepped <;> (try split at stepped) <;> cases stepped <;> rfl
    · simp only [NodeSession.renewalStep] at stepped
      split at stepped
      case h_19 ticket _ => exact absurd rfl (silent ticket)
      all_goals (try split at stepped) <;> cases stepped <;> rfl

/-- The three places from which a session sends a write. -/
theorem step?_issued {ticket : Nat} (issued : input = .issued ticket)
    (stepped : (state.sessions id).step? id state.now input = some after) :
    (∃ node started revision, (state.sessions id).phase = .putting node started revision ∧
      after = (state.sessions id).goto (.awaitingAcquire node started ticket)) ∨
    (∃ node revision started, (state.sessions id).phase = .renewing node revision started ∧
      after = (state.sessions id).goto (.awaitingRenewal node revision started ticket)) ∨
    (∃ node revision, (state.sessions id).phase = .exited node revision true ∧
      after = { state.sessions id with released := true, phase := .awaitingRelease ticket }) := by
  simp only [NodeSession.step?] at stepped
  split at stepped
  · unfold NodeSession.startStep at stepped
    split at stepped
    case h_7 node started revision ticket' hphase =>
      cases issued
      cases stepped
      exact .inl ⟨node, started, revision, hphase, rfl⟩
    all_goals first
      | (cases issued; done)
      | cases stepped
  · split at stepped
    · rename_i hphase
      unfold NodeSession.startStep at stepped
      simp only [hphase, issued, reduceCtorEq] at stepped
    · unfold NodeSession.renewalStep at stepped
      split at stepped
      case h_7 node revision started ticket' hphase =>
        cases issued
        cases stepped
        exact .inr (.inl ⟨node, revision, started, hphase, rfl⟩)
      case h_19 node revision ticket' hphase =>
        cases issued
        cases stepped
        exact .inr (.inr ⟨node, revision, hphase, rfl⟩)
      all_goals first
        | (cases issued; done)
        | cases stepped

end Session

end Coactor.Coordination
