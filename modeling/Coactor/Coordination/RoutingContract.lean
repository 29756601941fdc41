import Coactor.Coordination.Routing

/-!
# What the Cluster Router may ask and what it returns

A view sums up one call of the router: the permits it holds, the owner record
it read since its last conditional write, the directory answer it has about
that record, the record it last sent and what it heard about it.  Against such
views the two functions of the router have one contract each.  It holds for
every sequence of answers.  Each function is walked through once, for any
contract whose outline says what holds between its requests.
-/

namespace Coactor.Coordination

open Coactor.Foundation

/-- One call of the router, summed up. -/
structure RouterView where
  permits : Nat := 0
  current : Option (Option VersionedActorOwnerRecord) := none
  lookup : Option (Option NodeRecord) := none
  sent : Option ActorOwnerRecord := none
  ticket : Option Nat := none
  outcome : Option (Reply (MutationOutcome Revision)) := none
  deriving DecidableEq, Repr

namespace RouterView

/-- A view after the answer to one request. -/
def observe (view : RouterView) : (request : RouterCall) → RouterAnswer request → RouterView
  | .readActorOwner, .ok current => { view with current := some current, lookup := none }
  | .readActorOwner, _ => view
  | .readNode _, .ok node => { view with lookup := some node }
  | .readNode _, _ => view
  | .compareExchange record _, ticket =>
      { view with
        current := none, lookup := none, sent := some record, ticket := some ticket,
        outcome := none }
  | .awaitMutation _, reply => { view with outcome := some reply }
  | .tryAcquire, true => { view with permits := view.permits + 1 }
  | .tryAcquire, false => view
  | .dropReservation, _ => { view with permits := view.permits - 1 }

/-- The last conditional write was answered `Applied`. -/
def WasApplied (view : RouterView) : Prop :=
  ∃ revision, view.outcome = some (.ok (.applied revision))

/-- The outcome of the last conditional write is unknown, and a later read
returned the very record that was sent. -/
def WasConfirmed (view : RouterView) : Prop :=
  ∃ error current, view.outcome = some (.ok (.indeterminate error)) ∧
    view.current = some (some current) ∧ view.sent = some current.record

end RouterView

namespace ClusterRouter

variable (router : ClusterRouter)

/-- The owner that a claim over this record displaces, if any, is another
session of this node, or one that the directory did not confirm. -/
def Displaceable (view : RouterView) (record : ActorOwnerRecord) : Prop :=
  ∀ owner, record.owner = some owner →
    (owner.nodeId = router.nodeId ∧ owner.sessionId ≠ router.sessionId) ∨
      (owner.nodeId ≠ router.nodeId ∧ ∃ node, view.lookup = some node ∧
        ∀ found, node = some found → found.sessionId ≠ owner.sessionId)

/-- A claim carries the next epoch over the last record read, and its revision. -/
structure ClaimAllowed (view : RouterView) (record : ActorOwnerRecord)
    (revision : Option Revision) (current : Option VersionedActorOwnerRecord) : Prop where
  reserved : view.permits = 1
  read : view.current = some current
  record_eq : record = router.localClaim (nextEpoch current)
  revision_eq : revision = current.map VersionedActorOwnerRecord.revision
  displaceable : ∀ found, current = some found → router.Displaceable view found.record

/-- Which requests `resolve` may make, and when it may return which result. -/
def resolveContract :
    Program.Contract RouterCall RouterAnswer (Except SendError ResolvedOwner) RouterView where
  observe := RouterView.observe
  allowed := fun view request =>
    match request with
    | .compareExchange record revision =>
        ∃ current, router.ClaimAllowed view record revision current
    | .awaitMutation ticket => view.ticket = some ticket
    | .tryAcquire => view.permits = 0
    | .dropReservation => view.permits = 1
    | .readNode nodeId => ∃ current owner, view.current = some (some current) ∧
        current.record.owner = some owner ∧ owner.nodeId = nodeId
    | .readActorOwner => True
  ensures := fun view result =>
    match result with
    | .ok (.localOwner false) => view.permits = 0 ∧ ∃ current,
        view.current = some (some current) ∧ router.isLocalOwner current.record = true
    | .ok (.localOwner true) => view.permits = 1 ∧
        (∃ epoch, view.sent = some (router.localClaim epoch)) ∧
        (view.WasApplied ∨ view.WasConfirmed)
    | .ok .remote => view.permits = 0
    | .error _ => view.permits = 0

/-- Which requests `release_local_owner` may make, and when it may succeed. -/
def releaseContract :
    Program.Contract RouterCall RouterAnswer (Except SendError Unit) RouterView where
  observe := RouterView.observe
  allowed := fun view request =>
    match request with
    | .compareExchange record revision => ∃ current,
        view.current = some (some current) ∧ router.isLocalOwner current.record = true ∧
        record = .unowned current.record.ownershipEpoch ∧ revision = some current.revision
    | .awaitMutation ticket => view.ticket = some ticket
    | .readActorOwner => True
    | _ => False
  ensures := fun view result =>
    match result with
    | .ok () => view.WasApplied ∨
        ∃ current, view.current = some (some current) ∧ view.sent = some current.record
    | .error _ => True

theorem isLocalOwner_iff {record : ActorOwnerRecord} :
    router.isLocalOwner record = true ↔
      record.owner = some ⟨router.nodeId, router.sessionId⟩ := by
  simp only [isLocalOwner, Option.any_eq_true, Bool.and_eq_true, beq_iff_eq]
  constructor
  · rintro ⟨owner, found, node, session⟩
    rw [found, ← node, ← session]
  · intro found
    exact ⟨_, found, rfl, rfl⟩

theorem isLocalOwner_localClaim (epoch : Nat) :
    router.isLocalOwner (router.localClaim epoch) = true := by
  simp [isLocalOwner, localClaim]

/-! ## One way through `resolve` -/

section Outlines

variable {View : Type}
  {contract : Program.Contract RouterCall RouterAnswer (Except SendError ResolvedOwner) View}

/-- The view once a claim over this record has been answered. -/
def afterClaim
    (contract : Program.Contract RouterCall RouterAnswer (Except SendError ResolvedOwner) View)
    (view : View) (current : Option VersionedActorOwnerRecord) (ticket : Nat)
    (outcome : Reply (MutationOutcome Revision)) : View :=
  contract.observe (contract.observe (contract.observe view .tryAcquire true)
    (.compareExchange (router.localClaim (nextEpoch current))
      (current.map VersionedActorOwnerRecord.revision)) ticket) (.awaitMutation ticket) outcome

/-- What holds of the view between the requests of `resolve`: while no permit is
held, after a read of the owner record, before a claim, while a permit is held,
and while the outcome of a claim is unknown. -/
structure ResolveOutline
    (contract : Program.Contract RouterCall RouterAnswer (Except SendError ResolvedOwner) View) where
  idle : View → Prop
  found : Option VersionedActorOwnerRecord → View → Prop
  claimable : Option VersionedActorOwnerRecord → View → Prop
  held : View → Prop
  undecided : ActorOwnerRecord → View → Prop
  reads : ∀ view, contract.allowed view .readActorOwner
  lost : ∀ {view} answer, idle view → idle (contract.observe view .readActorOwner answer)
  read : ∀ {view} current, idle view →
    found current (contract.observe view .readActorOwner (.ok current))
  exhausted : ∀ {view}, idle view → contract.ensures view (.ok .remote)
  unavailable : ∀ {view}, idle view → contract.ensures view (.error .ownershipUnavailable)
  atCapacity : ∀ {view}, idle view → contract.ensures view (.error .runtimeAtCapacity)
  here : ∀ {view current}, found (some current) view →
    router.isLocalOwner current.record = true → contract.ensures view (.ok (.localOwner false))
  absent : ∀ {view}, found none view → claimable none view
  unowned : ∀ {view current}, found (some current) view → current.record.owner = none →
    claimable (some current) view
  ownNode : ∀ {view current owner}, found (some current) view →
    ¬ router.isLocalOwner current.record = true → current.record.owner = some owner →
    owner.nodeId = router.nodeId → claimable (some current) view
  asks : ∀ {view current owner}, found (some current) view → current.record.owner = some owner →
    contract.allowed view (.readNode owner.nodeId)
  asked : ∀ {view current} nodeId answer, found (some current) view →
    idle (contract.observe view (.readNode nodeId) answer)
  unconfirmed : ∀ {view current owner} {node : Option NodeRecord}, found (some current) view →
    current.record.owner = some owner → owner.nodeId ≠ router.nodeId →
    (¬ node.any (fun node => node.sessionId == owner.sessionId) = true) →
    claimable (some current) (contract.observe view (.readNode owner.nodeId) (.ok node))
  acquires : ∀ {view current}, claimable current view → contract.allowed view .tryAcquire
  refused : ∀ {view current}, claimable current view →
    idle (contract.observe view .tryAcquire false)
  writes : ∀ {view current}, claimable current view →
    contract.allowed (contract.observe view .tryAcquire true)
      (.compareExchange (router.localClaim (nextEpoch current))
        (current.map VersionedActorOwnerRecord.revision))
  awaits : ∀ view record revision ticket,
    contract.allowed (contract.observe view (.compareExchange record revision) ticket)
      (.awaitMutation ticket)
  answered : ∀ {view current} ticket outcome, claimable current view →
    held (router.afterClaim contract view current ticket outcome)
  applied : ∀ {view current} ticket revision, claimable current view →
    contract.ensures (router.afterClaim contract view current ticket (.ok (.applied revision)))
      (.ok (.localOwner true))
  unknown : ∀ {view current} ticket error, claimable current view →
    undecided (router.localClaim (nextEpoch current))
      (router.afterClaim contract view current ticket (.ok (.indeterminate error)))
  drops : ∀ {view}, held view → contract.allowed view .dropReservation
  dropped : ∀ {view}, held view → idle (contract.observe view .dropReservation ())
  reserved : ∀ {view record}, undecided record view → held view
  readBack : ∀ {view record} answer, undecided record view →
    undecided record (contract.observe view .readActorOwner answer)
  confirmed : ∀ {view current}, undecided current.record view →
    contract.ensures (contract.observe view .readActorOwner (.ok (some current)))
      (.ok (.localOwner true))

namespace ResolveOutline

variable {router} (outline : router.ResolveOutline contract) {view : View}
  {again : ResolveProgram}

theorem satisfies_abandon (held : outline.held view) :
    Program.Satisfies contract view (abandon .ownershipUnavailable) :=
  ⟨outline.drops held, fun _ => outline.unavailable (outline.dropped held)⟩

/-- The read-backs end with the confirmed claim, without a permit, or in the
next attempt. -/
theorem satisfies_confirmClaim {expected : ActorOwnerRecord} (left : Nat)
    (undecided : outline.undecided expected view)
    (goesOn : ∀ next, outline.idle next → Program.Satisfies contract next again) :
    Program.Satisfies contract view (confirmClaim expected again left) := by
  induction left generalizing view with
  | zero => exact outline.satisfies_abandon (outline.reserved undecided)
  | succ left ih =>
      refine ⟨outline.reads view, fun answer => ?_⟩
      have still := outline.readBack answer undecided
      cases answer with
      | elapsed => exact ih still
      | failed error => exact ih still
      | ok found =>
          cases found with
          | none => exact ih still
          | some confirmed =>
              simp only
              split
              · rename_i same
                subst same
                exact outline.confirmed undecided
              · split
                · have held := outline.reserved still
                  exact ⟨outline.drops held, fun _ => goesOn _ (outline.dropped held)⟩
                · exact ih still

theorem satisfies_takeOver {current : Option VersionedActorOwnerRecord}
    (claimable : outline.claimable current view)
    (goesOn : ∀ next, outline.idle next → Program.Satisfies contract next again) :
    Program.Satisfies contract view (router.takeOver current again) := by
  refine ⟨outline.acquires claimable, fun granted => ?_⟩
  cases granted with
  | false => exact outline.atCapacity (outline.refused claimable)
  | true =>
      refine ⟨outline.writes claimable, fun ticket => ⟨outline.awaits _ _ _ _, fun outcome => ?_⟩⟩
      have held := outline.answered ticket outcome claimable
      cases outcome with
      | elapsed => exact outline.satisfies_abandon held
      | failed error => exact outline.satisfies_abandon held
      | ok outcome =>
          cases outcome with
          | applied revision => exact outline.applied ticket revision claimable
          | conflict => exact ⟨outline.drops held, fun _ => goesOn _ (outline.dropped held)⟩
          | indeterminate error =>
              exact outline.satisfies_confirmClaim 3 (outline.unknown ticket error claimable) goesOn

theorem satisfies_claim {current : VersionedActorOwnerRecord}
    (claimable : outline.claimable (some current) view) :
    Program.Satisfies contract view (router.claim current) := by
  refine ⟨outline.acquires claimable, fun granted => ?_⟩
  cases granted with
  | false => exact outline.atCapacity (outline.refused claimable)
  | true =>
      refine ⟨outline.writes claimable, fun ticket => ⟨outline.awaits _ _ _ _, fun outcome => ?_⟩⟩
      have held := outline.answered ticket outcome claimable
      cases outcome with
      | elapsed => exact outline.satisfies_abandon held
      | failed error => exact outline.satisfies_abandon held
      | ok outcome =>
          cases outcome with
          | applied revision => exact outline.applied ticket revision claimable
          | conflict =>
              exact ⟨outline.drops held, fun _ => outline.exhausted (outline.dropped held)⟩
          | indeterminate error =>
              have undecided := outline.unknown ticket error claimable
              refine ⟨outline.reads _, fun answer => ?_⟩
              have still := outline.reserved (outline.readBack answer undecided)
              cases answer with
              | elapsed => exact outline.satisfies_abandon still
              | failed error => exact outline.satisfies_abandon still
              | ok found =>
                  cases found with
                  | none => exact outline.satisfies_abandon still
                  | some confirmed =>
                      simp only
                      split
                      · rename_i same
                        rw [← same] at undecided
                        exact outline.confirmed undecided
                      · exact outline.satisfies_abandon still

theorem satisfies_attempt {current : Option VersionedActorOwnerRecord}
    (found : outline.found current view)
    (goesOn : ∀ next, outline.idle next → Program.Satisfies contract next again) :
    Program.Satisfies contract view (router.attempt again current) := by
  cases current with
  | none => exact outline.satisfies_takeOver (outline.absent found) goesOn
  | some current =>
      simp only [attempt]
      split
      · rename_i isLocal
        exact outline.here found isLocal
      · rename_i foreign
        split
        · rename_i unowned
          exact outline.satisfies_takeOver (outline.unowned found unowned) goesOn
        · rename_i owner named
          split
          · rename_i ownNode
            exact outline.satisfies_claim (outline.ownNode found foreign named ownNode)
          · rename_i otherNode
            refine ⟨outline.asks found named, fun answer => ?_⟩
            have asked := outline.asked owner.nodeId answer found
            cases answer with
            | elapsed => exact outline.unavailable asked
            | failed error => exact outline.unavailable asked
            | ok node =>
                simp only
                split
                · exact outline.exhausted asked
                · rename_i unconfirmed
                  exact outline.satisfies_takeOver
                    (outline.unconfirmed found named otherNode unconfirmed) goesOn

theorem satisfies_resolveLoop (left : Nat) (free : outline.idle view) :
    Program.Satisfies contract view (router.resolveLoop left) := by
  induction left generalizing view with
  | zero => exact outline.exhausted free
  | succ left ih =>
      refine ⟨outline.reads view, fun answer => ?_⟩
      have still := outline.lost answer free
      cases answer with
      | elapsed => exact outline.unavailable still
      | failed error => exact outline.unavailable still
      | ok current =>
          exact outline.satisfies_attempt (outline.read current free) fun next => ih

end ResolveOutline

/-- The outline of a contract that takes no knowledge to keep: it asks for a
permit before a conditional write, and it puts up with every result of `resolve`. -/
def plainOutline
    (asks : ∀ view request, (∀ record revision, request ≠ .compareExchange record revision) →
      contract.allowed view request)
    (writes : ∀ view record revision, contract.allowed (contract.observe view .tryAcquire true)
      (.compareExchange record revision))
    (ends : ∀ view result, (∀ error, result = .error error →
      error = .runtimeAtCapacity ∨ error = .ownershipUnavailable) →
      contract.ensures view result) : router.ResolveOutline contract where
  idle := fun _ => True
  found := fun _ _ => True
  claimable := fun _ _ => True
  held := fun _ => True
  undecided := fun _ _ => True
  reads := fun view => asks view _ (by rintro _ _ ⟨⟩)
  lost := fun _ _ => trivial
  read := fun _ _ => trivial
  exhausted := fun _ => ends _ _ (by rintro _ ⟨⟩)
  unavailable := fun _ => ends _ _ (by rintro _ ⟨⟩; exact .inr rfl)
  atCapacity := fun _ => ends _ _ (by rintro _ ⟨⟩; exact .inl rfl)
  here := fun _ _ => ends _ _ (by rintro _ ⟨⟩)
  absent := fun _ => trivial
  unowned := fun _ _ => trivial
  ownNode := fun _ _ _ _ => trivial
  asks := fun _ _ => asks _ _ (by rintro _ _ ⟨⟩)
  asked := fun _ _ _ => trivial
  unconfirmed := fun _ _ _ _ => trivial
  acquires := fun _ => asks _ _ (by rintro _ _ ⟨⟩)
  refused := fun _ => trivial
  writes := fun _ => writes _ _ _
  awaits := fun _ _ _ _ => asks _ _ (by rintro _ _ ⟨⟩)
  answered := fun _ _ _ => trivial
  applied := fun _ _ _ => ends _ _ (by rintro _ ⟨⟩)
  unknown := fun _ _ _ => trivial
  drops := fun _ => asks _ _ (by rintro _ _ ⟨⟩)
  dropped := fun _ => trivial
  reserved := fun _ => trivial
  readBack := fun _ _ => trivial
  confirmed := fun _ => ends _ _ (by rintro _ ⟨⟩)

end Outlines

/-! ## `resolve` keeps its contract -/

variable {router} {view : RouterView}

/-- The view counts the permits, and names what was read, sent and heard. -/
def viewOutline (router : ClusterRouter) : router.ResolveOutline router.resolveContract where
  idle := fun view => view.permits = 0
  found := fun current view => view.permits = 0 ∧ view.current = some current
  claimable := fun current view => view.permits = 0 ∧ view.current = some current ∧
    ∀ found, current = some found → router.Displaceable view found.record
  held := fun view => view.permits = 1
  undecided := fun record view => view.permits = 1 ∧ view.sent = some record ∧
    (∃ epoch, record = router.localClaim epoch) ∧
    ∃ error, view.outcome = some (.ok (.indeterminate error))
  reads := fun _ => trivial
  lost := by
    intro view answer free
    cases answer <;> exact free
  read := fun _ free => ⟨free, rfl⟩
  exhausted := id
  unavailable := id
  atCapacity := id
  here := fun found isLocal => ⟨found.1, _, found.2, isLocal⟩
  absent := fun found => ⟨found.1, found.2, by rintro other ⟨⟩⟩
  unowned := by
    rintro view current ⟨free, read⟩ unowned
    refine ⟨free, read, ?_⟩
    rintro other ⟨⟩ owner named
    rw [unowned] at named
    cases named
  ownNode := by
    rintro view current owner ⟨free, read⟩ foreign named ownNode
    refine ⟨free, read, ?_⟩
    rintro other ⟨⟩ owner' named'
    rw [named] at named'
    cases named'
    refine .inl ⟨ownNode, fun ownSession => foreign ?_⟩
    rw [isLocalOwner_iff, named, ← ownNode, ← ownSession]
  asks := fun found named => ⟨_, _, found.2, named, rfl⟩
  asked := by
    intro view current nodeId answer found
    cases answer <;> exact found.1
  unconfirmed := by
    rintro view current owner node ⟨free, read⟩ named otherNode unconfirmed
    refine ⟨free, read, ?_⟩
    rintro other ⟨⟩ owner' named'
    rw [named] at named'
    cases named'
    refine .inr ⟨otherNode, node, rfl, fun found present session => unconfirmed ?_⟩
    simp [present, session]
  acquires := fun claimable => claimable.1
  refused := fun claimable => claimable.1
  writes := fun claimable =>
    ⟨_, congrArg (· + 1) claimable.1, claimable.2.1, rfl, rfl, claimable.2.2⟩
  awaits := fun _ _ _ _ => rfl
  answered := fun _ _ claimable => congrArg (· + 1) claimable.1
  applied := fun _ revision claimable =>
    ⟨congrArg (· + 1) claimable.1, ⟨_, rfl⟩, .inl ⟨revision, rfl⟩⟩
  unknown := fun _ error claimable =>
    ⟨congrArg (· + 1) claimable.1, rfl, ⟨_, rfl⟩, error, rfl⟩
  drops := id
  dropped := fun held => congrArg (· - 1) held
  reserved := fun undecided => undecided.1
  readBack := by
    intro view record answer undecided
    cases answer <;> exact undecided
  confirmed := by
    rintro view current ⟨reserved, sent, ⟨epoch, claim⟩, error, unknown⟩
    exact ⟨reserved, ⟨epoch, claim ▸ sent⟩, .inr ⟨error, current, unknown, rfl, sent⟩⟩

/-- `resolve` keeps its contract whatever the store answers. -/
theorem satisfies_resolve : Program.Satisfies router.resolveContract {} router.resolve :=
  router.viewOutline.satisfies_resolveLoop 3 rfl

/-! ## The errors of `resolve` -/

/-- The errors that `resolve` returns. -/
def resolveErrors :
    Program.Contract RouterCall RouterAnswer (Except SendError ResolvedOwner) Unit where
  observe := fun _ _ _ => ()
  allowed := fun _ _ => True
  ensures := fun _ result => ∀ error, result = .error error →
    error = .runtimeAtCapacity ∨ error = .ownershipUnavailable

/-- `resolve` fails only for want of a permit or of an answer of the store. -/
theorem errors_resolve : Program.Satisfies resolveErrors () router.resolve :=
  (router.plainOutline (fun _ _ _ => trivial) (fun _ _ _ => trivial)
    fun _ _ errors => errors).satisfies_resolveLoop 3 trivial

/-! ## One way through `release_local_owner` -/

section Releases

variable {View : Type}
  {contract : Program.Contract RouterCall RouterAnswer (Except SendError Unit) View}

/-- What holds of the view between the requests of `release_local_owner`: once
its own record has been read, and once the released one has been sent. -/
structure ReleaseOutline
    (contract : Program.Contract RouterCall RouterAnswer (Except SendError Unit) View) where
  own : VersionedActorOwnerRecord → View → Prop
  sent : ActorOwnerRecord → View → Prop
  reads : ∀ view, contract.allowed view .readActorOwner
  fails : ∀ view, contract.ensures view (.error .ownershipUnavailable)
  writes : ∀ {view current}, own current view →
    contract.allowed view (.compareExchange (.unowned current.record.ownershipEpoch)
      (some current.revision))
  awaits : ∀ view record revision ticket,
    contract.allowed (contract.observe view (.compareExchange record revision) ticket)
      (.awaitMutation ticket)
  answered : ∀ {view current} ticket outcome, own current view →
    sent (.unowned current.record.ownershipEpoch)
      (contract.observe (contract.observe view
        (.compareExchange (.unowned current.record.ownershipEpoch) (some current.revision)) ticket)
        (.awaitMutation ticket) outcome)
  applied : ∀ view record revision ticket written,
    contract.ensures (contract.observe (contract.observe view (.compareExchange record revision)
      ticket) (.awaitMutation ticket) (.ok (.applied written))) (.ok ())
  readBack : ∀ {view record} answer, sent record view →
    sent record (contract.observe view .readActorOwner answer)
  confirmed : ∀ {view current}, sent current.record view →
    contract.ensures (contract.observe view .readActorOwner (.ok (some current))) (.ok ())

namespace ReleaseOutline

variable (outline : ReleaseOutline contract) {view : View}

theorem satisfies_confirmRelease {current : ActorOwnerRecord} (left : Nat)
    (sent : outline.sent (.unowned current.ownershipEpoch) view) :
    Program.Satisfies contract view (confirmRelease current left) := by
  induction left generalizing view with
  | zero => exact outline.fails view
  | succ left ih =>
      refine ⟨outline.reads view, fun answer => ?_⟩
      have still := outline.readBack answer sent
      cases answer with
      | elapsed => exact ih still
      | failed error => exact ih still
      | ok found =>
          cases found with
          | none => exact ih still
          | some read =>
              simp only
              split
              · rename_i same
                rw [← same] at sent
                exact outline.confirmed sent
              · split
                · exact ih still
                · exact outline.fails _

/-- What follows the first read, whether or not it returned the own record. -/
theorem satisfies_release {answer : Reply (Option VersionedActorOwnerRecord)}
    {resume : RouterAnswer .readActorOwner → ReleaseProgram}
    (started : router.releaseLocalOwner = .call .readActorOwner resume)
    (own : ∀ current, answer = .ok (some current) → router.isLocalOwner current.record = true →
      outline.own current view) : Program.Satisfies contract view (resume answer) := by
  cases started
  cases answer with
  | elapsed => exact outline.fails view
  | failed error => exact outline.fails view
  | ok found =>
      cases found with
      | none => exact outline.fails view
      | some current =>
          simp only
          split
          · rename_i isLocal
            have mine := own current rfl isLocal
            refine ⟨outline.writes mine, fun ticket => ⟨outline.awaits _ _ _ _, fun outcome => ?_⟩⟩
            have sent := outline.answered ticket outcome mine
            cases outcome with
            | elapsed => exact outline.fails _
            | failed error => exact outline.fails _
            | ok outcome =>
                cases outcome with
                | applied revision => exact outline.applied _ _ _ _ revision
                | conflict => exact outline.satisfies_confirmRelease 3 sent
                | indeterminate error => exact outline.satisfies_confirmRelease 3 sent
          · exact outline.fails view

end ReleaseOutline

end Releases

/-! ## `release_local_owner` keeps its contract -/

/-- The view names the record that was read and the one that was sent. -/
def releaseOutline : ReleaseOutline router.releaseContract where
  own := fun current view => view.current = some (some current) ∧
    router.isLocalOwner current.record = true
  sent := fun record view => view.sent = some record
  reads := fun _ => trivial
  fails := fun _ => trivial
  writes := fun own => ⟨_, own.1, own.2, rfl, rfl⟩
  awaits := fun _ _ _ _ => rfl
  answered := fun _ _ _ => rfl
  applied := fun _ _ _ _ revision => .inl ⟨revision, rfl⟩
  readBack := by
    intro view record answer sent
    cases answer <;> exact sent
  confirmed := fun sent => .inr ⟨_, rfl, sent⟩

/-- `release_local_owner` keeps its contract whatever the store answers. -/
theorem satisfies_releaseLocalOwner :
    Program.Satisfies router.releaseContract {} router.releaseLocalOwner := by
  refine ⟨trivial, fun answer => releaseOutline.satisfies_release rfl ?_⟩
  rintro current rfl isLocal
  exact ⟨rfl, isLocal⟩

end ClusterRouter

end Coactor.Coordination
