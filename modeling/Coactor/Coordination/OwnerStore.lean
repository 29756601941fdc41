import Coactor.Coordination.RoutingContract
import Coactor.Foundation.ConditionalStore

/-!
# Router calls over the store of owner records

A call of the router advances by one reply at a time.  A successful read
returns the stored record, a conditional write is handed to the store, and an
`Applied` or `Conflict` answer tells what has become of it; every other answer
may be given at any time.  A revision may be a version number or a hash of the
record: all that is asked of it is that equal revisions belong to the same
write or to equal records.
-/

namespace Coactor.Coordination

open Coactor.Foundation
open Coactor.Foundation.ConditionalStore

/-! ## The store -/

/-- The two operations that write an owner record. -/
inductive OwnerOperation where
  | claim
  | release
  deriving DecidableEq, Repr

/-- The router and the call that sent a write. -/
structure OwnerIssuer where
  router : ClusterRouter
  operation : OwnerOperation
  call : Nat
  deriving DecidableEq, Repr

abbrev OwnerWrite := Write ActorAddress ActorOwnerRecord OwnerIssuer Revision

abbrev OwnerObject := Object ActorOwnerRecord OwnerIssuer

abbrev OwnerStore := Store ActorAddress ActorOwnerRecord OwnerIssuer Revision

/-- Revisions of owner records. -/
structure OwnerStamp where
  stamp : Nat → ActorOwnerRecord → Revision
  sound : ∀ m n b c, stamp m b = stamp n c → m = n ∨ b = c

variable (stamps : OwnerStamp)

/-- `read_actor_owner` at this moment. -/
def OwnerStore.read (store : OwnerStore) (address : ActorAddress) :
    Option VersionedActorOwnerRecord :=
  (store.objects address).map fun object => ⟨object.body, object.revision stamps.stamp⟩

/-- Replies the store of owner records can give to a request at this moment. -/
def OwnerStore.answerable (store : OwnerStore) (address : ActorAddress) :
    RouterCall → RouterReply → Bool
  | .readActorOwner, .owner (.ok current) => current == store.read stamps address
  | .compareExchange _ _, .issued ticket => ticket == store.tickets
  | .awaitMutation ticket, .outcome (.ok (.applied revision)) =>
      match store.writes ticket with
      | some { body := some body, fate := .applied serial, .. } =>
          revision == stamps.stamp serial body
      | _ => false
  | .awaitMutation ticket, .outcome (.ok .conflict) =>
      match store.writes ticket with
      | some { fate := .refused, .. } => true
      | _ => false
  | _, _ => true

/-- The store after a request has been answered. -/
def OwnerStore.serve (store : OwnerStore) (address : ActorAddress) (issuer : OwnerIssuer) :
    RouterCall → OwnerStore
  | .compareExchange record revision =>
      store.issue { key := address, issuer := issuer, body := some record, condition := revision }
  | _ => store

/-! ## Where writes come from -/

variable {stamps} {store after : OwnerStore} {address : ActorAddress}

/-- What was read was stored at that moment. -/
def Basis (stamps : OwnerStamp) (store : OwnerStore) (address : ActorAddress)
    (current : VersionedActorOwnerRecord) : Prop :=
  ∃ object, Written store address object ∧ object.body = current.record ∧
    object.revision stamps.stamp = current.revision

/-- A claim over a record read before, or over none. -/
structure ClaimFrom (stamps : OwnerStamp) (store : OwnerStore) (write : OwnerWrite)
    (current : Option VersionedActorOwnerRecord) : Prop where
  basis : ∀ found, current = some found → Basis stamps store write.key found
  foreign : ∀ found, current = some found →
    write.issuer.router.isLocalOwner found.record = false
  condition : write.condition = current.map VersionedActorOwnerRecord.revision
  body : write.body = some (write.issuer.router.localClaim (nextEpoch current))

/-- A release of a record read before, which named the releasing session. -/
structure ReleaseFrom (stamps : OwnerStamp) (store : OwnerStore) (write : OwnerWrite)
    (current : VersionedActorOwnerRecord) : Prop where
  basis : Basis stamps store write.key current
  own : write.issuer.router.isLocalOwner current.record = true
  condition : write.condition = some current.revision
  body : write.body = some (.unowned current.record.ownershipEpoch)

/-- Every write is a claim or a release of a record read before. -/
def Derived (stamps : OwnerStamp) (store : OwnerStore) (write : OwnerWrite) : Prop :=
  match write.issuer.operation with
  | .claim => ∃ current, ClaimFrom stamps store write current
  | .release => ∃ current, ReleaseFrom stamps store write current

theorem Basis.mono (grows : Grows store after) {current : VersionedActorOwnerRecord}
    (basis : Basis stamps store address current) : Basis stamps after address current := by
  obtain ⟨object, written, rest⟩ := basis
  exact ⟨object, grows.written _ _ written, rest⟩

theorem ClaimFrom.mono (grows : Grows store after) {write : OwnerWrite}
    {current : Option VersionedActorOwnerRecord} (from' : ClaimFrom stamps store write current) :
    ClaimFrom stamps after write current :=
  { from' with basis := fun found same => (from'.basis found same).mono grows }

theorem ReleaseFrom.mono (grows : Grows store after) {write : OwnerWrite}
    {current : VersionedActorOwnerRecord} (from' : ReleaseFrom stamps store write current) :
    ReleaseFrom stamps after write current :=
  { from' with basis := from'.basis.mono grows }

theorem Derived.mono (grows : Grows store after) {write : OwnerWrite}
    (derived : Derived stamps store write) : Derived stamps after write := by
  unfold Derived at derived ⊢
  cases operation : write.issuer.operation with
  | claim =>
      rw [operation] at derived
      obtain ⟨current, from'⟩ := derived
      exact ⟨current, from'.mono grows⟩
  | release =>
      rw [operation] at derived
      obtain ⟨current, from'⟩ := derived
      exact ⟨current, from'.mono grows⟩

theorem Derived.body {write : OwnerWrite} (derived : Derived stamps store write) :
    ∃ record, write.body = some record := by
  unfold Derived at derived
  split at derived
  · obtain ⟨current, from'⟩ := derived
    exact ⟨_, from'.body⟩
  · obtain ⟨current, from'⟩ := derived
    exact ⟨_, from'.body⟩

/-- Where a write comes from does not depend on what became of it. -/
theorem Derived.of_fate {write : OwnerWrite} {fate : Fate}
    (derived : Derived stamps store { write with fate := fate }) :
    Derived stamps store write := by
  unfold Derived at derived ⊢
  simp only at derived
  cases operation : write.issuer.operation with
  | claim =>
      rw [operation] at derived
      obtain ⟨current, basis, foreign, condition, body⟩ := derived
      exact ⟨current, basis, foreign, condition, body⟩
  | release =>
      rw [operation] at derived
      obtain ⟨current, basis, own, condition, body⟩ := derived
      exact ⟨current, basis, own, condition, body⟩

/-! ## The invariant of the store -/

/-- Every write is derived from a read, and records are never deleted. -/
structure OwnersOk (stamps : OwnerStamp) (store : OwnerStore) : Prop where
  wellformed : Wellformed store
  derived : ∀ ticket write, store.writes ticket = some write → Derived stamps store write
  present : ∀ address object, Written store address object →
    ∃ stored, store.objects address = some stored

theorem ownersOk_empty : OwnersOk stamps .empty where
  wellformed := wellformed_empty
  derived := fun _ _ found => by cases found
  present := by
    rintro address object ⟨ticket, write, found, -⟩
    cases found

namespace OwnersOk

theorem issue (ok : OwnersOk stamps store) {write : OwnerWrite} (pending : write.fate = .pending)
    (derived : Derived stamps store write) : OwnersOk stamps (store.issue write) where
  wellformed := ok.wellformed.issue pending
  derived := by
    intro ticket known found
    have grows := grows_issue ok.wellformed write
    rcases writes_issue_cases found with ⟨-, rfl⟩ | old
    · exact derived.mono grows
    · exact (ok.derived ticket known old).mono grows
  present := fun address object written =>
    ok.present address object ((written_issue_iff ok.wellformed pending).mp written)

/-- Equal revisions of one address belong to equal records. -/
theorem body_of_revision_eq (ok : OwnersOk stamps store) {object seen : OwnerObject}
    (written : Written store address object) (read : Written store address seen)
    (revision : object.revision stamps.stamp = seen.revision stamps.stamp) :
    object.body = seen.body := by
  rcases stamps.sound _ _ _ _ revision with serial | body
  · rw [(ok.wellformed.written_unique written read serial).2]
  · exact body

/-- A matching condition means that the record is as it was read. -/
theorem matching (ok : OwnersOk stamps store) {condition : Option Revision}
    (holds : store.current stamps.stamp address = condition)
    {current : Option VersionedActorOwnerRecord}
    (basis : ∀ found, current = some found → Basis stamps store address found)
    (read : condition = current.map VersionedActorOwnerRecord.revision) :
    (store.objects address).map Object.body = current.map VersionedActorOwnerRecord.record := by
  rw [read, Store.current] at holds
  cases current with
  | none =>
      rw [Option.map_none, Option.map_eq_none_iff] at holds
      simp [holds]
  | some found =>
      obtain ⟨object, stored, same⟩ := Option.map_eq_some_iff.mp holds
      obtain ⟨seen, written, body, revision⟩ := basis found rfl
      have equal := ok.body_of_revision_eq (ok.wellformed.written _ _ stored) written
        (same.trans revision.symm)
      simp [stored, equal, body]

theorem settle (ok : OwnersOk stamps store) {ticket : Nat}
    (settled : store.settle? stamps.stamp ticket = some after) : OwnersOk stamps after where
  wellformed := ok.wellformed.settle? settled
  derived := by
    intro other known found
    obtain ⟨fate, old⟩ := writes_settle? settled found
    exact ((ok.derived other _ old).mono (grows_settle? settled)).of_fate
  present := by
    obtain ⟨write, found, pending, ⟨-, rfl⟩ | rfl⟩ := settle?_cases settled
    · intro address object written
      by_cases same : address = write.key
      · subst same
        obtain ⟨record, body⟩ := (ok.derived ticket write found).body
        exact ⟨⟨record, write.issuer, store.serials⟩, by
          simp [Store.apply, Write.object, body]⟩
      · simp only [Store.apply, Function.update_of_ne same]
        rcases (written_apply_iff found pending).mp written with earlier | ⟨hkey, -⟩
        · exact ok.present address object earlier
        · exact absurd hkey.symm same
    · intro address object written
      exact ok.present address object ((written_refuse_iff found pending).mp written)

end OwnersOk

/-! ## The invariant of one call -/

/-- What a view tells about the store is true of it. -/
structure ViewOk (stamps : OwnerStamp) (store : OwnerStore) (address : ActorAddress)
    (view : RouterView) : Prop where
  basis : ∀ found, view.current = some (some found) → Basis stamps store address found
  ticket : ∀ ticket, view.ticket = some ticket → ∃ write, store.writes ticket = some write ∧
    write.key = address ∧ write.body = view.sent
  applied : ∀ ticket revision, view.ticket = some ticket →
    view.outcome = some (.ok (.applied revision)) →
      ∃ write serial, store.writes ticket = some write ∧ write.fate = .applied serial

theorem viewOk_start : ViewOk stamps store address {} where
  basis := fun _ missing => by cases missing
  ticket := fun _ missing => by cases missing
  applied := fun _ _ missing => by cases missing

namespace ViewOk

variable {view : RouterView}

theorem settle (ok : ViewOk stamps store address view) {ticket : Nat}
    (settled : store.settle? stamps.stamp ticket = some after) :
    ViewOk stamps after address view where
  basis := fun found same => (ok.basis found same).mono (grows_settle? settled)
  ticket := by
    intro awaited same
    obtain ⟨write, found, rest⟩ := ok.ticket awaited same
    obtain ⟨fate, kept⟩ := (grows_settle? settled).writes _ _ found
    exact ⟨_, kept, rest⟩
  applied := by
    intro awaited revision same outcome
    obtain ⟨write, serial, found, applied⟩ := ok.applied awaited revision same outcome
    exact ⟨write, serial, applied_of_settle? settled found applied, applied⟩

theorem issue (ok : ViewOk stamps store address view) (wf : Wellformed store)
    (write : OwnerWrite) : ViewOk stamps (store.issue write) address view where
  basis := fun found same => (ok.basis found same).mono (grows_issue wf write)
  ticket := by
    intro awaited same
    obtain ⟨known, found, rest⟩ := ok.ticket awaited same
    exact ⟨known, writes_issue_of_some wf found, rest⟩
  applied := by
    intro awaited revision same outcome
    obtain ⟨known, serial, found, applied⟩ := ok.applied awaited revision same outcome
    exact ⟨known, serial, writes_issue_of_some wf found, applied⟩

theorem serve (ok : ViewOk stamps store address view) (wf : Wellformed store)
    (other : ActorAddress) (issuer : OwnerIssuer) (request : RouterCall) :
    ViewOk stamps (store.serve other issuer request) address view := by
  cases request with
  | compareExchange record revision => exact ok.issue wf _
  | _ => exact ok

/-- The view of a call after an answer to its request. -/
theorem observe (ok : ViewOk stamps store address view) {issuer : OwnerIssuer}
    (wf : Wellformed store) {request : RouterCall} {reply : RouterReply}
    {answer : RouterAnswer request} (decoded : reply.answer? request = some answer)
    (answerable : store.answerable stamps address request reply = true)
    (awaited : ∀ ticket, request = .awaitMutation ticket → view.ticket = some ticket) :
    ViewOk stamps (store.serve address issuer request) address (view.observe request answer) := by
  cases request with
  | readActorOwner =>
      cases reply <;> cases decoded
      cases answer with
      | elapsed => exact ok
      | failed error => exact ok
      | ok current =>
          refine ⟨fun found same => ?_, ok.ticket, ok.applied⟩
          simp only [OwnerStore.answerable, beq_iff_eq] at answerable
          simp only [RouterView.observe, Option.some.injEq] at same
          rw [same, eq_comm, OwnerStore.read, Option.map_eq_some_iff] at answerable
          obtain ⟨object, stored, rfl⟩ := answerable
          exact ⟨object, wf.written _ _ stored, rfl, rfl⟩
  | readNode nodeId =>
      cases reply <;> cases decoded
      cases answer with
      | elapsed => exact ok
      | failed error => exact ok
      | ok node => exact ⟨ok.basis, ok.ticket, ok.applied⟩
  | compareExchange record revision =>
      cases reply <;> cases decoded
      have same : answer = store.tickets := by
        simp only [OwnerStore.answerable] at answerable
        exact @eq_of_beq Nat _ _ _ _ answerable
      subst same
      refine ⟨fun _ missing => (by cases missing), fun ticket same => ?_,
        fun _ _ _ missing => (by cases missing)⟩
      cases same
      exact ⟨_, Function.update_self .., rfl, rfl⟩
  | awaitMutation ticket =>
      cases reply <;> cases decoded
      refine ⟨ok.basis, ok.ticket, fun other revision same reported => ?_⟩
      have mine := awaited ticket rfl
      simp only [RouterView.observe] at same reported
      rw [mine] at same
      cases same
      cases reported
      obtain ⟨write, found, -⟩ := ok.ticket ticket mine
      simp only [OwnerStore.answerable, found] at answerable
      split at answerable
      · rename_i known
        cases known
        exact ⟨_, _, found, rfl⟩
      · cases answerable
  | tryAcquire =>
      cases reply <;> cases decoded
      cases answer with
      | true => exact ⟨ok.basis, ok.ticket, ok.applied⟩
      | false => exact ok
  | dropReservation =>
      cases reply <;> cases decoded
      exact ⟨ok.basis, ok.ticket, ok.applied⟩

end ViewOk

/-! ## Steps of one call -/

variable (stamps) in
/-- One reply of the store to a suspended router. -/
def RouterProgram.step? {Result : Type} (store : OwnerStore) (address : ActorAddress)
    (issuer : OwnerIssuer) (program : RouterProgram Result) (reply : RouterReply) :
    Option (OwnerStore × RouterProgram Result) :=
  match program with
  | .ret _ => none
  | .call request resume =>
      if store.answerable stamps address request reply then
        (reply.answer? request).map fun answer =>
          (store.serve address issuer request, resume answer)
      else none

theorem RouterProgram.step?_cases {Result : Type} {issuer : OwnerIssuer}
    {program next : RouterProgram Result} {reply : RouterReply}
    (stepped : program.step? stamps store address issuer reply = some (after, next)) :
    ∃ request resume answer, program = .call request resume ∧
      store.answerable stamps address request reply = true ∧
      reply.answer? request = some answer ∧
      after = store.serve address issuer request ∧ next = resume answer := by
  cases program with
  | ret result => cases stepped
  | call request resume =>
      simp only [RouterProgram.step?, Option.ite_none_right_eq_some, Option.map_eq_some_iff] at stepped
      obtain ⟨answerable, answer, decoded, same⟩ := stepped
      cases same
      exact ⟨request, resume, answer, rfl, answerable, decoded, rfl, rfl⟩

/-- A suspended `resolve` keeps its contract for a true view of the store. -/
def ResolveOk (stamps : OwnerStamp) (store : OwnerStore) (address : ActorAddress)
    (router : ClusterRouter) (program : ClusterRouter.ResolveProgram) : Prop :=
  ∃ view, Program.Satisfies router.resolveContract view program ∧
    ViewOk stamps store address view

/-- A suspended `release_local_owner` keeps its contract for a true view. -/
def ReleaseOk (stamps : OwnerStamp) (store : OwnerStore) (address : ActorAddress)
    (router : ClusterRouter) (program : ClusterRouter.ReleaseProgram) : Prop :=
  ∃ view, Program.Satisfies router.releaseContract view program ∧
    ViewOk stamps store address view

section Calls

variable {router : ClusterRouter} {call : Nat}

theorem resolveOk_start : ResolveOk stamps store address router router.resolve :=
  ⟨{}, ClusterRouter.satisfies_resolve, viewOk_start⟩

theorem releaseOk_start : ReleaseOk stamps store address router router.releaseLocalOwner :=
  ⟨{}, ClusterRouter.satisfies_releaseLocalOwner, viewOk_start⟩

/-- A claim that the contract allows is derived from what was read. -/
theorem ClaimFrom.of_allowed {view : RouterView} (ok : ViewOk stamps store address view)
    {record : ActorOwnerRecord} {revision : Option Revision}
    {current : Option VersionedActorOwnerRecord}
    (allowed : router.ClaimAllowed view record revision current) :
    ClaimFrom stamps store
      { key := address, issuer := ⟨router, .claim, call⟩, body := some record,
        condition := revision } current where
  basis := fun found same => ok.basis found (by rw [allowed.read, same])
  foreign := by
    intro found same
    rw [← Bool.not_eq_true, ClusterRouter.isLocalOwner_iff]
    intro named
    rcases allowed.displaceable found same _ named with ⟨-, other⟩ | ⟨other, -⟩
    · exact other rfl
    · exact other rfl
  condition := allowed.revision_eq
  body := congrArg some allowed.record_eq

/-- One reply keeps a suspended `resolve` and the store sound. -/
theorem ResolveOk.step {program next : ClusterRouter.ResolveProgram} {reply : RouterReply}
    (owners : OwnersOk stamps store) (ok : ResolveOk stamps store address router program)
    (stepped : program.step? stamps store address ⟨router, .claim, call⟩ reply =
      some (after, next)) :
    OwnersOk stamps after ∧ ResolveOk stamps after address router next := by
  obtain ⟨view, satisfies, viewOk⟩ := ok
  obtain ⟨request, resume, answer, rfl, answerable, decoded, rfl, rfl⟩ :=
    RouterProgram.step?_cases stepped
  refine ⟨?_, _, satisfies.resume answer, viewOk.observe owners.wellformed decoded answerable ?_⟩
  · cases request with
    | compareExchange record revision =>
        obtain ⟨current, allowed⟩ := satisfies.1
        exact owners.issue rfl ⟨current, .of_allowed viewOk allowed⟩
    | _ => exact owners
  · rintro ticket rfl
    exact satisfies.1

/-- One reply keeps a suspended `release_local_owner` and the store sound. -/
theorem ReleaseOk.step {program next : ClusterRouter.ReleaseProgram} {reply : RouterReply}
    (owners : OwnersOk stamps store) (ok : ReleaseOk stamps store address router program)
    (stepped : program.step? stamps store address ⟨router, .release, call⟩ reply =
      some (after, next)) :
    OwnersOk stamps after ∧ ReleaseOk stamps after address router next := by
  obtain ⟨view, satisfies, viewOk⟩ := ok
  obtain ⟨request, resume, answer, rfl, answerable, decoded, rfl, rfl⟩ :=
    RouterProgram.step?_cases stepped
  refine ⟨?_, _, satisfies.resume answer, viewOk.observe owners.wellformed decoded answerable ?_⟩
  · cases request with
    | compareExchange record revision =>
        obtain ⟨current, read, own, rfl, rfl⟩ := satisfies.1
        exact owners.issue rfl ⟨current, viewOk.basis current read, own, rfl, rfl⟩
    | _ => exact owners
  · rintro ticket rfl
    exact satisfies.1

theorem ResolveOk.settle {program : ClusterRouter.ResolveProgram} {ticket : Nat}
    (ok : ResolveOk stamps store address router program)
    (settled : store.settle? stamps.stamp ticket = some after) :
    ResolveOk stamps after address router program := by
  obtain ⟨view, satisfies, viewOk⟩ := ok
  exact ⟨view, satisfies, viewOk.settle settled⟩

theorem ReleaseOk.settle {program : ClusterRouter.ReleaseProgram} {ticket : Nat}
    (ok : ReleaseOk stamps store address router program)
    (settled : store.settle? stamps.stamp ticket = some after) :
    ReleaseOk stamps after address router program := by
  obtain ⟨view, satisfies, viewOk⟩ := ok
  exact ⟨view, satisfies, viewOk.settle settled⟩

theorem ResolveOk.serve {program : ClusterRouter.ResolveProgram} (wf : Wellformed store)
    (ok : ResolveOk stamps store address router program) (other : ActorAddress)
    (issuer : OwnerIssuer) (request : RouterCall) :
    ResolveOk stamps (store.serve other issuer request) address router program := by
  obtain ⟨view, satisfies, viewOk⟩ := ok
  exact ⟨view, satisfies, viewOk.serve wf other issuer request⟩

theorem ReleaseOk.serve {program : ClusterRouter.ReleaseProgram} (wf : Wellformed store)
    (ok : ReleaseOk stamps store address router program) (other : ActorAddress)
    (issuer : OwnerIssuer) (request : RouterCall) :
    ReleaseOk stamps (store.serve other issuer request) address router program := by
  obtain ⟨view, satisfies, viewOk⟩ := ok
  exact ⟨view, satisfies, viewOk.serve wf other issuer request⟩

end Calls

end Coactor.Coordination
