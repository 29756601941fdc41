import Mathlib.Data.Prod.Lex
import Coactor.Coordination.OwnerStore
import Coactor.Foundation.Transition

/-!
# The ownership history of an address

Any number of routers make any number of calls on one store of owner records.
The calls take no locks here, reads and conditional writes are separate steps,
and writes are settled in any order.  Every applied write moves its record up
in the lexicographic order of epoch and release, so no record recurs, and a
revision that is merely a hash of the record still names one version.
-/

namespace Coactor.Coordination

open Coactor.Foundation
open Coactor.Foundation.Transition
open Coactor.Foundation.ConditionalStore

/-! ## Calls of many routers -/

/-- A running call of a router. -/
inductive OwnerCall where
  | resolving (program : ClusterRouter.ResolveProgram)
  | releasing (program : ClusterRouter.ReleaseProgram)

structure OwnerState where
  store : OwnerStore
  calls : Nat → Option (ClusterRouter × ActorAddress × OwnerCall)

inductive OwnerLabel where
  | resolve (call : Nat) (router : ClusterRouter) (address : ActorAddress)
  | release (call : Nat) (router : ClusterRouter) (address : ActorAddress)
  | reply (call : Nat) (reply : RouterReply)
  | settle (ticket : Nat)

variable (stamps : OwnerStamp)

namespace OwnerState

def begin? (state : OwnerState) (call : Nat) (router : ClusterRouter) (address : ActorAddress)
    (body : OwnerCall) : Option OwnerState :=
  match state.calls call with
  | none => some { state with
      calls := Function.update state.calls call (some (router, address, body)) }
  | some _ => none

def reply? (state : OwnerState) (call : Nat) (reply : RouterReply) : Option OwnerState :=
  match state.calls call with
  | none => none
  | some (router, address, .resolving program) =>
      (program.step? stamps state.store address ⟨router, .claim, call⟩ reply).map
        fun (store, next) =>
          { store := store
            calls := Function.update state.calls call (some (router, address, .resolving next)) }
  | some (router, address, .releasing program) =>
      (program.step? stamps state.store address ⟨router, .release, call⟩ reply).map
        fun (store, next) =>
          { store := store
            calls := Function.update state.calls call (some (router, address, .releasing next)) }

def step? (state : OwnerState) : OwnerLabel → Option OwnerState
  | .resolve call router address => state.begin? call router address (.resolving router.resolve)
  | .release call router address =>
      state.begin? call router address (.releasing router.releaseLocalOwner)
  | .reply call reply => state.reply? stamps call reply
  | .settle ticket =>
      (state.store.settle? stamps.stamp ticket).map fun store => { state with store := store }

end OwnerState

/-- No record and no call at first. -/
def ownerSystem : System OwnerState OwnerLabel where
  initial := fun state => state.store = .empty ∧ state.calls = fun _ => none
  step? := OwnerState.step? stamps

/-- Every stored epoch can still be raised. -/
def EpochsBelowMax (state : OwnerState) : Prop :=
  ∀ address object, state.store.objects address = some object →
    object.body.ownershipEpoch < u64Max

/-- The order of the history; an absent record counts as released at epoch zero. -/
def historyRank : Option ActorOwnerRecord → ℕ ×ₗ Bool
  | none => toLex (0, true)
  | some record => toLex (record.ownershipEpoch, record.owner.isNone)

/-- A claim raises the epoch by one and names its session; a release of the
session's own record keeps the epoch and clears the owner. -/
def Advances (issuer : OwnerIssuer) (before : Option ActorOwnerRecord)
    (record : ActorOwnerRecord) : Prop :=
  match issuer.operation with
  | .claim =>
      record = issuer.router.localClaim (before.elim 0 ActorOwnerRecord.ownershipEpoch + 1)
  | .release => ∃ old, before = some old ∧ issuer.router.isLocalOwner old = true ∧
      record = .unowned old.ownershipEpoch

variable {stamps} {state after : OwnerState}

theorem Advances.rank_lt {issuer : OwnerIssuer} {before : Option ActorOwnerRecord}
    {record : ActorOwnerRecord} (advances : Advances issuer before record) :
    historyRank before < historyRank (some record) := by
  unfold Advances at advances
  cases operation : issuer.operation with
  | claim =>
      rw [operation] at advances
      subst advances
      cases before with
      | none => exact Prod.Lex.toLex_lt_toLex.mpr (.inl (Nat.succ_pos _))
      | some old => exact Prod.Lex.toLex_lt_toLex.mpr (.inl (Nat.lt_succ_self _))
  | release =>
      rw [operation] at advances
      obtain ⟨old, rfl, own, rfl⟩ := advances
      rw [ClusterRouter.isLocalOwner_iff] at own
      refine Prod.Lex.toLex_lt_toLex.mpr (.inr ⟨rfl, ?_⟩)
      simp [own, ActorOwnerRecord.unowned]

/-! ## The invariant -/

/-- Later versions of an address rank higher. -/
def Increasing (store : OwnerStore) : Prop :=
  ∀ address older newer, Written store address older → Written store address newer →
    older.serial < newer.serial →
      historyRank (some older.body) < historyRank (some newer.body)

def CallOk (stamps : OwnerStamp) (store : OwnerStore) (router : ClusterRouter)
    (address : ActorAddress) : OwnerCall → Prop
  | .resolving program => ResolveOk stamps store address router program
  | .releasing program => ReleaseOk stamps store address router program

structure HistoryOk (stamps : OwnerStamp) (state : OwnerState) : Prop where
  owners : OwnersOk stamps state.store
  increasing : Increasing state.store
  calls : ∀ call router address body, state.calls call = some (router, address, body) →
    CallOk stamps state.store router address body

/-- What a matching write does to the history of its address. -/
theorem advances_of_match {store : OwnerStore} (owners : OwnersOk stamps store) {ticket : Nat}
    {write : OwnerWrite} (found : store.writes ticket = some write)
    (holds : store.current stamps.stamp write.key = write.condition)
    (below : ∀ object, store.objects write.key = some object →
      object.body.ownershipEpoch < u64Max) :
    ∃ record, write.body = some record ∧
      Advances write.issuer ((store.objects write.key).map Object.body) record := by
  have derived := owners.derived ticket write found
  unfold Derived at derived
  unfold Advances
  cases operation : write.issuer.operation with
  | claim =>
      rw [operation] at derived
      obtain ⟨current, from'⟩ := derived
      refine ⟨_, from'.body, ?_⟩
      have same := owners.matching holds from'.basis from'.condition
      rw [same]
      cases current with
      | none => rfl
      | some current =>
          obtain ⟨object, stored, body⟩ := Option.map_eq_some_iff.mp same
          have room := below object stored
          rw [body] at room
          have exact' : nextEpoch (some current) = current.record.ownershipEpoch + 1 := by
            simp only [nextEpoch, saturatingAdd]
            omega
          rw [exact']
          rfl
  | release =>
      rw [operation] at derived
      obtain ⟨current, from'⟩ := derived
      have basis : ∀ found, some current = some found → Basis stamps store write.key found := by
        rintro found ⟨⟩
        exact from'.basis
      have same := owners.matching holds basis from'.condition
      exact ⟨_, from'.body, current.record, same, from'.own, rfl⟩

theorem Increasing.apply {store : OwnerStore} (owners : OwnersOk stamps store)
    (increasing : Increasing store) {ticket : Nat} {write : OwnerWrite}
    (found : store.writes ticket = some write) (pending : write.fate = .pending)
    (holds : store.current stamps.stamp write.key = write.condition)
    (below : ∀ object, store.objects write.key = some object →
      object.body.ownershipEpoch < u64Max) :
    Increasing (store.apply ticket write) := by
  intro address older newer writtenOlder writtenNewer earlier
  have wf := owners.wellformed
  rcases (written_apply_iff found pending).mp writtenOlder with oldOlder | ⟨-, madeOlder⟩
  · rcases (written_apply_iff found pending).mp writtenNewer with oldNewer | ⟨rfl, madeNewer⟩
    · exact increasing address older newer oldOlder oldNewer earlier
    · obtain ⟨record, body, advances⟩ := advances_of_match owners found holds below
      obtain ⟨stored, present⟩ := owners.present _ _ oldOlder
      have new : newer.body = record := by
        simp only [Write.object, body, Option.map_some, Option.some.injEq] at madeNewer
        rw [← madeNewer]
      have step := advances.rank_lt
      rw [present, Option.map_some, ← new] at step
      rcases Nat.lt_or_eq_of_le (wf.newest _ _ _ present oldOlder) with less | equal
      · exact lt_trans (increasing _ _ _ oldOlder (wf.written _ _ present) less) step
      · rw [(wf.written_unique oldOlder (wf.written _ _ present) equal).2]
        exact step
  · rw [object_serial madeOlder] at earlier
    rcases (written_apply_iff found pending).mp writtenNewer with oldNewer | ⟨-, madeNewer⟩
    · exact absurd (wf.written_lt oldNewer) (Nat.not_lt.mpr (Nat.le_of_lt earlier))
    · rw [object_serial madeNewer] at earlier
      exact absurd earlier (Nat.lt_irrefl _)

theorem Increasing.settle {store next : OwnerStore} (owners : OwnersOk stamps store)
    (increasing : Increasing store) {ticket : Nat}
    (settled : store.settle? stamps.stamp ticket = some next)
    (below : ∀ address object, store.objects address = some object →
      object.body.ownershipEpoch < u64Max) : Increasing next := by
  obtain ⟨write, found, pending, ⟨holds, rfl⟩ | rfl⟩ := settle?_cases settled
  · exact increasing.apply owners found pending holds (below _)
  · intro address older newer writtenOlder writtenNewer
    exact increasing address older newer ((written_refuse_iff found pending).mp writtenOlder)
      ((written_refuse_iff found pending).mp writtenNewer)

theorem Increasing.serve {store : OwnerStore} (wf : Wellformed store)
    (increasing : Increasing store) (address : ActorAddress) (issuer : OwnerIssuer)
    (request : RouterCall) : Increasing (store.serve address issuer request) := by
  cases request with
  | compareExchange record revision =>
      intro address older newer writtenOlder writtenNewer
      exact increasing address older newer ((written_issue_iff wf rfl).mp writtenOlder)
        ((written_issue_iff wf rfl).mp writtenNewer)
  | _ => exact increasing

theorem CallOk.serve {store : OwnerStore} {router : ClusterRouter} {address : ActorAddress}
    {body : OwnerCall} (wf : Wellformed store) (ok : CallOk stamps store router address body)
    (other : ActorAddress) (issuer : OwnerIssuer) (request : RouterCall) :
    CallOk stamps (store.serve other issuer request) router address body := by
  cases body with
  | resolving program => exact ResolveOk.serve wf ok other issuer request
  | releasing program => exact ReleaseOk.serve wf ok other issuer request

theorem CallOk.settle {store next : OwnerStore} {router : ClusterRouter}
    {address : ActorAddress} {body : OwnerCall} {ticket : Nat}
    (ok : CallOk stamps store router address body)
    (settled : store.settle? stamps.stamp ticket = some next) :
    CallOk stamps next router address body := by
  cases body with
  | resolving program => exact ResolveOk.settle ok settled
  | releasing program => exact ReleaseOk.settle ok settled

/-- A call that starts or moves on keeps the invariant when the others stay sound. -/
theorem HistoryOk.update (owners : OwnersOk stamps state.store)
    (increasing : Increasing state.store)
    {calls : Nat → Option (ClusterRouter × ActorAddress × OwnerCall)}
    (others : ∀ call router address body, calls call = some (router, address, body) →
      CallOk stamps state.store router address body)
    {call : Nat} {router : ClusterRouter} {address : ActorAddress} {body : OwnerCall}
    (ok : CallOk stamps state.store router address body)
    (moved : state.calls = Function.update calls call (some (router, address, body))) :
    HistoryOk stamps state := by
  refine ⟨owners, increasing, fun other router' address' body' found => ?_⟩
  rw [moved] at found
  by_cases same : other = call
  · subst same
    rw [Function.update_self, Option.some.injEq, Prod.mk.injEq, Prod.mk.injEq] at found
    obtain ⟨rfl, rfl, rfl⟩ := found
    exact ok
  · rw [Function.update_of_ne same] at found
    exact others other router' address' body' found

theorem HistoryOk.begin? (ok : HistoryOk stamps state) {call : Nat} {router : ClusterRouter}
    {address : ActorAddress} {body : OwnerCall}
    (sound : CallOk stamps state.store router address body)
    (begun : state.begin? call router address body = some after) : HistoryOk stamps after := by
  unfold OwnerState.begin? at begun
  split at begun
  · cases begun
    exact .update ok.owners ok.increasing ok.calls sound rfl
  · cases begun

theorem HistoryOk.reply? (ok : HistoryOk stamps state) {call : Nat} {reply : RouterReply}
    (replied : state.reply? stamps call reply = some after) : HistoryOk stamps after := by
  have wf := ok.owners.wellformed
  unfold OwnerState.reply? at replied
  split at replied
  · cases replied
  · rename_i router address program found
    obtain ⟨⟨store, next⟩, stepped, rfl⟩ := Option.map_eq_some_iff.mp replied
    obtain ⟨owners, moved⟩ := ResolveOk.step ok.owners (ok.calls _ _ _ _ found) stepped
    have sound : CallOk stamps store router address (.resolving next) := moved
    obtain ⟨request, _, _, _, _, _, rfl, _⟩ := RouterProgram.step?_cases stepped
    refine .update owners (ok.increasing.serve wf _ _ _) (fun other _ _ _ here => ?_) sound rfl
    exact (ok.calls _ _ _ _ here).serve wf _ _ _
  · rename_i router address program found
    obtain ⟨⟨store, next⟩, stepped, rfl⟩ := Option.map_eq_some_iff.mp replied
    obtain ⟨owners, moved⟩ := ReleaseOk.step ok.owners (ok.calls _ _ _ _ found) stepped
    have sound : CallOk stamps store router address (.releasing next) := moved
    obtain ⟨request, _, _, _, _, _, rfl, _⟩ := RouterProgram.step?_cases stepped
    refine .update owners (ok.increasing.serve wf _ _ _) (fun other _ _ _ here => ?_) sound rfl
    exact (ok.calls _ _ _ _ here).serve wf _ _ _

/-- Every step keeps the invariant while epochs can still be raised. -/
theorem HistoryOk.step? (ok : HistoryOk stamps state) {label : OwnerLabel}
    (below : EpochsBelowMax state) (stepped : state.step? stamps label = some after) :
    HistoryOk stamps after := by
  cases label with
  | resolve call router address =>
      have sound : CallOk stamps state.store router address (.resolving router.resolve) :=
        resolveOk_start
      exact ok.begin? sound stepped
  | release call router address =>
      have sound : CallOk stamps state.store router address
          (.releasing router.releaseLocalOwner) := releaseOk_start
      exact ok.begin? sound stepped
  | reply call reply => exact ok.reply? stepped
  | settle ticket =>
      obtain ⟨store, settled, rfl⟩ := Option.map_eq_some_iff.mp stepped
      exact ⟨ok.owners.settle settled, ok.increasing.settle ok.owners settled below,
        fun call router address body found => (ok.calls _ _ _ _ found).settle settled⟩

theorem historyOk_of_reachable
    (reach : (ownerSystem stamps).ReachableWhile (fun state _ => EpochsBelowMax state) state) :
    HistoryOk stamps state := by
  refine invariant_of_step (HistoryOk stamps) ?_ ?_ reach
  · rintro ⟨store, calls⟩ ⟨rfl, rfl⟩
    refine ⟨ownersOk_empty, ?_, fun _ _ _ _ found => by cases found⟩
    rintro address older newer ⟨ticket, write, found, -⟩
    cases found
  · intro before label after ok below stepped
    exact ok.step? below stepped

/-! ## Strictly increasing, without recurrence -/

/-- Versions of one address with equal records are the same version. -/
theorem Increasing.unique {store : OwnerStore} (wf : Wellformed store)
    (increasing : Increasing store) {address : ActorAddress} {first second : OwnerObject}
    (one : Written store address first) (two : Written store address second)
    (body : first.body = second.body) : first = second := by
  rcases Nat.lt_trichotomy first.serial second.serial with less | equal | greater
  · exact absurd (body ▸ increasing _ _ _ one two less) (lt_irrefl _)
  · exact (wf.written_unique one two equal).2
  · exact absurd (body ▸ increasing _ _ _ two one greater) (lt_irrefl _)

/-- Every applied write advances the history of its address, no record recurs,
and a matching revision means that the version read is still the stored one. -/
theorem ownership_history_increases
    (reach : (ownerSystem stamps).ReachableWhile (fun state _ => EpochsBelowMax state) state) :
    (∀ ticket write store, EpochsBelowMax state → state.store.writes ticket = some write →
      state.store.settle? stamps.stamp ticket = some store →
      store.objects write.key ≠ state.store.objects write.key →
        ∃ record, (store.objects write.key).map Object.body = some record ∧
          Advances write.issuer ((state.store.objects write.key).map Object.body) record ∧
          historyRank ((state.store.objects write.key).map Object.body) <
            historyRank (some record)) ∧
    (∀ address first second, Written state.store address first →
      Written state.store address second → first.body = second.body → first = second) ∧
    (∀ address seen stored, Written state.store address seen →
      state.store.objects address = some stored →
      stored.revision stamps.stamp = seen.revision stamps.stamp → stored = seen) := by
  have ok := historyOk_of_reachable reach
  have wf := ok.owners.wellformed
  refine ⟨?_, fun address first second one two => ok.increasing.unique wf one two, ?_⟩
  · intro ticket write store below found settled changed
    obtain ⟨write', found', -, ⟨holds, rfl⟩ | rfl⟩ := settle?_cases settled
    · rw [found] at found'
      cases found'
      obtain ⟨record, body, advances⟩ := advances_of_match ok.owners found holds (below _)
      exact ⟨record, by simp [Store.apply, Write.object, body], advances, advances.rank_lt⟩
    · exact absurd rfl changed
  · intro address seen stored read present revision
    have written := wf.written _ _ present
    exact ok.increasing.unique wf written read
      (ok.owners.body_of_revision_eq written read revision)

/-! ## A first claim -/

/-- Revisions that count the applied writes. -/
def countedOwners : OwnerStamp where
  stamp := fun serial _ => ⟨String.ofList (List.replicate serial 'v')⟩
  sound := by
    intro m n _ _ same
    have lengths := congrArg (fun revision => revision.value.toList.length) same
    exact .inl (by simpa using lengths)

def firstAddress : ActorAddress := ⟨"cart", "first", rfl, rfl⟩

/-- A session finds no record, reserves a permit and sends its claim. -/
def firstClaim : List OwnerLabel :=
  [.resolve 0 .firstRouter firstAddress, .reply 0 (.owner (.ok none)), .reply 0 (.permit true),
    .reply 0 (.issued 0)]

/-- The claim moves the absent record to epoch one, owned by the session. -/
theorem first_claim_advances :
    ∃ state store, (ownerSystem countedOwners).run? ⟨.empty, fun _ => none⟩ firstClaim = some state ∧
      state.store.settle? countedOwners.stamp 0 = some store ∧
      ∃ record, (store.objects firstAddress).map Object.body = some record ∧
        Advances ⟨.firstRouter, .claim, 0⟩ none record ∧
        historyRank none < historyRank (some record) := by
  have below : ∀ calls, EpochsBelowMax ⟨.empty, calls⟩ := fun _ _ _ found => by cases found
  have meets : (ownerSystem countedOwners).Meets (fun state _ => EpochsBelowMax state)
      ⟨.empty, fun _ => none⟩ firstClaim := by
    refine ⟨below _, fun _ taken => ?_⟩
    cases taken
    refine ⟨below _, fun _ taken => ?_⟩
    cases taken
    refine ⟨below _, fun _ taken => ?_⟩
    cases taken
    exact ⟨below _, fun _ _ => trivial⟩
  have initial : (ownerSystem countedOwners).initial ⟨.empty, fun _ => none⟩ := ⟨rfl, rfl⟩
  have reach := reachableWhile_of_run? (.start initial) meets rfl
  exact ⟨_, _, rfl, rfl, (ownership_history_increases reach).1 0 _ _
    (fun _ _ found => by cases found) rfl rfl (by decide)⟩

end Coactor.Coordination
