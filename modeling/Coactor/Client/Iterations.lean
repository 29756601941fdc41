import Coactor.Client.Attempts
import Mathlib.Data.Finset.Card

/-!
# How often `open` retries

No counter of the retry loop grows in every iteration: a failed connect counts
as no attempt, a failed live owner excludes no endpoint, and `NotOwner` does
neither.  Together the attempts, the excluded endpoints, the changes of the live
owner and the marker of the failed owner pay for every iteration.
-/

namespace Coactor.Client

open Coactor.Coordination
open Coactor.Foundation
open Coactor.Foundation.Transition
open Coactor.Runtime

variable {config : ClientConfig} {client : ClientInner} {call next : OpenCall} {event : OpenEvent}
  {journal entries : List OpenEntry} {target : Target} {endpoints : Finset String}

/-! ## Counting iterations -/

/-- The last live owner is the one marked as failed. -/
def marker (journal : List OpenEntry) (call : OpenCall) : Nat :=
  if call.failedLiveOwner ≠ none ∧ call.failedLiveOwner = lastLive journal then 1 else 0

/-- What pays for the iterations so far. -/
def budget (journal : List OpenEntry) (call : OpenCall) : Nat :=
  call.attempts + call.excluded.length + liveChanges journal + 1 + marker journal call

/-- The target of the current iteration has not failed before. -/
def Unspent (endpoints : Finset String) (journal : List OpenEntry) (call : OpenCall)
    (target : Target) : Prop :=
  match target.liveOwner with
  | some identity => lastLive journal = some identity ∧ call.failedLiveOwner ≠ some identity
  | none => target.endpoint ∉ call.excluded ∧ target.endpoint ∈ endpoints

/-- What is left of the budget at a phase of an iteration. -/
def LeftAt (endpoints : Finset String) (journal : List OpenEntry) (call : OpenCall) : Phase → Prop
  | .resolving => iterations journal + 1 ≤ budget journal call
  | .acquiring target | .trying target =>
      iterations journal ≤ budget journal call ∧ Unspent endpoints journal call target
  | .awaiting target =>
      iterations journal + 1 ≤ budget journal call ∧ Unspent endpoints journal call target
  | .cleaning target error =>
      (iterations journal + 1 ≤ budget journal call ∨
        (error = .remoteUnavailable ∧ iterations journal ≤ budget journal call)) ∧
      Unspent endpoints journal call target
  | _ => iterations journal ≤ budget journal call

/-- The iterations of a call are paid for. -/
structure Paid (endpoints : Finset String) (journal : List OpenEntry) (call : OpenCall) : Prop where
  nodup : call.excluded.Nodup
  listed : ∀ endpoint ∈ call.excluded, endpoint ∈ endpoints
  left : LeftAt endpoints journal call call.pc.phase

/-- An entry that is no owner resolution. -/
def OpenEntry.isResolved : OpenEntry → Bool
  | .resolved _ => true
  | _ => false

/-- Entries that resolve no owner change neither iterations nor live owners. -/
theorem unresolved_append (unresolved : ∀ entry ∈ entries, entry.isResolved = false) :
    iterations (entries ++ journal) = iterations journal ∧
      lastLive (entries ++ journal) = lastLive journal ∧
      liveChanges (entries ++ journal) = liveChanges journal := by
  induction entries with
  | nil => exact ⟨rfl, rfl, rfl⟩
  | cons entry entries ih =>
      have first := unresolved entry List.mem_cons_self
      obtain ⟨same, last, changes⟩ := ih fun other member => unresolved other (.tail _ member)
      rw [← same, ← last, ← changes]
      cases entry with
      | resolved result => cases first
      | _ => exact ⟨rfl, rfl, rfl⟩

theorem budget_append (unresolved : ∀ entry ∈ entries, entry.isResolved = false) :
    budget (entries ++ journal) call = budget journal call := by
  obtain ⟨-, last, changes⟩ := @unresolved_append journal entries unresolved
  rw [budget, budget, marker, marker, last, changes]

theorem unspent_append (unresolved : ∀ entry ∈ entries, entry.isResolved = false)
    (unspent : Unspent endpoints journal call target) :
    Unspent endpoints (entries ++ journal) call target := by
  obtain ⟨-, last, -⟩ := @unresolved_append journal entries unresolved
  unfold Unspent at unspent ⊢
  rwa [last]

theorem leftAt_append {phase : Phase} (unresolved : ∀ entry ∈ entries, entry.isResolved = false)
    (left : LeftAt endpoints journal call phase) :
    LeftAt endpoints (entries ++ journal) call phase := by
  obtain ⟨same, -, -⟩ := @unresolved_append journal entries unresolved
  unfold LeftAt at left ⊢
  rw [same, budget_append unresolved]
  cases phase with
  | acquiring target | trying target | awaiting target | cleaning target error =>
      exact ⟨left.1, unspent_append unresolved left.2⟩
  | _ => exact left

theorem leftAt_of_data {phase : Phase} (same : SameData call next)
    (left : LeftAt endpoints journal call phase) : LeftAt endpoints journal next phase := by
  have paid : budget journal next = budget journal call := by
    rw [budget, budget, marker, marker, same.attempts, same.excluded, same.failedLiveOwner]
  have unspent : ∀ target, Unspent endpoints journal call target →
      Unspent endpoints journal next target := by
    intro target unspent
    unfold Unspent at unspent ⊢
    rwa [same.excluded, same.failedLiveOwner]
  unfold LeftAt at left ⊢
  rw [paid]
  cases phase with
  | acquiring target | trying target | awaiting target | cleaning target error =>
      exact ⟨left.1, unspent target left.2⟩
  | _ => exact left

/-- At every phase the iterations so far are within the budget. -/
theorem iterations_le_budget {phase : Phase} (left : LeftAt endpoints journal call phase) :
    iterations journal ≤ budget journal call := by
  unfold LeftAt at left
  cases phase with
  | resolving => exact Nat.le_of_succ_le left
  | acquiring target | trying target => exact left.1
  | awaiting target => exact Nat.le_of_succ_le left.1
  | cleaning target error =>
      rcases left.1 with less | ⟨-, within⟩
      · exact Nat.le_of_succ_le less
      · exact within
  | _ => exact left

/-- A resolution with no live owner takes nothing from the budget, and one with a
live owner either repeats the last one or is a change. -/
theorem budget_resolved (result : Except SendError OwnerResolution) :
    budget journal call ≤ budget (.resolved result :: journal) call := by
  rcases result with error | ⟨endpoint, nodeId, sessionId⟩ | _
  · exact Nat.le_refl _
  · have atMost : marker journal call ≤ 1 := by
      unfold marker
      split <;> omega
    unfold budget
    cases last : lastLive journal with
    | none =>
        have unmarked : marker journal call = 0 := by
          unfold marker
          rw [last]
          refine if_neg ?_
          rintro ⟨known, unknown⟩
          exact known unknown
        simp only [liveChanges, last, Option.any_none, unmarked]
        omega
    | some identity =>
        by_cases same : identity = (nodeId, sessionId)
        · have marked : marker (.resolved (.ok (.live endpoint nodeId sessionId)) :: journal) call =
              marker journal call := by
            unfold marker
            rw [last, same]
            rfl
          rw [marked]
          simp only [liveChanges]
          omega
        · have changed : (lastLive journal).any (fun last => last != (nodeId, sessionId)) = true := by
            rw [last, Option.any_some, bne_iff_ne]
            exact same
          simp only [liveChanges, changed, if_true]
          omega
  · exact Nat.le_refl _

/-! ## Every iteration is paid for -/

theorem PhaseMove.left {phase onward : Phase}
    (move : PhaseMove config client call event phase onward entries)
    (advertised : ∀ candidates, client.placementCache = some candidates ∨
      (∃ nodes ordered, event = .nodes nodes ordered ∧ candidates = placementCandidates nodes) →
      ∀ endpoint ∈ candidates.map PlacementCandidate.endpoint, endpoint ∈ endpoints)
    (left : LeftAt endpoints journal call phase) :
    LeftAt endpoints (entries ++ journal) call onward := by
  have resolves : ∀ result, iterations journal + 1 ≤ budget journal call →
      iterations (.resolved result :: journal) ≤ budget (.resolved result :: journal) call :=
    fun result paid => Nat.le_trans paid (budget_resolved result)
  cases move with
  | stays => exact left
  | closed connection => exact leftAt_append (by simp [OpenEntry.isResolved]) left
  | live unfailed => exact ⟨resolves _ left, rfl, unfailed⟩
  | failedAgain | unresolved | unowned => exact resolves _ left
  | selected listed untried source =>
      refine ⟨@leftAt_append _ journal [_] endpoints .listing (by simp [OpenEntry.isResolved]) left,
        untried, advertised _ source.symm _ listed⟩
  | unselected => exact @leftAt_append _ journal [_] endpoints .failing (by simp [OpenEntry.isResolved]) left
  | unlisted => exact left
  | exhausts | opened | abandoned => exact iterations_le_budget left
  | attempts => exact left
  | unsent => exact ⟨.inr ⟨rfl, left.1⟩, left.2⟩
  | answered => exact ⟨.inl left.1, left.2⟩
  | gaveUp => exact @leftAt_append _ journal _ endpoints .failing (forall_rollback fun _ => rfl) left
  | lost =>
      exact @leftAt_append _ journal _ endpoints .failing (forall_given_up (fun _ => rfl) rfl)
        (iterations_le_budget left)
  | repeats left' =>
      refine @leftAt_append _ journal _ endpoints .resolving (forall_given_up (fun _ => rfl) rfl) ?_
      rcases left.1 with paid | ⟨lost, -⟩
      · exact paid
      · cases lost
  | failed => exact left

/-- The next iteration is paid for by the endpoint just excluded or by the owner
just marked. -/
theorem budget_unacquired (unspent : Unspent endpoints journal call target) :
    budget journal (call.unacquired target) = budget journal call + 1 := by
  obtain ⟨endpoint, _ | identity⟩ := target
  · have marked : marker journal (call.unacquired ⟨endpoint, none⟩) = marker journal call := rfl
    have attempts : (call.unacquired ⟨endpoint, none⟩).attempts = call.attempts := rfl
    have excluded : (call.unacquired ⟨endpoint, none⟩).excluded = endpoint :: call.excluded := rfl
    rw [budget, budget, marked, attempts, excluded, List.length_cons]
    omega
  · obtain ⟨last, unfailed⟩ := unspent
    have unmarked : marker journal call = 0 := by
      unfold marker
      rw [last]
      exact if_neg fun failed => unfailed failed.2
    have marked : marker journal (call.unacquired ⟨endpoint, some identity⟩) = 1 := by
      unfold marker
      rw [last]
      exact if_pos ⟨by rintro ⟨⟩, rfl⟩
    have attempts : (call.unacquired ⟨endpoint, some identity⟩).attempts = call.attempts := rfl
    have excluded : (call.unacquired ⟨endpoint, some identity⟩).excluded = call.excluded := rfl
    rw [budget, budget, marked, unmarked, attempts, excluded]

namespace Paid

theorem unacquired (paid : Paid endpoints journal call) {entry : OpenEntry}
    (fails : Fails target entry) (unspent : Unspent endpoints journal call target)
    (within : iterations journal ≤ budget journal call) :
    Paid endpoints ((target.rollback ++ [entry]) ++ journal) (call.unacquired target) := by
  refine ⟨?_, ?_, ?_⟩
  · unfold OpenCall.unacquired
    split
    · rename_i placement
      have fresh : target.endpoint ∉ call.excluded := by
        obtain ⟨endpoint, _ | identity⟩ := target
        · exact unspent.1
        · cases placement
      exact List.nodup_cons.mpr ⟨fresh, paid.nodup⟩
    · exact paid.nodup
  · intro endpoint member
    unfold OpenCall.unacquired at member
    split at member
    · rename_i placement
      rcases List.mem_cons.mp member with rfl | earlier
      · obtain ⟨endpoint, _ | identity⟩ := target
        · exact unspent.2
        · cases placement
      · exact paid.listed endpoint earlier
    · exact paid.listed endpoint member
  · rw [ClientInner.unacquired_pc]
    refine @leftAt_append _ journal _ endpoints .resolving (forall_given_up (fun _ => rfl) ?_) ?_
    · rcases fails with rfl | rfl | ⟨rfl, -⟩ <;> rfl
    · change iterations journal + 1 ≤ budget journal (call.unacquired target)
      rw [budget_unacquired unspent]
      exact Nat.succ_le_succ within

/-- The answers of the store pay for nothing and cost nothing. -/
theorem heard (paid : Paid endpoints journal call)
    (answers : ∀ entry ∈ entries, entry.isAnswer = true) : Paid endpoints (entries ++ journal) call := by
  refine ⟨paid.nodup, paid.listed, leftAt_append (fun entry member => ?_) paid.left⟩
  have answer := answers entry member
  cases entry with
  | resolved result => cases answer
  | _ => rfl

theorem move (paid : Paid endpoints journal call)
    (advertised : ∀ candidates, client.placementCache = some candidates ∨
      (∃ nodes ordered, event = .nodes nodes ordered ∧ candidates = placementCandidates nodes) →
      ∀ endpoint ∈ candidates.map PlacementCandidate.endpoint, endpoint ∈ endpoints)
    (move : CallMove config client call next event entries) :
    Paid endpoints (entries ++ journal) next := by
  have left := paid.left
  cases move with
  | kept same move =>
      refine ⟨same.excluded ▸ paid.nodup, same.excluded ▸ paid.listed, ?_⟩
      exact leftAt_of_data same (move.left advertised left)
  | sent target connection ticket found here there present attempts excluded failedLiveOwner noted =>
      rw [here] at left
      obtain ⟨within, unspent⟩ := left
      refine ⟨excluded ▸ paid.nodup, excluded ▸ paid.listed, ?_⟩
      rw [there, noted]
      refine @leftAt_append _ journal [_] endpoints (.awaiting target)
        (by simp [OpenEntry.isResolved]) ⟨?_, ?_⟩
      · have more : budget journal next = budget journal call + 1 := by
          rw [budget, budget, marker, marker, attempts, excluded, failedLiveOwner]
          omega
        rw [more]
        exact Nat.succ_le_succ within
      · unfold Unspent at unspent ⊢
        rwa [excluded, failedLiveOwner]
  | unacquired target here onward noted =>
      rw [here] at left
      rw [noted, onward]
      exact paid.unacquired (.inl rfl) left.2 left.1
  | retried target error here retries left' onward noted =>
      rw [here] at left
      rw [noted, onward]
      have within : iterations journal ≤ budget journal call :=
        @iterations_le_budget _ _ _ (.cleaning target error) left
      refine paid.unacquired ?_ left.2 within
      rcases retries with rfl | ⟨rfl, placement⟩
      · exact .inr (.inl rfl)
      · exact .inr (.inr ⟨rfl, placement⟩)

end Paid

/-- Every directory read answers with endpoints of this set. -/
def Advertises (endpoints : Finset String) (_ : Journaled) (event : ClientEvent) : Prop :=
  ∀ session nodes ordered, event = .call session (.nodes nodes ordered) →
    ∀ node ∈ nodes, node.advertisedEndpoint ∈ endpoints

/-- The cached candidates are of the advertised endpoints too. -/
theorem cache_advertised {state : Journaled}
    (reach : (journaledSystem config).ReachableWhile (Advertises endpoints) state) :
    ∀ candidates, state.client.placementCache = some candidates →
      ∀ endpoint ∈ candidates.map PlacementCandidate.endpoint, endpoint ∈ endpoints := by
  refine invariant_of_step (fun state : Journaled => ∀ candidates,
    state.client.placementCache = some candidates →
      ∀ endpoint ∈ candidates.map PlacementCandidate.endpoint, endpoint ∈ endpoints) ?_ ?_ reach
  · rintro _ rfl candidates ⟨⟩
  · intro before event after known met stepped candidates cached endpoint listed
    obtain ⟨client, moved, rfl⟩ := journaled_step stepped
    cases ClientInner.step?_effect moved with
    | begin unknown calls cache receivers fades =>
        exact known candidates (cache ▸ cached) endpoint listed
    | @call session openEvent call next found effect =>
        rcases effect.cache with same | ⟨nodes, ordered, rfl, fetched⟩
        · exact known candidates (same ▸ cached) endpoint listed
        · obtain rfl := Option.some.inj (fetched.symm.trans cached)
          obtain ⟨node, member, -, rfl⟩ := mayHost_of_listed listed
          exact met session nodes ordered rfl node member
    | other outside calls cache receivers fades =>
        exact known candidates (cache ▸ cached) endpoint listed

theorem paid_of_reachable {state : Journaled}
    (reach : (journaledSystem config).ReachableWhile (Advertises endpoints) state) :
    ∀ session call, state.client.calls session = some call →
      Paid endpoints (state.journal session) call := by
  refine (calls_of_moves (Paid endpoints) ?_ ?_ reach).1
  · intro address
    exact ⟨List.nodup_nil, List.forall_mem_nil _, Nat.le_refl _⟩
  · intro before middle session call next event earlier met found step effect paid
    refine (paid.heard (heard_cases before call.pc event).1).move (fun candidates source endpoint listed => ?_) effect.move
    rcases source with cached | ⟨nodes, ordered, rfl, rfl⟩
    · exact cache_advertised earlier candidates cached endpoint listed
    · obtain ⟨node, member, -, rfl⟩ := mayHost_of_listed listed
      exact met session nodes ordered rfl node member

/-- The iterations of a call are bounded by its attempts, the advertised endpoints
and the changes of the live owner. -/
theorem iterations_bounded {state : Journaled}
    (reach : (journaledSystem config).ReachableWhile (Advertises endpoints) state)
    (session : SessionId) :
    iterations (state.journal session) ≤
      config.maxOpenAttempts + endpoints.card + liveChanges (state.journal session) + 2 := by
  cases found : state.client.calls session with
  | none =>
      rw [(Recorded.reachable reach).2 session found]
      exact Nat.zero_le _
  | some call =>
      have paid := paid_of_reachable reach session call found
      have within := ((Recorded.reachable reach).1 session call found).within
      have few : call.excluded.length ≤ endpoints.card := by
        rw [← List.toFinset_card_of_nodup paid.nodup]
        refine Finset.card_le_card fun endpoint member => ?_
        exact paid.listed endpoint (List.mem_toFinset.mp member)
      have marked : marker (state.journal session) call ≤ 1 := by
        unfold marker
        split <;> omega
      have spent := iterations_le_budget paid.left
      unfold budget at spent
      omega

end Coactor.Client
