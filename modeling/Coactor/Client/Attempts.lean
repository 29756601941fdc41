import Coactor.Client.Pools
import Coactor.Runtime.Routes

/-!
# Whom a call of `open` sends to

The record of a call, read at the phase its current iteration is in: what the
iteration has resolved, which live owner has failed, and which endpoints are
excluded.  The data that the retry loop carries agree with the record, so every
`SessionOpen` is sent to the live owner just resolved or to a candidate that has
not failed in this call, and their number is bounded.
-/

namespace Coactor.Client

open Coactor.Coordination
open Coactor.Foundation
open Coactor.Foundation.Transition
open Coactor.Runtime

variable {config : ClientConfig} {client : ClientInner} {call next : OpenCall} {event : OpenEvent}
  {journal entries earlier : List OpenEntry} {target : Target} {endpoint : String}

/-! ## Properties of recorded calls -/

theorem journalAfter_of_outside {state : Journaled} {event : ClientEvent}
    (outside : ∀ session openEvent, event ≠ .call session openEvent) :
    state.journalAfter event = state.journal := by
  cases event with
  | call session event => exact absurd rfl (outside session event)
  | _ => rfl

/-- The effect of a step is that of its case. -/
theorem case_of_effect {after : ClientInner} {session : SessionId}
    (found : client.calls session = some call)
    (stepped : client.step? config (.call session event) = some after)
    (effect : OpenEffect config client after session call next event) :
    ∃ middle, OpenCase config client session call call.pc event middle next ∧
      after = middle.setCall session next := by
  obtain ⟨current, known, moved⟩ := Option.bind_eq_some_iff.mp stepped
  obtain rfl := Option.some.inj (found.symm.trans known)
  obtain ⟨middle, other, step, rfl⟩ := ClientInner.openStep?_cases moved
  have same := congrFun effect.calls session
  simp only [ClientInner.setCall, Function.update_self, Option.some.injEq] at same
  subst same
  exact ⟨middle, step, rfl⟩

/-- A property of recorded calls holds of all calls if it holds of a new call and
each step of a call keeps it. -/
theorem calls_of_moves {guard : Journaled → ClientEvent → Prop}
    (Property : List OpenEntry → OpenCall → Prop)
    (fresh : ∀ address, Property [] ⟨address, .resolving resolveOwner, 0, [], none, false⟩)
    (preserved : ∀ (state : Journaled) middle session call next event,
      (journaledSystem config).ReachableWhile guard state → guard state (.call session event) →
      state.client.calls session = some call →
      OpenCase config state.client session call call.pc event middle next →
      OpenEffect config state.client (middle.setCall session next) session call next event →
      Property (state.journal session) call →
      Property (state.client.noted session call call.pc event ++
        (state.heard call.pc event ++ state.journal session)) next)
    {state : Journaled} (reach : (journaledSystem config).ReachableWhile guard state) :
    (∀ session call, state.client.calls session = some call →
      Property (state.journal session) call) ∧
    ∀ session, state.client.calls session = none → state.journal session = [] := by
  refine invariant_of_reachable_step (fun state : Journaled =>
    (∀ session call, state.client.calls session = some call →
      Property (state.journal session) call) ∧
    ∀ session, state.client.calls session = none → state.journal session = []) ?_ ?_ reach
  · rintro _ rfl
    exact ⟨by rintro session call ⟨⟩, fun _ _ => rfl⟩
  · rintro before event after earlier ⟨known, unknown⟩ met stepped
    obtain ⟨client, moved, rfl⟩ := journaled_step stepped
    have effect := ClientInner.step?_effect moved
    simp only [Journaled.record]
    cases effect with
    | @begin begun address absent calls cache receivers fades =>
        rw [journalAfter_of_outside (by rintro session openEvent ⟨⟩), calls]
        refine ⟨fun session call found => ?_, fun session found => ?_⟩
        · by_cases same : session = begun
          · rw [same, Function.update_self, Option.some.injEq] at found
            rw [← found, same, unknown begun absent]
            exact fresh address
          · rw [Function.update_of_ne same] at found
            exact known session call found
        · by_cases same : session = begun
          · rw [same, Function.update_self] at found
            cases found
          · rw [Function.update_of_ne same] at found
            exact unknown session found
    | @call called openEvent current next found effect =>
        obtain ⟨middle, step, rfl⟩ := case_of_effect found moved effect
        simp only [Journaled.journalAfter, found, effect.calls]
        refine ⟨fun session call found' => ?_, fun session found' => ?_⟩
        · by_cases same : session = called
          · rw [same, Function.update_self, Option.some.injEq] at found'
            rw [← found', same, Function.update_self]
            exact preserved before middle called current next openEvent earlier met found step effect
              (known called current found)
          · rw [Function.update_of_ne same] at found' ⊢
            exact known session call found'
        · by_cases same : session = called
          · rw [same, Function.update_self] at found'
            cases found'
          · rw [Function.update_of_ne same] at found' ⊢
            exact unknown session found'
    | other outside calls cache receivers fades =>
        rw [journalAfter_of_outside outside, calls]
        exact ⟨known, unknown⟩

/-- The placement cache holds what `placement_candidates` has computed from the last
answer of the directory. -/
theorem cache_of_reachable {guard : Journaled → ClientEvent → Prop} {state : Journaled}
    (reach : (journaledSystem config).ReachableWhile guard state) :
    state.client.placementCache = state.directory.map placementCandidates := by
  refine invariant_of_step (fun state : Journaled =>
    state.client.placementCache = state.directory.map placementCandidates) ?_ ?_ reach
  · rintro _ rfl
    rfl
  · intro before event after known _ stepped
    obtain ⟨client, moved, rfl⟩ := journaled_step stepped
    cases ClientInner.step?_effect moved with
    | begin unknown calls cache receivers fades => exact cache.trans known
    | @call session openEvent call next found effect =>
        obtain ⟨middle, step, rfl⟩ := case_of_effect found moved effect
        rcases effect.cache with same | ⟨nodes, ordered, rfl, fetched⟩
        · generalize call.pc = pc at step
          cases step with
          | listed nodes ordered => rfl
          | _ => exact same.trans known
        · exact fetched
    | other outside calls cache receivers fades =>
        refine (cache.trans known).trans (congrArg (Option.map placementCandidates) ?_)
        cases event with
        | call session openEvent => exact absurd rfl (outside session openEvent)
        | _ => rfl

/-- An answer of the store. -/
def OpenEntry.isAnswer : OpenEntry → Bool
  | .answered _ _ | .directory _ => true
  | _ => false

/-- Only answers are heard, and only while an iteration looks for its target. -/
theorem heard_cases (state : Journaled) (pc : OpenPc) (event : OpenEvent) :
    (∀ entry ∈ state.heard pc event, entry.isAnswer = true) ∧
      (state.heard pc event = [] ∨ pc.phase = .resolving ∨ pc.phase = .listing) := by
  unfold Journaled.heard
  split
  · exact ⟨List.forall_mem_singleton.mpr rfl, .inr (.inl rfl)⟩
  · exact ⟨List.forall_mem_singleton.mpr rfl, .inr (.inr rfl)⟩
  · refine ⟨fun entry member => ?_, .inr (.inr rfl)⟩
    obtain ⟨nodes, -, rfl⟩ := List.mem_map.mp member
    rfl
  · exact ⟨List.forall_mem_nil _, .inl rfl⟩

theorem heard_quiet {state : Journaled} {pc : OpenPc} (quiet : event = .expire ∨ event = .abandon) :
    state.heard pc event = [] := by
  rcases quiet with rfl | rfl <;> unfold Journaled.heard <;> split <;> first | rfl | contradiction

/-- Where a call that hears nothing stands after its step. -/
structure Unheard (client : ClientInner) (session : SessionId) (call next : OpenCall)
    (event : OpenEvent) : Prop where
  silent : ∀ state : Journaled, state.heard call.pc event = []
  unnoted : call.pc.phase = .resolving ∨ call.pc.phase = .listing →
    client.noted session call call.pc event = []
  asks : ∀ program, next.pc = .resolving program →
    program = resolveOwner ∨ call.pc = .resolving program

/-- A step of a call goes on with an answer about the owner, with a list of Node
records, or with no answer of the store. -/
theorem hearing_of_case {middle : ClientInner} {session : SessionId}
    (step : OpenCase config client session call call.pc event middle next) :
    (∃ program reply onward, call.pc = .resolving program ∧ event = .reply reply ∧
      program.resume? reply = some onward ∧ next = call.resolved onward) ∨
    (call.pc = .listing ∧ ∃ candidates ordered,
      ((∃ nodes, event = .nodes nodes ordered ∧ candidates = placementCandidates nodes) ∨
        (event = .cached ordered ∧ client.placementCache = some candidates)) ∧
      next = call.selected (selectPlacementCandidate candidates call.excluded ordered)) ∨
    Unheard client session call next event := by
  obtain ⟨address, pc, attempts, excluded, failedLiveOwner, expired⟩ := call
  have asks : ∀ {data : OpenCall} {target : Target} {program : OwnerProgram},
      (data.unacquired target).pc = .resolving program → program = resolveOwner := by
    intro data target program there
    rw [ClientInner.unacquired_pc] at there
    exact (OpenPc.resolving.inj there).symm
  cases step with
  | answered timely resumed => exact .inl ⟨_, _, _, rfl, rfl, resumed, rfl⟩
  | listed nodes ordered =>
      exact .inr (.inl ⟨rfl, _, ordered, .inl ⟨nodes, rfl, rfl⟩, rfl⟩)
  | cached kept => exact .inr (.inl ⟨rfl, _, _, .inr ⟨rfl, kept⟩, rfl⟩)
  | lockElapsed | refused | connectElapsed | choiceless =>
      exact .inr (.inr ⟨fun _ => rfl, by simp [OpenPc.phase], fun program there => .inl (asks there)⟩)
  | @unheld target connection next | @uncounted target connection next =>
      cases next <;>
        exact .inr (.inr ⟨fun _ => rfl, by simp [OpenPc.phase, AfterUnbind.phase], by rintro program ⟨⟩⟩)
  | @unbound target connection next =>
      cases next <;>
        exact .inr (.inr ⟨fun _ => rfl, by simp [OpenPc.phase, AfterUnbind.phase], by rintro program ⟨⟩⟩)
  | @retracted target error =>
      refine .inr (.inr ⟨fun _ => rfl, by simp [OpenPc.phase], fun program there => .inl ?_⟩)
      unfold OpenCall.retracted at there
      simp only at there
      split at there
      · split at there
        · cases there
        · exact (OpenPc.resolving.inj there).symm
      · split at there
        · split at there
          · cases there
          · exact (OpenPc.resolving.inj there).symm
        · cases there
      · split at there
        · cases there
        · exact asks there
      · cases there
  | expires =>
      exact .inr (.inr ⟨fun _ => heard_quiet (.inl rfl), fun _ => ClientInner.noted_quiet (.inl rfl),
        fun program there => .inr there⟩)
  | abandoned =>
      exact .inr (.inr ⟨fun _ => heard_quiet (.inr rfl), fun _ => ClientInner.noted_quiet (.inr rfl),
        by rintro program ⟨⟩⟩)
  | unlisted | listingElapsed =>
      exact .inr (.inr ⟨fun _ => rfl, fun _ => rfl, by rintro program ⟨⟩⟩)
  | _ => exact .inr (.inr ⟨fun _ => rfl, by simp [OpenPc.phase], by rintro program ⟨⟩⟩)

/-! ## What a record says about the retries -/

/-- An entry that fails no owner and rules out no endpoint. -/
def OpenEntry.Quiet : OpenEntry → Prop
  | .unconnected _ => False
  | .ended _ error => error ≠ .runtimeAtCapacity ∧ error ≠ .remoteUnavailable
  | _ => True

theorem failedLive_quiet {entry : OpenEntry} (quiet : entry.Quiet) :
    failedLive (entry :: journal) = failedLive journal := by
  cases entry with
  | unconnected target => exact quiet.elim
  | ended target error =>
      obtain ⟨endpoint, owner⟩ := target
      cases owner with
      | none => rfl
      | some identity =>
          cases error with
          | remoteUnavailable => exact absurd rfl quiet.2
          | _ => rfl
  | _ => rfl

theorem ruledOut_quiet {entry : OpenEntry} (quiet : entry.Quiet)
    (ruledOut : RuledOut endpoint (entry :: journal)) : RuledOut endpoint journal := by
  have tail : ∀ other, other ∈ entry :: journal → ¬ other.Quiet → other ∈ journal := by
    intro other member loud
    rcases List.mem_cons.mp member with rfl | earlier
    · exact absurd quiet loud
    · exact earlier
  rcases ruledOut with unconnected | full | lost
  · exact .inl (tail _ unconnected id)
  · exact .inr (.inl (tail _ full fun quiet => quiet.1 rfl))
  · exact .inr (.inr (tail _ lost fun quiet => quiet.2 rfl))

/-- The record agrees with what the retry loop carries on. -/
structure Recalls (journal : List OpenEntry) (call : OpenCall) : Prop where
  failedLive : failedLive journal = call.failedLiveOwner
  ruledOut : ∀ endpoint, RuledOut endpoint journal → endpoint ∈ call.excluded

theorem Recalls.of_data (recalls : Recalls journal call) (excluded : next.excluded = call.excluded)
    (failed : next.failedLiveOwner = call.failedLiveOwner) : Recalls journal next := by
  refine ⟨recalls.failedLive.trans failed.symm, ?_⟩
  rw [excluded]
  exact recalls.ruledOut

theorem Recalls.cons (recalls : Recalls journal call) {entry : OpenEntry} (quiet : entry.Quiet) :
    Recalls (entry :: journal) call :=
  ⟨(failedLive_quiet quiet).trans recalls.failedLive,
    fun endpoint ruledOut => recalls.ruledOut endpoint (ruledOut_quiet quiet ruledOut)⟩

theorem Recalls.append (recalls : Recalls journal call)
    (quiet : ∀ entry ∈ entries, entry.Quiet) : Recalls (entries ++ journal) call := by
  induction entries with
  | nil => exact recalls
  | cons entry entries ih =>
      exact (ih fun other member => quiet other (.tail _ member)).cons
        (quiet entry List.mem_cons_self)

theorem forall_rollback {Property : OpenEntry → Prop}
    (failed : ∀ endpoint, Property (.placementFailed endpoint)) :
    ∀ entry ∈ target.rollback, Property entry := by
  intro entry member
  unfold Target.rollback at member
  split at member
  · obtain rfl := List.mem_singleton.mp member
    exact failed target.endpoint
  · cases member

/-- What a step adds that gives an attempt up. -/
theorem forall_given_up {Property : OpenEntry → Prop} {last : OpenEntry}
    (failed : ∀ endpoint, Property (.placementFailed endpoint)) (holds : Property last) :
    ∀ entry ∈ target.rollback ++ [last], Property entry := by
  intro entry member
  rcases List.mem_append.mp member with back | final
  · exact forall_rollback failed entry back
  · exact List.mem_singleton.mp final ▸ holds

theorem OpenEntry.quiet_of_isAnswer {entry : OpenEntry} (answer : entry.isAnswer = true) :
    entry.Quiet := by
  cases entry with
  | answered | directory => trivial
  | _ => cases answer

/-- What a call remembers was known before its last answers. -/
theorem Recalls.before (recalls : Recalls (entries ++ journal) call)
    (quiet : ∀ entry ∈ entries, entry.Quiet) : Recalls journal call := by
  induction entries with
  | nil => exact recalls
  | cons entry entries ih =>
      have first := quiet entry List.mem_cons_self
      refine ih ⟨(failedLive_quiet first).symm.trans recalls.failedLive, fun endpoint ruledOut => ?_⟩
        fun other member => quiet other (.tail _ member)
      refine recalls.ruledOut endpoint ?_
      rcases ruledOut with unconnected | full | lost
      · exact .inl (.tail _ unconnected)
      · exact .inr (.inl (.tail _ full))
      · exact .inr (.inr (.tail _ lost))

/-! ## What the answers of an iteration show -/

theorem Shows.quiet {resolution : OwnerResolution} (shows : Shows entries resolution) :
    ∀ entry ∈ entries, entry.Quiet := by
  cases shows with
  | absent | released => exact List.forall_mem_singleton.mpr trivial
  | gone | live =>
      exact List.forall_mem_cons.mpr ⟨trivial, List.forall_mem_singleton.mpr trivial⟩

/-- What `resolve_owner` asks once it has read an owner. -/
def askDirectory (owner : ActorOwner) : OwnerProgram :=
  .call (.readNode owner.nodeId) fun
    | .ok node => .ret (judgeOwner owner node)
    | _ => .ret (.error .directoryUnavailable)

/-- What is left of `resolve_owner` after the answers at the head of a record. -/
inductive Asking : List OpenEntry → OwnerProgram → Prop where
  | first (journal : List OpenEntry) : Asking journal resolveOwner
  | second {current : VersionedActorOwnerRecord} {owner : ActorOwner} (journal : List OpenEntry)
      (names : current.record.owner = some owner) :
      Asking (.answered .readActorOwner (.owner (.ok (some current))) :: journal)
        (askDirectory owner)

theorem shows_of_judgeOwner {current : VersionedActorOwnerRecord} {owner : ActorOwner}
    {found : Option NodeRecord} {resolution : OwnerResolution}
    (names : current.record.owner = some owner) (judged : judgeOwner owner found = .ok resolution) :
    Shows [.answered (.readNode owner.nodeId) (.node (.ok found)),
      .answered .readActorOwner (.owner (.ok (some current)))] resolution := by
  cases found with
  | none =>
      cases judged
      exact .gone names (by rintro node ⟨⟩)
  | some node =>
      simp only [judgeOwner] at judged
      split at judged
      · rename_i other
        cases judged
        exact .gone names fun _ same => Option.some.inj same ▸ other
      · rename_i same
        split at judged
        · cases judged
        · rename_i usable
          cases judged
          obtain ⟨speaks, named⟩ := not_or.mp usable
          exact .live names (not_not.mp same) (not_not.mp speaks) (Bool.eq_false_iff.mpr named)

/-- An answer ends `resolve_owner` with what the answers show, or leaves the directory
to be asked. -/
theorem Asking.resume {program onward : OwnerProgram} {reply : RouterReply}
    (asking : Asking journal program) (resumed : program.resume? reply = some onward)
    (state : Journaled) :
    (∃ result, onward = .ret result ∧ ∀ resolution, result = .ok resolution →
      ∃ answers earlier, Shows answers resolution ∧
        state.heard (.resolving program) (.reply reply) ++ journal = answers ++ earlier) ∨
    (Asking (state.heard (.resolving program) (.reply reply) ++ journal) onward ∧
      ∃ request resume, onward = .call request resume) := by
  cases asking with
  | first =>
      cases reply with
      | owner answer =>
          cases resumed
          cases answer with
          | elapsed | failed error => exact .inl ⟨_, rfl, by rintro resolution ⟨⟩⟩
          | ok record =>
              cases record with
              | none => exact .inl ⟨_, rfl, by rintro resolution ⟨⟩; exact ⟨_, journal, .absent, rfl⟩⟩
              | some current =>
                  cases names : current.record.owner with
                  | none =>
                      refine .inl ⟨.ok .unowned, by simp only [names], ?_⟩
                      rintro resolution ⟨⟩
                      exact ⟨_, journal, .released names, rfl⟩
                  | some owner =>
                      simp only [names]
                      exact .inr ⟨.second journal names, _, _, rfl⟩
      | _ => cases resumed
  | @second current owner earlier names =>
      cases reply with
      | node answer =>
          cases resumed
          cases answer with
          | elapsed | failed error => exact .inl ⟨_, rfl, by rintro resolution ⟨⟩⟩
          | ok found =>
              refine .inl ⟨_, rfl, fun resolution judged => ?_⟩
              exact ⟨_, earlier, shows_of_judgeOwner names judged, rfl⟩
      | _ => cases resumed

/-- A listed candidate is a Node of the directory that may host an actor. -/
theorem mayHost_of_listed {nodes : List NodeRecord}
    (listed : endpoint ∈ (placementCandidates nodes).map PlacementCandidate.endpoint) :
    ∃ node ∈ nodes, MayHost node ∧ node.advertisedEndpoint = endpoint := by
  obtain ⟨candidate, member, rfl⟩ := List.mem_map.mp listed
  obtain ⟨node, kept, rfl⟩ := List.mem_map.mp member
  obtain ⟨present, fits⟩ := List.mem_filter.mp kept
  simp only [Bool.and_eq_true, beq_iff_eq, Bool.not_eq_true', decide_eq_true_eq] at fits
  obtain ⟨⟨⟨⟨speaks, named⟩, relaxed⟩, staying⟩, spare⟩ := fits
  exact ⟨node, present, ⟨speaks, named, relaxed, staying, spare⟩, rfl⟩

/-- What a call remembers at a phase of its iteration. -/
def AtPhase (config : ClientConfig) (journal : List OpenEntry) (call : OpenCall) : Phase → Prop
  | .resolving | .awaiting _ | .cleaning _ _ => Recalls journal call
  | .listing => Recalls journal call ∧ ∃ answers earlier, Shows answers .unowned ∧
      journal = .resolved (.ok .unowned) :: (answers ++ earlier)
  | .acquiring target => Recalls journal call ∧ Legitimate journal target.endpoint
  | .trying target =>
      Recalls journal call ∧ Legitimate journal target.endpoint ∧
        call.attempts < config.maxOpenAttempts
  | _ => True

/-- The record of a call fits the call. -/
structure Recorded (config : ClientConfig) (journal : List OpenEntry) (call : OpenCall) : Prop where
  attempts : sends journal = call.attempts
  within : call.attempts ≤ config.maxOpenAttempts
  legitimate : ∀ later connection endpoint earlier,
    journal = later ++ .sent connection endpoint :: earlier → Legitimate earlier endpoint
  phase : AtPhase config journal call call.pc.phase
  asking : ∀ program, call.pc = .resolving program → Asking journal program

/-- An entry that is no `SessionOpen`. -/
def OpenEntry.isSent : OpenEntry → Bool
  | .sent _ _ => true
  | _ => false

theorem sends_append (unsent : ∀ entry ∈ entries, entry.isSent = false) :
    sends (entries ++ journal) = sends journal := by
  induction entries with
  | nil => rfl
  | cons entry entries ih =>
      have first := unsent entry List.mem_cons_self
      rw [← ih fun other member => unsent other (.tail _ member)]
      cases entry with
      | sent connection endpoint => cases first
      | _ => rfl

/-- Entries that are no `SessionOpen` do not change which were sent and after what. -/
theorem split_append (unsent : ∀ entry ∈ entries, entry.isSent = false)
    {later : List OpenEntry} {connection : Nat}
    (split : entries ++ journal = later ++ .sent connection endpoint :: earlier) :
    ∃ rest, later = entries ++ rest ∧ journal = rest ++ .sent connection endpoint :: earlier := by
  induction entries generalizing later with
  | nil => exact ⟨later, rfl, split⟩
  | cons entry entries ih =>
      cases later with
      | nil =>
          cases split
          cases unsent _ List.mem_cons_self
      | cons first later =>
          obtain ⟨rfl, tail⟩ := List.cons.inj split
          obtain ⟨rest, rfl, same⟩ := ih (fun other member => unsent other (.tail _ member)) tail
          exact ⟨rest, rfl, same⟩

/-- A move between phases sends nothing. -/
theorem PhaseMove.sendsNothing {phase onward : Phase}
    (move : PhaseMove config client call event phase onward entries) :
    ∀ entry ∈ entries, entry.isSent = false := by
  cases move with
  | gaveUp => exact forall_rollback fun _ => rfl
  | lost | repeats => exact forall_given_up (fun _ => rfl) rfl
  | closed | live | failedAgain | unresolved | unowned | selected | unselected =>
      exact List.forall_mem_singleton.mpr rfl
  | _ => exact List.forall_mem_nil _

theorem AtPhase.of_data {phase : Phase} (here : AtPhase config journal call phase)
    (same : SameData call next) : AtPhase config journal next phase := by
  have recalls : Recalls journal call → Recalls journal next := fun recalls =>
    recalls.of_data same.excluded same.failedLiveOwner
  cases phase with
  | resolving | awaiting | cleaning => exact recalls here
  | listing | acquiring => exact ⟨recalls here.1, here.2⟩
  | trying target => exact ⟨recalls here.1, here.2.1, same.attempts ▸ here.2.2⟩
  | _ => trivial

/-- A move between phases keeps what the call remembers. -/
theorem PhaseMove.atPhase {phase onward : Phase}
    (move : PhaseMove config client call event phase onward entries)
    (unheard : phase = .resolving ∨ phase = .listing → entries = [])
    (here : AtPhase config journal call phase) :
    AtPhase config (entries ++ journal) call onward := by
  cases move with
  | stays => exact here
  | closed connection => exact Recalls.cons here trivial
  | live | unowned => cases unheard (.inl rfl)
  | selected => cases unheard (.inr rfl)
  | attempts left => exact ⟨here.1, here.2, left⟩
  | unsent => exact here.1
  | answered => exact here
  | repeats left =>
      exact Recalls.append here (forall_given_up (fun _ => trivial)
        ⟨by rintro ⟨⟩, by rintro ⟨⟩⟩)
  | _ => trivial

/-- The entry of an attempt that is given up and may be retried elsewhere. -/
def Fails (target : Target) (entry : OpenEntry) : Prop :=
  entry = .unconnected target ∨ entry = .ended target .remoteUnavailable ∨
    (entry = .ended target .runtimeAtCapacity ∧ target.isPlacement = true)

theorem ruledOut_failed {entry : OpenEntry} (fails : Fails target entry)
    (ruledOut : RuledOut endpoint (entry :: journal)) :
    target = ⟨endpoint, none⟩ ∨ RuledOut endpoint journal := by
  rcases ruledOut with unconnected | full | lost
  · rcases List.mem_cons.mp unconnected with same | earlier
    · rcases fails with rfl | rfl | ⟨rfl, -⟩ <;> cases same
      exact .inl rfl
    · exact .inr (.inl earlier)
  · rcases List.mem_cons.mp full with same | earlier
    · rcases fails with rfl | rfl | ⟨rfl, -⟩ <;> cases same
      exact .inl rfl
    · exact .inr (.inr (.inl earlier))
  · rcases List.mem_cons.mp lost with same | earlier
    · rcases fails with rfl | rfl | ⟨rfl, -⟩ <;> cases same
      exact .inl rfl
    · exact .inr (.inr (.inr earlier))

/-- A failed attempt is recorded as what the call goes on with. -/
theorem recalls_unacquired {entry : OpenEntry} (recalls : Recalls journal call)
    (fails : Fails target entry) :
    Recalls ((target.rollback ++ [entry]) ++ journal) (call.unacquired target) := by
  rw [List.append_assoc]
  refine Recalls.append ⟨?_, fun other ruledOut => ?_⟩ (forall_rollback fun _ => trivial)
  · obtain ⟨endpoint, _ | identity⟩ := target
    · refine Eq.trans ?_ recalls.failedLive
      rcases fails with rfl | rfl | ⟨rfl, -⟩ <;> rfl
    · rcases fails with rfl | rfl | ⟨-, placement⟩
      · rfl
      · rfl
      · cases placement
  · rcases ruledOut_failed fails ruledOut with rfl | earlier
    · exact List.mem_cons_self
    · have kept := recalls.ruledOut other earlier
      unfold OpenCall.unacquired
      split
      · exact .tail _ kept
      · exact kept

theorem unacquired_attempts (target : Target) :
    (call.unacquired target).attempts = call.attempts := by
  unfold OpenCall.unacquired
  split <;> rfl

namespace Recorded

/-- A step that sends nothing. -/
theorem unsent (recorded : Recorded config journal call)
    (unsent : ∀ entry ∈ entries, entry.isSent = false) (attempts : next.attempts = call.attempts)
    (phase : AtPhase config (entries ++ journal) next next.pc.phase)
    (asking : ∀ program, next.pc = .resolving program → Asking (entries ++ journal) program) :
    Recorded config (entries ++ journal) next where
  attempts := (sends_append unsent).trans (recorded.attempts.trans attempts.symm)
  within := by
    rw [attempts]
    exact recorded.within
  legitimate later connection endpoint earlier split := by
    obtain ⟨rest, -, old⟩ := split_append unsent split
    exact recorded.legitimate rest connection endpoint earlier old
  phase := phase
  asking := asking

/-- A call that goes on after a failed attempt. -/
theorem unacquired (recorded : Recorded config journal call) {entry : OpenEntry}
    (fails : Fails target entry) (recalls : Recalls journal call) :
    Recorded config ((target.rollback ++ [entry]) ++ journal) (call.unacquired target) := by
  refine recorded.unsent (forall_given_up (fun _ => rfl) ?_) (unacquired_attempts target) ?_ ?_
  · rcases fails with rfl | rfl | ⟨rfl, -⟩ <;> rfl
  · rw [ClientInner.unacquired_pc]
    exact recalls_unacquired recalls fails
  · rw [ClientInner.unacquired_pc]
    rintro program ⟨⟩
    exact .first _

/-- A `SessionOpen` is sent to the target of its iteration. -/
theorem sent (recorded : Recorded config journal call) {connection : Nat}
    (attempts : next.attempts = call.attempts + 1) (left : call.attempts < config.maxOpenAttempts)
    (legitimate : Legitimate journal endpoint)
    (phase : AtPhase config (.sent connection endpoint :: journal) next next.pc.phase)
    (awaits : ∀ program, next.pc ≠ .resolving program) :
    Recorded config (.sent connection endpoint :: journal) next where
  attempts := by
    rw [attempts, ← recorded.attempts]
    rfl
  within := by
    rw [attempts]
    exact left
  legitimate later other there earlier split := by
    cases later with
    | nil =>
        cases split
        exact legitimate
    | cons first later =>
        exact recorded.legitimate later other there earlier (List.cons.inj split).2
  phase := phase
  asking program there := absurd there (awaits program)

/-- An answer about the owner is noted with what it resolves. -/
theorem answered (recorded : Recorded config journal call) {program onward : OwnerProgram}
    {reply : RouterReply} (here : call.pc = .resolving program)
    (resumed : program.resume? reply = some onward) (state : Journaled) :
    Recorded config (notedResolution (some onward) ++
      (state.heard (.resolving program) (.reply reply) ++ journal)) (call.resolved onward) := by
  obtain ⟨answers, -⟩ := heard_cases state (.resolving program) (.reply reply)
  have asked := (recorded.asking program here).resume resumed state
  have recalls : Recalls (state.heard (.resolving program) (.reply reply) ++ journal) call := by
    have phase := recorded.phase
    rw [here] at phase
    exact Recalls.append phase fun entry member =>
      OpenEntry.quiet_of_isAnswer (answers entry member)
  generalize state.heard (.resolving program) (.reply reply) = heard at answers asked recalls ⊢
  have unsent : ∀ entry ∈ notedResolution (some onward) ++ heard, entry.isSent = false := by
    intro entry member
    rcases List.mem_append.mp member with noted | heard
    · cases onward with
      | ret result => exact List.mem_singleton.mp noted ▸ rfl
      | call request resume => cases noted
    · have answer := answers entry heard
      cases entry with
      | sent => cases answer
      | _ => rfl
  have goes : ∀ pc : OpenPc,
      AtPhase config (notedResolution (some onward) ++ (heard ++ journal)) (call.goto pc) pc.phase →
      (∀ program, pc = .resolving program →
        Asking (notedResolution (some onward) ++ (heard ++ journal)) program) →
      Recorded config (notedResolution (some onward) ++ (heard ++ journal)) (call.goto pc) := by
    intro pc phase asking
    rw [← List.append_assoc] at phase asking ⊢
    exact recorded.unsent unsent rfl phase asking
  rcases asked with ⟨result, rfl, shows⟩ | ⟨asking, request, resume, rfl⟩
  · rcases result with error | ⟨endpoint, nodeId, sessionId⟩ | _
    · exact goes _ trivial (by rintro program ⟨⟩)
    · obtain ⟨answers, earlier, shows, split⟩ := shows _ rfl
      rw [OpenCall.resolved]
      split
      · exact goes _ trivial (by rintro program ⟨⟩)
      · rename_i unfailed
        have known : Recalls (.resolved (.ok (.live endpoint nodeId sessionId)) ::
            (heard ++ journal)) call := recalls.cons trivial
        refine goes _ ⟨known.of_data rfl rfl, ?_⟩ (by rintro program ⟨⟩)
        rw [split] at recalls ⊢
        refine .live earlier shows fun failed => unfailed ?_
        exact (recalls.before shows.quiet).failedLive.symm.trans failed
    · obtain ⟨answers, earlier, shows, split⟩ := shows _ rfl
      have known : Recalls (.resolved (.ok .unowned) :: (heard ++ journal)) call :=
        recalls.cons trivial
      refine goes _ ⟨known.of_data rfl rfl, answers, earlier, shows, ?_⟩ (by rintro program ⟨⟩)
      rw [split]
      rfl
  · refine goes _ (recalls.of_data rfl rfl) ?_
    rintro program ⟨⟩
    exact asking

/-- A list of Node records is noted with the candidate selected from it. -/
theorem listed (recorded : Recorded config journal call) (here : call.pc = .listing)
    (nodes : List NodeRecord) (ordered : List String) :
    let selected := selectPlacementCandidate (placementCandidates nodes) call.excluded ordered
    Recorded config ([.listed (placementCandidates nodes) selected] ++
      ([.directory nodes] ++ journal)) (call.selected selected) := by
  intro selected
  have phase := recorded.phase
  rw [here] at phase
  obtain ⟨recalls, answers, earlier, shows, rfl⟩ := phase
  have onward : ∀ pc : OpenPc, (∀ program, pc ≠ .resolving program) →
      AtPhase config ([.listed (placementCandidates nodes) selected] ++ ([.directory nodes] ++
        .resolved (.ok .unowned) :: (answers ++ earlier))) (call.goto pc) pc.phase →
      Recorded config ([.listed (placementCandidates nodes) selected] ++ ([.directory nodes] ++
        .resolved (.ok .unowned) :: (answers ++ earlier))) (call.goto pc) := by
    intro pc apart phase
    rw [← List.append_assoc] at phase ⊢
    exact recorded.unsent (List.forall_mem_cons.mpr ⟨rfl, List.forall_mem_singleton.mpr rfl⟩) rfl phase
      fun program there => absurd there (apart program)
  cases chosen : selected with
  | error error =>
      rw [chosen] at onward
      exact onward _ (by rintro program ⟨⟩) trivial
  | ok endpoint =>
      rw [chosen] at onward
      obtain ⟨listed, untried⟩ := ClientInner.selected_of_ok chosen
      obtain ⟨node, present, hosts, rfl⟩ := mayHost_of_listed listed
      have known : Recalls (.listed (placementCandidates nodes) (.ok node.advertisedEndpoint) ::
          .directory nodes :: .resolved (.ok .unowned) :: (answers ++ earlier)) call := by
        have heard : Recalls (.directory nodes :: .resolved (.ok .unowned) :: (answers ++ earlier))
            call := recalls.cons trivial
        exact heard.cons trivial
      refine onward (.pooling ⟨node.advertisedEndpoint, none⟩) (by rintro program ⟨⟩)
        ⟨known.of_data rfl rfl, .placed earlier shows present hosts fun ruledOut => untried ?_⟩
      have resolved : Recalls ([.resolved (.ok .unowned)] ++ (answers ++ earlier)) call := recalls
      have before : Recalls (answers ++ earlier) call :=
        resolved.before (List.forall_mem_singleton.mpr trivial)
      exact (before.before shows.quiet).ruledOut _ ruledOut

/-- Every move of a call that hears nothing keeps its record. -/
theorem move {session : SessionId} (recorded : Recorded config journal call)
    (unheard : Unheard client session call next event)
    (leads : ∀ target connection ticket, call.pc = .sending target connection ticket →
      client.LeadsTo connection target.endpoint)
    (move : CallMove config client call next event (client.noted session call call.pc event)) :
    Recorded config (client.noted session call call.pc event ++ journal) next := by
  have phase := recorded.phase
  have unnoted := unheard.unnoted
  have asking : ∀ program, next.pc = .resolving program →
      Asking (client.noted session call call.pc event ++ journal) program := by
    intro program there
    rcases unheard.asks program there with rfl | same
    · exact .first _
    · rw [unnoted (.inl (by rw [same]; rfl))]
      exact recorded.asking program same
  generalize client.noted session call call.pc event = entries at move unnoted asking ⊢
  cases move with
  | kept same move =>
      exact recorded.unsent move.sendsNothing same.attempts
        ((move.atPhase unnoted phase).of_data same) asking
  | sent target connection ticket found here there present attempts excluded failedLiveOwner noted =>
      rw [here] at phase
      obtain ⟨recalls, legitimate, left⟩ := phase
      obtain ⟨binding, bound, endpoint⟩ := leads target connection ticket here
      have same : found.endpoint = target.endpoint := by
        rw [ClientInner.bindings, present, Option.map_some, Option.some.injEq] at bound
        rw [← endpoint, ← bound]
        rfl
      rw [noted, same]
      refine recorded.sent attempts left legitimate ?_ ?_
      · rw [there]
        exact Recalls.of_data (recalls.cons trivial) excluded failedLiveOwner
      · rw [there]
        rintro program ⟨⟩
  | unacquired target here onward noted =>
      rw [here] at phase
      rw [noted, onward]
      exact recorded.unacquired (.inl rfl) phase.1
  | retried target error here retries left onward noted =>
      rw [here] at phase
      rw [noted, onward]
      refine recorded.unacquired ?_ phase
      rcases retries with rfl | ⟨rfl, placement⟩
      · exact .inr (.inl rfl)
      · exact .inr (.inr ⟨rfl, placement⟩)

theorem reachable {guard : Journaled → ClientEvent → Prop} {state : Journaled}
    (reach : (journaledSystem config).ReachableWhile guard state) :
    (∀ session call, state.client.calls session = some call →
      Recorded config (state.journal session) call) ∧
    ∀ session, state.client.calls session = none → state.journal session = [] := by
  refine calls_of_moves (Recorded config) ?_ ?_ reach
  · intro address
    exact ⟨rfl, Nat.zero_le _, by rintro later connection endpoint earlier split; simp at split,
      ⟨rfl, by simp [RuledOut]⟩, by rintro program ⟨⟩; exact .first _⟩
  · intro before middle session call next event earlier met found step effect recorded
    have leads : ∀ target connection ticket, call.pc = .sending target connection ticket →
        before.client.LeadsTo connection target.endpoint := fun target connection ticket here =>
      (PoolsOk.reachable (client_of_journaled earlier)).leadsTo found here
    rcases hearing_of_case step with ⟨program, reply, onward, here, rfl, resumed, rfl⟩ |
      ⟨here, candidates, ordered, source, rfl⟩ | unheard
    · rw [here]
      simp only [ClientInner.noted, resumed]
      exact recorded.answered here resumed before
    · rw [here]
      rcases source with ⟨nodes, rfl, rfl⟩ | ⟨rfl, kept⟩
      · exact recorded.listed here nodes ordered
      · have cached := cache_of_reachable earlier
        rw [kept] at cached
        obtain ⟨nodes, known, rfl⟩ := Option.map_eq_some_iff.mp cached.symm
        simp only [ClientInner.noted, Journaled.heard, kept, known, Option.toList_some, List.map]
        exact recorded.listed here nodes ordered
    · rw [unheard.silent before, List.nil_append]
      exact recorded.move unheard leads effect.move

end Recorded

/-! ## Sent opens -/

/-- One call of `open` sends at most `max_open_attempts` times, each time to the
live owner it has just resolved, which is not the one that failed, or to a
candidate it has just selected for an unowned address and that has not failed. -/
theorem open_targets_legitimate_servers {state : Journaled}
    (reach : (journaledSystem config).Reachable state) (session : SessionId) :
    sends (state.journal session) ≤ config.maxOpenAttempts ∧
      ∀ later connection endpoint earlier,
        state.journal session = later ++ .sent connection endpoint :: earlier →
          Legitimate earlier endpoint := by
  obtain ⟨known, unknown⟩ := Recorded.reachable reach
  cases found : state.client.calls session with
  | none =>
      rw [unknown session found]
      exact ⟨Nat.zero_le _, by rintro later connection endpoint earlier split; simp at split⟩
  | some call =>
      have recorded := known session call found
      exact ⟨recorded.attempts.trans_le recorded.within, recorded.legitimate⟩

/-- At most two attempts and two connections for each endpoint. -/
def storefront : ClientConfig := ⟨2, 2, by decide, by decide⟩

def shop (nodeId endpoint : String) : NodeRecord where
  nodeId := nodeId
  sessionId := ⟨nodeId⟩
  advertisedEndpoint := endpoint
  protocolVersion := transportProtocolVersion
  leaseGeneration := 1
  sampledAtUnixMs := 0
  activeActorCount := 0
  maxActorCount := 4
  pressured := false
  draining := false

/-- One iteration for an unowned address, up to the pool of the selected candidate. -/
def placed (nodes : List NodeRecord) (ordered : List String) : List ClientEvent :=
  [.call ⟨7⟩ (.reply (.owner (.ok none))), .call ⟨7⟩ (.nodes nodes ordered)] ++
    .replicate 3 (.call ⟨7⟩ .advance)

/-- The acknowledgement of an attempt arrives and completes its pending open. -/
def acknowledged (connection ticket : Nat) : List ClientEvent :=
  .loop connection (.receive ⟨some ticket, some ⟨7⟩, some (.sessionOpenedAck (some .ok))⟩) ::
    .replicate 2 (.loop connection .advance)

/-- The first candidate cannot be reached and the second one is sent the
`SessionOpen`. -/
def secondCandidate : List ClientEvent :=
  .begin ⟨7⟩ cartAddress :: placed [shop "node-a" "host-a", shop "node-b" "host-b"]
    ["host-a", "host-b"] ++ [.call ⟨7⟩ .refused] ++
    placed [shop "node-a" "host-a", shop "node-b" "host-b"] ["host-a", "host-b"] ++
    [.call ⟨7⟩ .connected] ++ .replicate 6 (.call ⟨7⟩ .advance)

theorem second_candidate_is_legitimate :
    ∃ state earlier, (journaledSystem storefront).Reachable state ∧
      state.journal ⟨7⟩ = .sent 1 "host-b" :: earlier ∧ sends (state.journal ⟨7⟩) ≤ 2 ∧
      Legitimate earlier "host-b" := by
  have reach := @reachable_of_run? _ _ (journaledSystem storefront) .fresh _ secondCandidate rfl rfl
  obtain ⟨few, legitimate⟩ := open_targets_legitimate_servers reach ⟨7⟩
  exact ⟨_, _, reach, rfl, few, legitimate [] 1 "host-b" _ rfl⟩

end Coactor.Client
