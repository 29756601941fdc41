import Coactor.Client.Iterations
import Coactor.Foundation.Fairness
import Mathlib.Data.List.GetD

/-!
# The retry loop ends

Within one iteration every step of a call but the passing of its deadline brings
the call closer to the end of the iteration.  As the iterations are bounded, a
call of `open` takes finitely many steps.
-/

namespace Coactor.Client

open Coactor.Coordination
open Coactor.Foundation
open Coactor.Foundation.Transition
open Coactor.Runtime

variable {config : ClientConfig} {client after : ClientInner} {session : SessionId}
  {call : OpenCall} {event : OpenEvent} {pc : OpenPc}

/-! ## How far an iteration is from its end -/

/-- The number of reads that `resolve_owner` can still make. -/
def readsLeft : OwnerProgram → Nat
  | .call .readActorOwner _ => 2
  | .call _ _ => 1
  | .ret _ => 0

/-- Every answer leaves fewer reads to make. -/
def Dwindles : OwnerProgram → Prop
  | .ret _ => True
  | .call request resume => ∀ answer,
      readsLeft (resume answer) < readsLeft (.call request resume) ∧ Dwindles (resume answer)

/-- The program points of an iteration in the order they are passed, the next
resolution last. -/
def OpenPc.rank : OpenPc → Nat × Nat
  | .listing => (27, 0)
  | .pooling _ => (26, 0)
  | .poolLock _ _ => (25, 0)
  | .retaining _ _ _ rest => (24, rest.length)
  | .connecting _ _ => (23, 0)
  | .choosing _ _ _ rest => (22, rest.length)
  | .binding _ _ _ => (21, 0)
  | .counting _ _ _ => (20, 0)
  | .spawning _ _ _ => (19, 0)
  | .acquired _ _ => (18, 0)
  | .checking _ _ _ => (17, 0)
  | .sending _ _ _ => (16, 0)
  | .awaiting _ _ _ => (15, 0)
  | .closeChecking _ _ _ => (14, 0)
  | .closeSending _ _ _ => (13, 0)
  | .unbinding _ _ _ => (12, 0)
  | .uncounting _ _ _ => (11, 0)
  | .retracting _ _ => (10, 0)
  | .resolving program => (9, readsLeft program)
  | .failing _ => (8, 0)
  | .unregistering _ => (7, 0)
  | .opened _ => (6, 0)
  | .dropUnregistering _ => (5, 0)
  | .dropUnbinding _ => (4, 0)
  | .dropUncounting _ => (3, 0)
  | .dropChecking _ => (2, 0)
  | .dropSending _ => (1, 0)
  | .failed _ | .abandoned | .dropped _ => (0, 0)

def Lower : Nat × Nat → Nat × Nat → Prop := Prod.Lex (· < ·) (· < ·)

/-- What is left of `resolve_owner` at a program point dwindles. -/
def OpenPc.Steady : OpenPc → Prop
  | .resolving program => Dwindles program
  | _ => True

theorem resolveOwner_dwindles : Dwindles resolveOwner := by
  have done : (0 : Nat) < 2 := by decide
  intro answer
  cases answer with
  | elapsed | failed error => exact ⟨done, trivial⟩
  | ok record =>
      cases record with
      | none => exact ⟨done, trivial⟩
      | some current =>
          obtain ⟨⟨owner, generation⟩, revision⟩ := current
          cases owner with
          | none => exact ⟨done, trivial⟩
          | some owner =>
              refine ⟨Nat.lt_succ_self 1, fun answer => ?_⟩
              cases answer <;> exact ⟨Nat.zero_lt_one, trivial⟩

/-- The deadline passes, an owner is resolved, or the iteration comes closer to
its end. -/
structure Descends (client after : ClientInner) (session : SessionId) (call next : OpenCall)
    (event : OpenEvent) : Prop where
  calls : after.calls session = some next
  steady : next.pc.Steady
  falls : (event = .expire ∧ next.pc = call.pc) ∨
    (∃ result, client.noted session call call.pc event = [.resolved result]) ∨
    Lower next.pc.rank call.pc.rank

namespace ClientInner

theorem descends {middle : ClientInner} {next : OpenCall} (steady : next.pc.Steady)
    (lower : Lower next.pc.rank call.pc.rank) :
    ∃ onward, Descends client (middle.setCall session next) session call onward event :=
  ⟨next, Function.update_self _ _ _, steady, .inr (.inr lower)⟩

theorem unacquired_steady (target : Target) : (call.unacquired target).pc.Steady := by
  rw [unacquired_pc]
  exact resolveOwner_dwindles

theorem unacquired_rank (target : Target) : (call.unacquired target).pc.rank = (9, 2) := by
  rw [unacquired_pc]
  rfl

/-- A call goes on with the next iteration. -/
theorem descends_unacquired {middle : ClientInner} {target : Target}
    (higher : 9 < call.pc.rank.1) :
    ∃ next, Descends client (middle.setCall session (call.unacquired target)) session call next
      event := by
  refine descends (unacquired_steady target) ?_
  rw [unacquired_rank]
  exact .left _ _ higher

theorem descends_selected {middle : ClientInner} {selected : Except SendError String}
    (here : call.pc = .listing) :
    ∃ next, Descends client (middle.setCall session (call.selected selected)) session call next
      event := by
  cases selected with
  | ok endpoint => exact descends trivial (here ▸ .left _ _ (by decide))
  | error error => exact descends trivial (here ▸ .left _ _ (by decide))

theorem descends_retracted {middle : ClientInner} {target : Target} {error : SendError}
    (here : call.pc = .retracting target error) :
    ∃ next, Descends client (middle.setCall session
      (call.retracted config.maxOpenAttempts target error)) session call next event := by
  have fails : ∀ failure, ∃ next, Descends client
      (middle.setCall session (call.goto (.failing failure))) session call next event :=
    fun failure => descends trivial (here ▸ .left _ _ (by decide))
  have retries : ∀ data : OpenCall, ∃ next, Descends client (middle.setCall session data.retry)
      session call next event :=
    fun data => descends resolveOwner_dwindles (here ▸ .left _ _ (by decide))
  have again : ∃ next, Descends client (middle.setCall session (call.unacquired target)) session
      call next event := by
    refine descends_unacquired ?_
    rw [here]
    exact Nat.le_of_ble_eq_true rfl
  unfold OpenCall.retracted
  simp only
  split
  · split
    · exact fails _
    · exact retries _
  · split
    · split
      · exact fails _
      · exact retries _
    · exact fails _
  · split
    · exact fails _
    · exact again
  · exact fails _

theorem descends_resolved {program resumed : OwnerProgram} (here : call.pc = .resolving program)
    (noted : client.noted session call call.pc event = notedResolution (some resumed))
    (dwindles : readsLeft resumed < readsLeft program ∧ Dwindles resumed) :
    ∃ next, Descends client (client.setCall session (call.resolved resumed)) session call next
      event := by
  have resolves : ∀ (onward : OpenPc) result, onward.Steady → resumed = .ret result →
      ∃ next, Descends client (client.setCall session (call.goto onward)) session call next
        event := by
    rintro onward result steady rfl
    exact ⟨_, Function.update_self _ _ _, steady, .inr (.inl ⟨result, noted⟩)⟩
  rcases resumed with (error | ⟨endpoint, nodeId, sessionId⟩ | _) | ⟨request, resume⟩
  · exact resolves _ _ trivial rfl
  · unfold OpenCall.resolved
    simp only
    split <;> exact resolves _ _ trivial rfl
  · exact resolves _ _ trivial rfl
  · exact descends dwindles.2 (here ▸ .right _ dwindles.1)

/-- Every step of a call descends. -/
theorem openStep?_descends (here : call.pc = pc) (steady : pc.Steady)
    (stepped : client.openStep? config session call pc event = some after) :
    ∃ next, Descends client after session call next event := by
  obtain ⟨address, current, attempts, excluded, failedLiveOwner, expired⟩ := call
  obtain rfl : current = pc := here
  obtain ⟨middle, next, step, rfl⟩ := openStep?_cases stepped
  cases step with
  | answered timely resumed =>
      obtain ⟨request, resume, answer, rfl, -, rfl⟩ := RouterProgram.resume?_cases resumed
      exact descends_resolved rfl (by simp only [noted, resumed]) (steady answer)
  | listed | cached => exact descends_selected rfl
  | lockElapsed | refused | connectElapsed | choiceless =>
      exact descends_unacquired (Nat.le_of_ble_eq_true rfl)
  | sieved | weighed => exact descends trivial (.right _ (Nat.lt_succ_self _))
  | @unheld target connection next | @uncounted target connection next =>
      cases next <;> exact descends trivial (.left _ _ (by decide))
  | retracted => exact descends_retracted rfl
  | expires => exact ⟨_, Function.update_self _ _ _, steady, .inl ⟨rfl, rfl⟩⟩
  | abandoned awaiting =>
      refine descends trivial ?_
      cases current <;> first
        | exact absurd awaiting Bool.false_ne_true
        | exact .left _ _ (by simp)
  | _ => exact descends trivial (.left _ _ (by decide))

end ClientInner

/-! ## Whole runs -/

/-- What is left of `resolve_owner` dwindles in every reachable state. -/
theorem steady_of_reachable (reach : (clientSystem config).Reachable client) :
    ∀ session call, client.calls session = some call → call.pc.Steady := by
  refine invariant_of_step (fun client : ClientInner => ∀ session call,
    client.calls session = some call → call.pc.Steady) ?_ ?_ reach
  · rintro _ rfl session call ⟨⟩
  · intro before event after steady _ stepped session call found
    cases ClientInner.step?_effect stepped with
    | @begin begun address unknown calls cache receivers fades =>
        rw [calls] at found
        by_cases same : session = begun
        · rw [same, Function.update_self, Option.some.injEq] at found
          exact found ▸ resolveOwner_dwindles
        · rw [Function.update_of_ne same] at found
          exact steady session call found
    | @call called openEvent current next known effect =>
        by_cases same : session = called
        · have moved : before.openStep? config called current current.pc openEvent = some after := by
            obtain ⟨_, known', moved⟩ := Option.bind_eq_some_iff.mp stepped
            exact Option.some.inj (known'.symm.trans known) ▸ moved
          obtain ⟨onward, descends⟩ :=
            ClientInner.openStep?_descends rfl (steady called current known) moved
          rw [same, descends.calls, Option.some.injEq] at found
          exact found ▸ descends.steady
        · rw [effect.calls, Function.update_of_ne same] at found
          exact steady session call found
    | other outside calls cache receivers fades => exact steady session call (calls ▸ found)

/-- A step of a call, other than the passing of its deadline. -/
def Acts (session : SessionId) (event : ClientEvent) : Prop :=
  ∃ openEvent, event = .call session openEvent ∧ openEvent ≠ .expire

/-- The iterations left to a call and its place in the current one. -/
def progress (bound : Nat) (journal : List OpenEntry) : Option OpenCall → Nat × (Nat × Nat)
  | none => (bound + 1, (0, 0))
  | some call => (bound - iterations journal, call.pc.rank)

def Closer : Nat × (Nat × Nat) → Nat × (Nat × Nat) → Prop := Prod.Lex (· < ·) Lower

theorem closer_wellFounded : WellFounded Closer :=
  (Prod.lex Nat.lt_wfRel (Prod.lex Nat.lt_wfRel Nat.lt_wfRel)).wf

theorem iterations_mono (entries journal : List OpenEntry) :
    iterations journal ≤ iterations (entries ++ journal) := by
  induction entries with
  | nil => exact Nat.le_refl _
  | cons entry entries ih =>
      cases entry with
      | resolved result => exact Nat.le_succ_of_le ih
      | _ => exact ih

/-- The answers of the store are no progress. -/
theorem progress_heard {entries journal : List OpenEntry} {bound : Nat} {found : Option OpenCall}
    (answers : ∀ entry ∈ entries, entry.isAnswer = true) :
    progress bound (entries ++ journal) found = progress bound journal found := by
  have unresolved : ∀ entry ∈ entries, entry.isResolved = false := by
    intro entry member
    have answer := answers entry member
    cases entry with
    | resolved result => cases answer
    | _ => rfl
  cases found with
  | none => rfl
  | some call => rw [progress, progress, (unresolved_append unresolved).1]

theorem progress_of_descends {next : OpenCall} {journal : List OpenEntry} {bound : Nat}
    (descends : Descends client after session call next event)
    (bounded : iterations (client.noted session call call.pc event ++ journal) ≤ bound) :
    let later := progress bound (client.noted session call call.pc event ++ journal) (some next)
    let earlier := progress bound journal (some call)
    (later = earlier ∨ Closer later earlier) ∧
      (Acts session (.call session event) → Closer later earlier) := by
  have closer : (∃ result, client.noted session call call.pc event = [.resolved result]) ∨
      Lower next.pc.rank call.pc.rank →
      Closer (progress bound (client.noted session call call.pc event ++ journal) (some next))
        (progress bound journal (some call)) := by
    rintro (⟨result, noted⟩ | lower)
    · rw [noted] at bounded ⊢
      have more : iterations journal + 1 ≤ bound := bounded
      exact .left _ _ (Nat.sub_lt_sub_left more (Nat.lt_succ_self _))
    · have more := iterations_mono (client.noted session call call.pc event) journal
      rcases Nat.lt_or_eq_of_le more with grown | same
      · exact .left _ _ (Nat.sub_lt_sub_left (Nat.lt_of_lt_of_le grown bounded) grown)
      · unfold progress
        rw [← same]
        exact .right _ lower
  rcases descends.falls with ⟨rfl, same⟩ | falls
  · refine ⟨.inl ?_, ?_⟩
    · rw [ClientInner.noted_quiet (.inl rfl), progress, progress, same]
      rfl
    · rintro ⟨openEvent, ⟨⟩, moving⟩
      exact absurd rfl moving
  · exact ⟨.inr (closer falls), fun _ => closer falls⟩

/-- Every step of a recorded Client keeps the progress of a call or brings it
closer to its end, and every step of the call but the passing of its deadline
brings it closer. -/
theorem progress_of_step {state next : Journaled} {event : ClientEvent} {bound : Nat}
    (reach : (journaledSystem config).Reachable state)
    (stepped : (journaledSystem config).step? state event = some next)
    (bounded : iterations (next.journal session) ≤ bound) :
    let before := progress bound (state.journal session) (state.client.calls session)
    let after := progress bound (next.journal session) (next.client.calls session)
    (after = before ∨ Closer after before) ∧ (Acts session event → Closer after before) := by
  obtain ⟨client, moved, rfl⟩ := journaled_step stepped
  have rests : state.journalAfter event session = state.journal session →
      client.calls session = state.client.calls session → ¬ Acts session event →
      (progress bound (state.journalAfter event session) (client.calls session) =
          progress bound (state.journal session) (state.client.calls session) ∨
        Closer (progress bound (state.journalAfter event session) (client.calls session))
          (progress bound (state.journal session) (state.client.calls session))) ∧
      (Acts session event →
        Closer (progress bound (state.journalAfter event session) (client.calls session))
          (progress bound (state.journal session) (state.client.calls session))) := by
    intro journal calls idle
    rw [journal, calls]
    exact ⟨.inl rfl, fun acts => absurd acts idle⟩
  simp only [Journaled.record] at bounded ⊢
  cases ClientInner.step?_effect moved with
  | @begin begun address unknown calls cache receivers fades =>
      have idle : ¬ Acts session (.begin begun address) := by rintro ⟨openEvent, ⟨⟩, -⟩
      by_cases same : session = begun
      · have closer : Closer (progress bound (state.journal session) (client.calls session))
            (progress bound (state.journal session) (state.client.calls session)) := by
          rw [calls, same, Function.update_self, unknown]
          exact .left _ _ (Nat.lt_succ_of_le (Nat.sub_le _ _))
        exact ⟨.inr closer, fun acts => absurd acts idle⟩
      · exact rests rfl (by rw [calls, Function.update_of_ne same]) idle
  | @call called openEvent current onward found effect =>
      by_cases same : session = called
      · subst same
        have moved' : state.client.openStep? config session current current.pc openEvent =
            some client := by
          obtain ⟨_, known, moved'⟩ := Option.bind_eq_some_iff.mp moved
          exact Option.some.inj (known.symm.trans found) ▸ moved'
        have steady := steady_of_reachable (client_of_journaled reach) session current found
        obtain ⟨later, descends⟩ := ClientInner.openStep?_descends rfl steady moved'
        simp only [Journaled.journalAfter, found, Function.update_self, descends.calls] at bounded ⊢
        have silent : progress bound (state.heard current.pc openEvent ++ state.journal session)
            (some current) = progress bound (state.journal session) (some current) :=
          progress_heard (heard_cases state current.pc openEvent).1
        rw [← silent]
        exact progress_of_descends descends bounded
      · refine rests ?_ (by rw [effect.calls, Function.update_of_ne same]) ?_
        · simp only [Journaled.journalAfter, found, Function.update_of_ne same]
        · rintro ⟨openEvent, ⟨⟩, -⟩
          exact same rfl
  | other outside calls cache receivers fades =>
      refine rests (by rw [journalAfter_of_outside outside]) (by rw [calls]) ?_
      rintro ⟨openEvent, equal, -⟩
      exact outside session openEvent equal

/-! ## A call that is answered returns -/

namespace ClientInner

/-- A call of `open` is under way and can take a step that is neither the passing of its
deadline, nor the end of a wait at its deadline, nor the drop of its future. -/
def Goes (config : ClientConfig) (client : ClientInner) (session : SessionId) : Prop :=
  ∃ call event, client.calls session = some call ∧ call.pc.hasReturned = false ∧
    (client.openStep? config session call call.pc event).isSome = true ∧
    event ≠ .expire ∧ event ≠ .elapsed ∧ event ≠ .abandon

/-- A call of `open` waits for an acknowledgement that is still out, or for the lock of
a pool. -/
inductive Waits (client : ClientInner) (session : SessionId) : Prop where
  | acknowledgement {call : OpenCall} {target : Target} {connection ticket : Nat}
      (known : client.calls session = some call)
      (here : call.pc = .awaiting target connection ticket)
      (out : client.oneshots ticket = .waiting)
  | lock {call : OpenCall} {target : Target} {pool : Nat}
      (known : client.calls session = some call) (here : call.pc = .poolLock target pool)

/-- Whatever call of `open` there is for a Session has returned. -/
def Returned (client : ClientInner) (session : SessionId) : Prop :=
  ∀ call, client.calls session = some call → call.pc.hasReturned = true

end ClientInner

/-- A question of `resolve_owner` can be answered. -/
theorem Asking.answerable {journal : List OpenEntry} {program : OwnerProgram}
    (asking : Asking journal program) :
    ∃ reply, isElapsed reply = false ∧ (program.resume? reply).isSome = true := by
  cases asking with
  | first => exact ⟨.owner (.ok none), rfl, rfl⟩
  | second => exact ⟨.node (.ok none), rfl, rfl⟩

/-- A call of `open` that is under way goes on or waits. -/
theorem goes_or_waits {state : Journaled} (reach : (journaledSystem config).Reachable state)
    (known : state.client.calls session = some call) (working : call.pc.hasReturned = false) :
    state.client.Goes config session ∨ state.client.Waits session := by
  have pools := PoolsOk.reachable (client_of_journaled reach)
  have asking := ((Recorded.reachable reach).1 session call known).asking
  obtain ⟨address, pc, attempts, excluded, failedLiveOwner, expired⟩ := call
  have goes : ∀ event, (state.client.openStep? config session
      ⟨address, pc, attempts, excluded, failedLiveOwner, expired⟩ pc event).isSome = true →
      event ≠ .expire ∧ event ≠ .elapsed ∧ event ≠ .abandon →
      state.client.Goes config session ∨ state.client.Waits session :=
    fun event enabled other => .inl ⟨_, event, known, working, enabled, other⟩
  have advances : (state.client.openStep? config session
      ⟨address, pc, attempts, excluded, failedLiveOwner, expired⟩ pc .advance).isSome = true →
      state.client.Goes config session ∨ state.client.Waits session :=
    fun enabled => goes .advance enabled (by simp)
  cases pc with
  | resolving program =>
      obtain ⟨reply, timely, resumes⟩ := (asking program rfl).answerable
      refine goes (.reply reply) ?_ (by simp)
      simpa [ClientInner.openStep?, timely] using resumes
  | listing => exact goes .unlisted rfl (by simp)
  | poolLock target pool => exact .inr (.lock known rfl)
  | retaining target pool kept rest => cases rest <;> exact advances rfl
  | connecting target pool => exact goes .refused rfl (by simp)
  | choosing target pool best rest =>
      cases rest with
      | nil => cases best <;> exact advances rfl
      | cons connection rest => exact advances rfl
  | sending target connection ticket =>
      obtain ⟨binding, bound, -⟩ := pools.leadsTo known rfl
      obtain ⟨found, present, -⟩ := Option.map_eq_some_iff.mp bound
      exact advances (by simp [ClientInner.openStep?, present])
  | awaiting target connection ticket =>
      cases out : state.client.oneshots ticket with
      | waiting => exact .inr (.acknowledgement known rfl out)
      | sent result => cases result <;> exact advances (by simp [ClientInner.openStep?, out])
      | dropped => exact advances (by simp [ClientInner.openStep?, out])
  | binding target pool connection | acquired target connection
  | unbinding target connection next =>
      refine advances ?_
      simp only [ClientInner.openStep?]
      split <;> rfl
  | failed | abandoned | opened | dropUnregistering | dropUnbinding | dropUncounting | dropChecking
  | dropSending | dropped => cases working
  | _ => exact advances rfl

/-- A call stays where it is until it takes a step. -/
theorem call_kept {label : ClientEvent} (stepped : client.step? config label = some after)
    (idle : ¬ Acts session label) (known : client.calls session = some call) :
    ∃ later, after.calls session = some later ∧ later.pc = call.pc := by
  cases ClientInner.step?_effect stepped with
  | @begin begun address unknown calls cache receivers fades =>
      refine ⟨call, ?_, rfl⟩
      rw [calls, Function.update_of_ne, known]
      rintro rfl
      cases unknown.symm.trans known
  | @call called openEvent current next found effect =>
      by_cases same : session = called
      · subst same
        obtain rfl := Option.some.inj (found.symm.trans known)
        by_cases expires : openEvent = .expire
        · subst expires
          obtain ⟨middle, step, rfl⟩ := case_of_effect found stepped effect
          refine ⟨next, Function.update_self _ _ _, ?_⟩
          generalize here : current.pc = pc at step
          cases step
          exact here
        · exact absurd ⟨openEvent, rfl, expires⟩ idle
      · refine ⟨call, ?_, rfl⟩
        rw [effect.calls, Function.update_of_ne same, known]
  | other outside calls cache receivers fades => exact ⟨call, calls ▸ known, rfl⟩

/-- An acknowledgement that has come, or was given up, does not go out again. -/
theorem answered_of_step {label : ClientEvent} {ticket : Nat}
    (stepped : client.step? config label = some after)
    (answered : client.oneshots ticket ≠ .waiting) : after.oneshots ticket ≠ .waiting := by
  have updated : ∀ {other : Nat} {oneshot : Oneshot}, oneshot ≠ .waiting →
      Function.update client.oneshots other oneshot ticket ≠ .waiting := by
    intro other oneshot final
    by_cases same : ticket = other
    · rw [same, Function.update_self]
      exact final
    · rw [Function.update_of_ne same]
      exact answered
  have dropped : ∀ pending, client.dropSender pending ticket ≠ .waiting := by
    intro pending
    cases pending with
    | none => exact answered
    | some pending => exact updated (by simp)
  cases ClientInner.step?_moves stepped with
  | begin unknown running calls receivers begun same => exact same.oneshots ▸ answered
  | call found step =>
      cases step.move with
      | quiet same => exact same.oneshots ▸ answered
      | attempt target connection here left there traffic nextConnection pendingOpens oneshots
      | retract here there traffic nextConnection pendingOpens oneshots =>
          rw [oneshots]
          exact dropped _
      | connect here there traffic nextConnection pendingOpens oneshots
      | spawn here there connection queue unspawned traffic nextConnection pendingOpens oneshots
      | send connection own here there queue loop found traffic nextConnection pendingOpens oneshots
      | close connection queue loop same found traffic nextConnection pendingOpens oneshots =>
          exact oneshots ▸ answered
  | @loop _ _ connection _ _ step =>
      have move := step.move
      generalize connection.loop = loop at move
      cases move with
      | complete completes idle live there pendingOpens oneshots =>
          rw [oneshots]
          exact updated (by simp)
      | moves pendingOpens oneshots | push pendingOpens oneshots | take pending pendingOpens oneshots
      | lose pending pendingOpens oneshots | terminate pendingOpens oneshots =>
          exact oneshots ▸ answered
  | transmit found traffic same | hangUp traffic same | send traffic same
  | sending traffic silent same | act opened here found traffic sent same =>
      exact same.oneshots ▸ answered
  | recv found channels traffic same => exact same.oneshots ▸ answered
  | shutdown step => exact step.oneshots ▸ answered

/-! ## The retry loop -/

section Runs

variable {states : Nat → Journaled} {labels : Nat → ClientEvent} {start : Nat}

theorem reachable_of_isRun (run : (journaledSystem config).IsRun states labels) (time : Nat) :
    (journaledSystem config).Reachable (states time) :=
  reachableWhile_of_isRun run (fun _ => trivial) time

/-- A call that takes no step any more stays where it is. -/
theorem call_stays (run : (journaledSystem config).IsRun states labels)
    (silent : ∀ later, start ≤ later → ¬ Acts session (labels later))
    (known : (states start).client.calls session = some call) {time : Nat} (later : start ≤ time) :
    ∃ current, (states time).client.calls session = some current ∧ current.pc = call.pc := by
  induction time, later using Nat.le_induction with
  | base => exact ⟨call, known, rfl⟩
  | succ time later ih =>
      obtain ⟨current, there, same⟩ := ih
      obtain ⟨client, moved, after⟩ := journaled_step (run.steps time)
      obtain ⟨next, found, kept⟩ := call_kept moved (silent time later) there
      exact ⟨next, by rw [after]; exact found, kept.trans same⟩

theorem answered_stays (run : (journaledSystem config).IsRun states labels) {ticket : Nat}
    (answered : (states start).client.oneshots ticket ≠ .waiting) {time : Nat}
    (later : start ≤ time) : (states time).client.oneshots ticket ≠ .waiting := by
  induction time, later using Nat.le_induction with
  | base => exact answered
  | succ time later ih =>
      obtain ⟨client, moved, after⟩ := journaled_step (run.steps time)
      rw [after]
      exact answered_of_step moved ih

/-- A call that neither takes a step any more nor is passed over for ever, and waits for
nothing for ever, has returned. -/
theorem returned_of_silent (run : (journaledSystem config).IsRun states labels)
    (fair : WeaklyFair (fun time => (states time).client.Goes config session)
      fun time => Acts session (labels time))
    (answered : ∀ time, ∃ later, time ≤ later ∧ ¬ (states later).client.Waits session)
    (silent : ∀ later, start ≤ later → ¬ Acts session (labels later)) :
    (states start).client.Returned session := by
  intro call known
  by_contra working
  obtain ⟨settled, after, unwaiting⟩ := answered start
  have here : ∀ time, start ≤ time → ∃ current,
      (states time).client.calls session = some current ∧ current.pc = call.pc :=
    fun time later => call_stays run silent known later
  obtain ⟨blocked, later, -, stuck⟩ := fair.disabled silent settled
  obtain ⟨current, found, same⟩ := here blocked (Nat.le_trans after later)
  have waits := (goes_or_waits (reachable_of_isRun run blocked) found
    (by rw [same]; exact Bool.eq_false_iff.mpr working)).resolve_left stuck
  obtain ⟨settledCall, settledFound, settledSame⟩ := here settled after
  cases waits with
  | @acknowledgement waiting target connection ticket known' here' out =>
      obtain rfl := Option.some.inj (found.symm.trans known')
      have answered : (states settled).client.oneshots ticket ≠ .waiting := fun out =>
        unwaiting (.acknowledgement settledFound (settledSame.trans (same.symm.trans here')) out)
      exact answered_stays run answered later out
  | @lock waiting target pool known' here' =>
      obtain rfl := Option.some.inj (found.symm.trans known')
      exact unwaiting (.lock settledFound (settledSame.trans (same.symm.trans here')))

/-- Where finitely many endpoints are advertised and the live owner changes
finitely often, a call of `open` begins finitely many iterations, in a number
bounded in advance, and takes finitely many steps.  If it is not passed over for
ever and waits for ever neither for an acknowledgement nor for the lock of a pool,
it returns, whether or not its deadline passes. -/
theorem open_loop_ends (run : (journaledSystem config).IsRun states labels)
    (endpoints : Finset String)
    (advertised : ∀ time session nodes ordered, labels time = .call session (.nodes nodes ordered) →
      ∀ node ∈ nodes, node.advertisedEndpoint ∈ endpoints)
    (session : SessionId) (changes : Nat)
    (settles : ∀ time, liveChanges ((states time).journal session) ≤ changes) :
    (∀ time, iterations ((states time).journal session) ≤
      config.maxOpenAttempts + endpoints.card + changes + 2) ∧
    (∃ time, ∀ later, time ≤ later → ¬ Acts session (labels later)) ∧
    (WeaklyFair (fun time => (states time).client.Goes config session)
        (fun time => Acts session (labels time)) →
      (∀ time, ∃ later, time ≤ later ∧ ¬ (states later).client.Waits session) →
      ∃ time, ∀ later, time ≤ later → (states later).client.Returned session) := by
  have reach := @reachableWhile_of_isRun _ _ _ (Advertises endpoints) _ _ run advertised
  have bounded : ∀ time, iterations ((states time).journal session) ≤
      config.maxOpenAttempts + endpoints.card + changes + 2 := by
    intro time
    have spent := iterations_bounded (reach time) session
    have few := settles time
    omega
  let measure := fun time => progress (config.maxOpenAttempts + endpoints.card + changes + 2)
    ((states time).journal session) ((states time).client.calls session)
  have moves : ∀ time, (measure (time + 1) = measure time ∨
      Closer (measure (time + 1)) (measure time)) ∧
      (Acts session (labels time) → Closer (measure (time + 1)) (measure time)) := fun time =>
    progress_of_step (reachable_of_reachableWhile (reach time)) (run.steps time) (bounded (time + 1))
  obtain ⟨time, silent⟩ := @finitely_often _ _ closer_wellFounded measure _
    (fun time => (moves time).2) fun time => (moves time).1
  refine ⟨bounded, ⟨time, silent⟩, fun fair answered => ⟨time, fun later after => ?_⟩⟩
  exact returned_of_silent run fair answered fun moment follows =>
    silent moment (Nat.le_trans after follows)

end Runs

/-- Closing a connection that does not exist changes nothing. -/
theorem hangUp_nowhere {id : Nat} (absent : client.connections id = none) :
    (clientSystem config).step? client (.hangUp id) = some client := by
  have same : Function.update client.connections id none = client.connections := by
    rw [← absent, Function.update_eq_self]
  change some (client.modify id _) = some client
  rw [ClientInner.modify, absent, Option.map_none, same]

theorem hangUp_unrecorded {state : Journaled} {id : Nat}
    (absent : state.client.connections id = none) :
    (journaledSystem config).step? state (.hangUp id) = some state := by
  have still : state.client.step? config (.hangUp id) = some state.client :=
    @hangUp_nowhere config _ _ absent
  change (state.client.step? config (.hangUp id)).map (fun after => state.record after (.hangUp id)) =
    some state
  rw [still]
  rfl

/-- The second candidate acknowledges the `SessionOpen`, and the call returns. -/
def openedSecond : List ClientEvent :=
  secondCandidate ++ acknowledged 1 0 ++ [.call ⟨7⟩ .advance]

/-- The labels of `openedSecond`, after which nothing happens any more. -/
def thenQuiet (time : Nat) : ClientEvent := openedSecond.getD time (.hangUp 0)

def quietStates : Nat → Journaled := (journaledSystem storefront).follow thenQuiet .fresh

theorem thenQuiet_nodes {time : Nat} {session : SessionId} {nodes : List NodeRecord}
    {ordered : List String} (read : thenQuiet time = .call session (.nodes nodes ordered)) :
    nodes = [shop "node-a" "host-a", shop "node-b" "host-b"] := by
  have listed : ∀ label ∈ openedSecond, ∀ session nodes ordered,
      label = .call session (.nodes nodes ordered) →
        nodes = [shop "node-a" "host-a", shop "node-b" "host-b"] := by
    simp [openedSecond, secondCandidate, acknowledged, placed, List.replicate]
  rcases Nat.lt_or_ge time openedSecond.length with below | above
  · refine listed _ ?_ session nodes ordered read
    rw [thenQuiet, List.getD_eq_getElem _ _ below]
    exact List.getElem_mem below
  · rw [thenQuiet, List.getD_eq_default _ _ above] at read
    cases read

/-- The call returns the Session of its second iteration, and nothing happens any more. -/
theorem second_candidate_returns :
    (journaledSystem storefront).IsRun quietStates thenQuiet ∧
      iterations ((quietStates openedSecond.length).journal ⟨7⟩) = 2 ∧
      (∀ time, iterations ((quietStates time).journal ⟨7⟩) ≤ 2 + 2 + 0 + 2) ∧
      ∃ time, ∀ later, time ≤ later → (quietStates later).client.Returned ⟨7⟩ := by
  have finished : ∃ final, (journaledSystem storefront).run? .fresh openedSecond = some final ∧
      (journaledSystem storefront).step? final (.hangUp 0) = some final ∧
      final.client.Returned ⟨7⟩ ∧ iterations (final.journal ⟨7⟩) = 2 ∧
      liveChanges (final.journal ⟨7⟩) = 0 := by
    refine ⟨_, rfl, hangUp_unrecorded rfl, ?_, rfl, rfl⟩
    rintro call known
    cases known
    rfl
  obtain ⟨final, reached, still, returned, twice, unchanged⟩ := finished
  have run : (journaledSystem storefront).IsRun quietStates thenQuiet :=
    isRun_of_still rfl reached still
  have settled : ∀ time, openedSecond.length ≤ time → quietStates time = final := fun time above =>
    follow_of_still reached still above
  have early : ∀ time ≤ openedSecond.length,
      liveChanges ((quietStates time).journal ⟨7⟩) = 0 := by decide +kernel
  obtain ⟨bounded, -, returns⟩ := open_loop_ends run {"host-a", "host-b"} (by
    intro time session nodes ordered read node member
    rw [thenQuiet_nodes read] at member
    rcases List.mem_pair.mp member with rfl | rfl <;> decide) ⟨7⟩ 0 (by
    intro time
    rcases Nat.le_total time openedSecond.length with below | above
    · exact Nat.le_of_eq (early time below)
    · rw [settled time above]
      exact Nat.le_of_eq unchanged)
  refine ⟨run, by rw [settled _ (Nat.le_refl _)]; exact twice, bounded, returns ?_ ?_⟩
  · intro time always
    obtain ⟨call, -, known, working, -⟩ := always (max time openedSecond.length) (Nat.le_max_left _ _)
    rw [settled _ (Nat.le_max_right _ _)] at known
    rw [returned call known] at working
    cases working
  · intro time
    refine ⟨max time openedSecond.length, Nat.le_max_left _ _, ?_⟩
    rw [settled _ (Nat.le_max_right _ _)]
    rintro (⟨known, here, -⟩ | ⟨known, here⟩)
    · have ended := returned _ known
      rw [here] at ended
      cases ended
    · have ended := returned _ known
      rw [here] at ended
      cases ended

end Coactor.Client
