import Coactor.Client.Clearance

/-!
# Sessions of lost connections

A Session is bound to its connection from before its attempt begins until after
it is dropped.  So the receive loop of a lost connection finds it in what it
drains, and then fails its attempt or terminates it.  The result of an attempt
is final, so an attempt that has been failed never returns a Session.
-/

namespace Coactor.Client

open Coactor.Foundation
open Coactor.Foundation.Transition
open Coactor.Runtime

variable {config : ClientConfig} {client before after : ClientInner} {label : ClientEvent}
  {session : SessionId} {call next : OpenCall} {ticket : Nat}

/-! ## Results are final -/

/-- The receive loop of this connection is about to complete this attempt. -/
def ClientInner.Completes (client : ClientInner) (id ticket : Nat) : Prop :=
  ∃ traffic result, client.traffic id = some traffic ∧
    traffic.loop.completion? = some (ticket, result)

/-- Only one receive loop can complete an attempt, and none has done so yet. -/
structure Sole (client : ClientInner) : Prop where
  waiting : ∀ id ticket, client.Completes id ticket → client.oneshots ticket = .waiting
  alone : ∀ one two ticket, client.Completes one ticket → client.Completes two ticket → one = two

/-- A step of `open` leaves the channel of an attempt alone that it does not retract. -/
theorem OpenMove.oneshot_kept (move : OpenMove config before after session call next)
    (unpended : ∀ pending, before.pendingOpens session = some pending → pending.ticket ≠ ticket) :
    after.oneshots ticket = before.oneshots ticket := by
  have drops : before.dropSender (before.pendingOpens session) ticket = before.oneshots ticket := by
    cases present : before.pendingOpens session with
    | none => rfl
    | some pending => exact Function.update_of_ne (unpended pending present).symm _ _
  cases move with
  | quiet same => rw [same.oneshots]
  | connect here there traffic nextConnection pendingOpens oneshots
  | spawn here there connection queue unspawned traffic nextConnection pendingOpens oneshots
  | send connection own here there queue loop found traffic nextConnection pendingOpens oneshots
  | close connection queue loop same found traffic nextConnection pendingOpens oneshots =>
      rw [oneshots]
  | attempt target connection here left there traffic nextConnection pendingOpens oneshots
  | retract here there traffic nextConnection pendingOpens oneshots => rw [oneshots, drops]

/-- A step outside the receive loops leaves the channel of an attempt alone that it does
not retract. -/
theorem ClientMove.oneshot_kept (move : ClientMove config before after label)
    (apart : ∀ id event, label ≠ .loop id event)
    (unpended : ∀ session pending, before.pendingOpens session = some pending →
      pending.ticket ≠ ticket) : after.oneshots ticket = before.oneshots ticket := by
  cases move with
  | begin unknown running calls receivers begun same => rw [same.oneshots]
  | call found step => exact step.move.oneshot_kept (unpended _)
  | loop => exact absurd rfl (apart _ _)
  | transmit found traffic same | hangUp traffic same | send traffic same
  | sending traffic silent same | act opened here found traffic sent same => rw [same.oneshots]
  | recv found channels traffic same => rw [same.oneshots]
  | shutdown step => rw [step.oneshots]

/-- Outside the receive loops nothing comes to complete an attempt. -/
theorem ClientMove.completes (move : ClientMove config before after label)
    (apart : ∀ id event, label ≠ .loop id event) {id : Nat} (completes : after.Completes id ticket) :
    before.Completes id ticket := by
  obtain ⟨traffic, result, found, completion⟩ := completes
  rcases move.sameLoop apart found with (idle | idle) | ⟨old, present, same⟩
  · rw [idle] at completion
    cases completion
  · rw [idle] at completion
    cases completion
  · exact ⟨old, result, present, same ▸ completion⟩

/-- What a step of a receive loop does to the channels of attempts. -/
inductive LoopOutcome (before after : ClientInner) (id : Nat) (loop next : LoopPc) : Prop where
  | silent (oneshots : after.oneshots = before.oneshots) (idle : next.completion? = none)
  | takes {session : SessionId} {ticket : Nat} {result : Option SendError}
      (oneshots : after.oneshots = before.oneshots)
      (pending : before.pendingOpens session = some ⟨id, ticket⟩)
      (completion : next.completion? = some (ticket, result))
  | completes {ticket : Nat} {result : Option SendError}
      (oneshots : after.oneshots = Function.update before.oneshots ticket (.sent result))
      (completion : loop.completion? = some (ticket, result)) (idle : next.completion? = none)

theorem LoopMove.outcome {id : Nat} {event : LoopEvent} {loop later : LoopPc}
    (move : LoopMove before after id event loop later) : LoopOutcome before after id loop later := by
  cases move with
  | moves pendingOpens oneshots channels receivers move => exact .silent oneshots move.completion
  | push pendingOpens oneshots => exact .silent oneshots rfl
  | take pending pendingOpens oneshots => exact .takes oneshots pending rfl
  | complete completes idle live there pendingOpens oneshots => exact .completes oneshots completes idle
  | lose pending pendingOpens oneshots => exact .takes oneshots pending rfl
  | terminate pendingOpens oneshots => exact .silent oneshots rfl

/-- What is about to be completed after a step of a receive loop. -/
theorem LoopStep.completes {id : Nat} {event : LoopEvent} {connection : TransportConnection}
    {later : LoopPc} (step : LoopStep before after id event connection later) {other : Nat}
    (completes : after.Completes other ticket) :
    (other = id ∧ ∃ result, later.completion? = some (ticket, result)) ∨
      (other ≠ id ∧ before.Completes other ticket) := by
  obtain ⟨traffic, result, found, completion⟩ := completes
  rw [step.traffic] at found
  by_cases own : other = id
  · subst own
    rw [Function.update_self, Option.some.injEq] at found
    subst found
    exact .inl ⟨rfl, result, completion⟩
  · rw [Function.update_of_ne own] at found
    exact .inr ⟨own, traffic, result, found, completion⟩

namespace Sole

theorem unpended (ok : PendingOk client) {id : Nat} (completes : client.Completes id ticket)
    {pending : PendingOpen} (present : client.pendingOpens session = some pending) :
    pending.ticket ≠ ticket := by
  obtain ⟨traffic, result, found, completion⟩ := completes
  exact (ok.completing id traffic ticket result found completion).2 session pending present

theorem aside (sole : Sole before) (ok : PendingOk before)
    (move : ClientMove config before after label) (apart : ∀ id event, label ≠ .loop id event) :
    Sole after where
  waiting id ticket completes := by
    have earlier := move.completes apart completes
    rw [move.oneshot_kept apart fun session pending present => unpended ok earlier present]
    exact sole.waiting id ticket earlier
  alone one two ticket first second :=
    sole.alone one two ticket (move.completes apart first) (move.completes apart second)

theorem loopStep (sole : Sole before) (ok : PendingOk before) {id : Nat} {event : LoopEvent}
    {connection : TransportConnection} {later : LoopPc}
    (found : before.connections id = some connection)
    (step : LoopStep before after id event connection later) : Sole after := by
  have outcome := step.move.outcome
  have here : ∀ {ticket result}, connection.loop.completion? = some (ticket, result) →
      before.Completes id ticket := fun completion =>
    ⟨connection.traffic, _, ClientInner.traffic_eq_some found, completion⟩
  constructor
  · intro other ticket completes
    cases outcome with
    | silent oneshots idle =>
        rw [oneshots]
        rcases step.completes completes with ⟨-, result, completion⟩ | ⟨-, earlier⟩
        · rw [idle] at completion
          cases completion
        · exact sole.waiting other ticket earlier
    | takes oneshots pending taken =>
        rw [oneshots]
        rcases step.completes completes with ⟨-, result, completion⟩ | ⟨-, earlier⟩
        · rw [taken] at completion
          cases completion
          exact ok.waiting _ _ pending
        · exact sole.waiting other ticket earlier
    | completes oneshots completed idle =>
        rcases step.completes completes with ⟨-, result, completion⟩ | ⟨different, earlier⟩
        · rw [idle] at completion
          cases completion
        · rw [oneshots, Function.update_of_ne]
          · exact sole.waiting other ticket earlier
          · rintro rfl
            exact different (sole.alone other id ticket earlier (here completed))
  · have crossed : ∀ {other ticket result}, later.completion? = some (ticket, result) →
        ¬ before.Completes other ticket := by
      intro other ticket result completion earlier
      cases outcome with
      | silent oneshots idle | completes oneshots completed idle =>
          rw [idle] at completion
          cases completion
      | takes oneshots pending taken =>
          rw [taken] at completion
          cases completion
          exact unpended ok earlier pending rfl
    intro one two ticket first second
    rcases step.completes first with ⟨rfl, result, completion⟩ | ⟨-, earlier⟩
    · rcases step.completes second with ⟨rfl, -⟩ | ⟨-, earlier⟩
      · rfl
      · exact absurd earlier (crossed completion)
    · rcases step.completes second with ⟨rfl, result, completion⟩ | ⟨-, earlier'⟩
      · exact absurd earlier (crossed completion)
      · exact sole.alone one two ticket earlier earlier'

theorem reachable (reach : (clientSystem config).Reachable client) : Sole client := by
  refine invariant_of_reachable_step Sole ?_ ?_ reach
  · rintro _ rfl
    exact ⟨by rintro id ticket ⟨traffic, result, ⟨⟩, -⟩,
      by rintro one two ticket ⟨traffic, result, ⟨⟩, -⟩⟩
  · intro before label after earlier sole _ stepped
    have ok := PendingOk.reachable earlier
    have taken : before.step? config label = some after := stepped
    have move := ClientInner.step?_moves taken
    by_cases loops : ∃ id event, label = .loop id event
    · obtain ⟨id, event, rfl⟩ := loops
      cases move with
      | loop found step => exact sole.loopStep ok found step
    · exact sole.aside ok move fun id event is => loops ⟨id, event, is⟩

end Sole

/-- The result of an attempt stays. -/
theorem sent_of_step (reach : (clientSystem config).Reachable before)
    (stepped : before.step? config label = some after) {result : Option SendError}
    (sent : before.oneshots ticket = .sent result) : after.oneshots ticket = .sent result := by
  have ok := PendingOk.reachable reach
  have move := ClientInner.step?_moves stepped
  by_cases loops : ∃ id event, label = .loop id event
  · obtain ⟨id, event, rfl⟩ := loops
    cases move with
    | loop found step =>
        cases step.move.outcome with
        | silent oneshots | takes oneshots => rw [oneshots, sent]
        | completes oneshots completion =>
            rw [oneshots, Function.update_of_ne, sent]
            rintro rfl
            have waiting := (Sole.reachable reach).waiting id ticket
              ⟨_, _, ClientInner.traffic_eq_some found, completion⟩
            rw [sent] at waiting
            cases waiting
  · rw [move.oneshot_kept (fun id event is => loops ⟨id, event, is⟩), sent]
    rintro session pending present rfl
    have waiting := ok.waiting session pending present
    rw [sent] at waiting
    cases waiting

/-! ## Receive loops and bound sets go on -/

/-- Only its own steps move a receive loop that has been spawned. -/
theorem ClientMove.loop_kept (move : ClientMove config before after label)
    (apart : ∀ id event, label ≠ .loop id event)
    (unknown : before.traffic before.nextConnection = none) {id : Nat} {traffic : Traffic}
    (found : before.traffic id = some traffic) (spawned : traffic.loop ≠ .unspawned) :
    ∃ later, after.traffic id = some later ∧ later.loop = traffic.loop := by
  have same : after.traffic = before.traffic →
      ∃ later, after.traffic id = some later ∧ later.loop = traffic.loop := by
    intro same
    exact ⟨traffic, same ▸ found, rfl⟩
  have updates : ∀ {other queue rest loop}, before.traffic other = some ⟨queue, loop⟩ →
      after.traffic = Function.update before.traffic other (some ⟨rest, loop⟩) →
      ∃ later, after.traffic id = some later ∧ later.loop = traffic.loop := by
    intro other queue rest loop known update
    rw [update]
    by_cases own : id = other
    · subst own
      rw [found] at known
      cases known
      exact ⟨_, Function.update_self _ _ _, rfl⟩
    · exact ⟨traffic, by rw [Function.update_of_ne own, found], rfl⟩
  cases move with
  | begin unknown running calls receivers begun others => exact same others.traffic
  | call known step =>
      cases step.move with
      | quiet others => exact same others.traffic
      | connect here there update =>
          refine ⟨traffic, ?_, rfl⟩
          rw [update, Function.update_of_ne, found]
          rintro rfl
          rw [found] at unknown
          cases unknown
      | spawn here there connection queue unspawned update =>
          refine ⟨traffic, ?_, rfl⟩
          rw [update, Function.update_of_ne, found]
          rintro rfl
          rw [found, Option.some.injEq] at unspawned
          rw [unspawned] at spawned
          exact spawned rfl
      | attempt target connection here left there update | retract here there update =>
          exact same update
      | send connection ticket here there queue loop known update
      | close connection queue loop stage known update => exact updates known update
  | loop => exact absurd rfl (apart _ _)
  | transmit known update | act opened here known update => exact updates known update
  | hangUp update | send update | sending update | recv known channels update => exact same update
  | shutdown step => exact same step.traffic

/-- A step of `open` takes only its own Session out of a bound set, and only as its
call gives up the connection. -/
theorem ResourceMove.holds_kept {pc onward : OpenPc}
    (move : ResourceMove before after session pc onward)
    (unknown : before.bindings before.nextConnection = none) {id : Nat} {other : SessionId}
    (kept : other ≠ session ∨ onward.bound? ≠ none) (holds : before.Holds id other) :
    after.Holds id other := by
  cases move with
  | keeps same | locked same | rebound same | unbound same | abandons same =>
      exact holds_same same.bindings.symm holds
  | pooled bindings | retained bindings | unregisters bindings => exact holds_same bindings.symm holds
  | connected bindings =>
      obtain ⟨binding, found, member⟩ := holds
      refine ⟨binding, ?_, member⟩
      rw [bindings, Function.update_of_ne, found]
      rintro rfl
      rw [unknown] at found
      cases found
  | @bound target pool connection bindings =>
      obtain ⟨binding, found, member⟩ := holds
      unfold ClientInner.Holds
      rw [bindings]
      by_cases own : id = connection
      · subst own
        rw [Function.update_self, found]
        exact ⟨_, rfl, List.mem_append_left _ member⟩
      · rw [Function.update_of_ne own]
        exact ⟨binding, found, member⟩
  | @unbinds pc next connection bound bindings receivers pools members nextPool nextConnection free =>
      have different := kept.resolve_right fun left => left free
      obtain ⟨binding, found, member⟩ := holds
      unfold ClientInner.Holds
      rw [bindings]
      by_cases own : id = connection
      · subst own
        rw [Function.update_self, found]
        exact ⟨_, rfl, List.mem_filter.mpr ⟨member, bne_iff_ne.mpr different⟩⟩
      · rw [Function.update_of_ne own]
        exact ⟨binding, found, member⟩

theorem bindings_congr (same : after.poolView.accounts = before.poolView.accounts) :
    after.bindings = before.bindings := by
  funext id
  have accounts := congrArg (Option.map fun account : Account =>
    (⟨account.endpoint, account.sessions, account.closed⟩ : Binding)) (congrFun same id)
  simp only [ClientInner.poolView, Option.map_map] at accounts
  exact accounts

/-- A step of a receive loop takes Sessions out of its own bound set only, and drains
those. -/
theorem ClientInner.loopStep?_holds {id : Nat} {connection : TransportConnection} {pc : LoopPc}
    {event : LoopEvent} (found : client.connections id = some connection)
    (stepped : client.loopStep? id connection pc event = some after) {other : Nat}
    (holds : client.Holds other session) :
    after.Holds other session ∨
      (other = id ∧ (after.connections id).map TransportConnection.loop =
        some (.zeroing connection.sessions) ∧ session ∈ connection.sessions) := by
  have keeps : ∀ {middle : ClientInner} {change : TransportConnection → TransportConnection},
      middle.connections = client.connections →
      (change connection).sessions = connection.sessions →
      (middle.modify id change).Holds other session := by
    intro middle change same sessions
    obtain ⟨binding, bound, member⟩ := holds
    by_cases own : other = id
    · subst own
      refine ⟨(change connection).binding, by simp [bindings, modify, same, found], ?_⟩
      simp only [bindings, found, Option.map_some, Option.some.injEq] at bound
      rw [TransportConnection.binding, sessions]
      rw [← bound] at member
      exact member
    · refine ⟨binding, ?_, member⟩
      simp only [bindings, modify, Function.update_of_ne own, same]
      exact bound
  cases loopStep?_cases stepped with
  | drained =>
      by_cases own : other = id
      · subst own
        refine .inr ⟨rfl, by simp [modify, found], ?_⟩
        obtain ⟨binding, bound, member⟩ := holds
        simp only [bindings, found, Option.map_some, Option.some.injEq] at bound
        rw [← bound] at member
        exact member
      · obtain ⟨binding, bound, member⟩ := holds
        refine .inl ⟨binding, ?_, member⟩
        simp only [bindings, modify, Function.update_of_ne own]
        exact bound
  | terminated => exact .inl (keeps (terminate_keeps _).1 rfl)
  | _ => exact .inl (keeps rfl rfl)

/-! ## Attached Sessions -/

/-- The connection that a call has bound its Session to, for as long as the attempt or
the Session that it has returned lasts. -/
def OpenPc.attached? : OpenPc → Option Nat
  | .counting _ _ connection | .spawning _ _ connection | .acquired _ connection
  | .checking _ connection _ | .sending _ connection _ | .awaiting _ connection _
  | .opened connection => some connection
  | _ => none

theorem OpenPc.bound_of_attached {pc : OpenPc} {id : Nat} (attached : pc.attached? = some id) :
    pc.bound? = some id := by
  cases pc <;> first | exact attached | cases attached

/-- A call that works on an attempt is not cleaning it up. -/
theorem OpenPc.stage_of_attached {pc : OpenPc} {id : Nat} (attached : pc.attached? = some id) :
    pc.stage ≠ .cleaning ∧ pc.stage ≠ .abandoned := by
  cases pc <;> first | cases attached; done | exact ⟨by rintro ⟨⟩, by rintro ⟨⟩⟩

theorem unacquired_attached (target : Target) : (call.unacquired target).pc.attached? = none := by
  rw [ClientInner.unacquired_pc]
  rfl

theorem retracted_attached (attempts : Nat) (target : Target) (error : SendError) :
    (call.retracted attempts target error).pc.attached? = none := by
  unfold OpenCall.retracted
  simp only
  split
  · split <;> rfl
  · split
    · split <;> rfl
    · rfl
  · split
    · rfl
    · exact unacquired_attached target
  · rfl

/-- A call comes to be attached as it binds its Session. -/
theorem ClientInner.openStep?_attached {pc : OpenPc} {event : OpenEvent} (here : call.pc = pc)
    (stepped : client.openStep? config session call pc event = some after) :
    ∃ next, after.calls session = some next ∧ ∀ id, next.pc.attached? = some id →
      pc.attached? = some id ∨
        (pc.returns? = some id ∧ (client.connections id ≠ none → after.Holds id session)) := by
  have goes : ∀ {middle : ClientInner} {next : OpenCall},
      (∀ id, next.pc.attached? = some id → pc.attached? = some id) →
      ∃ onward, (middle.setCall session next).calls session = some onward ∧
        ∀ id, onward.pc.attached? = some id → pc.attached? = some id ∨
          (pc.returns? = some id ∧ (client.connections id ≠ none →
            (middle.setCall session next).Holds id session)) :=
    fun kept => ⟨_, Function.update_self _ _ _, fun id attached => .inl (kept id attached)⟩
  have leaves : ∀ {middle : ClientInner} {next : OpenCall}, next.pc.attached? = none →
      ∃ onward, (middle.setCall session next).calls session = some onward ∧
        ∀ id, onward.pc.attached? = some id → pc.attached? = some id ∨
          (pc.returns? = some id ∧ (client.connections id ≠ none →
            (middle.setCall session next).Holds id session)) := by
    intro middle next idle
    refine goes fun id attached => ?_
    rw [idle] at attached
    cases attached
  have selected : ∀ answer, (call.selected answer).pc.attached? = none := by
    intro answer
    cases answer <;> rfl
  have unbinds : ∀ {middle : ClientInner} {target : Target} {next : AfterUnbind},
      ∃ onward, (middle.unbound session call target next).calls session = some onward ∧
        ∀ id, onward.pc.attached? = some id → pc.attached? = some id ∨
          (pc.returns? = some id ∧ (client.connections id ≠ none →
            (middle.unbound session call target next).Holds id session)) := by
    intro middle target next
    cases next with
    | exhausted => exact leaves rfl
    | retract error => exact leaves rfl
  obtain ⟨address, current, attempts, excluded, failedLiveOwner, expired⟩ := call
  obtain rfl : current = pc := here
  obtain ⟨middle, next, step, rfl⟩ := openStep?_cases stepped
  cases step with
  | answered =>
      refine leaves ?_
      unfold OpenCall.resolved
      split <;> try rfl
      split <;> rfl
  | listed | cached => exact leaves (selected _)
  | lockElapsed | refused | connectElapsed | choiceless => exact leaves (unacquired_attached _)
  | @rebound target pool connection bound =>
      refine ⟨_, Function.update_self _ _ _, ?_⟩
      rintro id ⟨⟩
      refine .inr ⟨rfl, fun present => ?_⟩
      obtain ⟨found, known⟩ := Option.ne_none_iff_exists'.mp present
      rw [isBound, known, Option.any_some] at bound
      exact ⟨found.binding, by simp [bindings, setCall, known], of_decide_eq_true bound⟩
  | @bound target pool connection =>
      refine ⟨_, Function.update_self _ _ _, ?_⟩
      rintro id ⟨⟩
      refine .inr ⟨rfl, fun present => ?_⟩
      obtain ⟨found, known⟩ := Option.ne_none_iff_exists'.mp present
      refine ⟨⟨found.endpoint, found.sessions ++ [session], found.closed⟩, ?_,
        List.mem_append_right _ (List.mem_singleton_self session)⟩
      simp [bindings, setCall, addSession, modify, known, TransportConnection.binding]
  | counted | spawned | attempted | checked | sent | opened | expires =>
      exact goes fun _ attached => attached
  | @unheld _ _ next | @uncounted _ _ next => exact leaves (by cases next <;> rfl)
  | retracted => exact leaves (retracted_attached _ _ _)
  | _ => exact leaves rfl

/-- An attached call goes on with its attempt, or has found its success. -/
theorem OpenMove.attempt_kept (move : OpenMove config before after session call next) {id : Nat}
    (attached : next.pc.attached? = some id) {pending : PendingOpen}
    (attempts : call.pc.stage.attempt? = some pending) :
    next.pc.stage.attempt? = some pending ∨ before.oneshots pending.ticket = .sent none := by
  obtain ⟨uncleaned, unabandoned⟩ := OpenPc.stage_of_attached attached
  cases move with
  | quiet same move =>
      generalize call.pc.stage = stage at move attempts
      generalize next.pc.stage = onward at move uncleaned unabandoned
      cases move with
      | stays => exact .inl attempts
      | opened sent =>
          cases attempts
          exact .inr sent
      | unsent | failed | elapsed => exact absurd rfl uncleaned
      | abandoned => exact absurd rfl unabandoned
      | unopened | given => cases attempts
  | connect here | spawn here =>
      rw [here] at attempts
      cases attempts
  | attempt target connection here =>
      rw [here] at attempts
      cases attempts
  | send connection ticket here there =>
      rw [here] at attempts
      rw [there]
      exact .inl attempts
  | close connection queue loop same =>
      rw [same]
      exact .inl attempts
  | retract here =>
      rcases here with here | here
      · rw [here] at attempts
        cases attempts
      · rw [here] at attempts
        cases attempts

/-! ## Sessions under the eyes of a receive loop -/

/-- The attempt has been failed, or the receive loop of its connection is about to fail it. -/
inductive ClientInner.Doomed (client : ClientInner) (id ticket : Nat) : Prop where
  | failing {queue : List Sent} {rest : List SessionId}
      (found : client.traffic id = some ⟨queue, .failing ticket rest⟩)
  | failed {error : SendError} (sent : client.oneshots ticket = .sent (some error))

/-- The receive loop of a connection has the Session still to end, or has ended it. -/
inductive ClientInner.Watched (client : ClientInner) (session : SessionId) (pc : OpenPc) (id : Nat) :
    Prop where
  | bound (holds : client.Holds id session)
  | drained {traffic : Traffic} (found : client.traffic id = some traffic)
      (member : session ∈ traffic.loop.drained)
  | ended (unregistered : session ∉ client.receivers)
  | doomed {ticket : Nat} (attempts : pc.stage.attempt? = some ⟨id, ticket⟩)
      (doomed : client.Doomed id ticket)

theorem unknown_of_reachable (reach : (clientSystem config).Reachable client)
    (running : client.status = .running) : client.connections client.nextConnection = none :=
  Option.map_eq_none_iff.mp ((pooled_of_reachable reach running).known _ (Nat.le_refl _))

namespace ClientInner

/-- A doomed attempt does not succeed. -/
theorem Doomed.unsent {id : Nat} (doomed : client.Doomed id ticket)
    (reach : (clientSystem config).Reachable client) : client.oneshots ticket ≠ .sent none := by
  intro sent
  cases doomed with
  | failing found =>
      have waiting := (Sole.reachable reach).waiting _ ticket ⟨_, _, found, rfl⟩
      rw [sent] at waiting
      cases waiting
  | failed failed =>
      rw [sent] at failed
      cases failed

theorem Doomed.step {id : Nat} (doomed : before.Doomed id ticket) (reach : (clientSystem config).Reachable before)
    (running : before.status = .running) (stepped : before.step? config label = some after) :
    after.Doomed id ticket := by
  have unknown : before.traffic before.nextConnection = none :=
    Option.map_eq_none_iff.mpr (unknown_of_reachable reach running)
  cases doomed with
  | failed sent => exact .failed (sent_of_step reach stepped sent)
  | @failing queue rest found =>
      have move := step?_moves stepped
      by_cases loops : ∃ own event, label = .loop own event
      · obtain ⟨own, event, rfl⟩ := loops
        cases move with
        | @loop own event connection later known step =>
            by_cases same : id = own
            · subst same
              have here : connection.loop = .failing ticket rest := by
                rw [traffic_eq_some known, Option.some.injEq] at found
                exact congrArg Traffic.loop found
              have move := step.move
              rw [here] at move
              cases move with
              | moves pendingOpens oneshots channels receivers move =>
                  cases move with
                  | ended waiting => rcases waiting with is | is | ⟨pool, is⟩ <;> cases is
              | complete completes idle live there pendingOpens oneshots =>
                  cases completes
                  exact .failed (by rw [oneshots, Function.update_self])
            · refine @Doomed.failing after id ticket queue rest ?_
              rw [step.traffic, Function.update_of_ne same]
              exact found
      · obtain ⟨later, present, kept⟩ := move.loop_kept (fun id event is => loops ⟨id, event, is⟩)
          unknown found (by rintro ⟨⟩)
        obtain ⟨waiting, loop⟩ := later
        cases kept
        exact .failing present

namespace Watched

variable {id : Nat} {pc onward : OpenPc}

/-- A loop goes through what it has drained and ends every Session of it. -/
theorem loop_drained {event : LoopEvent} {loop later : LoopPc}
    (move : LoopMove before after id event loop later) (member : session ∈ loop.drained) :
    session ∈ later.drained ∨ session ∉ after.receivers ∨
      ∃ ticket rest, before.pendingOpens session = some ⟨id, ticket⟩ ∧ later = .failing ticket rest := by
  cases move with
  | moves pendingOpens oneshots channels receivers move =>
      cases move with
      | zeroed | unopened => exact .inl member
      | ended waiting =>
          rcases waiting with is | is | ⟨pool, is⟩ <;> rw [is] at member <;> cases member
      | _ => cases member
  | push | take => cases member
  | complete completes idle live there =>
      rcases there with rfl | ⟨rest, rfl, rfl⟩
      · cases loop with
        | completing => cases member
        | failing => cases live
        | _ => cases completes
      · exact .inl member
  | @lose own rest ticket pending =>
      rcases List.mem_cons.mp member with rfl | other
      · exact .inr (.inr ⟨ticket, rest, pending, rfl⟩)
      · exact .inl other
  | @terminate own rest pendingOpens oneshots channels receivers =>
      rcases List.mem_cons.mp member with rfl | other
      · exact .inr (.inl (by simp [receivers]))
      · exact .inl other

theorem loopStep (watched : before.Watched session pc id)
    (reach : (clientSystem config).Reachable before) (running : before.status = .running)
    (found : before.calls session = some call) (here : call.pc = pc)
    (attached : pc.attached? = some id) {own : Nat} {event : LoopEvent}
    (stepped : before.step? config (.loop own event) = some after) :
    after.Watched session pc id := by
  have taken : before.step? config (.loop own event) = some after := stepped
  obtain ⟨connection, known, moved⟩ := Option.bind_eq_some_iff.mp stepped
  obtain ⟨later, step⟩ := loopStep?_moves known rfl moved
  have traffic : after.traffic own = some ⟨connection.sender.items, later⟩ := by
    rw [step.traffic, Function.update_self]
  cases watched with
  | bound holds =>
      rcases loopStep?_holds known moved holds with kept | ⟨rfl, drains, member⟩
      · exact .bound kept
      · obtain ⟨current, present, loop⟩ := Option.map_eq_some_iff.mp drains
        refine .drained (traffic_eq_some present) ?_
        rw [loop]
        exact member
  | @drained traffic present member =>
      by_cases same : id = own
      · subst same
        rw [traffic_eq_some known, Option.some.injEq] at present
        rw [← present] at member
        rcases loop_drained step.move member with drained | ended | ⟨ticket, rest, pending, failing⟩
        · exact .drained traffic drained
        · exact .ended ended
        · refine .doomed ?_ (.failing (failing ▸ traffic))
          obtain ⟨current, known', mayPend⟩ :=
            (PendingOk.reachable reach).pending session _ pending
          obtain rfl := Option.some.inj (found.symm.trans known')
          rw [here] at mayPend
          obtain ⟨uncleaned, unabandoned⟩ := OpenPc.stage_of_attached attached
          generalize pc.stage = stage at mayPend uncleaned unabandoned
          cases stage with
          | trying | awaiting => exact congrArg some mayPend.symm
          | cleaning => exact absurd rfl uncleaned
          | abandoned => exact absurd rfl unabandoned
          | _ => exact mayPend.elim
      · refine @Watched.drained after session pc id traffic ?_ member
        rw [step.traffic, Function.update_of_ne same]
        exact present
  | ended unregistered =>
      refine .ended fun member => unregistered ?_
      cases step?_effect taken with
      | other outside calls cache receivers => exact receivers session member
  | doomed attempts doomed => exact .doomed attempts (doomed.step reach running taken)

/-- A step outside the receive loops. -/
theorem aside (watched : before.Watched session pc id)
    (reach : (clientSystem config).Reachable before) (running : before.status = .running)
    (found : before.calls session = some call)
    (stepped : before.step? config label = some after) (apart : ∀ id event, label ≠ .loop id event)
    (holds : before.Holds id session → after.Holds id session)
    (attempts : ∀ pending, pc.stage.attempt? = some pending →
      onward.stage.attempt? = some pending ∨ before.oneshots pending.ticket = .sent none) :
    after.Watched session onward id := by
  have move := step?_moves stepped
  have unknown : before.traffic before.nextConnection = none :=
    Option.map_eq_none_iff.mpr (unknown_of_reachable reach running)
  cases watched with
  | bound bound => exact .bound (holds bound)
  | drained present member =>
      obtain ⟨later, known, kept⟩ := move.loop_kept apart unknown present (by
        intro idle
        rw [idle] at member
        cases member)
      exact .drained known (kept ▸ member)
  | ended unregistered =>
      refine .ended fun member => unregistered ?_
      cases step?_effect stepped with
      | begin unknown calls cache receivers =>
          rw [receivers] at member
          rcases List.mem_append.mp member with old | new
          · exact old
          · rw [List.mem_singleton.mp new, unknown] at found
            cases found
      | call known effect => exact effect.resources.receivers.1 session member
      | other outside calls cache receivers => exact receivers session member
  | doomed attempt doomed =>
      rcases attempts _ attempt with onward | sent
      · exact .doomed onward (doomed.step reach running stepped)
      · exact absurd sent (doomed.unsent reach)

end Watched

end ClientInner

/-- Nothing but calls of `open` and receive loops touches a bound set. -/
theorem bindings_aside (outside : label ≠ .shutdown) (apart : ∀ id event, label ≠ .loop id event)
    (uncalled : ∀ session event, label ≠ .call session event)
    (stepped : before.step? config label = some after) : after.bindings = before.bindings := by
  have move := ClientInner.step?_pools outside stepped
  refine bindings_congr ?_
  generalize after.poolView = view at move
  cases move with
  | quiet | begins => rfl
  | call => exact absurd rfl (uncalled _ _)
  | closes | departs | removes => exact absurd rfl (apart _ _)

/-- A connection that a call has chosen exists. -/
theorem connections_of_returns (reach : (clientSystem config).Reachable client)
    (running : client.status = .running) (found : client.calls session = some call) {id : Nat}
    (returns : call.pc.returns? = some id) : client.connections id ≠ none := by
  have home := (pooled_of_reachable reach running).returned session call.pc id
    (congrArg (Option.map OpenCall.pc) found) returns
  intro absent
  have unknown : client.poolView.accounts id = none := Option.map_eq_none_iff.mpr absent
  rw [PoolView.home, unknown] at home
  generalize call.pc = pc at returns home
  cases pc with
  | binding | counting | spawning => cases home
  | _ => cases returns

/-- A step of a call keeps attached Sessions watched. -/
theorem watched_call (reach : (clientSystem config).Reachable before)
    (running : before.status = .running)
    (watched : ∀ session call id, before.calls session = some call →
      call.pc.attached? = some id → before.Watched session call.pc id)
    {own : SessionId} {event : OpenEvent}
    (stepped : before.step? config (.call own event) = some after) {id : Nat}
    (found : after.calls session = some call) (attached : call.pc.attached? = some id) :
    after.Watched session call.pc id := by
  have unknown : before.bindings before.nextConnection = none :=
    Option.map_eq_none_iff.mpr (unknown_of_reachable reach running)
  have taken : before.step? config (.call own event) = some after := stepped
  obtain ⟨current, known, moved⟩ := Option.bind_eq_some_iff.mp stepped
  obtain ⟨next, step⟩ := ClientInner.openStep?_moves rfl moved
  obtain ⟨onward, there, binds⟩ := ClientInner.openStep?_attached rfl moved
  have holds : ∀ {id other}, other ≠ own ∨ onward.pc.bound? ≠ none →
      before.Holds id other → after.Holds id other := by
    intro id other kept
    cases ClientInner.step?_effect taken with
    | call known' effect =>
        obtain rfl := Option.some.inj (known.symm.trans known')
        rw [effect.calls, Function.update_self, Option.some.injEq] at there
        subst there
        exact effect.resources.holds_kept unknown kept
    | other outside => exact absurd rfl (outside _ _)
  by_cases same : session = own
  · subst same
    obtain rfl := Option.some.inj (there.symm.trans found)
    have moving : onward = next := by
      rw [step.calls, Function.update_self, Option.some.injEq] at there
      exact there.symm
    rcases binds id attached with before' | ⟨returns, binds⟩
    · refine (watched session current id known before').aside reach running known taken
        (by rintro _ _ ⟨⟩) (holds (.inr ?_)) fun pending attempts => ?_
      · rw [OpenPc.bound_of_attached attached]
        exact Option.some_ne_none _
      · rw [moving] at attached ⊢
        exact step.move.attempt_kept attached attempts
    · exact .bound (binds (connections_of_returns reach running known returns))
  · rw [step.calls, Function.update_of_ne same] at found
    exact (watched session call id found attached).aside reach running found taken
      (by rintro _ _ ⟨⟩) (holds (.inl same)) fun pending attempts => .inl attempts

/-- Every attached Session is watched by the receive loop of its connection. -/
theorem watched_of_reachable (reach : (clientSystem config).Reachable client)
    (running : client.status = .running) {id : Nat} (found : client.calls session = some call)
    (attached : call.pc.attached? = some id) : client.Watched session call.pc id := by
  refine invariant_of_reachable_step (fun client : ClientInner => client.status = .running →
    ∀ session call id, client.calls session = some call → call.pc.attached? = some id →
      client.Watched session call.pc id) ?_ ?_ reach running session call id found attached
  · rintro _ rfl - session call id ⟨⟩
  · intro before label after earlier watched _ stepped running session call id found attached
    obtain ⟨started, outside⟩ := running_before earlier stepped running
    have taken : before.step? config label = some after := stepped
    by_cases calling : ∃ own event, label = .call own event
    · obtain ⟨own, event, rfl⟩ := calling
      exact watched_call earlier started (watched started) taken found attached
    have uncalled : ∀ own event, label ≠ .call own event := fun own event is =>
      calling ⟨own, event, is⟩
    have known : before.calls session = some call := by
      cases ClientInner.step?_effect taken with
      | begin unknown calls =>
          rw [calls] at found
          rw [Function.update_apply] at found
          split at found
          · cases found
            cases attached
          · exact found
      | call => exact absurd rfl (uncalled _ _)
      | other outside calls => rwa [calls] at found
    have here := watched started session call id known attached
    by_cases loops : ∃ own event, label = .loop own event
    · obtain ⟨own, event, rfl⟩ := loops
      exact here.loopStep earlier started known rfl attached taken
    · have apart : ∀ own event, label ≠ .loop own event := fun own event is =>
        loops ⟨own, event, is⟩
      exact here.aside earlier started known taken apart
        (holds_same (bindings_aside outside apart uncalled taken).symm)
        fun pending attempts => .inl attempts

/-! ## No Session is left on a lost connection -/

/-- Once the receive loop of a lost connection has ended, the connection is in no pool,
no Session is bound to it, and what was attached to it has been ended: the Session is
unregistered, or its attempt has failed. -/
theorem lost_connection_leaves_nobody (reach : (clientSystem config).Reachable client)
    (running : client.status = .running) {id : Nat} {connection : TransportConnection}
    (lost : client.connections id = some connection) (ended : connection.loop = .ended) :
    (∀ pool, id ∉ client.poolConnections pool) ∧ connection.sessions = [] ∧
      ∀ session call, client.calls session = some call → call.pc.attached? = some id →
        session ∉ client.receivers ∨ ∃ ticket error,
          call.pc.stage.attempt? = some ⟨id, ticket⟩ ∧
            client.oneshots ticket = .sent (some error) := by
  have cleared := Cleared.reachable reach running
  have spent : client.Spent id := ⟨connection, lost, by rw [ended]; rfl⟩
  have unbound := cleared.emptied id spent
  refine ⟨fun pool member => cleared.sheltered.members pool id member spent.gone, ?_, ?_⟩
  · refine List.eq_nil_iff_forall_not_mem.mpr fun session member => ?_
    exact unbound session ⟨connection.binding, congrArg (Option.map _) lost, member⟩
  · intro session call found attached
    have here : ∀ {traffic}, client.traffic id = some traffic → traffic.loop = .ended := by
      intro traffic known
      rw [ClientInner.traffic_eq_some lost, Option.some.injEq] at known
      rw [← known]
      exact ended
    cases watched_of_reachable reach running found attached with
    | bound holds => exact absurd holds (unbound session)
    | drained known member =>
        rw [here known] at member
        cases member
    | ended unregistered => exact .inl unregistered
    | doomed attempts doomed =>
        cases doomed with
        | failing known => cases here known
        | failed sent => exact .inr ⟨_, _, attempts, sent⟩

/-- A Session is opened, and its connection lost. -/
def lostSession : List ClientEvent :=
  sentOpen ++ acknowledged 1 0 ++ .call ⟨7⟩ .advance :: .loop 1 .lost ::
    .replicate 8 (.loop 1 .advance)

theorem lost_session_is_unregistered :
    ∃ client, (clientSystem storefront).run? .fresh lostSession = some client ∧
      client.sessionOf ⟨7⟩ = some (cartAddress, 1) ∧ ⟨7⟩ ∉ client.receivers := by
  have reach := @reachable_of_run? _ _ (clientSystem storefront) .fresh _ lostSession rfl rfl
  obtain ⟨-, -, ends⟩ := @lost_connection_leaves_nobody _ _ reach rfl 1 _ rfl rfl
  refine ⟨_, rfl, rfl, (ends ⟨7⟩ _ rfl rfl).resolve_right ?_⟩
  rintro ⟨ticket, error, ⟨⟩, -⟩

end Coactor.Client
