import Coactor.Client.Abandonment

/-!
# The receiver of a returned Session

The receive loop of a lost connection ends the Sessions it has drained: it fails
the pending open of a Session that has one on this connection, and terminates
any other.  An attempt is bound before it has a pending open and has none any
more before it is unbound, so the loop can terminate a Session whose call of
`open` goes on and returns it.
-/

namespace Coactor.Client

open Coactor.Coordination
open Coactor.Foundation
open Coactor.Foundation.Transition
open Coactor.Runtime
open Coactor.Transport

variable {config : ClientConfig} {client after : ClientInner} {session : SessionId}
  {call next : OpenCall} {event : OpenEvent} {pc onward : OpenPc} {id : Nat}

/-- The Sessions that a receive loop has drained and not yet ended. -/
def LoopPc.drained : LoopPc → List SessionId
  | .zeroing sessions | .ending sessions | .failing _ sessions => sessions
  | .terminating session sessions => session :: sessions
  | _ => []

/-- A call of `open` that has not returned yet. -/
def ClientInner.Opening (client : ClientInner) (session : SessionId) : Prop :=
  ∃ call, client.calls session = some call ∧ call.pc.hasReturned = false

/-- A receive loop that ends a drained Session finds its pending open as long as
its call of `open` goes on. -/
def SparesOpens (state : Journaled) (event : ClientEvent) : Prop :=
  ∀ id loopEvent session queue rest, event = .loop id loopEvent →
    state.client.traffic id = some ⟨queue, .ending (session :: rest)⟩ →
    state.client.pendingOn session id = none → ¬ state.client.Opening session

/-- Only Sessions of known calls are drained, and none of a call that goes on is
terminated. -/
structure Spared (state : Journaled) : Prop where
  drained : ∀ id traffic, state.client.traffic id = some traffic →
    ∀ session ∈ traffic.loop.drained, state.client.calls session ≠ none
  terminated : ∀ id session, (id, session) ∈ state.terminated → state.client.calls session ≠ none
  spared : ∀ session, state.client.Opening session →
    session ∈ state.client.receivers ∧
      (∀ id traffic, state.client.traffic id = some traffic →
        traffic.loop.terminates? ≠ some session) ∧
      ∀ id, (id, session) ∉ state.terminated

/-! ## What steps do to receive loops -/

/-- A loop that has not begun to work, or is where it was before. -/
def SameLoop (client : ClientInner) (id : Nat) (traffic : Traffic) : Prop :=
  (traffic.loop = .unspawned ∨ traffic.loop = .receiving) ∨
    ∃ old, client.traffic id = some old ∧ traffic.loop = old.loop

theorem sameLoop_update {queue : List Sent} {loop : LoopPc}
    (traffic : after.traffic = Function.update client.traffic id (some ⟨queue, loop⟩))
    (kept : SameLoop client id ⟨queue, loop⟩) {other : Nat} {found : Traffic}
    (present : after.traffic other = some found) : SameLoop client other found := by
  rw [traffic] at present
  by_cases same : other = id
  · rw [same, Function.update_self, Option.some.injEq] at present
    exact same ▸ present ▸ kept
  · rw [Function.update_of_ne same] at present
    exact .inr ⟨found, present, rfl⟩

theorem sameLoop_of_same (traffic : after.traffic = client.traffic) {other : Nat} {found : Traffic}
    (present : after.traffic other = some found) : SameLoop client other found :=
  .inr ⟨found, traffic ▸ present, rfl⟩

theorem OpenStep.sameLoop (step : OpenStep config client after session call next) {other : Nat}
    {found : Traffic} (present : after.traffic other = some found) :
    SameLoop client other found := by
  cases step.move with
  | quiet same => exact sameLoop_of_same same.traffic present
  | connect here there traffic => exact sameLoop_update traffic (.inl (.inl rfl)) present
  | spawn here there connection queue unspawned traffic =>
      exact sameLoop_update traffic (.inl (.inr rfl)) present
  | attempt target connection here left there traffic => exact sameLoop_of_same traffic present
  | send connection ticket here there queue loop known traffic =>
      exact sameLoop_update traffic (.inr ⟨_, known, rfl⟩) present
  | close connection queue loop same known traffic =>
      exact sameLoop_update traffic (.inr ⟨_, known, rfl⟩) present
  | retract here there traffic => exact sameLoop_of_same traffic present

/-- Only the steps of a receive loop move a receive loop. -/
theorem ClientMove.sameLoop {event : ClientEvent} (move : ClientMove config client after event)
    (outside : ∀ id loopEvent, event ≠ .loop id loopEvent) {other : Nat} {found : Traffic}
    (present : after.traffic other = some found) : SameLoop client other found := by
  cases move with
  | begin unknown running calls receivers begun same => exact sameLoop_of_same same.traffic present
  | call known step => exact step.sameLoop present
  | loop => exact absurd rfl (outside _ _)
  | transmit known traffic => exact sameLoop_update traffic (.inr ⟨_, known, rfl⟩) present
  | act opened here known traffic => exact sameLoop_update traffic (.inr ⟨_, known, rfl⟩) present
  | hangUp traffic | send traffic | sending traffic | recv found channels traffic =>
      exact sameLoop_of_same traffic present
  | shutdown step => exact sameLoop_of_same step.traffic present

/-- A loop drains bound Sessions only, and ends only what it has drained. -/
theorem LoopMove.drained {loopEvent : LoopEvent} {loop later : LoopPc}
    (move : LoopMove client after id loopEvent loop later) :
    ∀ session ∈ later.drained, session ∈ loop.drained ∨ client.isBound id session = true := by
  intro session member
  cases move with
  | moves pendingOpens oneshots channels receivers move =>
      cases move with
      | receive inbound =>
          unfold Inbound.handle at member
          split at member <;> cases member
      | drained bound => exact .inr (bound session member)
      | zeroed => exact .inl member
      | unopened => exact .inl member
      | _ => cases member
  | push | take => cases member
  | complete completes idle live there =>
      rcases there with rfl | ⟨rest, rfl, rfl⟩
      · cases member
      · exact .inl member
  | lose => exact .inl (.tail _ member)
  | terminate => exact .inl (.tail _ member)

/-- A loop comes to terminate a Session where it finds no pending open of it. -/
theorem LoopMove.terminates {loopEvent : LoopEvent} {loop later : LoopPc}
    (move : LoopMove client after id loopEvent loop later)
    (terminates : later.terminates? = some session) :
    ∃ rest, loop = .ending (session :: rest) ∧ client.pendingOn session id = none := by
  cases move with
  | moves pendingOpens oneshots channels receivers move =>
      cases move with
      | receive inbound =>
          unfold Inbound.handle at terminates
          split at terminates <;> cases terminates
      | unopened unmatched =>
          cases terminates
          exact ⟨_, rfl, unmatched⟩
      | _ => cases terminates
  | complete completes idle live there =>
      rcases there with rfl | ⟨rest, -, rfl⟩ <;> cases terminates
  | _ => cases terminates

/-- A loop removes the receiver of the Session that it terminates, and no other. -/
theorem LoopMove.receivers {loopEvent : LoopEvent} {loop later : LoopPc}
    (move : LoopMove client after id loopEvent loop later) (member : session ∈ client.receivers)
    (spared : loop.terminates? ≠ some session) : session ∈ after.receivers := by
  cases move with
  | moves pendingOpens oneshots channels receivers => exact receivers ▸ member
  | push pendingOpens oneshots channels receivers => exact receivers ▸ member
  | take pending pendingOpens oneshots channels receivers
  | lose pending pendingOpens oneshots channels receivers => exact receivers ▸ member
  | complete completes idle live there pendingOpens oneshots channels receivers =>
      exact receivers ▸ member
  | terminate pendingOpens oneshots channels receivers =>
      rw [receivers]
      refine List.mem_filter.mpr ⟨member, bne_iff_ne.mpr ?_⟩
      rintro rfl
      exact spared rfl

theorem mem_terminatedBy {state : Journaled} {event : ClientEvent}
    (terminated : (id, session) ∈ state.terminatedBy event) :
    ∃ loopEvent queue rest, event = .loop id loopEvent ∧
      state.client.traffic id = some ⟨queue, .terminating session rest⟩ := by
  unfold Journaled.terminatedBy at terminated
  split at terminated
  · rename_i other loopEvent
    split at terminated
    · rename_i rest here
      cases List.mem_singleton.mp terminated
      obtain ⟨connection, found, loop⟩ := Option.map_eq_some_iff.mp here
      refine ⟨loopEvent, connection.sender.items, rest, rfl, ?_⟩
      rw [ClientInner.traffic, found, Option.map_some, TransportConnection.traffic, loop]
    · cases terminated
  · cases terminated

/-! ## Sessions that are being opened -/

theorem known_of_effect {event : ClientEvent} (effect : ClientEffect config client after event)
    (known : client.calls session ≠ none) : after.calls session ≠ none := by
  have updated : ∀ {other : SessionId} {call : OpenCall},
      after.calls = Function.update client.calls other (some call) →
      after.calls session ≠ none := by
    intro other call calls
    rw [calls]
    by_cases same : session = other
    · rw [same, Function.update_self]
      exact Option.some_ne_none call
    · rwa [Function.update_of_ne same]
  cases effect with
  | begin unknown calls => exact updated calls
  | call found effect => exact updated effect.calls
  | other outside calls => exact calls ▸ known

/-- A Session is being opened because its call has begun or goes on. -/
theorem opening_of_effect {event : ClientEvent} (effect : ClientEffect config client after event)
    (move : ClientMove config client after event) (opening : after.Opening session) :
    client.Opening session ∨ (∃ address, event = .begin session address) ∧
      client.calls session = none := by
  obtain ⟨call, known, working⟩ := opening
  cases effect with
  | @begin begun address unknown calls =>
      rw [calls] at known
      by_cases same : session = begun
      · exact .inr ⟨⟨address, same ▸ rfl⟩, same ▸ unknown⟩
      · rw [Function.update_of_ne same] at known
        exact .inl ⟨call, known, working⟩
  | @call called event current next found effect =>
      by_cases same : session = called
      · cases move with
        | call found' step =>
            obtain rfl := Option.some.inj (found.symm.trans found')
            rw [same, step.calls, Function.update_self, Option.some.injEq] at known
            refine .inl ⟨current, same ▸ found, Bool.eq_false_iff.mpr fun returned => ?_⟩
            cases working.symm.trans (known ▸ step.onward.returned returned)
      · rw [effect.calls, Function.update_of_ne same] at known
        exact .inl ⟨call, known, working⟩
  | other outside calls => exact .inl ⟨call, calls ▸ known, working⟩

/-- A step that is not one of a receive loop removes no receiver of a Session that
is being opened. -/
theorem receivers_of_opening {event : ClientEvent} (ok : PendingOk client)
    (effect : ClientEffect config client after event) (move : ClientMove config client after event)
    (outside : ∀ id loopEvent, event ≠ .loop id loopEvent) (before : client.Opening session)
    (opening : after.Opening session) (member : session ∈ client.receivers) :
    session ∈ after.receivers := by
  cases move with
  | begin unknown running calls receivers =>
      rw [receivers]
      exact List.mem_append_left _ member
  | call found step =>
      cases effect with
      | call found' effect =>
          rcases effect.resources.receivers_cases with same | ⟨removed, returned, -⟩
          · exact same ▸ member
          · rw [removed]
            refine List.mem_filter.mpr ⟨member, bne_iff_ne.mpr ?_⟩
            rintro rfl
            obtain ⟨call, known, working⟩ := opening
            rw [effect.calls, Function.update_self, Option.some.injEq] at known
            cases returned.symm.trans (known ▸ working)
      | other outside => exact absurd rfl (outside _ _)
  | loop => exact absurd rfl (outside _ _)
  | transmit found traffic same => exact same.receivers ▸ member
  | hangUp traffic same | send traffic same => exact same.receivers ▸ member
  | sending traffic silent same => exact same.receivers ▸ member
  | act opened here found traffic sent same => exact same.receivers ▸ member
  | recv found channels traffic same => exact same.receivers ▸ member
  | shutdown step =>
      rcases step.receivers with same | ⟨stopped, -⟩
      · exact same ▸ member
      · obtain ⟨call, known, working⟩ := before
        cases working.symm.trans ((ok.stopped stopped).2 session call known)

theorem terminates_drained {loop : LoopPc} (terminates : loop.terminates? = some session) :
    session ∈ loop.drained := by
  cases loop <;> cases terminates
  exact List.mem_cons_self

namespace Spared

variable {state : Journaled}

theorem fresh : Spared .fresh where
  drained := by rintro id traffic ⟨⟩
  terminated := by rintro id session ⟨⟩
  spared := by rintro session ⟨call, ⟨⟩, -⟩

/-- The loops of a Session that is not known yet do not end it. -/
theorem unknown (spared : Spared state) (unknown : state.client.calls session = none) :
    (∀ id traffic, state.client.traffic id = some traffic →
      traffic.loop.terminates? ≠ some session) ∧ ∀ id, (id, session) ∉ state.terminated :=
  ⟨fun id traffic found terminates =>
    spared.drained id traffic found session (terminates_drained terminates) unknown,
    fun id terminated => spared.terminated id session terminated unknown⟩

theorem terminated_known (spared : Spared state) {event : ClientEvent}
    (terminated : (id, session) ∈ state.terminatedBy event ++ state.terminated) :
    state.client.calls session ≠ none := by
  rcases List.mem_append.mp terminated with now | before
  · obtain ⟨loopEvent, queue, rest, -, here⟩ := mem_terminatedBy now
    exact spared.drained id _ here session List.mem_cons_self
  · exact spared.terminated id session before

/-- The step of a receive loop. -/
theorem loopStep (spared : Spared state) (tidy : Tidy state.client) {loopEvent : LoopEvent}
    (met : SparesOpens state (.loop id loopEvent)) {connection : TransportConnection}
    {later : LoopPc} (found : state.client.connections id = some connection)
    (step : LoopStep state.client after id loopEvent connection later) :
    Spared (state.record after (.loop id loopEvent)) := by
  have here := ClientInner.traffic_eq_some found
  have loops : ∀ {other : Nat} {traffic : Traffic}, after.traffic other = some traffic →
      (other = id ∧ traffic.loop = later) ∨ state.client.traffic other = some traffic := by
    intro other traffic present
    rw [step.traffic] at present
    by_cases same : other = id
    · rw [same, Function.update_self, Option.some.injEq] at present
      exact .inl ⟨same, present ▸ rfl⟩
    · rw [Function.update_of_ne same] at present
      exact .inr present
  refine ⟨?_, ?_, ?_⟩ <;> simp only [Journaled.record, step.calls]
  · intro other traffic present session member
    rcases loops present with ⟨rfl, same⟩ | old
    · rw [same] at member
      rcases step.move.drained session member with earlier | bound
      · exact spared.drained other _ here session earlier
      · rw [ClientInner.isBound, found, Option.any_some, decide_eq_true_eq] at bound
        obtain ⟨call, known, -⟩ := tidy.bound other session
          ⟨connection.binding, congrArg (Option.map TransportConnection.binding) found, bound⟩
        rw [known]
        exact Option.some_ne_none call
    · exact spared.drained other traffic old session member
  · exact fun other session terminated => spared.terminated_known terminated
  · intro session opening
    have before : state.client.Opening session := by
      obtain ⟨call, known, working⟩ := opening
      exact ⟨call, step.calls ▸ known, working⟩
    obtain ⟨member, safe, unended⟩ := spared.spared session before
    refine ⟨step.move.receivers member (safe id _ here), ?_, ?_⟩
    · intro other traffic present terminates
      rcases loops present with ⟨rfl, same⟩ | old
      · obtain ⟨rest, ending, unmatched⟩ := step.move.terminates (same ▸ terminates)
        refine met other loopEvent session connection.sender.items rest rfl ?_ unmatched before
        rw [here, ← ending]
      · exact safe other traffic old terminates
    · intro other terminated
      rcases List.mem_append.mp terminated with now | earlier
      · obtain ⟨_, queue, rest, -, there⟩ := mem_terminatedBy now
        exact safe other _ there rfl
      · exact unended other earlier

/-- A step that is not one of a receive loop. -/
theorem otherStep (spared : Spared state) (ok : PendingOk state.client) {event : ClientEvent}
    (effect : ClientEffect config state.client after event)
    (move : ClientMove config state.client after event)
    (outside : ∀ id loopEvent, event ≠ .loop id loopEvent) :
    Spared (state.record after event) := by
  have loops : ∀ {other : Nat} {traffic : Traffic}, after.traffic other = some traffic →
      (traffic.loop.drained = [] ∧ traffic.loop.terminates? = none) ∨
        ∃ old, state.client.traffic other = some old ∧ traffic.loop = old.loop := by
    intro other traffic present
    refine (move.sameLoop outside present).imp_left ?_
    rintro (idle | idle) <;> rw [idle] <;> exact ⟨rfl, rfl⟩
  have unended : ∀ other session, (other, session) ∈ (state.record after event).terminated →
      (other, session) ∈ state.terminated := by
    intro other session terminated
    refine (List.mem_append.mp terminated).resolve_left fun now => ?_
    obtain ⟨loopEvent, -, -, same, -⟩ := mem_terminatedBy now
    exact outside other loopEvent same
  refine ⟨?_, ?_, ?_⟩
  · intro other traffic present session member
    refine known_of_effect effect ?_
    rcases loops present with ⟨none, -⟩ | ⟨old, there, same⟩
    · rw [none] at member
      cases member
    · exact spared.drained other old there session (same ▸ member)
  · exact fun other session terminated =>
      known_of_effect effect (spared.terminated_known terminated)
  · intro session opening
    have safe : (∀ id traffic, state.client.traffic id = some traffic →
          traffic.loop.terminates? ≠ some session) →
        ∀ id traffic, after.traffic id = some traffic →
          traffic.loop.terminates? ≠ some session := by
      intro safe other traffic present terminates
      rcases loops present with ⟨-, none⟩ | ⟨old, there, same⟩
      · cases none.symm.trans terminates
      · exact safe other old there (same ▸ terminates)
    rcases opening_of_effect effect move opening with before | ⟨⟨address, rfl⟩, unknown⟩
    · obtain ⟨member, unterminated, absent⟩ := spared.spared session before
      exact ⟨receivers_of_opening ok effect move outside before opening member, safe unterminated,
        fun other terminated => absent other (unended other session terminated)⟩
    · obtain ⟨unterminated, absent⟩ := spared.unknown unknown
      refine ⟨?_, safe unterminated,
        fun other terminated => absent other (unended other session terminated)⟩
      cases effect with
      | begin _ calls cache receivers =>
          simp only [Journaled.record, receivers]
          exact List.mem_append_right _ (List.mem_singleton_self session)
      | other outside calls =>
          obtain ⟨call, known, -⟩ := opening
          cases unknown.symm.trans (calls ▸ known)

theorem reachable (reach : (journaledSystem config).ReachableWhile SparesOpens state) :
    Spared state := by
  refine invariant_of_reachable_step Spared ?_ ?_ reach
  · rintro _ rfl
    exact fresh
  · intro before event after earlier spared met stepped
    have reach := client_of_journaled earlier
    obtain ⟨client, moved, rfl⟩ := journaled_step stepped
    have effect := ClientInner.step?_effect moved
    have others := spared.otherStep (PendingOk.reachable reach) effect
      (ClientInner.step?_moves moved)
    cases ClientInner.step?_moves moved with
    | loop found step => exact spared.loopStep (Tidy.reachable reach) met found step
    | _ => exact others (by rintro id loopEvent ⟨⟩)

end Spared

theorem hasReturned_of_opened (here : pc.phase = .opened) : pc.hasReturned = true := by
  cases pc with
  | unbinding target connection next | uncounting target connection next =>
      cases next <;> cases here
  | opened | dropUnregistering | dropUnbinding | dropUncounting | dropChecking | dropSending
  | dropped => rfl
  | _ => cases here

/-- A call returns a Session where it awaits its acknowledgement. -/
theorem CallMove.awaiting {entries : List OpenEntry} {connection : Nat}
    (move : CallMove config client call next event entries) (working : call.pc.hasReturned = false)
    (opened : next.pc = .opened connection) :
    ∃ target id ticket, call.pc = .awaiting target id ticket := by
  cases move with
  | kept same move =>
      rw [opened] at move
      generalize here : call.pc.phase = phase at move
      cases move with
      | stays => cases working.symm.trans (hasReturned_of_opened here)
      | @opened target =>
          obtain ⟨id, ticket, here⟩ := phase_awaiting here
          exact ⟨target, id, ticket, here⟩
  | sent target other ticket found here there => cases opened.symm.trans there
  | unacquired target here onward =>
      rw [onward, ClientInner.unacquired_pc] at opened
      cases opened
  | retried target error here retries left onward =>
      rw [onward, ClientInner.unacquired_pc] at opened
      cases opened

/-- Where no receive loop terminates a Session whose call of `open` goes on, the
receiver of every returned Session is registered and no connection has
terminated it. -/
theorem returned_session_can_receive {state after : Journaled} {event : OpenEvent} {connection : Nat}
    (reach : (journaledSystem config).ReachableWhile SparesOpens state)
    (known : state.client.calls session = some call) (working : call.pc.hasReturned = false)
    (stepped : (journaledSystem config).step? state (.call session event) = some after)
    (returned : after.client.calls session = some next) (opened : next.pc = .opened connection) :
    session ∈ after.client.receivers ∧ ∀ other, (other, session) ∉ after.terminated := by
  obtain ⟨member, -, unended⟩ := (Spared.reachable reach).spared session ⟨call, known, working⟩
  obtain ⟨client, moved, rfl⟩ := journaled_step stepped
  refine ⟨?_, unended⟩
  cases ClientInner.step?_effect moved with
  | call found effect =>
      obtain rfl := Option.some.inj (known.symm.trans found)
      simp only [Journaled.record, effect.calls, Function.update_self, Option.some.injEq] at returned
      obtain ⟨target, id, ticket, here⟩ :=
        effect.move.awaiting working (returned ▸ opened)
      rcases effect.resources.receivers_cases with same | ⟨-, -, leaving⟩
      · exact same ▸ member
      · rw [here] at leaving
        rcases leaving with ⟨error, leaving⟩ | ⟨connection, leaving⟩ <;> cases leaving
  | other outside => exact absurd rfl (outside _ _)

/-- No receive loop is about to end a drained Session. -/
def sparesOpens? (state : Journaled) : ClientEvent → Bool
  | .loop id _ =>
      match (state.client.connections id).map TransportConnection.loop with
      | some (.ending (_ :: _)) => false
      | _ => true
  | _ => true

theorem sparesOpens_of_check {state : Journaled} {event : ClientEvent}
    (checked : sparesOpens? state event = true) : SparesOpens state event := by
  rintro id loopEvent session queue rest rfl here
  obtain ⟨connection, found, same⟩ := Option.map_eq_some_iff.mp here
  have ending : connection.loop = .ending (session :: rest) := congrArg Traffic.loop same
  simp [sparesOpens?, found, ending] at checked

theorem acknowledged_session_can_receive :
    ∃ state after, (journaledSystem storefront).ReachableWhile SparesOpens state ∧
      (journaledSystem storefront).step? state (.call ⟨7⟩ .advance) = some after ∧
      ⟨7⟩ ∈ after.client.receivers ∧ ∀ other, (other, ⟨7⟩) ∉ after.terminated := by
  have checked : (journaledSystem storefront).Meets
      (fun state event => sparesOpens? state event = true) .fresh (sentOpen ++ acknowledged 1 0) :=
    meets_of_meets? rfl
  have reach := @reachableWhile_of_run? _ _ _ _ _ _ _ (.start rfl)
    (meets_mono (fun _ _ => sparesOpens_of_check) checked) rfl
  exact ⟨_, _, reach, rfl, @returned_session_can_receive storefront ⟨7⟩ _ _ _ _ .advance 1
    reach rfl rfl rfl rfl rfl⟩

/-- The retry after `lostBeforeSend` is acknowledged on the second connection. -/
def reopened : List ClientEvent :=
  lostBeforeSend ++ placed [shop "node-a" "host-a", shop "node-b" "host-b"] ["host-a", "host-b"] ++
    [.call ⟨7⟩ .connected] ++ .replicate 6 (.call ⟨7⟩ .advance) ++ acknowledged 2 1

/-- The returned Session was terminated by the connection of the first attempt. -/
theorem returned_session_is_terminated :
    ∃ state after next, (journaledSystem storefront).Reachable state ∧
      (journaledSystem storefront).step? state (.call ⟨7⟩ .advance) = some after ∧
      after.client.calls ⟨7⟩ = some next ∧ next.pc = .opened 2 ∧
      ⟨7⟩ ∉ after.client.receivers ∧ (1, ⟨7⟩) ∈ after.terminated := by
  have ran : (((journaledSystem storefront).run? .fresh reopened).bind fun state =>
      ((journaledSystem storefront).step? state (.call ⟨7⟩ .advance)).map fun after =>
        (after.client.sessionOf ⟨7⟩, after.client.receivers, after.terminated)) =
      some (some (cartAddress, 2), [], [(1, ⟨7⟩)]) := by
    decide +kernel
  obtain ⟨state, run, stepped⟩ := Option.bind_eq_some_iff.mp ran
  obtain ⟨after, stepped, facts⟩ := Option.map_eq_some_iff.mp stepped
  obtain ⟨opened, receivers, terminated⟩ : _ ∧ _ ∧ _ := by simpa only [Prod.mk.injEq] using facts
  obtain ⟨next, known, here, -⟩ := ClientInner.sessionOf_eq_some opened
  refine ⟨state, after, next, reachable_of_run? rfl run, stepped, known, here, ?_, ?_⟩
  · rw [receivers]
    exact List.not_mem_nil
  · rw [terminated]
    exact List.mem_cons_self

end Coactor.Client
