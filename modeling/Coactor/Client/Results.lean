import Coactor.Client.Reception

/-!
# Where the result of an attempt comes from

A receive loop takes an acknowledgement, hands its result into the oneshot channel
of the pending open that it matches, and so ends the attempt of a call.  What
holds of the connection and the Session of every acknowledgement without a failure
therefore holds of every Session that `open` returns.
-/

namespace Coactor.Client

open Coactor.Foundation
open Coactor.Runtime

variable {config : ClientConfig} {client after : ClientInner} {session : SessionId}
  {call next : OpenCall} {id : Nat}

/-! ## Calls that go on -/

/-- A call that has begun stays known, with its Actor. -/
theorem ClientMove.known {event : ClientEvent} (move : ClientMove config client after event)
    (found : client.calls session = some call) :
    ∃ next, after.calls session = some next ∧ next.address = call.address := by
  have same : after.calls = client.calls →
      ∃ next, after.calls session = some next ∧ next.address = call.address :=
    fun same => ⟨call, same ▸ found, rfl⟩
  cases move with
  | @begin own address unknown running calls =>
      refine ⟨call, ?_, rfl⟩
      rw [calls, Function.update_of_ne]
      · exact found
      · rintro rfl
        rw [unknown] at found
        cases found
  | @call own event current next known step =>
      rw [step.calls]
      by_cases own' : session = own
      · subst own'
        obtain rfl := Option.some.inj (known.symm.trans found)
        exact ⟨next, Function.update_self _ _ _, step.onward.address⟩
      · exact ⟨call, by rw [Function.update_of_ne own', found], rfl⟩
  | loop known step => exact same step.calls
  | transmit known traffic others | hangUp traffic others | send traffic others
  | sending traffic silent others | act opened here known traffic sent others =>
      exact same others.calls
  | recv known channels traffic others => exact same others.calls
  | shutdown step => exact same step.calls

/-- The number of the next connection only grows. -/
theorem ClientMove.nextConnection_le {event : ClientEvent}
    (move : ClientMove config client after event) :
    client.nextConnection ≤ after.nextConnection := by
  cases move with
  | begin unknown running calls receivers begun same => exact Nat.le_of_eq same.nextConnection.symm
  | call found step =>
      cases step.move with
      | quiet same => exact Nat.le_of_eq same.nextConnection.symm
      | connect here there traffic nextConnection =>
          rw [nextConnection]
          exact Nat.le_succ _
      | spawn here there connection queue unspawned traffic nextConnection
      | attempt target connection here left there traffic nextConnection
      | send connection ticket here there queue loop present traffic nextConnection
      | close connection queue loop same present traffic nextConnection
      | retract here there traffic nextConnection => exact Nat.le_of_eq nextConnection.symm
  | loop found step => exact Nat.le_of_eq step.nextConnection.symm
  | transmit found traffic same | hangUp traffic same | send traffic same
  | sending traffic silent same | act opened here found traffic sent same =>
      exact Nat.le_of_eq same.nextConnection.symm
  | recv found channels traffic same => exact Nat.le_of_eq same.nextConnection.symm
  | shutdown step => exact Nat.le_of_eq step.nextConnection.symm

/-- A call that connects takes the next connection. -/
theorem ClientInner.step?_connected
    (stepped : client.step? config (.call session .connected) = some after) :
    after.nextConnection = client.nextConnection + 1 := by
  obtain ⟨call, -, moved⟩ := Option.bind_eq_some_iff.mp stepped
  cases here : call.pc with
  | connecting target pool =>
      rw [here] at moved
      cases moved
      rfl
  | retaining target pool kept rest =>
      rw [here] at moved
      cases rest <;> cases moved
  | choosing target pool best rest =>
      rw [here] at moved
      cases rest <;> cases moved
  | _ =>
      rw [here] at moved
      cases moved

/-- What a step hands to the sender of a connection: the `SessionOpen` of an
attempt, or another message of a Session. -/
inductive ClientInner.Hands (client : ClientInner) (id : Nat) (sent : Sent) : Prop where
  | opens {session : SessionId} {call : OpenCall} {ticket : Nat}
      (found : client.calls session = some call)
      (awaiting : call.pc.stage = .awaiting id ticket)
      (same : sent = ⟨some ticket, envelopeSessionOpen call.address session⟩)
  | other {session : SessionId} {call : OpenCall} (found : client.calls session = some call)
      (named : sent.envelope.session = some session)
      (kind : sent.envelope.kind ≠ some .sessionOpen)

/-- What waits for a sender has waited before, or has just been handed to it. -/
theorem ClientMove.queue_origin {event : ClientEvent} (move : ClientMove config client after event)
    {traffic : Traffic} {sent : Sent} (present : after.traffic id = some traffic)
    (member : sent ∈ traffic.queue) :
    (∃ old, client.traffic id = some old ∧ sent ∈ old.queue) ∨ after.Hands id sent := by
  have same : after.traffic = client.traffic →
      (∃ old, client.traffic id = some old ∧ sent ∈ old.queue) ∨ after.Hands id sent :=
    fun same => .inl ⟨traffic, same ▸ present, member⟩
  have updated : ∀ {other : Nat} {queue : List Sent} {loop : LoopPc},
      after.traffic = Function.update client.traffic other (some ⟨queue, loop⟩) →
      (id = other → sent ∈ queue →
        (∃ old, client.traffic id = some old ∧ sent ∈ old.queue) ∨ after.Hands id sent) →
      (∃ old, client.traffic id = some old ∧ sent ∈ old.queue) ∨ after.Hands id sent := by
    intro other queue loop changed origin
    rw [changed] at present
    by_cases own : id = other
    · subst own
      rw [Function.update_self, Option.some.injEq] at present
      subst present
      exact origin rfl member
    · rw [Function.update_of_ne own] at present
      exact .inl ⟨traffic, present, member⟩
  have appended : ∀ {other : Nat} {queue : List Sent} {loop : LoopPc} {new : Sent},
      client.traffic other = some ⟨queue, loop⟩ →
      after.traffic = Function.update client.traffic other (some ⟨queue ++ [new], loop⟩) →
      (id = other → after.Hands id new) →
      (∃ old, client.traffic id = some old ∧ sent ∈ old.queue) ∨ after.Hands id sent := by
    intro other queue loop new found changed hands
    refine updated changed fun own waits => ?_
    rcases List.mem_append.mp waits with old | last
    · exact .inl ⟨_, own ▸ found, old⟩
    · rw [List.mem_singleton.mp last]
      exact .inr (hands own)
  cases move with
  | begin unknown running calls receivers begun others => exact same others.traffic
  | @call own event call next known step =>
      have there : after.calls own = some next := by
        rw [step.calls, Function.update_self]
      cases step.move with
      | quiet others => exact same others.traffic
      | connect here onward traffic => exact updated traffic (by rintro - ⟨⟩)
      | spawn here onward connection queue unspawned traffic =>
          exact updated traffic fun own waits => .inl ⟨_, own ▸ unspawned, waits⟩
      | attempt target connection here left onward traffic => exact same traffic
      | send connection ticket here onward queue loop found traffic =>
          refine appended found traffic ?_
          rintro rfl
          exact .opens there onward (by rw [step.onward.address])
      | close connection queue loop stays found traffic =>
          exact appended found traffic fun _ => .other there rfl (by rintro ⟨⟩)
      | retract here onward traffic => exact same traffic
  | loop found step =>
      exact updated step.traffic fun own waits =>
        .inl ⟨_, own ▸ ClientInner.traffic_eq_some found, waits⟩
  | transmit found traffic =>
      exact updated traffic fun own waits => .inl ⟨_, own ▸ found, .tail _ waits⟩
  | hangUp traffic | send traffic | sending traffic => exact same traffic
  | act opened here found traffic sent others =>
      exact appended found traffic fun _ => .other (others.calls ▸ opened) rfl (by rintro ⟨⟩)
  | recv found channels traffic => exact same traffic
  | shutdown step => exact same step.traffic

/-! ## Results on their way -/

/-- Whoever waits for the result of this attempt has a cause for success. -/
def ClientInner.Awaited (client : ClientInner) (cause : Nat → SessionId → Prop) (ticket : Nat) :
    Prop :=
  ∀ session call connection, client.calls session = some call →
    call.pc.stage.attempt? = some ⟨connection, ticket⟩ → cause connection session

/-- Every success on its way to a call of `open` has a cause, told by connection
and Session, and so has every Session that was returned. -/
structure Caused (cause : Nat → SessionId → Prop) (client : ClientInner) : Prop where
  acknowledging : ∀ id traffic answered session, client.traffic id = some traffic →
    traffic.loop = .acknowledging answered session none → cause id session
  completing : ∀ id traffic ticket, client.traffic id = some traffic →
    traffic.loop.completion? = some (ticket, none) → client.Awaited cause ticket
  oneshots : ∀ ticket, client.oneshots ticket = .sent none → client.Awaited cause ticket
  returned : ∀ session call connection, client.calls session = some call →
    call.pc.stage = .returned (some connection) → cause connection session

theorem SameLoop.acknowledging {traffic : Traffic} {answered : Option Nat}
    {result : Option SendError} (same : SameLoop client id traffic)
    (here : traffic.loop = .acknowledging answered session result) :
    ∃ old, client.traffic id = some old ∧ old.loop = .acknowledging answered session result := by
  rcases same with (idle | idle) | ⟨old, known, same⟩
  · rw [idle] at here
    cases here
  · rw [idle] at here
    cases here
  · exact ⟨old, known, same ▸ here⟩

theorem SameLoop.completing {traffic : Traffic} {completion : Nat × Option SendError}
    (same : SameLoop client id traffic) (completes : traffic.loop.completion? = some completion) :
    ∃ old, client.traffic id = some old ∧ old.loop.completion? = some completion := by
  rcases same with (idle | idle) | ⟨old, known, same⟩
  · rw [idle] at completes
    cases completes
  · rw [idle] at completes
    cases completes
  · exact ⟨old, known, same ▸ completes⟩

/-- A loop comes to an acknowledgement only by an Envelope that it receives. -/
theorem LoopMove.acknowledging {loopEvent : LoopEvent} {loop later : LoopPc}
    {answered : Option Nat} {result : Option SendError}
    (move : LoopMove client after id loopEvent loop later)
    (here : later = .acknowledging answered session result) :
    ∃ inbound, loopEvent = .receive inbound ∧
      inbound.handle = .acknowledging answered session result := by
  cases move with
  | moves pendingOpens oneshots channels receivers move =>
      cases move with
      | receive inbound arrived => exact ⟨inbound, arrived, here⟩
      | _ => cases here
  | complete completes idle live there =>
      rcases there with rfl | ⟨rest, -, rfl⟩ <;> cases here
  | _ => cases here

/-- A loop handles an acknowledgement that it has handled before, or receives one. -/
theorem ClientMove.acknowledging_origin {event : ClientEvent}
    (move : ClientMove config client after event) {traffic : Traffic} {answered : Option Nat}
    {result : Option SendError} (present : after.traffic id = some traffic)
    (here : traffic.loop = .acknowledging answered session result) :
    (∃ old, client.traffic id = some old ∧ old.loop = .acknowledging answered session result) ∨
      ∃ inbound, event = .loop id (.receive inbound) ∧
        inbound.handle = .acknowledging answered session result := by
  by_cases moved : ∃ other loopEvent, event = .loop other loopEvent
  · obtain ⟨other, loopEvent, rfl⟩ := moved
    cases move with
    | loop found step =>
        rw [step.traffic] at present
        by_cases own : id = other
        · subst own
          rw [Function.update_self, Option.some.injEq] at present
          subst present
          obtain ⟨inbound, rfl, handles⟩ := step.move.acknowledging here
          exact .inr ⟨inbound, rfl, handles⟩
        · rw [Function.update_of_ne own] at present
          exact .inl ⟨traffic, present, here⟩
  · refine .inl ((move.sameLoop ?_ present).acknowledging here)
    exact fun other loopEvent same => moved ⟨other, loopEvent, same⟩

/-- An entry of `pending_opens` has been there before, or belongs to an attempt that
a call has just begun. -/
theorem ClientMove.pending_origin {event : ClientEvent}
    (move : ClientMove config client after event) {pending : PendingOpen}
    (present : after.pendingOpens session = some pending) :
    client.pendingOpens session = some pending ∨
      ∃ openEvent call target, event = .call session openEvent ∧
        client.calls session = some call ∧ call.pc = .acquired target pending.connection ∧
        call.attempts < config.maxOpenAttempts := by
  have removed : ∀ {other : SessionId},
      after.pendingOpens = Function.update client.pendingOpens other none →
      client.pendingOpens session = some pending := by
    intro other changed
    rw [changed] at present
    by_cases own : session = other
    · rw [own, Function.update_self] at present
      cases present
    · rwa [Function.update_of_ne own] at present
  cases move with
  | begin unknown running calls receivers begun same => exact .inl (same.pendingOpens ▸ present)
  | @call own openEvent call next found step =>
      cases step.move with
      | quiet same => exact .inl (same.pendingOpens ▸ present)
      | connect here there traffic nextConnection pendingOpens
      | spawn here there connection queue unspawned traffic nextConnection pendingOpens
      | send connection ticket here there queue loop known traffic nextConnection pendingOpens
      | close connection queue loop same known traffic nextConnection pendingOpens =>
          exact .inl (pendingOpens ▸ present)
      | attempt target connection here left there traffic nextConnection pendingOpens =>
          rw [pendingOpens] at present
          by_cases same : session = own
          · subst same
            rw [Function.update_self] at present
            cases present
            exact .inr ⟨openEvent, call, target, rfl, found, here, left⟩
          · rw [Function.update_of_ne same] at present
            exact .inl present
      | retract here there traffic nextConnection pendingOpens => exact .inl (removed pendingOpens)
  | @loop id event connection next found step =>
      have move := step.move
      generalize connection.loop = loop at move
      cases move with
      | moves pendingOpens | push pendingOpens | terminate pendingOpens =>
          exact .inl (pendingOpens ▸ present)
      | complete completes idle live there pendingOpens => exact .inl (pendingOpens ▸ present)
      | take pending pendingOpens | lose pending pendingOpens => exact .inl (removed pendingOpens)
  | transmit found traffic same | hangUp traffic same | send traffic same
  | sending traffic silent same | act opened here found traffic sent same =>
      exact .inl (same.pendingOpens ▸ present)
  | recv found channels traffic same => exact .inl (same.pendingOpens ▸ present)
  | shutdown step =>
      rcases step.pendingOpens with same | ⟨-, cleared⟩
      · exact .inl (same ▸ present)
      · rw [cleared] at present
        cases present

/-- A call that has acquired a connection begins an attempt only as it goes on. -/
theorem ClientInner.step?_acquired {openEvent : OpenEvent} {target : Target}
    (found : client.calls session = some call) (here : call.pc = .acquired target id)
    (stepped : client.step? config (.call session openEvent) = some after) :
    openEvent = .advance ∨ after.pendingOpens = client.pendingOpens := by
  obtain ⟨current, known, moved⟩ := Option.bind_eq_some_iff.mp stepped
  obtain rfl := Option.some.inj (found.symm.trans known)
  rw [here] at moved
  cases openEvent with
  | advance => exact .inl rfl
  | expire =>
      cases moved
      exact .inr rfl
  | _ => cases moved

/-- What a loop completes is the pending open of the Session on its connection. -/
theorem ClientMove.completed {event : ClientEvent} (move : ClientMove config client after event)
    {answered : Option Nat} {ticket : Nat}
    (completed : completedBy client after event = some (answered, ticket)) :
    ∃ id session result traffic, client.traffic id = some traffic ∧
      traffic.loop = .acknowledging answered session result ∧
      client.pendingOpens session = some ⟨id, ticket⟩ := by
  cases move with
  | @loop id event connection next found step =>
      have traffic := ClientInner.traffic_eq_some found
      have later : (after.connections id).map TransportConnection.loop = some next := by
        have same := congrFun step.traffic id
        rw [Function.update_self] at same
        obtain ⟨known, present, whole⟩ := Option.map_eq_some_iff.mp same
        rw [present, Option.map_some]
        exact congrArg some (congrArg Traffic.loop whole)
      simp only [completedBy, found, Option.map_some, later] at completed
      split at completed
      · rename_i acknowledged own result other taken onward acknowledging completes
        have here : connection.loop = .acknowledging acknowledged own result :=
          Option.some.inj acknowledging
        obtain rfl := Option.some.inj completes
        cases completed
        have move := step.move
        rw [here] at move
        cases move with
        | moves pendingOpens oneshots channels receivers move => cases move
        | take pending => exact ⟨id, own, result, _, traffic, here, pending⟩
        | complete completes => cases completes
      · cases completed
  | _ => cases completed

/-- An attempt goes on, or has a new ticket. -/
theorem OpenMove.attempt_origin (move : OpenMove config client after session call next)
    {pending : PendingOpen} (attempts : next.pc.stage.attempt? = some pending) :
    call.pc.stage.attempt? = some pending ∨ pending.ticket = client.nextTicket := by
  cases move with
  | quiet same move => exact .inl (move.attempt attempts)
  | connect here there | spawn here there | retract here there =>
      rw [there] at attempts
      cases attempts
  | attempt target connection here left there =>
      rw [there] at attempts
      cases attempts
      exact .inr rfl
  | send connection ticket here there =>
      rw [there] at attempts
      rw [here]
      exact .inl attempts
  | close connection queue loop same => exact .inl (same ▸ attempts)

/-- A call returns a Session where it finds the success of its attempt. -/
theorem OpenMove.returns (move : OpenMove config client after session call next) {connection : Nat}
    (returned : next.pc.stage = .returned (some connection)) :
    call.pc.stage = .returned (some connection) ∨
      ∃ ticket, call.pc.stage = .awaiting connection ticket ∧
        client.oneshots ticket = .sent none := by
  cases move with
  | quiet same move =>
      generalize here : call.pc.stage = stage at move
      rw [returned] at move
      cases move with
      | stays => exact .inl rfl
      | opened sent => exact .inr ⟨_, rfl, sent⟩
  | connect here there | spawn here there | retract here there
  | attempt target connection here left there | send connection ticket here there =>
      rw [there] at returned
      cases returned
  | close connection queue loop same => exact .inl (same ▸ returned)

/-- A step of `open` sends no result. -/
theorem OpenMove.sent (move : OpenMove config client after session call next) {ticket : Nat}
    {result : Option SendError} (sent : after.oneshots ticket = .sent result) :
    client.oneshots ticket = .sent result := by
  have dropped : after.oneshots = client.dropSender (client.pendingOpens session) →
      client.oneshots ticket = .sent result := by
    intro drops
    rw [drops] at sent
    cases pending : client.pendingOpens session with
    | none => simpa only [pending, ClientInner.dropSender] using sent
    | some old =>
        rw [pending, ClientInner.dropSender] at sent
        by_cases same : ticket = old.ticket
        · rw [same, Function.update_self] at sent
          cases sent
        · rwa [Function.update_of_ne same] at sent
  cases move with
  | quiet same => exact same.oneshots ▸ sent
  | connect here there traffic nextConnection pendingOpens oneshots
  | spawn here there connection queue unspawned traffic nextConnection pendingOpens oneshots
  | send connection ticket here there queue loop found traffic nextConnection pendingOpens oneshots
  | close connection queue loop same found traffic nextConnection pendingOpens oneshots =>
      exact oneshots ▸ sent
  | attempt target connection here left there traffic nextConnection pendingOpens oneshots
  | retract here there traffic nextConnection pendingOpens oneshots => exact dropped oneshots

namespace Caused

variable {cause stronger : Nat → SessionId → Prop}

theorem fresh : Caused cause .fresh where
  acknowledging := by rintro id traffic answered session ⟨⟩
  completing := by rintro id traffic ticket ⟨⟩
  oneshots := by rintro ticket ⟨⟩
  returned := by rintro session call connection ⟨⟩

theorem mono (caused : Caused stronger client)
    (weakens : ∀ id session, stronger id session → cause id session) : Caused cause client where
  acknowledging id traffic answered session present here :=
    weakens _ _ (caused.acknowledging id traffic answered session present here)
  completing id traffic ticket present completes session call connection found attempts :=
    weakens _ _ (caused.completing id traffic ticket present completes session call connection found
      attempts)
  oneshots ticket sent session call connection found attempts :=
    weakens _ _ (caused.oneshots ticket sent session call connection found attempts)
  returned session call connection found returned :=
    weakens _ _ (caused.returned session call connection found returned)

/-- A step that changes no call and no oneshot channel. -/
theorem aside (caused : Caused cause client) (calls : after.calls = client.calls)
    (oneshots : after.oneshots = client.oneshots)
    (loops : ∀ id traffic, after.traffic id = some traffic → SameLoop client id traffic) :
    Caused cause after where
  acknowledging id traffic answered session present here := by
    obtain ⟨old, known, here⟩ := (loops id traffic present).acknowledging here
    exact caused.acknowledging id old answered session known here
  completing id traffic ticket present completes := by
    rw [ClientInner.Awaited, calls]
    obtain ⟨old, known, completes⟩ := (loops id traffic present).completing completes
    exact caused.completing id old ticket known completes
  oneshots := by
    simp only [ClientInner.Awaited, calls, oneshots]
    exact caused.oneshots
  returned := by
    rw [calls]
    exact caused.returned

/-- A ticket in use is not a new one. -/
theorem awaited (awaited : client.Awaited cause id) (below : id < client.nextTicket)
    (found : client.calls session = some call)
    (step : OpenStep config client after session call next) : after.Awaited cause id := by
  intro other current connection known attempts
  rw [step.calls] at known
  by_cases own : other = session
  · subst own
    rw [Function.update_self, Option.some.injEq] at known
    subst known
    rcases step.move.attempt_origin attempts with earlier | new
    · exact awaited other call connection found earlier
    · exact absurd new (Nat.ne_of_lt below)
  · rw [Function.update_of_ne own] at known
    exact awaited other current connection known attempts

theorem openStep (caused : Caused cause client) (ok : PendingOk client)
    (found : client.calls session = some call)
    (step : OpenStep config client after session call next) : Caused cause after where
  acknowledging id traffic answered other present here := by
    obtain ⟨old, known, here⟩ := (step.sameLoop present).acknowledging here
    exact caused.acknowledging id old answered other known here
  completing id traffic ticket present completes := by
    obtain ⟨old, known, completes⟩ := (step.sameLoop present).completing completes
    exact awaited (caused.completing id old ticket known completes)
      (ok.completing id old ticket none known completes).1 found step
  oneshots ticket sent := by
    have earlier := step.move.sent sent
    refine awaited (caused.oneshots ticket earlier) (Nat.lt_of_not_le fun above => ?_) found step
    rw [ok.unused ticket above] at earlier
    cases earlier
  returned other current connection known returned := by
    rw [step.calls] at known
    by_cases own : other = session
    · subst own
      rw [Function.update_self, Option.some.injEq] at known
      subst known
      rcases step.move.returns returned with earlier | ⟨ticket, awaiting, sent⟩
      · exact caused.returned other call connection found earlier
      · exact caused.oneshots ticket sent other call connection found (by rw [awaiting]; rfl)
    · rw [Function.update_of_ne own] at known
      exact caused.returned other current connection known returned

theorem loopStep (caused : Caused cause client) (ok : PendingOk client) {event : LoopEvent}
    {connection : TransportConnection} {later : LoopPc}
    (found : client.connections id = some connection)
    (step : LoopStep client after id event connection later)
    (heard : ∀ inbound answered session, event = .receive inbound →
      inbound.handle = .acknowledging answered session none → cause id session) :
    Caused cause after := by
  have traffic := ClientInner.traffic_eq_some found
  have others : ∀ {other : Nat} {current : Traffic}, after.traffic other = some current →
      (other = id ∧ current.loop = later) ∨ client.traffic other = some current := by
    intro other current present
    rw [step.traffic] at present
    by_cases own : other = id
    · subst own
      rw [Function.update_self, Option.some.injEq] at present
      exact .inl ⟨rfl, present ▸ rfl⟩
    · rw [Function.update_of_ne own] at present
      exact .inr present
  constructor
  · intro other current answered session present here
    rcases others present with ⟨rfl, there⟩ | earlier
    · obtain ⟨inbound, arrived, handles⟩ := step.move.acknowledging (there.symm.trans here)
      exact heard inbound answered session arrived handles
    · exact caused.acknowledging other current answered session earlier here
  · intro other current ticket present completes
    rw [ClientInner.Awaited, step.calls]
    rcases others present with ⟨rfl, there⟩ | earlier
    · rw [there] at completes
      have move := step.move
      generalize here : connection.loop = loop at move
      cases move with
      | moves pendingOpens oneshots channels receivers move =>
          rw [move.completion] at completes
          cases completes
      | @take answered own result ticket pending =>
          cases completes
          have caused := caused.acknowledging other _ answered own traffic here
          intro session call connection known attempts
          have alone := ok.alone session own ticket (.inr ⟨call, connection, known, attempts⟩)
            (.inl ⟨other, pending⟩)
          subst alone
          cases ok.pending_eq known attempts pending
          exact caused
      | complete _ idle =>
          rw [idle] at completes
          cases completes
      | lose => cases completes
      | push | terminate => cases completes
    · exact caused.completing other current ticket earlier completes
  · intro ticket sent
    rw [ClientInner.Awaited, step.calls]
    have move := step.move
    generalize here : connection.loop = loop at move
    cases move with
    | moves pendingOpens oneshots | push pendingOpens oneshots | take pending pendingOpens oneshots
    | lose pending pendingOpens oneshots | terminate pendingOpens oneshots =>
        exact caused.oneshots ticket (oneshots ▸ sent)
    | @complete _ _ completed result completes idle live there pendingOpens oneshots =>
        rw [oneshots] at sent
        by_cases own : ticket = completed
        · subst own
          rw [Function.update_self] at sent
          cases sent
          exact caused.completing id _ ticket traffic (here ▸ completes)
        · rw [Function.update_of_ne own] at sent
          exact caused.oneshots ticket sent
  · rw [step.calls]
    exact caused.returned

theorem move (caused : Caused cause client) (ok : PendingOk client) {event : ClientEvent}
    (move : ClientMove config client after event)
    (heard : ∀ id inbound answered session, event = .loop id (.receive inbound) →
      inbound.handle = .acknowledging answered session none → cause id session) :
    Caused cause after := by
  cases move with
  | @begin own address unknown running calls receivers begun same =>
      have others : ∀ {session call}, after.calls session = some call →
          call.pc.stage = .preparing ∨ client.calls session = some call := by
        intro session call found
        rw [calls] at found
        by_cases new : session = own
        · rw [new, Function.update_self, Option.some.injEq] at found
          exact .inl (found ▸ rfl)
        · rw [Function.update_of_ne new] at found
          exact .inr found
      have awaited : ∀ {ticket}, client.Awaited cause ticket → after.Awaited cause ticket := by
        intro ticket awaited session call connection found attempts
        rcases others found with preparing | earlier
        · rw [preparing] at attempts
          cases attempts
        · exact awaited session call connection earlier attempts
      constructor
      · rw [same.traffic]
        exact caused.acknowledging
      · rw [same.traffic]
        exact fun id traffic ticket present completes =>
          awaited (caused.completing id traffic ticket present completes)
      · rw [same.oneshots]
        exact fun ticket sent => awaited (caused.oneshots ticket sent)
      · intro session call connection found returned
        rcases others found with preparing | earlier
        · rw [preparing] at returned
          cases returned
        · exact caused.returned session call connection earlier returned
  | call found step => exact caused.openStep ok found step
  | @loop id event connection next found step =>
      exact caused.loopStep ok found step fun inbound answered session arrived =>
        heard id inbound answered session (arrived ▸ rfl)
  | transmit found traffic same | act opened here found traffic sent same =>
      exact caused.aside same.calls same.oneshots fun _ _ =>
        sameLoop_update traffic (.inr ⟨_, found, rfl⟩)
  | hangUp traffic same | send traffic same | sending traffic silent same =>
      exact caused.aside same.calls same.oneshots fun _ _ => sameLoop_of_same traffic
  | recv found channels traffic same =>
      exact caused.aside same.calls same.oneshots fun _ _ => sameLoop_of_same traffic
  | shutdown step =>
      exact caused.aside step.calls step.oneshots fun _ _ => sameLoop_of_same step.traffic

end Caused

end Coactor.Client
