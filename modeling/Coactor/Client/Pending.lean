import Coactor.Client.Moves

/-!
# Pending opens and their tickets

An entry of `pending_opens` belongs to the current attempt of its call, its
oneshot channel has not been used, and no other call has its ticket.  A loop
that has taken an entry out is the only one that can use its channel.
-/

namespace Coactor.Client

open Coactor.Foundation
open Coactor.Foundation.Transition
open Coactor.Runtime

variable {config : ClientConfig} {client after : ClientInner}

/-- The connection and the ticket of an attempt that has an entry in `pending_opens`. -/
def Stage.attempt? : Stage → Option PendingOpen
  | .trying connection ticket | .awaiting connection ticket => some ⟨connection, ticket⟩
  | _ => none

/-- Whether a call at this stage may have this entry in `pending_opens`. -/
def Stage.MayPend (pending : PendingOpen) : Stage → Prop
  | .trying connection ticket | .awaiting connection ticket => pending = ⟨connection, ticket⟩
  | .cleaning | .abandoned => True
  | _ => False

/-- A Session whose pending open or current attempt has this ticket. -/
def ClientInner.Owns (client : ClientInner) (session : SessionId) (ticket : Nat) : Prop :=
  (∃ connection, client.pendingOpens session = some ⟨connection, ticket⟩) ∨
    ∃ call connection, client.calls session = some call ∧
      call.pc.stage.attempt? = some ⟨connection, ticket⟩

structure PendingOk (client : ClientInner) : Prop where
  begun : ∀ session call, client.calls session = some call → session ∈ client.begun
  stopped : client.shutdown ≠ .idle → client.status = .stopped ∧
    ∀ session call, client.calls session = some call → call.pc.hasReturned = true
  pending : ∀ session pending, client.pendingOpens session = some pending →
    ∃ call, client.calls session = some call ∧ call.pc.stage.MayPend pending
  waiting : ∀ session pending, client.pendingOpens session = some pending →
    client.oneshots pending.ticket = .waiting
  known : ∀ session ticket, client.Owns session ticket → ticket < client.nextTicket
  alone : ∀ first second ticket, client.Owns first ticket → client.Owns second ticket →
    first = second
  unused : ∀ ticket, client.nextTicket ≤ ticket → client.oneshots ticket = .waiting
  completing : ∀ id traffic ticket result, client.traffic id = some traffic →
    traffic.loop.completion? = some (ticket, result) → ticket < client.nextTicket ∧
      ∀ session pending, client.pendingOpens session = some pending → pending.ticket ≠ ticket

theorem Stage.mayPend_of_attempt {stage : Stage} {pending : PendingOpen}
    (attempt : stage.attempt? = some pending) {other : PendingOpen}
    (mayPend : stage.MayPend other) : other = pending := by
  cases stage <;> cases attempt <;> exact mayPend

theorem handle_completion (inbound : Inbound) : inbound.handle.completion? = none := by
  unfold Inbound.handle
  split <;> rfl

theorem LoopMoveOn.completion {id : Nat} {event : LoopEvent} {pc next : LoopPc}
    (move : LoopMoveOn client id event pc next) :
    next.completion? = none := by
  cases move with
  | receive inbound arrived => exact handle_completion inbound
  | _ => rfl

/-- An attempt goes on with the same ticket or ends. -/
theorem StageMove.attempt {expired : Bool} {stage next : Stage}
    (move : StageMove client expired stage next) {pending : PendingOpen}
    (attempt : next.attempt? = some pending) : stage.attempt? = some pending := by
  cases move with
  | stays => exact attempt
  | _ => cases attempt

theorem StageMove.mayPend {expired : Bool} {stage next : Stage} {pending : PendingOpen}
    (move : StageMove client expired stage next) (mayPend : stage.MayPend pending)
    (waiting : client.oneshots pending.ticket = .waiting) : next.MayPend pending := by
  cases move with
  | stays => exact mayPend
  | opened sent =>
      rw [show pending = ⟨_, _⟩ from mayPend, sent] at waiting
      cases waiting
  | unopened | given => exact mayPend.elim
  | _ => trivial

namespace PendingOk

theorem fresh : PendingOk .fresh where
  begun := by rintro session call ⟨⟩
  stopped := by
    intro stopped
    exact absurd rfl stopped
  pending := by rintro session pending ⟨⟩
  waiting := by rintro session pending ⟨⟩
  known := by
    rintro session ticket (⟨connection, ⟨⟩⟩ | ⟨call, connection, ⟨⟩, _⟩)
  alone := by
    rintro first second ticket (⟨connection, ⟨⟩⟩ | ⟨call, connection, ⟨⟩, _⟩)
  unused := fun _ _ => rfl
  completing := by rintro id traffic ticket result ⟨⟩

/-- The entry of a call is the one of its current attempt. -/
theorem pending_eq (ok : PendingOk client) {session : SessionId} {call : OpenCall}
    (found : client.calls session = some call) {attempt pending : PendingOpen}
    (attempting : call.pc.stage.attempt? = some attempt)
    (present : client.pendingOpens session = some pending) : pending = attempt := by
  obtain ⟨other, known, mayPend⟩ := ok.pending session pending present
  rw [found, Option.some.injEq] at known
  subst known
  exact Stage.mayPend_of_attempt attempting mayPend

/-- A call that is being prepared has no pending open. -/
theorem unpending (ok : PendingOk client) {session : SessionId} {call : OpenCall}
    (found : client.calls session = some call) (preparing : call.pc.stage = .preparing) :
    client.pendingOpens session = none := by
  cases present : client.pendingOpens session with
  | none => rfl
  | some pending =>
      obtain ⟨other, known, mayPend⟩ := ok.pending session pending present
      rw [found, Option.some.injEq] at known
      subst known
      rw [preparing] at mayPend
      exact mayPend.elim

/-- Steps that change neither calls nor pending opens. -/
theorem same (ok : PendingOk client) (calls : after.calls = client.calls)
    (begun : after.begun = client.begun) (status : after.status = client.status)
    (shutdown : after.shutdown = client.shutdown)
    (pendingOpens : after.pendingOpens = client.pendingOpens)
    (oneshots : after.oneshots = client.oneshots) (nextTicket : after.nextTicket = client.nextTicket)
    (loops : ∀ id traffic, after.traffic id = some traffic →
      traffic.loop.completion? = none ∨ ∃ old, client.traffic id = some old ∧
        traffic.loop = old.loop) : PendingOk after where
  begun := by
    rw [calls, begun]
    exact ok.begun
  stopped := by
    rw [calls, status, shutdown]
    exact ok.stopped
  pending := by
    rw [calls, pendingOpens]
    exact ok.pending
  waiting := by
    rw [pendingOpens, oneshots]
    exact ok.waiting
  known := by
    unfold ClientInner.Owns
    rw [calls, pendingOpens, nextTicket]
    exact ok.known
  alone := by
    unfold ClientInner.Owns
    rw [calls, pendingOpens]
    exact ok.alone
  unused := by
    rw [nextTicket, oneshots]
    exact ok.unused
  completing := by
    intro id traffic ticket result found completes
    rw [pendingOpens, nextTicket]
    rcases loops id traffic found with idle | ⟨old, present, loop⟩
    · rw [idle] at completes
      cases completes
    · exact ok.completing id old ticket result present (loop ▸ completes)

/-! ### Steps of `open` -/

section

variable {session : SessionId} {call next : OpenCall}

theorem stopped_call (ok : PendingOk client) (found : client.calls session = some call)
    (step : OpenStep config client after session call next) (stopped : after.shutdown ≠ .idle) :
    after.status = .stopped ∧ ∀ other call, after.calls other = some call →
      call.pc.hasReturned = true := by
  rw [step.aside.shutdown] at stopped
  obtain ⟨status, allOver⟩ := ok.stopped stopped
  refine ⟨step.aside.status.trans status, ?_⟩
  intro other call' known
  rw [step.calls] at known
  by_cases same : other = session
  · subst same
    rw [Function.update_self, Option.some.injEq] at known
    exact known ▸ step.onward.returned (allOver other call found)
  · rw [Function.update_of_ne same] at known
    exact allOver other call' known

theorem begun_call (ok : PendingOk client) (found : client.calls session = some call)
    (step : OpenStep config client after session call next) (other : SessionId)
    (call' : OpenCall) (known : after.calls other = some call') : other ∈ after.begun := by
  rw [step.aside.begun]
  rw [step.calls] at known
  by_cases same : other = session
  · exact same ▸ ok.begun session call found
  · rw [Function.update_of_ne same] at known
    exact ok.begun other call' known

/-- A call goes on with the attempt it has, or ends it. -/
theorem onward (ok : PendingOk client) (found : client.calls session = some call)
    (step : OpenStep config client after session call next)
    (attempt : ∀ pending, next.pc.stage.attempt? = some pending →
      call.pc.stage.attempt? = some pending)
    (mayPend : ∀ pending, client.oneshots pending.ticket = .waiting →
      call.pc.stage.MayPend pending → next.pc.stage.MayPend pending)
    (pendingOpens : after.pendingOpens = client.pendingOpens)
    (oneshots : after.oneshots = client.oneshots) (nextTicket : after.nextTicket = client.nextTicket)
    (loops : ∀ id traffic, after.traffic id = some traffic →
      traffic.loop.completion? = none ∨ ∃ old, client.traffic id = some old ∧
        traffic.loop = old.loop) : PendingOk after := by
  have owns : ∀ other ticket, after.Owns other ticket → client.Owns other ticket := by
    rintro other ticket (⟨connection, pending⟩ | ⟨call', connection, known, attempting⟩)
    · exact .inl ⟨connection, pendingOpens ▸ pending⟩
    · rw [step.calls] at known
      by_cases same : other = session
      · subst same
        rw [Function.update_self, Option.some.injEq] at known
        subst known
        exact .inr ⟨call, connection, found, attempt _ attempting⟩
      · rw [Function.update_of_ne same] at known
        exact .inr ⟨call', connection, known, attempting⟩
  constructor
  · exact ok.begun_call found step
  · exact ok.stopped_call found step
  · intro other pending present
    rw [pendingOpens] at present
    obtain ⟨call', known, may⟩ := ok.pending other pending present
    rw [step.calls]
    by_cases same : other = session
    · subst same
      rw [found, Option.some.injEq] at known
      subst known
      exact ⟨next, Function.update_self .., mayPend pending (ok.waiting other pending present) may⟩
    · exact ⟨call', by rw [Function.update_of_ne same, known], may⟩
  · rw [pendingOpens, oneshots]
    exact ok.waiting
  · intro other ticket owned
    rw [nextTicket]
    exact ok.known other ticket (owns other ticket owned)
  · intro first second ticket one two
    exact ok.alone first second ticket (owns first ticket one) (owns second ticket two)
  · rw [nextTicket, oneshots]
    exact ok.unused
  · intro id traffic ticket result present completes
    rw [pendingOpens, nextTicket]
    rcases loops id traffic present with idle | ⟨old, known, loop⟩
    · rw [idle] at completes
      cases completes
    · exact ok.completing id old ticket result known (loop ▸ completes)

/-- The loops of all connections but one stay where they are. -/
theorem loops_update {id : Nat} {queue : List Sent} {loop : LoopPc}
    (traffic : after.traffic = Function.update client.traffic id (some ⟨queue, loop⟩))
    (kept : loop.completion? = none ∨ ∃ old, client.traffic id = some old ∧ loop = old.loop)
    (other : Nat) (found : Traffic) (present : after.traffic other = some found) :
    found.loop.completion? = none ∨ ∃ old, client.traffic other = some old ∧
      found.loop = old.loop := by
  rw [traffic] at present
  by_cases same : other = id
  · subst same
    rw [Function.update_self, Option.some.injEq] at present
    exact present ▸ kept
  · rw [Function.update_of_ne same] at present
    exact .inr ⟨found, present, rfl⟩

/-- A dropped sender is that of the entry that was there. -/
theorem waiting_dropSender (ok : PendingOk client) {other : SessionId} {pending : PendingOpen}
    (different : other ≠ session) (present : client.pendingOpens other = some pending) :
    client.dropSender (client.pendingOpens session) pending.ticket = .waiting := by
  have waiting := ok.waiting other pending present
  cases dropped : client.pendingOpens session with
  | none => exact waiting
  | some old =>
      rw [ClientInner.dropSender, Function.update_of_ne]
      · exact waiting
      · intro same
        refine different (ok.alone other session pending.ticket (.inl ⟨_, present⟩) (.inl ⟨old.connection, ?_⟩))
        rw [dropped, same]

theorem unused_dropSender (ok : PendingOk client) (session : SessionId) (ticket : Nat)
    (above : client.nextTicket ≤ ticket) :
    client.dropSender (client.pendingOpens session) ticket = .waiting := by
  cases dropped : client.pendingOpens session with
  | none => exact ok.unused ticket above
  | some old =>
      have less := ok.known session old.ticket (.inl ⟨old.connection, dropped⟩)
      rw [ClientInner.dropSender, Function.update_of_ne (by omega)]
      exact ok.unused ticket above

theorem attempt (ok : PendingOk client) (found : client.calls session = some call)
    (step : OpenStep config client after session call next) {connection : Nat}
    (there : next.pc.stage = .trying connection client.nextTicket)
    (traffic : after.traffic = client.traffic)
    (pendingOpens : after.pendingOpens = Function.update client.pendingOpens session
      (some ⟨connection, client.nextTicket⟩))
    (oneshots : after.oneshots = client.dropSender (client.pendingOpens session))
    (nextTicket : after.nextTicket = client.nextTicket + 1) : PendingOk after := by
  have owns : ∀ other ticket, after.Owns other ticket →
      (other = session ∧ ticket = client.nextTicket) ∨ client.Owns other ticket := by
    rintro other ticket (⟨connection', pending⟩ | ⟨call', connection', known, attempting⟩)
    · rw [pendingOpens] at pending
      by_cases same : other = session
      · subst same
        rw [Function.update_self, Option.some.injEq, PendingOpen.mk.injEq] at pending
        exact .inl ⟨rfl, pending.2.symm⟩
      · rw [Function.update_of_ne same] at pending
        exact .inr (.inl ⟨connection', pending⟩)
    · rw [step.calls] at known
      by_cases same : other = session
      · subst same
        rw [Function.update_self, Option.some.injEq] at known
        subst known
        rw [there, Stage.attempt?, Option.some.injEq, PendingOpen.mk.injEq] at attempting
        exact .inl ⟨rfl, attempting.2.symm⟩
      · rw [Function.update_of_ne same] at known
        exact .inr (.inr ⟨call', connection', known, attempting⟩)
  constructor
  · exact ok.begun_call found step
  · exact ok.stopped_call found step
  · intro other pending present
    rw [pendingOpens] at present
    rw [step.calls]
    by_cases same : other = session
    · subst same
      rw [Function.update_self, Option.some.injEq] at present
      subst present
      exact ⟨next, Function.update_self .., by rw [there]; exact rfl⟩
    · rw [Function.update_of_ne same] at present ⊢
      exact ok.pending other pending present
  · intro other pending present
    rw [pendingOpens] at present
    rw [oneshots]
    by_cases same : other = session
    · subst same
      rw [Function.update_self, Option.some.injEq] at present
      subst present
      exact ok.unused_dropSender other _ (Nat.le_refl _)
    · rw [Function.update_of_ne same] at present
      exact ok.waiting_dropSender same present
  · intro other ticket owned
    rw [nextTicket]
    rcases owns other ticket owned with ⟨-, rfl⟩ | old
    · omega
    · exact Nat.lt_succ_of_lt (ok.known other ticket old)
  · intro first second ticket one two
    rcases owns first ticket one with ⟨rfl, rfl⟩ | old
    · rcases owns second _ two with ⟨rfl, -⟩ | old'
      · rfl
      · exact absurd (ok.known second _ old') (Nat.lt_irrefl _)
    · rcases owns second _ two with ⟨rfl, rfl⟩ | old'
      · exact absurd (ok.known first _ old) (Nat.lt_irrefl _)
      · exact ok.alone first second ticket old old'
  · rw [nextTicket, oneshots]
    exact fun ticket above => ok.unused_dropSender session ticket (by omega)
  · intro id traffic' ticket result present completes
    rw [traffic] at present
    obtain ⟨less, unowned⟩ := ok.completing id traffic' ticket result present completes
    refine ⟨nextTicket ▸ Nat.lt_succ_of_lt less, ?_⟩
    intro other pending present'
    rw [pendingOpens] at present'
    by_cases same : other = session
    · subst same
      rw [Function.update_self, Option.some.injEq] at present'
      subst present'
      exact fun equal => by simp only at equal; omega
    · rw [Function.update_of_ne same] at present'
      exact unowned other pending present'

/-- A call takes its entry out again. -/
theorem retract (ok : PendingOk client) (found : client.calls session = some call)
    (step : OpenStep config client after session call next)
    (there : next.pc.stage = .preparing) (traffic : after.traffic = client.traffic)
    (pendingOpens : after.pendingOpens = Function.update client.pendingOpens session none)
    (oneshots : after.oneshots = client.dropSender (client.pendingOpens session))
    (nextTicket : after.nextTicket = client.nextTicket) : PendingOk after := by
  have present : ∀ other pending, after.pendingOpens other = some pending →
      other ≠ session ∧ client.pendingOpens other = some pending := by
    intro other pending there
    rw [pendingOpens] at there
    by_cases same : other = session
    · rw [same, Function.update_self] at there
      cases there
    · rw [Function.update_of_ne same] at there
      exact ⟨same, there⟩
  have owns : ∀ other ticket, after.Owns other ticket → client.Owns other ticket := by
    rintro other ticket (⟨connection, pending⟩ | ⟨call', connection, known, attempting⟩)
    · exact .inl ⟨connection, (present other _ pending).2⟩
    · rw [step.calls] at known
      by_cases same : other = session
      · subst same
        rw [Function.update_self, Option.some.injEq] at known
        rw [← known, there] at attempting
        cases attempting
      · rw [Function.update_of_ne same] at known
        exact .inr ⟨call', connection, known, attempting⟩
  constructor
  · exact ok.begun_call found step
  · exact ok.stopped_call found step
  · intro other pending there
    obtain ⟨different, old⟩ := present other pending there
    rw [step.calls, Function.update_of_ne different]
    exact ok.pending other pending old
  · intro other pending there
    obtain ⟨different, old⟩ := present other pending there
    rw [oneshots]
    exact ok.waiting_dropSender different old
  · intro other ticket owned
    rw [nextTicket]
    exact ok.known other ticket (owns other ticket owned)
  · intro first second ticket one two
    exact ok.alone first second ticket (owns first ticket one) (owns second ticket two)
  · rw [nextTicket, oneshots]
    exact ok.unused_dropSender session
  · intro id traffic' ticket result found' completes
    rw [traffic] at found'
    obtain ⟨less, unowned⟩ := ok.completing id traffic' ticket result found' completes
    refine ⟨nextTicket ▸ less, ?_⟩
    intro other pending there
    exact unowned other pending (present other pending there).2

theorem openStep (ok : PendingOk client) (found : client.calls session = some call)
    (step : OpenStep config client after session call next) : PendingOk after := by
  have kept : ∀ id traffic, client.traffic id = some traffic →
      traffic.loop.completion? = none ∨ ∃ old, client.traffic id = some old ∧
        traffic.loop = old.loop := fun id traffic present => .inr ⟨traffic, present, rfl⟩
  cases step.move with
  | quiet same move =>
      refine ok.onward found step (fun pending => move.attempt) ?_ same.pendingOpens same.oneshots
        same.nextTicket (same.traffic ▸ kept)
      exact fun pending waiting mayPend => move.mayPend mayPend waiting
  | connect here there traffic nextConnection pendingOpens oneshots nextTicket =>
      refine ok.onward found step (fun pending => ?_) (fun pending _ => ?_) pendingOpens oneshots
        nextTicket (loops_update traffic (.inl rfl))
      · rw [here, there]
        exact id
      · rw [here, there]
        exact id
  | spawn here there connection queue unspawned traffic nextConnection pendingOpens oneshots
      nextTicket =>
      refine ok.onward found step (fun pending => ?_) (fun pending _ => ?_) pendingOpens oneshots
        nextTicket (loops_update traffic (.inl rfl))
      · rw [here, there]
        exact id
      · rw [here, there]
        exact id
  | attempt target connection here left there traffic nextConnection pendingOpens oneshots
      nextTicket =>
      exact ok.attempt found step there traffic pendingOpens oneshots nextTicket
  | send connection ticket here there queue loop present traffic nextConnection pendingOpens
      oneshots nextTicket =>
      refine ok.onward found step (fun pending => ?_) (fun pending _ => ?_) pendingOpens oneshots
        nextTicket (loops_update traffic (.inr ⟨_, present, rfl⟩))
      · rw [here, there]
        exact id
      · rw [here, there]
        exact id
  | close connection queue loop same present traffic nextConnection pendingOpens oneshots
      nextTicket =>
      refine ok.onward found step (fun pending => ?_) (fun pending _ => ?_) pendingOpens oneshots
        nextTicket (loops_update traffic (.inr ⟨_, present, rfl⟩))
      · rw [same]
        exact id
      · rw [same]
        exact id
  | retract here there traffic nextConnection pendingOpens oneshots nextTicket =>
      exact ok.retract found step there traffic pendingOpens oneshots nextTicket

end

/-! ### Other steps -/

section

variable {event : LoopEvent}

/-- A receive loop takes an entry out, with the right to complete it. -/
theorem take (ok : PendingOk client) {session : SessionId} {id ticket : Nat}
    {connection : TransportConnection} {next : LoopPc}
    (step : LoopStep client after id event connection next)
    (pending : client.pendingOpens session = some ⟨id, ticket⟩)
    (pendingOpens : after.pendingOpens = Function.update client.pendingOpens session none)
    (oneshots : after.oneshots = client.oneshots)
    (completes : ∀ other result, next.completion? = some (other, result) → other = ticket) :
    PendingOk after := by
  have present : ∀ other pending, after.pendingOpens other = some pending →
      other ≠ session ∧ client.pendingOpens other = some pending := by
    intro other pending there
    rw [pendingOpens] at there
    by_cases same : other = session
    · rw [same, Function.update_self] at there
      cases there
    · rw [Function.update_of_ne same] at there
      exact ⟨same, there⟩
  have owns : ∀ other ticket, after.Owns other ticket → client.Owns other ticket := by
    rintro other ticket (⟨connection, pending⟩ | attempting)
    · exact .inl ⟨connection, (present other _ pending).2⟩
    · exact .inr (step.calls ▸ attempting)
  constructor
  · rw [step.calls, step.begun]
    exact ok.begun
  · rw [step.calls, step.status, step.shutdown]
    exact ok.stopped
  · intro other pending there
    rw [step.calls]
    exact ok.pending other pending (present other pending there).2
  · intro other pending there
    rw [oneshots]
    exact ok.waiting other pending (present other pending there).2
  · intro other ticket owned
    rw [step.nextTicket]
    exact ok.known other ticket (owns other ticket owned)
  · intro first second ticket one two
    exact ok.alone first second ticket (owns first ticket one) (owns second ticket two)
  · rw [step.nextTicket, oneshots]
    exact ok.unused
  · intro other traffic ticket' result found completing
    rw [step.nextTicket]
    rw [step.traffic] at found
    by_cases same : other = id
    · rw [same, Function.update_self, Option.some.injEq] at found
      subst found
      obtain rfl := completes ticket' result completing
      refine ⟨ok.known session ticket' (.inl ⟨id, pending⟩), ?_⟩
      intro first old there equal
      obtain ⟨different, old'⟩ := present first old there
      refine different (ok.alone first session ticket' (.inl ⟨old.connection, ?_⟩)
        (.inl ⟨id, pending⟩))
      rw [old', ← equal]
    · rw [Function.update_of_ne same] at found
      obtain ⟨less, unowned⟩ := ok.completing other traffic ticket' result found completing
      exact ⟨less, fun first old there => unowned first old (present first old there).2⟩

/-- A receive loop completes an attempt. -/
theorem complete (ok : PendingOk client) {id ticket : Nat} {result : Option SendError}
    {connection : TransportConnection} {next : LoopPc}
    (found : client.connections id = some connection)
    (step : LoopStep client after id event connection next)
    (completes : connection.loop.completion? = some (ticket, result))
    (idle : next.completion? = none)
    (pendingOpens : after.pendingOpens = client.pendingOpens)
    (oneshots : after.oneshots = Function.update client.oneshots ticket (.sent result)) :
    PendingOk after := by
  obtain ⟨less, unowned⟩ := ok.completing id _ ticket result (ClientInner.traffic_eq_some found)
    completes
  constructor
  · rw [step.calls, step.begun]
    exact ok.begun
  · rw [step.calls, step.status, step.shutdown]
    exact ok.stopped
  · rw [step.calls, pendingOpens]
    exact ok.pending
  · intro session pending present
    rw [pendingOpens] at present
    rw [oneshots, Function.update_of_ne (unowned session pending present)]
    exact ok.waiting session pending present
  · unfold ClientInner.Owns
    rw [step.calls, pendingOpens, step.nextTicket]
    exact ok.known
  · unfold ClientInner.Owns
    rw [step.calls, pendingOpens]
    exact ok.alone
  · intro other above
    rw [step.nextTicket] at above
    rw [oneshots, Function.update_of_ne (by omega)]
    exact ok.unused other above
  · intro other traffic ticket' result' found' completing
    rw [step.nextTicket, pendingOpens]
    rw [step.traffic] at found'
    by_cases same : other = id
    · rw [same, Function.update_self, Option.some.injEq] at found'
      rw [← found', idle] at completing
      cases completing
    · rw [Function.update_of_ne same] at found'
      exact ok.completing other traffic ticket' result' found' completing

theorem loopStep (ok : PendingOk client) {id : Nat} {connection : TransportConnection} {next : LoopPc}
    (found : client.connections id = some connection)
    (step : LoopStep client after id event connection next) : PendingOk after := by
  have loops : next.completion? = none → ∀ other traffic, after.traffic other = some traffic →
      traffic.loop.completion? = none ∨ ∃ old, client.traffic other = some old ∧
        traffic.loop = old.loop := fun idle => loops_update step.traffic (.inl idle)
  have kept : next.completion? = none → after.pendingOpens = client.pendingOpens →
      after.oneshots = client.oneshots → PendingOk after := fun idle pendingOpens oneshots =>
    ok.same step.calls step.begun step.status step.shutdown pendingOpens oneshots step.nextTicket
      (loops idle)
  have move := step.move
  generalize here : connection.loop = pc at move
  cases move with
  | moves pendingOpens oneshots channels receivers move =>
      exact kept move.completion pendingOpens oneshots
  | push pendingOpens oneshots | terminate pendingOpens oneshots =>
      exact kept rfl pendingOpens oneshots
  | take pending pendingOpens oneshots | lose pending pendingOpens oneshots =>
      refine ok.take step pending pendingOpens oneshots ?_
      intro other result completes
      cases completes
      rfl
  | complete completes idle live there pendingOpens oneshots =>
      exact ok.complete found step (here ▸ completes) idle pendingOpens oneshots

end

/-- A new call has no pending open. -/
theorem beginStep (ok : PendingOk client) {session : SessionId} {address : ActorAddress}
    (unknown : client.calls session = none) (running : client.status = .running)
    (calls : after.calls = Function.update client.calls session
      (some ⟨address, .resolving resolveOwner, 0, [], none, false⟩))
    (begun : after.begun = client.begun ++ [session]) (same : SameAttempts client after)
    (shutdown : after.shutdown = client.shutdown) : PendingOk after := by
  have other : ∀ session' call, after.calls session' = some call → session' = session ∧
      call.pc.stage.attempt? = none ∨ client.calls session' = some call := by
    intro session' call known
    rw [calls] at known
    by_cases here : session' = session
    · subst here
      rw [Function.update_self, Option.some.injEq] at known
      exact .inl ⟨rfl, known ▸ rfl⟩
    · rw [Function.update_of_ne here] at known
      exact .inr known
  have owns : ∀ other ticket, after.Owns other ticket → client.Owns other ticket := by
    rintro session' ticket (⟨connection, pending⟩ | ⟨call, connection, known, attempting⟩)
    · exact .inl ⟨connection, same.pendingOpens ▸ pending⟩
    · rcases other session' call known with ⟨-, none⟩ | old
      · rw [none] at attempting
        cases attempting
      · exact .inr ⟨call, connection, old, attempting⟩
  constructor
  · intro session' call known
    rw [begun, List.mem_append, List.mem_singleton]
    rcases other session' call known with ⟨here, -⟩ | old
    · exact .inr here
    · exact .inl (ok.begun session' call old)
  · intro stopped
    rw [shutdown] at stopped
    rw [(ok.stopped stopped).1] at running
    cases running
  · intro session' pending present
    rw [same.pendingOpens] at present
    obtain ⟨call, known, mayPend⟩ := ok.pending session' pending present
    refine ⟨call, ?_, mayPend⟩
    rw [calls, Function.update_of_ne]
    · exact known
    · rintro rfl
      rw [unknown] at known
      cases known
  · rw [same.pendingOpens, same.oneshots]
    exact ok.waiting
  · intro session' ticket owned
    rw [same.nextTicket]
    exact ok.known session' ticket (owns session' ticket owned)
  · intro first second ticket one two
    exact ok.alone first second ticket (owns first ticket one) (owns second ticket two)
  · rw [same.nextTicket, same.oneshots]
    exact ok.unused
  · rw [same.traffic, same.nextTicket, same.pendingOpens]
    exact ok.completing

theorem shutdownStep (ok : PendingOk client) (step : ShutdownStep client after) :
    PendingOk after := by
  have present : ∀ session pending, after.pendingOpens session = some pending →
      client.pendingOpens session = some pending := by
    intro session pending there
    rcases step.pendingOpens with same | ⟨-, cleared⟩
    · exact same ▸ there
    · rw [cleared] at there
      cases there
  have owns : ∀ session ticket, after.Owns session ticket → client.Owns session ticket := by
    rintro session ticket (⟨connection, pending⟩ | attempting)
    · exact .inl ⟨connection, present session _ pending⟩
    · exact .inr (step.calls ▸ attempting)
  constructor
  · rw [step.calls, step.begun]
    exact ok.begun
  · intro stopped
    by_cases idle : client.shutdown = .idle
    · refine ⟨step.stops.2 (.inr idle), ?_⟩
      rw [step.calls]
      exact fun session call known => step.begins idle session (ok.begun session call known) call
        known
    · obtain ⟨status, allOver⟩ := ok.stopped idle
      exact ⟨step.stops.2 (.inl status), step.calls ▸ allOver⟩
  · intro session pending there
    rw [step.calls]
    exact ok.pending session pending (present session pending there)
  · intro session pending there
    rw [step.oneshots]
    exact ok.waiting session pending (present session pending there)
  · intro session ticket owned
    rw [step.nextTicket]
    exact ok.known session ticket (owns session ticket owned)
  · intro first second ticket one two
    exact ok.alone first second ticket (owns first ticket one) (owns second ticket two)
  · rw [step.nextTicket, step.oneshots]
    exact ok.unused
  · intro id traffic ticket result found completes
    rw [step.traffic] at found
    rw [step.nextTicket]
    obtain ⟨less, unowned⟩ := ok.completing id traffic ticket result found completes
    exact ⟨less, fun session pending there => unowned session pending (present session pending there)⟩

theorem sameOpens (ok : PendingOk client) (same : SameOpens client after)
    (loops : ∀ id traffic, after.traffic id = some traffic →
      traffic.loop.completion? = none ∨ ∃ old, client.traffic id = some old ∧
        traffic.loop = old.loop) : PendingOk after :=
  ok.same same.calls same.begun same.status same.shutdown same.pendingOpens same.oneshots
    same.nextTicket loops

theorem move (ok : PendingOk client) {event : ClientEvent}
    (move : ClientMove config client after event) : PendingOk after := by
  have kept : after.traffic = client.traffic → ∀ id traffic, after.traffic id = some traffic →
      traffic.loop.completion? = none ∨ ∃ old, client.traffic id = some old ∧
        traffic.loop = old.loop := fun same id traffic present => .inr ⟨traffic, same ▸ present, rfl⟩
  cases move with
  | begin unknown running calls receivers begun same channels sends status shutdown =>
      exact ok.beginStep unknown running calls begun same shutdown
  | call found step => exact ok.openStep found step
  | loop found step => exact ok.loopStep found step
  | transmit found traffic same | act _ _ found traffic _ same =>
      exact ok.sameOpens same (loops_update traffic (.inr ⟨_, found, rfl⟩))
  | hangUp traffic same | send traffic same | sending traffic _ same =>
      exact ok.sameOpens same (kept traffic)
  | recv found channels traffic same => exact ok.sameOpens same (kept traffic)
  | shutdown step => exact ok.shutdownStep step

theorem reachable (reach : (clientSystem config).Reachable client) : PendingOk client := by
  refine invariant_of_step PendingOk ?_ ?_ reach
  · rintro _ rfl
    exact fresh
  · intro before event after ok _ stepped
    exact ok.move (ClientInner.step?_moves stepped)

end PendingOk

end Coactor.Client
