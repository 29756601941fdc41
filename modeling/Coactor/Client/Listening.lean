import Coactor.Client.Reception

/-!
# The attempt that a call listens to

A call listens to an attempt from its `SessionOpen` until the attempt has ended,
or for good once it is acknowledged.  It begins to listen only where it sends.
-/

namespace Coactor.Client

open Coactor.Coordination
open Coactor.Foundation
open Coactor.Runtime

variable {config : ClientConfig} {client after : ClientInner} {session : SessionId}
  {call next : OpenCall} {event : OpenEvent}

/-- The connection of the attempt that awaits its answer or was acknowledged. -/
def Stage.listens? : Stage → Option Nat
  | .awaiting connection _ => some connection
  | .returned connection => connection
  | _ => none

/-- A call listens on a connection after it has sent so many `SessionOpen`
messages. -/
def ClientInner.Listens (client : ClientInner) (session : SessionId) (connection sent : Nat) :
    Prop :=
  ∃ call, client.calls session = some call ∧ call.pc.stage.listens? = some connection ∧
    call.attempts = sent

/-- The number of `SessionOpen` messages sent for a Session. -/
def ClientInner.opens (client : ClientInner) (session : SessionId) : Nat :=
  (client.calls session).elim 0 OpenCall.attempts

theorem ClientInner.Listens.opens {connection sent : Nat}
    (listens : client.Listens session connection sent) : client.opens session = sent := by
  obtain ⟨call, known, -, rfl⟩ := listens
  simp only [ClientInner.opens, known, Option.elim_some]

theorem ClientInner.Listens.unique {connection other sent later : Nat}
    (listens : client.Listens session connection sent) (again : client.Listens session other later) :
    other = connection ∧ later = sent := by
  obtain ⟨call, known, here, rfl⟩ := listens
  obtain ⟨same, known', here', rfl⟩ := again
  obtain rfl := Option.some.inj (known.symm.trans known')
  exact ⟨Option.some.inj (here'.symm.trans here), rfl⟩

/-! ## Beginning to listen -/

theorem StageMove.listens {expired : Bool} {stage onward : Stage} {connection : Nat}
    (move : StageMove client expired stage onward) (listens : onward.listens? = some connection) :
    stage.listens? = some connection := by
  cases move with
  | stays => exact listens
  | opened sent => exact listens
  | _ => cases listens

/-- A call that listens has just sent, or listened before to the same attempt. -/
theorem OpenMove.listens (move : OpenMove config client after session call next) {connection : Nat}
    (listens : next.pc.stage.listens? = some connection) :
    call.pc.stage.listens? = some connection ∨
      (∃ ticket, call.pc.stage = .trying connection ticket) ∧
        ∃ ticket, next.pc.stage = .awaiting connection ticket := by
  have prepared : next.pc.stage ≠ .preparing := by
    intro there
    rw [there] at listens
    cases listens
  cases move with
  | quiet same move => exact .inl (move.listens listens)
  | connect here there | spawn here there | retract here there => exact absurd there prepared
  | attempt target id here left there =>
      rw [there] at listens
      cases listens
  | send id ticket here there =>
      rw [there] at listens
      cases listens
      exact .inr ⟨⟨ticket, here⟩, ticket, there⟩
  | close id queue loop same => exact .inl (same ▸ listens)

theorem CallMove.attempts_of_listens {entries : List OpenEntry} {connection : Nat}
    (move : CallMove config client call next event entries)
    (listened : call.pc.stage.listens? = some connection)
    (listens : next.pc.stage.listens? = some connection) : next.attempts = call.attempts := by
  cases move with
  | kept same => exact same.attempts
  | sent target id ticket found here =>
      rw [here] at listened
      cases listened
  | unacquired target here onward =>
      rw [onward, ClientInner.unacquired_stage] at listens
      cases listens
  | retried target error here retries left onward =>
      rw [onward, ClientInner.unacquired_stage] at listens
      cases listens

/-- A call that comes to await an answer has sent its `SessionOpen`. -/
theorem CallMove.sent_of_awaiting {entries : List OpenEntry} {connection ticket again : Nat}
    (move : CallMove config client call next event entries)
    (here : call.pc.stage = .trying connection ticket)
    (there : next.pc.stage = .awaiting connection again) :
    ∃ target endpoint, call.pc = .sending target connection ticket ∧
      entries = [.sent connection endpoint] := by
  cases move with
  | kept same move =>
      have trying : ∃ target, call.pc.phase = .trying target := by
        generalize call.pc = pc at here
        cases pc with
        | checking target | sending target => exact ⟨target, rfl⟩
        | unbinding target id onward | uncounting target id onward => cases onward <;> cases here
        | _ => cases here
      have awaiting : ∃ target, next.pc.phase = .awaiting target := by
        generalize next.pc = pc at there
        cases pc with
        | awaiting target => exact ⟨target, rfl⟩
        | unbinding target id onward | uncounting target id onward => cases onward <;> cases there
        | _ => cases there
      obtain ⟨target, before⟩ := trying
      obtain ⟨later, waits⟩ := awaiting
      rw [before, waits] at move
      cases move
  | sent target id other found sending waiting present attempts excluded failedLiveOwner noted =>
      have same := here
      rw [sending] at same
      cases same
      exact ⟨target, found.endpoint, sending, noted⟩
  | unacquired target acquiring onward =>
      rw [onward, ClientInner.unacquired_stage] at there
      cases there
  | retried target error cleaning retries left onward =>
      rw [onward, ClientInner.unacquired_stage] at there
      cases there

/-- The step sends a `SessionOpen` for this Session on this connection. -/
def ClientInner.SendsOpen (client : ClientInner) (event : ClientEvent) (session : SessionId)
    (connection : Nat) : Prop :=
  ∃ openEvent call target ticket endpoint, event = .call session openEvent ∧
    client.calls session = some call ∧ call.pc = .sending target connection ticket ∧
    client.noted session call call.pc openEvent = [.sent connection endpoint]

/-- Who listens after a step has listened before, or has just sent its
`SessionOpen`. -/
theorem ClientEffect.listens {event : ClientEvent} (effect : ClientEffect config client after event)
    (move : ClientMove config client after event) {connection sent : Nat}
    (listens : after.Listens session connection sent) :
    client.Listens session connection sent ∨ client.SendsOpen event session connection := by
  obtain ⟨current, known, listening, rfl⟩ := listens
  cases effect with
  | @begin begun address unknown calls =>
      rw [calls] at known
      by_cases same : session = begun
      · rw [same, Function.update_self, Option.some.injEq] at known
        rw [← known] at listening
        cases listening
      · rw [Function.update_of_ne same] at known
        exact .inl ⟨current, known, listening, rfl⟩
  | @call own openEvent call next found effect =>
      rw [effect.calls] at known
      by_cases same : session = own
      · subst same
        rw [Function.update_self, Option.some.injEq] at known
        subst known
        cases move with
        | call found' step =>
            obtain rfl := Option.some.inj (found.symm.trans found')
            have onward := congrFun (step.calls.symm.trans effect.calls) session
            rw [Function.update_self, Function.update_self, Option.some.injEq] at onward
            subst onward
            rcases step.move.listens listening with before | ⟨⟨ticket, here⟩, again, there⟩
            · exact .inl ⟨call, found, before,
                (effect.move.attempts_of_listens before listening).symm⟩
            · obtain ⟨target, endpoint, sending, noted⟩ := effect.move.sent_of_awaiting here there
              exact .inr ⟨openEvent, call, target, ticket, endpoint, rfl, found, sending, noted⟩
      · rw [Function.update_of_ne same] at known
        exact .inl ⟨current, known, listening, rfl⟩
  | other outside calls =>
      rw [calls] at known
      exact .inl ⟨current, known, listening, rfl⟩

/-! ## Listening and bound sets -/

theorem bound_of_listens {pc : OpenPc} {connection other : Nat}
    (listens : pc.stage.listens? = some connection)
    (bound : pc.bound? = some other ∨ pc = .abandoned) : other = connection := by
  cases pc with
  | awaiting | opened | dropUnregistering | dropUnbinding =>
      cases listens
      obtain here := bound.resolve_right (by rintro ⟨⟩)
      exact (Option.some.inj here).symm
  | unbinding target id onward | uncounting target id onward => cases onward <;> cases listens
  | dropUncounting | dropChecking | dropSending | dropped =>
      cases bound.resolve_right (by rintro ⟨⟩)
  | _ => cases listens

/-- A Session that listens is in the bound set of no other connection. -/
theorem Tidy.bound_listens (tidy : Tidy client) {connection other sent : Nat}
    (listens : client.Listens session connection sent)
    (bound : client.isBound other session = true) : other = connection := by
  obtain ⟨call, known, listening, -⟩ := listens
  rw [ClientInner.isBound, Option.any_eq_true] at bound
  obtain ⟨found, present, member⟩ := bound
  obtain ⟨current, known', here⟩ := tidy.bound other session ⟨found.binding,
    congrArg (Option.map TransportConnection.binding) present, of_decide_eq_true member⟩
  obtain rfl := Option.some.inj (known.symm.trans known')
  exact bound_of_listens listening here

end Coactor.Client
