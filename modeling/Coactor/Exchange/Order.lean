import Coactor.Exchange.Carriage
import Coactor.Exchange.Stamps

/-!
# Actions in the order of their sending

Read from the mailbox of a task back to the queue of its connection, the Actions of
a Session stand in the order in which it sent them.  They may be lost on the way.
As long as no task starts beside another one of its address that can still take
messages, the callbacks begin in this order as well.
-/

namespace Coactor.Exchange

open Coactor.Client
open Coactor.Coordination
open Coactor.Foundation
open Coactor.Foundation.Transition
open Coactor.Runtime

variable {config : ExchangeConfig} {before after network : Network} {event : ExchangeEvent}
  {connection id generation : Nat} {session : SessionId}

/-! ## One step -/

/-- The Actions of one Session wait for at most one task. -/
theorem Posted.backlog_unique (posted : Posted config network) (own : config.own session = true)
    (succeeding : ∀ id, (network.servers id).Succeeding) {place other : Nat × Nat}
    (different : place ≠ other) :
    network.backlog place session = [] ∨ network.backlog other session = [] := by
  obtain ⟨id, generation⟩ := place
  obtain ⟨server, last⟩ := other
  by_contra both
  rw [not_or] at both
  obtain ⟨one, first, found, mayOne, linked, posts⟩ := posted.backlog own both.1
  obtain ⟨two, second, known, mayTwo, leads, again⟩ := posted.backlog own both.2
  obtain ⟨rfl, shared⟩ := posts.unique again
  obtain rfl := Option.some.inj (linked.symm.trans leads)
  obtain rfl := succeeding id generation last one two found known shared mayOne mayTwo
  exact different rfl

/-- The Actions of a Session from the callbacks that have begun back to the queue of
a connection, through the mailbox of one task. -/
def Network.path (network : Network) (connection : Nat) (place : Nat × Nat)
    (session : SessionId) : List (List UInt8) :=
  network.journal.handledOf session ++
    (network.backlog place session ++ network.outbound connection session)

/-- Every path is ordered after a step because some path was before it. -/
theorem Carriage.forwards (carriage : Carriage before after session)
    (posted : Posted config before) (succeeding : ∀ id, (before.servers id).Succeeding)
    (own : config.own session = true) (connection : Nat) (place : Nat × Nat) :
    ∃ connection' place', Conveys (before.path connection' place' session)
      (before.journal.sentOf session) (after.path connection place session)
      (after.journal.sentOf session) := by
  cases carriage with
  | hands backlog handled outbound =>
      refine ⟨connection, place, ?_⟩
      obtain ⟨new, moved, recorded⟩ := outbound connection
      refine ⟨new, ?_, recorded⟩
      rw [Network.path, Network.path, handled, backlog, List.append_assoc, List.append_assoc]
      exact (moved.append_left _).append_left _
  | @gives holder target given sent handled left others entered elsewhere =>
      have entered : (after.backlog place session).Sublist (before.backlog place session ++ given) := by
        by_cases here : place = target
        · exact here ▸ entered
        · exact (elsewhere place here).trans (List.sublist_append_left _ _)
      have conveys : ∀ connection', (after.backlog place session ++
            after.outbound connection session).Sublist
          (before.backlog place session ++ before.outbound connection' session) →
          ∃ connection' place', Conveys (before.path connection' place' session)
            (before.journal.sentOf session) (after.path connection place session)
            (after.journal.sentOf session) := by
        intro connection' moved
        refine ⟨connection', place, .of_sublist ?_ (sent ▸ .refl _)⟩
        rw [Network.path, Network.path, handled]
        exact moved.append_left _
      by_cases here : connection = holder
      · subst here
        refine conveys connection ((entered.append_right _).trans ?_)
        rw [List.append_assoc]
        exact left.append_left _
      · rw [others connection here] at conveys
        rcases posted.outbound_unique here with empty | empty
        · refine conveys holder ?_
          rw [empty, List.append_nil]
          exact entered.trans (((List.sublist_append_left _ _).trans left).append_left _)
        · rw [empty, List.sublist_nil, List.append_eq_nil_iff] at left
          rw [left.1, List.append_nil] at entered
          exact conveys connection (entered.append_right _)
  | @takes source taken sent handled outbound first elsewhere =>
      have conveys : ∀ place', (taken ++ after.backlog place session).Sublist
            (before.backlog place' session) →
          ∃ connection' place', Conveys (before.path connection' place' session)
            (before.journal.sentOf session) (after.path connection place session)
            (after.journal.sentOf session) := by
        intro place' moved
        refine ⟨connection, place', .of_sublist ?_ (sent ▸ .refl _)⟩
        rw [Network.path, Network.path, handled, outbound, List.append_assoc,
          ← List.append_assoc taken]
        exact (moved.append_right _).append_left _
      by_cases here : place = source
      · exact conveys source (here ▸ first)
      · rcases posted.backlog_unique own succeeding here with empty | empty
        · refine conveys source ?_
          have kept := elsewhere place here
          rw [empty, List.sublist_nil] at kept
          rw [kept, List.append_nil]
          exact (List.sublist_append_left _ _).trans first
        · rw [empty, List.sublist_nil, List.append_eq_nil_iff] at first
          refine conveys place ?_
          rw [first.1, List.nil_append]
          exact elsewhere place here

/-! ## The run -/

/-- In every run in which no task starts beside another one of its address that can
still take messages, the Actions of a Session whose callbacks have begun are Actions
that it has sent, each at most once and in the order of their sending. -/
theorem actions_are_handled_in_order
    (reach : (exchangeSystem config).ReachableWhile Network.Unrivaled network)
    (session : SessionId) (own : config.own session = true) :
    (network.journal.handledOf session).Sublist (network.journal.sentOf session) := by
  have paths : ∀ connection place,
      (network.path connection place session).Sublist (network.journal.sentOf session) := by
    refine invariant_of_reachable_step (fun network : Network => ∀ connection place,
      (network.path connection place session).Sublist (network.journal.sentOf session)) ?_ ?_ reach
    · rintro _ rfl connection place
      exact .refl _
    · intro before event after earlier ordered _ stepped connection place
      have posted := Posted.reachable earlier
      have carriage := @NetworkMove.carriage _ _ _ _ session (Network.step?_moves stepped) posted
        (linksMade_of_reachable (reachable_of_reachableWhile earlier)) own
      obtain ⟨other, last, conveys⟩ := carriage.forwards posted
        (fun id => succeeding_of_reachable (server_reachable_of_unrivaled earlier id)) own
        connection place
      exact conveys.ordered (ordered other last)
  exact (List.sublist_append_left _ _).trans (paths 0 (0, 0))

/-! ## Two Actions -/

/-- No Server starts a task after its status has left `RUNNING`. -/
def unrivaled? (network : Network) : ExchangeEvent → Bool
  | .server id authorityValid event => !lateActivation (network.servers id) (authorityValid, event)
  | _ => true

theorem unrivaled_of_check (checked : unrivaled? network event = true) :
    network.Unrivaled event := by
  rintro id authorityValid serverEvent rfl late
  rw [unrivaled?, late] at checked
  cases checked

/-- `send` hands an Action to the connection, which comes to the section of
`dispatch_message` under the actors lock. -/
def actedOn (index : Nat) (payload : List UInt8) : List ExchangeEvent :=
  onClient [.send ⟨7⟩ payload, .sending index, .sending index] ++ [.transmit 1, .receive 1] ++
    .replicate 4 (.server 0 true (.conn 1 (.advance false)))

def openOnServer : List ExchangeEvent :=
  attemptOn 0 [.begin ⟨7⟩ cartAddress] [shop "node-a" "host-a"] ["host-a"] ++ servedOn 0 1 ++
    returnedOn 0 1

def twoActions : List ExchangeEvent :=
  openOnServer ++ actedOn 0 [1] ++ [.server 0 true (.conn 1 (.advance false))] ++ actedOn 1 [2] ++
    [.server 0 true (.conn 1 (.advance false)), .server 0 true (.task 1 .advance),
      .server 0 true (.task 1 (.returned true)), .server 0 true (.task 1 .advance)]

theorem two_actions_are_in_order :
    ∃ network, (exchangeSystem market).ReachableWhile Network.Unrivaled network ∧
      network.journal.sentOf ⟨7⟩ = [[1], [2]] ∧ network.journal.handledOf ⟨7⟩ = [[1], [2]] ∧
      (network.journal.handledOf ⟨7⟩).Sublist (network.journal.sentOf ⟨7⟩) := by
  have meets : (exchangeSystem market).Meets Network.Unrivaled (.fresh market) twoActions :=
    @meets_mono _ _ _ (fun network event => unrivaled? network event = true) _
      (fun _ _ => unrivaled_of_check) _ _ (meets_of_meets? rfl)
  have reach := @reachableWhile_of_run? _ _ (exchangeSystem market) _ _ _ twoActions (.start rfl)
    meets rfl
  exact ⟨_, reach, rfl, rfl, @actions_are_handled_in_order market _ reach ⟨7⟩ rfl⟩

/-- Shutdown closes the mailbox of an actor on its first Action; the second one has
passed the status check and starts another actor. -/
def overtaken : List ExchangeEvent :=
  openOnServer ++ actedOn 0 [1] ++ [.server 0 true (.conn 1 (.advance false))] ++ actedOn 1 [2] ++
    [.server 0 true (.shutdown false), .server 0 true (.task 1 .advance),
      .server 0 true (.task 1 .advance), .server 0 true (.conn 1 (.advance false))] ++
    ([.advance, .activation .activated, .advance].map fun event => .server 0 true (.task 2 event)) ++
    [.server 0 true (.task 1 .advance)]

/-- Without the condition an Action can overtake an earlier one of its Session. -/
theorem late_action_overtakes :
    ∃ network, (exchangeSystem market).Reachable network ∧
      network.journal.sentOf ⟨7⟩ = [[1], [2]] ∧ network.journal.handledOf ⟨7⟩ = [[2], [1]] := by
  have reach := @reachable_of_run? _ _ (exchangeSystem market) _ _ overtaken rfl rfl
  exact ⟨_, reach, rfl, rfl⟩

end Coactor.Exchange
