import Coactor.Exchange.Order
import Coactor.Runtime.Deliveries

/-!
# Actions at most once

Counted over the callbacks that have begun, any mailboxes and one connection, an
Action of a Session is never found more often than the Session has sent it.  Each
one is handled by an actor of the Actor that its Session was opened for, on the
Server to which the connection of the Session leads.
-/

namespace Coactor.Exchange

open Coactor.Client
open Coactor.Coordination
open Coactor.Foundation
open Coactor.Foundation.Transition
open Coactor.Runtime

variable {config : ExchangeConfig} {before after network : Network} {event : ExchangeEvent}
  {session : SessionId} {payload : List UInt8}

/-! ## Counting -/

/-- How often an Action of a Session is found. -/
def Network.load (network : Network) (connection : Nat) (places : Finset (Nat × Nat))
    (session : SessionId) (payload : List UInt8) : Nat :=
  (network.journal.handledOf session).count payload +
    ∑ place ∈ places, (network.backlog place session).count payload +
    (network.outbound connection session).count payload

/-- A step adds to the load no more than the Session has sent. -/
theorem Carriage.load (carriage : Carriage before after session) (posted : Posted config before)
    (connection : Nat) (places : Finset (Nat × Nat)) :
    ∃ connection' places' new, after.load connection places session payload ≤
        before.load connection' places' session payload + new ∧
      (before.journal.sentOf session).count payload + new ≤
        (after.journal.sentOf session).count payload := by
  cases carriage with
  | hands backlog handled outbound =>
      obtain ⟨new, moved, recorded⟩ := outbound connection
      have moved := moved.count_le payload
      have recorded := recorded.count_le payload
      rw [List.count_append] at moved recorded
      refine ⟨connection, places, new.count payload, ?_, recorded⟩
      simp only [Network.load, handled, backlog]
      omega
  | @gives holder target given sent handled left others entered elsewhere =>
      have left := left.count_le payload
      have entered := entered.count_le payload
      rw [List.count_append] at left entered
      have gained := sum_le_of_gain entered
        (fun place different => (elsewhere place different).count_le payload) places
      by_cases here : connection = holder
      · subst here
        refine ⟨connection, places, 0, ?_, Nat.le_of_eq (by rw [sent, Nat.add_zero])⟩
        simp only [Network.load, handled]
        omega
      · have unmoved := others connection here
        rcases @Posted.outbound_unique _ _ _ session posted _ here with empty | empty
        · refine ⟨holder, places, 0, ?_, Nat.le_of_eq (by rw [sent, Nat.add_zero])⟩
          simp only [Network.load, handled, unmoved, empty, List.count_nil]
          omega
        · refine ⟨connection, places, 0, ?_, Nat.le_of_eq (by rw [sent, Nat.add_zero])⟩
          rw [empty, List.count_nil] at left
          simp only [Network.load, handled, unmoved]
          omega
  | @takes source taken sent handled outbound first elsewhere =>
      have first := first.count_le payload
      rw [List.count_append] at first
      have lost := sum_le_of_loss first
        (fun place different => (elsewhere place different).count_le payload) places
      refine ⟨connection, insert source places, 0, ?_, Nat.le_of_eq (by rw [sent, Nat.add_zero])⟩
      simp only [Network.load, handled, outbound, List.count_append]
      omega

/-- Anywhere along its way, an Action is found no more often than it was sent. -/
theorem load_le_sent (reach : (exchangeSystem config).Reachable network)
    (own : config.own session = true) (connection : Nat) (places : Finset (Nat × Nat))
    (payload : List UInt8) : network.load connection places session payload ≤
      (network.journal.sentOf session).count payload := by
  refine invariant_of_reachable_step (fun network : Network => ∀ connection places payload,
    network.load connection places session payload ≤
      (network.journal.sentOf session).count payload) ?_ ?_ reach connection places payload
  · rintro _ rfl connection places payload
    have none : ∀ place, (Network.fresh config).backlog place session = [] := fun _ => rfl
    simp only [Network.load, none, List.count_nil, Finset.sum_const_zero]
    exact Nat.le_refl _
  · intro before event after earlier bounded _ stepped connection places payload
    have posted := Posted.reachable earlier
    have carriage := @NetworkMove.carriage _ _ _ _ session (Network.step?_moves stepped) posted
      (linksMade_of_reachable earlier) own
    obtain ⟨other, others, new, grown, recorded⟩ :=
      @Carriage.load _ _ _ _ payload carriage posted connection places
    exact (grown.trans (Nat.add_le_add_right (bounded other others payload) new)).trans recorded

/-- An Action is handled no more often than it was sent. -/
theorem count_handled_le_sent (reach : (exchangeSystem config).Reachable network)
    (own : config.own session = true) (payload : List UInt8) :
    (network.journal.handledOf session).count payload ≤
      (network.journal.sentOf session).count payload := by
  have bounded := load_le_sent reach own 0 ∅ payload
  simp only [Network.load, Finset.sum_empty] at bounded
  omega

/-- In every run, the Actions of a Session whose callbacks have begun are among the
Actions that it has sent, each one at most as often as it was sent. -/
theorem actions_are_handled_at_most_once (reach : (exchangeSystem config).Reachable network)
    (session : SessionId) (own : config.own session = true) :
    (network.journal.handledOf session).Subperm (network.journal.sentOf session) :=
  List.subperm_ext_iff.mpr fun payload _ => count_handled_le_sent reach own payload

/-- Both Actions of a run in which the second one overtakes the first. -/
theorem overtaken_actions_are_handled_once :
    ∃ network, (exchangeSystem market).Reachable network ∧
      network.journal.handledOf ⟨7⟩ = [[2], [1]] ∧
      (network.journal.handledOf ⟨7⟩).Subperm (network.journal.sentOf ⟨7⟩) := by
  have reach := @reachable_of_run? _ _ (exchangeSystem market) _ _ overtaken rfl rfl
  exact ⟨_, reach, rfl, @actions_are_handled_at_most_once market _ reach ⟨7⟩ rfl⟩

/-! ## Who handles an Action -/

/-- A task stays, and stays one of its address. -/
theorem ServerMove.task_stays {server later : Server} {runtime : RuntimeConfig}
    {serverEvent : ServerEvent} (ok : RoutesOk server)
    (move : ServerMove runtime server later serverEvent) {generation : Nat} {task : ActorTask}
    (found : server.tasks generation = some task) :
    ∃ current, later.tasks generation = some current ∧ current.address = task.address := by
  have marked : ControlEffect server later →
      ∃ current, later.tasks generation = some current ∧ current.address = task.address := by
    intro effect
    obtain ⟨mark, same, tasks⟩ := effect.tasks generation
    exact ⟨mark task, by rw [tasks, found, Option.map_some], (same task).address⟩
  cases move with
  | conn control others move => exact move.task_stays ok found
  | @task own event old next known effect move =>
      rw [effect.tasks]
      by_cases same : generation = own
      · subst same
        obtain rfl := Option.some.inj (found.symm.trans known)
        exact ⟨next, Function.update_self .., effect.address⟩
      · exact ⟨task, by rw [Function.update_of_ne same, found], rfl⟩
  | shutdown effect | fence effect => exact marked effect

/-- The Action of a callback that a step begins was in the mailbox of the task. -/
theorem holds_of_begun {server later : Server} {runtime : RuntimeConfig}
    {serverEvent : ServerEvent} {generation : Nat}
    (move : ServerMove runtime server later serverEvent)
    (begun : begunBy server later serverEvent = some (generation, .action session payload)) :
    ∃ task, server.tasks generation = some task ∧
      server.Holds generation task.address session payload := by
  cases move with
  | @task own event old next known effect move =>
      have there : later.tasks own = some next := by rw [effect.tasks, Function.update_self]
      obtain ⟨address, pc, mailbox, closed, shutdownSignal, abortRequested, completed⟩ := next
      rcases move.call with ⟨message, draining, first, rfl, idle⟩ | ⟨idle, -⟩
      · simp only [begunBy, known, there, idle, if_false, Option.some.injEq, Prod.mk.injEq,
          Bool.false_eq_true] at begun
        obtain ⟨rfl, rfl⟩ := begun
        refine ⟨old, known, old, known, rfl, ?_⟩
        rw [first]
        exact List.mem_cons_self
      · cases pc with
        | executing => cases idle
        | _ => simp [begunBy, known, there] at begun
  | _ => cases begun

/-- A callback has begun before, or the step of a Server begins it. -/
theorem NetworkMove.calls_origin (move : NetworkMove config before event after) {id : Nat}
    {call : Nat × MailboxMessage} (member : (id, call) ∈ after.journal.calls) :
    (id, call) ∈ before.journal.calls ∨
      ∃ serverEvent, ServerMove (config.runtime id) (before.servers id) (after.servers id)
          serverEvent ∧
        begunBy (before.servers id) (after.servers id) serverEvent = some call := by
  cases move with
  | @server other authorityValid serverEvent server allowed foreign stepped =>
      refine (List.mem_append.mp member).imp_right fun last => ?_
      obtain ⟨begun, here, same⟩ := List.mem_map.mp last
      obtain ⟨rfl, rfl⟩ := Prod.mk.inj same
      simp only [Function.update_self]
      exact ⟨serverEvent, Server.step?_moves stepped, Option.mem_toList.mp here⟩
  | @deliver index delivery found =>
      refine .inl ?_
      unfold Network.delivered at member
      split at member <;> exact member
  | _ => exact .inl member

/-- Every Action whose callback has begun is of a Session that posts to the Actor of
the task, over a connection to its Server. -/
def Reached (config : ExchangeConfig) (network : Network) : Prop :=
  ∀ id generation session payload,
    (id, generation, .action session payload) ∈ network.journal.calls →
    config.own session = true →
    ∃ task connection, (network.servers id).tasks generation = some task ∧
      network.links connection = some id ∧ network.Posts session connection task.address

theorem Reached.step (reached : Reached config before) (posted : Posted config before)
    (ok : ∀ id, RoutesOk (before.servers id)) (made : LinksMade before)
    (stepped : (exchangeSystem config).step? before event = some after) : Reached config after := by
  intro id generation session payload member own
  have move := Network.step?_moves stepped
  have links := (grows_of_step made stepped).links
  have stays : ∀ task connection, (before.servers id).tasks generation = some task →
      before.links connection = some id → before.Posts session connection task.address →
      ∃ task connection, (after.servers id).tasks generation = some task ∧
        after.links connection = some id ∧ after.Posts session connection task.address := by
    intro task connection found linked posts
    rcases move.server_step id with same | ⟨authorityValid, serverEvent, moved, -⟩
    · exact ⟨task, connection, same ▸ found, links _ _ linked, posts.step move⟩
    · obtain ⟨current, known, here⟩ :=
        ServerMove.task_stays (ok id) (Server.step?_moves moved) found
      exact ⟨current, connection, known, links _ _ linked, here ▸ posts.step move⟩
  rcases move.calls_origin member with earlier | ⟨serverEvent, moved, begun⟩
  · obtain ⟨task, connection, found, linked, posts⟩ :=
      reached id generation session payload earlier own
    exact stays task connection found linked posts
  · obtain ⟨task, found, holds⟩ := holds_of_begun moved begun
    obtain ⟨connection, linked, posts⟩ :=
      posted.mailbox id generation task.address session payload own holds
    exact stays task connection found linked posts

/-- An Action that is handled has been sent by its Session. -/
theorem sent_of_handled (reach : (exchangeSystem config).Reachable network)
    {id generation : Nat}
    (handled : (id, generation, .action session payload) ∈ network.journal.calls)
    (own : config.own session = true) : payload ∈ network.journal.sentOf session := by
  have listed : payload ∈ network.journal.handledOf session :=
    List.mem_filterMap.mpr ⟨_, handled, by simp [handledPayload?, MailboxMessage.payloadOf?]⟩
  exact List.count_pos_iff.mp
    ((List.count_pos_iff.mpr listed).trans_le (count_handled_le_sent reach own payload))

/-- In every run, an Action that is handled for a Session was accepted by its send, and
is handled only by an actor of the Actor that `open` was called for, on the Server to
which the connection returned by it leads. -/
theorem actions_reach_their_actor (reach : (exchangeSystem config).Reachable network)
    {id generation : Nat}
    (handled : (id, generation, .action session payload) ∈ network.journal.calls)
    (own : config.own session = true) :
    payload ∈ network.journal.sentOf session ∧
      ∃ task call connection, (network.servers id).tasks generation = some task ∧
        network.client.calls session = some call ∧ call.address = task.address ∧
        call.pc.stage = .returned (some connection) ∧ network.links connection = some id := by
  have reached : Reached config network := by
    refine invariant_of_reachable_step (Reached config) ?_ ?_ reach
    · rintro _ rfl id generation session payload ⟨⟩
    · intro before event after earlier reached _ stepped
      refine reached.step (.reachable earlier) (fun id => ?_) (linksMade_of_reachable earlier)
        stepped
      exact routesOk_of_reachable (server_reachable (fun _ _ _ _ _ _ _ => trivial) earlier id)
  obtain ⟨task, connection, found, linked, call, known, here, returned⟩ :=
    reached id generation session payload handled own
  exact ⟨sent_of_handled reach handled own, task, call, connection, found, known, here, returned,
    linked⟩

theorem overtaking_action_reaches_its_actor :
    ∃ network, (exchangeSystem market).Reachable network ∧
      [2] ∈ network.journal.sentOf ⟨7⟩ ∧
      ∃ task call connection, (network.servers 0).tasks 2 = some task ∧
        network.client.calls ⟨7⟩ = some call ∧ call.address = task.address ∧
        call.pc.stage = .returned (some connection) ∧ network.links connection = some 0 := by
  have reach := @reachable_of_run? _ _ (exchangeSystem market) _ _ overtaken rfl rfl
  refine ⟨_, reach, @actions_reach_their_actor market _ ⟨7⟩ [2] reach 0 2 ?_ rfl⟩
  exact .tail _ (List.mem_cons_self)

end Coactor.Exchange
