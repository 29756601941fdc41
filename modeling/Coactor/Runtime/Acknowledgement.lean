import Coactor.Foundation.Channel
import Coactor.Runtime.Isolation

/-!
# Answers to `SessionOpen`

`dispatch_inbound` ends the handling of a `SessionOpen` by sending a
`SessionOpenedAck` into the bounded queue of the connection's sender, and
ignores whether the queue accepts it.  Here a Server runs beside these queues,
with the registration that each connection's current request has made and the
answer it was last given.
-/

namespace Coactor.Runtime

open Coactor.Foundation
open Coactor.Foundation.Transition
open Coactor.Coordination
open Server

variable {config : RuntimeConfig}

/-! ## A Server and its outbound queues -/

/-- An Envelope to a Client. -/
inductive Outbound where
  | sessionOpenedAck (session : SessionId) (failure : Option SendError)
  | event (session : SessionId) (payload : List UInt8)
  | sessionError (session : SessionId) (error : SendError)
  deriving DecidableEq

/-- A Server with the queue of each connection, the opening that the current
request of a connection has registered, and the last answer to a request with
whether the queue accepted it. -/
structure Answering where
  server : Server
  queues : Nat → Channel Outbound
  request : Nat → Option Opening
  answered : Nat → Option (Option SendError × Bool)

/-- The registration of the current request after a step of its connection. -/
def requestAfter (request : Option Opening) : ConnPc → ConnPc → Option Opening
  | .receiving, _ => none
  | _, .openDispatch opening _ _ => some opening
  | _, _ => request

/-- The answer that a step of a connection sends. -/
def answerOf : ConnPc → ConnPc → Option (SessionId × Option SendError)
  | .openAck session failure, .receiving => some (session, failure)
  | _, _ => none

/-- A step of a connection with what it sends. -/
def Answering.connStep (state : Answering) (after : Server) (id : Nat) : Answering :=
  let request := Function.update state.request id
    (requestAfter (state.request id) (state.server.conns id).pc (after.conns id).pc)
  match answerOf (state.server.conns id).pc (after.conns id).pc with
  | none => { state with server := after, request := request }
  | some (session, failure) => {
      server := after
      queues := Function.update state.queues id
        ((state.queues id).offer (.sessionOpenedAck session failure))
      request := request
      answered := Function.update state.answered id
        (some (failure, (state.queues id).accepts)) }

/-- Steps of the Server, Envelopes that others send on a connection, and what
the transport does with its queue. -/
inductive AnswerEvent where
  | server (authorityValid : Bool) (event : ServerEvent)
  | send (id : Nat) (item : Outbound)
  | transmit (id : Nat)
  | hangUp (id : Nat)

def Answering.setQueue (state : Answering) (id : Nat) (queue : Channel Outbound) : Answering :=
  { state with queues := Function.update state.queues id queue }

def answeringSystem (config : RuntimeConfig) : System Answering AnswerEvent where
  initial := fun state => state.server = .fresh config ∧ state.request = fun _ => none
  step? := fun state event =>
    match event with
    | .server authorityValid event =>
        (state.server.step? config authorityValid event).map fun after =>
          match event with
          | .conn id _ => state.connStep after id
          | _ => { state with server := after }
    | .send id item => some (state.setQueue id ((state.queues id).offer item))
    | .transmit id => (state.queues id).receive?.map fun received => state.setQueue id received.2
    | .hangUp id => some (state.setQueue id (state.queues id).close)

/-! ## The invariant -/

/-- What the registration of a request is at a program point. -/
def RequestAt (registry : SessionRegistry) (request : Option Opening) : ConnPc → Prop
  | .openLock _ _ | .resolving _ _ _ _ | .openRegister _ _ _ => request = none
  | .openDispatch opening _ _ | .openAwait opening | .openUnregister opening _ =>
      request = some opening
  | .openAck _ (some _) => ∀ opening, request = some opening →
      ∀ entry ∈ registry, entry.opening ≠ opening
  | _ => True

structure RequestsOk (state : Answering) : Prop where
  serial : ∀ id opening, state.request id = some opening →
    opening.serial < state.server.nextOpening
  request : ∀ id, RequestAt state.server.registry (state.request id) (state.server.conns id).pc

/-- A failed request stays unregistered. -/
theorem RequestAt.mono {registry registry' : SessionRegistry} {request : Option Opening}
    {pc : ConnPc} {bound : Nat} (holds : RequestAt registry request pc)
    (serial : ∀ opening, request = some opening → opening.serial < bound)
    (origin : ∀ entry ∈ registry', entry ∈ registry ∨ entry.opening.serial = bound) :
    RequestAt registry' request pc := by
  cases pc with
  | openAck session failure =>
      cases failure with
      | none => trivial
      | some error =>
          rintro opening requested entry present rfl
          rcases origin entry present with old | new
          · exact holds entry.opening requested entry old rfl
          · have less := serial entry.opening requested
            omega
  | _ => exact holds

theorem requestAt_inbound (registry : SessionRegistry) (envelope : Envelope) :
    RequestAt registry none envelope.inbound := by
  refine envelope.inbound_cases (motive := RequestAt registry none) trivial
    (fun _ _ _ => trivial) (fun _ _ => rfl) ?_ fun _ _ => trivial
  rintro session opening ⟨⟩

section

variable {server after : Server} {id : Nat} {request : Option Opening} {pc next : ConnPc}

theorem RequestAt.quietMove (holds : RequestAt server.registry request pc)
    (move : QuietMove server id pc next) :
    RequestAt server.registry (requestAfter request pc next) next := by
  cases move with
  | receive envelope => exact requestAt_inbound server.registry envelope
  | unresolved | unregistrable =>
      rintro opening requested
      rw [show request = none from holds] at requested
      cases requested
  | noted => cases pc <;> first | exact holds | trivial
  | @unclosed _ _ onward => cases onward <;> trivial
  | dispatching => rfl
  | aborted => cases pc <;> trivial
  | lock | resolve | resolved | undispatched | turnedDown | unanswered => exact holds
  | _ => trivial

theorem RequestAt.connMove (holds : RequestAt server.registry request pc)
    (move : ConnMove config server after id pc next) :
    RequestAt after.registry (requestAfter request pc next) next := by
  cases move with
  | quiet same move =>
      rw [same.registry]
      exact holds.quietMove move
  | register => rfl
  | opened => exact holds
  | unopened _ _ _ _ onward =>
      rcases onward with ⟨error, rfl⟩ | rfl
      · exact holds
      · trivial
  | @unregister opening error registry =>
      intro other requested entry present same
      have unregistered : request = some opening := holds
      rw [requestAfter, unregistered, Option.some.injEq] at requested
      · subst requested
        rw [registry] at present
        refine (SessionRegistry.mem_unregisterActor.mp present).2 ?_
        simp only [SessionEntry.key, same]
      · rintro ⟨⟩
      · rintro _ _ _ ⟨⟩
  | unacted _ _ _ _ onward => rcases onward with rfl | rfl <;> trivial
  | @closed _ _ onward | @unheard _ _ onward => cases onward <;> trivial
  | _ => trivial

/-- A request after a step is an earlier one or a new registration. -/
theorem requestAfter_origin (holds : RequestAt server.registry request pc)
    (move : ConnMove config server after id pc next) {opening : Opening}
    (requested : requestAfter request pc next = some opening) :
    request = some opening ∨
      (opening.serial = server.nextOpening ∧ after.nextOpening = server.nextOpening + 1) := by
  unfold requestAfter at requested
  split at requested
  · cases requested
  · cases requested
    rcases move.into_dispatch rfl with ⟨reservation, stage, rfl⟩ | registered
    · exact .inl holds
    · exact .inr registered
  · exact .inl requested

end

namespace RequestsOk

variable {state : Answering} {after : Server}

theorem conn (ok : RequestsOk state) {id : Nat}
    (others : ∀ other, other ≠ id → after.conns other = state.server.conns other)
    (move : ConnMove config state.server after id (state.server.conns id).pc (after.conns id).pc) :
    RequestsOk (state.connStep after id) := by
  have fields : (state.connStep after id).server = after ∧
      (state.connStep after id).request = Function.update state.request id
        (requestAfter (state.request id) (state.server.conns id).pc (after.conns id).pc) := by
    unfold Answering.connStep
    simp only
    split <;> exact ⟨rfl, rfl⟩
  constructor
  · intro other opening requested
    rw [fields.2] at requested
    rw [fields.1]
    by_cases same : other = id
    · subst same
      rw [Function.update_self] at requested
      rcases requestAfter_origin (ok.request other) move requested with old | ⟨serial, next⟩
      · exact Nat.lt_of_lt_of_le (ok.serial other opening old) move.nextOpening_le
      · omega
    · rw [Function.update_of_ne same] at requested
      exact Nat.lt_of_lt_of_le (ok.serial other opening requested) move.nextOpening_le
  · intro other
    rw [fields.1, fields.2]
    by_cases same : other = id
    · subst same
      rw [Function.update_self]
      exact (ok.request other).connMove move
    · rw [Function.update_of_ne same, others other same]
      exact (ok.request other).mono (ok.serial other)
        fun entry present => (move.registry_origin present).imp_right And.left

theorem server (ok : RequestsOk state)
    (registry : ∀ entry ∈ after.registry, entry ∈ state.server.registry)
    (conns : ∀ id, (after.conns id).pc = (state.server.conns id).pc)
    (nextOpening : after.nextOpening = state.server.nextOpening) :
    RequestsOk { state with server := after } where
  serial := by
    intro id opening requested
    rw [nextOpening]
    exact ok.serial id opening requested
  request := by
    intro id
    simp only [conns id]
    exact (ok.request id).mono (ok.serial id) fun entry present => .inl (registry entry present)

theorem step? (ok : RequestsOk state) {event : AnswerEvent} {next : Answering}
    (stepped : (answeringSystem config).step? state event = some next) : RequestsOk next := by
  cases event with
  | server authorityValid event =>
      obtain ⟨after, moved, rfl⟩ := Option.map_eq_some_iff.mp stepped
      cases step?_moves moved with
      | conn control others move => exact ok.conn others move
      | task found effect move ends nextOpening =>
          refine ok.server ?_ (fun id => by rw [effect.conns]) nextOpening
          intro entry present
          rcases move.registry with same | ⟨session, rest, onward, -, -, removed⟩
          · rwa [same] at present
          · rw [removed] at present
            exact (SessionRegistry.mem_unregisterActor.mp present).1
      | shutdown effect | fence effect =>
          exact ok.server (fun entry present => effect.registry.subset present) effect.conns
            effect.nextOpening
  | send id item =>
      obtain rfl := Option.some.inj stepped
      exact ⟨ok.serial, ok.request⟩
  | transmit id =>
      obtain ⟨received, -, rfl⟩ := Option.map_eq_some_iff.mp stepped
      exact ⟨ok.serial, ok.request⟩
  | hangUp id =>
      obtain rfl := Option.some.inj stepped
      exact ⟨ok.serial, ok.request⟩

end RequestsOk

theorem requestsOk_of_reachable {state : Answering}
    (reach : (answeringSystem config).Reachable state) : RequestsOk state := by
  refine invariant_of_step RequestsOk ?_ ?_ reach
  · rintro state ⟨fresh, none⟩
    constructor
    · intro id opening requested
      rw [none] at requested
      cases requested
    · intro id
      rw [fresh]
      trivial
  · intro before event after ok _ stepped
    exact ok.step? stepped

/-! ## Half-open Sessions -/

/-- The Session of a request is registered only if its `Ok` was accepted. -/
def Answering.NoHalfOpen (state : Answering) (id : Nat) : Prop :=
  ∀ opening, state.request id = some opening →
    (∃ entry ∈ state.server.registry, entry.opening = opening) →
      state.answered id = some (none, true)

/-- The Session that a connection's request has registered is still there. -/
def Answering.StillRegistered (state : Answering) (id : Nat) : Prop :=
  ∃ opening, state.request id = some opening ∧
    ∃ entry ∈ state.server.registry, entry.opening = opening

/-- When the handling of a `SessionOpen` ends, its Session is registered only
under an accepted `Ok` exactly if the queue accepts the answer or the Session
has been ended before it is sent. -/
theorem no_half_open_iff {before after : Answering}
    (reach : (answeringSystem config).Reachable before) {id : Nat} {session : SessionId}
    {failure : Option SendError} {authorityValid panics : Bool}
    (here : (before.server.conns id).pc = .openAck session failure)
    (stepped : (answeringSystem config).step? before
      (.server authorityValid (.conn id (.advance panics))) = some after) :
    after.NoHalfOpen id ↔
      (before.queues id).accepts = true ∨ ¬ before.StillRegistered id := by
  have ok := requestsOk_of_reachable reach
  obtain ⟨server, moved, rfl⟩ := Option.map_eq_some_iff.mp stepped
  obtain rfl : before.server.setConn id .receiving = server := by
    simpa only [Server.step?, here, connStep?, Option.some.injEq] using moved
  have there : ((before.server.setConn id .receiving).conns id).pc = .receiving := setConn_pc
  have requested : (before.connStep (before.server.setConn id .receiving) id).request id =
      before.request id := by
    simp [Answering.connStep, here, there, answerOf, requestAfter]
  have answered : (before.connStep (before.server.setConn id .receiving) id).answered id =
      some (failure, (before.queues id).accepts) := by
    simp [Answering.connStep, here, there, answerOf]
  have registry : (before.connStep (before.server.setConn id .receiving) id).server.registry =
      before.server.registry := by
    simp [Answering.connStep, here, answerOf, setConn]
  unfold Answering.NoHalfOpen Answering.StillRegistered
  simp only [requested, answered, registry, Option.some.injEq, Prod.mk.injEq]
  constructor
  · intro sound
    cases accepts : (before.queues id).accepts with
    | true => exact .inl rfl
    | false =>
        refine .inr ?_
        rintro ⟨opening, asked, entry, present, rfl⟩
        have accepted := (sound entry.opening asked ⟨entry, present, rfl⟩).2
        rw [accepts] at accepted
        cases accepted
  · rintro condition opening asked ⟨entry, present, rfl⟩
    rcases condition with accepts | ended
    · refine ⟨?_, accepts⟩
      cases failure with
      | none => rfl
      | some error =>
          have unregistered := ok.request id
          rw [here] at unregistered
          exact absurd rfl (unregistered entry.opening asked entry present)
    · exact absurd ⟨entry.opening, asked, entry, present, rfl⟩ ended

/-- A Server whose connections have the queues of the gRPC transport. -/
def grpcServer (config : RuntimeConfig) : Answering where
  server := .fresh config
  queues := fun _ => ⟨1, [], false⟩
  request := fun _ => none
  answered := fun _ => none

/-- A Session is opened, and its actor sends these Envelopes from
`on_session_opened`. -/
def openAndSend (sent : List Outbound) : List AnswerEvent :=
  (openAndActivate.map fun label => .server label.1 label.2) ++
    [.server true (.task 1 .advance)] ++ (sent.map fun item => .send 0 item) ++
    [.server true (.task 1 (.returned true)), .server true (.conn 0 (.advance false))]

theorem accepted_ok_opens_session :
    ∃ before after, (answeringSystem cartRuntime).Reachable before ∧
      (before.server.conns 0).pc = .openAck ⟨7⟩ none ∧
      (answeringSystem cartRuntime).step? before (.server true (.conn 0 (.advance false))) =
        some after ∧
      after.NoHalfOpen 0 := by
  have reach := @reachable_of_run? _ _ (answeringSystem cartRuntime) (grpcServer cartRuntime) _
    (openAndSend []) ⟨rfl, rfl⟩ rfl
  exact ⟨_, _, reach, rfl, rfl,
    (@no_half_open_iff _ _ _ reach 0 ⟨7⟩ none true false rfl rfl).mpr (.inl rfl)⟩

/-- One Event fills the queue; the `Ok` is refused and the Session stays. -/
theorem refused_ok_leaves_session :
    ∃ before after, (answeringSystem cartRuntime).Reachable before ∧
      (before.server.conns 0).pc = .openAck ⟨7⟩ none ∧
      (answeringSystem cartRuntime).step? before (.server true (.conn 0 (.advance false))) =
        some after ∧
      ¬ after.NoHalfOpen 0 := by
  have reach := @reachable_of_run? _ _ (answeringSystem cartRuntime) (grpcServer cartRuntime) _
    (openAndSend [.event ⟨7⟩ [1]]) ⟨rfl, rfl⟩ rfl
  refine ⟨_, _, reach, rfl, rfl, fun sound => ?_⟩
  have accepted := sound ⟨cartAddress, ⟨7⟩, 0⟩ rfl ⟨_, List.mem_cons_self, rfl⟩
  cases accepted

end Coactor.Runtime
