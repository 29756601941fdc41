import Coactor.Runtime.Protocol

/-!
# The notification of a closed Session

`close_local_session` removes a registration and then sends `SessionClosed` with
`dispatch_message_if_active`, whose answer it drops.  Between the two the active
route can go or change, and the mailbox can be full.  Where neither happens, the
`SessionClosed` messages of an actor are those of the Sessions closed on it.
-/

namespace Coactor.Runtime

open Coactor.Foundation.Transition
open Coactor.Coordination
open Server

variable {server after : Server} {config : RuntimeConfig}

/-! ## Closed Sessions and the actors they are closed on -/

/-- The generation that a message sent now would reach. -/
def Server.listenerAt (config : RuntimeConfig) (server : Server) (address : ActorAddress) :
    Option Nat :=
  if server.hasRoom config address then server.activeAt address else none

/-- The connection whose `close_local_session` a step completes. -/
def notifiedBy (before after : Server) : ServerEvent → Option Nat
  | .conn id _ =>
      match (before.conns id).pc, (after.conns id).pc with
      | .closeDispatch _ _ _, .closeDispatch _ _ _ => none
      | .closeDispatch _ _ _, _ => some id
      | _, _ => none
  | _ => none

/-- A recorded Server with the generation whose route was active when each
connection last removed a registration to close its Session, and the openings
closed so while a route was active. -/
structure Closing where
  recorded : Recorded
  active : Nat → Option Nat
  closed : List (Opening × Nat)

/-- What a completed `close_local_session` adds to the record. -/
def Closing.noticeOf (state : Closing) (id : Nat) : Option (Opening × Nat) :=
  (state.recorded.history.closing id).bind fun opening =>
    (state.active id).map fun generation => (opening, generation)

def Closing.record (state : Closing) (after : Server) (event : ServerEvent) : Closing where
  recorded := ⟨after, state.recorded.history.record state.recorded.server after event⟩
  active := match closedBy state.recorded.server after event with
    | some (id, address, _) =>
        Function.update state.active id (state.recorded.server.activeAt address)
    | none => state.active
  closed := match notifiedBy state.recorded.server after event with
    | some id => state.closed ++ (state.noticeOf id).toList
    | none => state.closed

def closingSystem (config : RuntimeConfig) : System Closing (Bool × ServerEvent) where
  initial := fun state => state = ⟨⟨.fresh config, .empty⟩, fun _ => none, []⟩
  step? := fun state label =>
    (state.recorded.server.step? config label.1 label.2).map fun after =>
      state.record after label.2

/-- The Sessions of the `SessionClosed` messages among these. -/
def closuresOf (messages : List MailboxMessage) : List SessionId :=
  messages.filterMap fun message =>
    match message with
    | .sessionClosed session => some session
    | _ => none

/-- The Sessions that have been closed on a generation. -/
def Closing.closedOn (state : Closing) (generation : Nat) : List SessionId :=
  (state.closed.filter fun notice => notice.2 == generation).map fun notice => notice.1.session

/-- A notification is sent while the actor whose route was active at the removal
of the registration still has its active route and a free slot in its mailbox;
if there was none, there still is none to take it. -/
def Notified (config : RuntimeConfig) (state : Closing) (label : Bool × ServerEvent) : Prop :=
  ∀ id panics address session onward, label.2 = .conn id (.advance panics) →
    (state.recorded.server.conns id).pc = .closeDispatch address session onward →
      state.recorded.server.listenerAt config address = state.active id

theorem closuresOf_append (first second : List MailboxMessage) :
    closuresOf (first ++ second) = closuresOf first ++ closuresOf second :=
  List.filterMap_append

theorem listenerAt_of_appended {address : ActorAddress} {message : MailboxMessage}
    {generation : Nat} {task : ActorTask}
    (appended : Appended server after address message generation task)
    (room : server.hasRoom config address = true) :
    server.listenerAt config address = some generation := by
  simp [listenerAt, room, activeAt, appended.route]

/-! ## Steps of `close_local_session` -/

/-- A task that is to send a `SessionClosed` does so, or is only registered. -/
theorem closeDispatch_step {authorityValid : Bool} {id : Nat} {event : ConnEvent}
    {address : ActorAddress} {session : SessionId} {onward : AfterClose}
    (here : (server.conns id).pc = .closeDispatch address session onward)
    (stepped : server.step? config authorityValid (.conn id event) = some after) :
    ((after.conns id).pc = .closeDispatch address session onward ∧ SameSessions server after ∧
      notifiedBy server after (.conn id event) = none) ∨
    ((∃ panics, event = .advance panics) ∧ (after.conns id).pc = onward.pc ∧
      notifiedBy server after (.conn id event) = some id ∧
      after.registry = server.registry ∧ after.nextOpening = server.nextOpening ∧
      ((server.listenerAt config address = none ∧ SameSessions server after) ∨
        ∃ generation task, server.listenerAt config address = some generation ∧
          Appended server after address (.sessionClosed session) generation task)) := by
  simp only [Server.step?, here] at stepped
  cases event with
  | register =>
      cases stepped
      refine .inl ⟨?_, ⟨rfl, rfl, rfl, rfl, rfl, rfl⟩, ?_⟩
      · simp [here]
      · simp [notifiedBy, here]
  | advance panics =>
      cases stepped
      have pc := @setConn_pc (server.dispatchIfActive config address (.sessionClosed session)) id
        onward.pc
      have outside := @dispatchIfActive_outside server config address (.sessionClosed session)
      refine .inr ⟨⟨panics, rfl⟩, pc, ?_, outside.registry, outside.nextOpening, ?_⟩
      · simp only [notifiedBy, here, pc]
        cases onward <;> rfl
      · rcases @dispatchIfActive_moves server config address (.sessionClosed session) with
          ⟨deaf, same⟩ | ⟨generation, task, room, appended⟩
        · rw [same]
          exact .inl ⟨by simp [listenerAt, deaf], ⟨rfl, rfl, rfl, rfl, rfl, rfl⟩⟩
        · refine .inr ⟨generation, task, listenerAt_of_appended appended room, ?_⟩
          exact ⟨appended.route, appended.found, appended.isOpen, appended.routes,
            appended.tasks, appended.nextGeneration⟩
  | abort =>
      simp only [connStep?, abortConn?] at stepped
      split at stepped <;> cases stepped
  | _ => cases stepped

theorem ConnMove.of_close {id : Nat} {pc next : ConnPc} {address : ActorAddress}
    {session : SessionId} {onward onward' : AfterClose}
    (move : ConnMove config server after id pc next)
    (here : pc = .closeUnregister address session onward)
    (there : next = .closeDispatch address session onward') :
    server.registry.contains address session = true ∧ after.nextOpening = server.nextOpening := by
  cases move with
  | close present _ _ _ _ nextOpening _ =>
      cases here
      exact ⟨present, nextOpening⟩
  | quiet same move =>
      cases move with
      | noted => cases here.symm.trans there
      | @unclosed _ _ onward => cases onward <;> cases there
      | aborted => cases there
      | _ => cases here
  | _ => cases here

theorem notifiedBy_elsewhere {id : Nat} {event : ConnEvent}
    (elsewhere : ∀ address session onward,
      (server.conns id).pc ≠ .closeDispatch address session onward) :
    notifiedBy server after (.conn id event) = none := by
  simp only [notifiedBy]
  split
  · rfl
  · rename_i here _
    exact absurd here (elsewhere _ _ _)
  · rfl

/-! ## What waits in the mailboxes -/

section

variable {history : History} {id : Nat} {event : ConnEvent} {generation : Nat}

/-- A message that closes nothing enters a mailbox. -/
theorem Delivery.closuresOf_script {address : ActorAddress} {message : MailboxMessage}
    (delivery : Delivery server after address message) (ok : RoutesOk server)
    (silent : closuresOf [message] = []) :
    after.halted generation = server.halted generation ∧
      closuresOf (Recorded.script ⟨after, history.record server after (.conn id event)⟩
        generation) = closuresOf (Recorded.script ⟨server, history⟩ generation) := by
  refine ⟨delivery.halted ok generation, ?_⟩
  simp only [Recorded.script, record_conn_callsOf, delivery.mailboxOf ok]
  split
  · rw [← List.append_assoc, closuresOf_append, silent, List.append_nil]
  · rfl

theorem closuresOf_script_of_tasks (tasks : after.tasks = server.tasks) :
    after.halted generation = server.halted generation ∧
      closuresOf (Recorded.script ⟨after, history.record server after (.conn id event)⟩
        generation) = closuresOf (Recorded.script ⟨server, history⟩ generation) := by
  refine ⟨halted_of_tasks tasks generation, ?_⟩
  simp only [Recorded.script, record_conn_callsOf, mailboxOf_of_tasks tasks]

/-- Only a task that sends a `SessionClosed` adds one to a mailbox. -/
theorem ConnMove.closuresOf_script {pc next : ConnPc}
    (move : ConnMove config server after id pc next) (ok : RoutesOk server)
    (elsewhere : ∀ address session onward, pc ≠ .closeDispatch address session onward) :
    after.halted generation = server.halted generation ∧
      closuresOf (Recorded.script ⟨after, history.record server after (.conn id event)⟩
        generation) = closuresOf (Recorded.script ⟨server, history⟩ generation) := by
  cases move with
  | quiet same => exact closuresOf_script_of_tasks same.tasks
  | register _ _ _ tasks | unregister _ _ tasks | close _ _ _ tasks =>
      exact closuresOf_script_of_tasks tasks
  | unopened refusal | unacted refusal => exact closuresOf_script_of_tasks refusal.tasks
  | opened delivery => exact delivery.closuresOf_script ok rfl
  | acted delivery => exact delivery.closuresOf_script ok rfl
  | closed | unheard => exact absurd rfl (elsewhere _ _ _)

end

/-! ## The invariant -/

/-- An opening that is not registered and will not be registered again. -/
structure Server.Ended (server : Server) (opening : Opening) : Prop where
  old : opening.serial < server.nextOpening
  absent : ∀ entry ∈ server.registry, entry.opening ≠ opening

/-- Every registration removed to close its Session is closed once, and an actor
that goes on has been sent the `SessionClosed` of those closed on it. -/
structure ClosuresOk (state : Closing) : Prop where
  fits : ∀ entry ∈ state.recorded.server.registry,
    entry.opening.serial < state.recorded.server.nextOpening
  pending : ∀ id address session onward,
    (state.recorded.server.conns id).pc = .closeDispatch address session onward →
      ∃ opening, state.recorded.history.closing id = some opening ∧ opening.session = session ∧
        state.recorded.server.Ended opening ∧ ∀ generation, (opening, generation) ∉ state.closed
  apart : ∀ id other address session onward address' session' onward',
    (state.recorded.server.conns id).pc = .closeDispatch address session onward →
    (state.recorded.server.conns other).pc = .closeDispatch address' session' onward' →
    state.recorded.history.closing id = state.recorded.history.closing other → id = other
  ended : ∀ notice ∈ state.closed, state.recorded.server.Ended notice.1
  once : (state.closed.map Prod.fst).Nodup
  heard : ∀ generation, state.recorded.server.halted generation = false →
    closuresOf (state.recorded.script generation) = state.closedOn generation

namespace ClosuresOk

theorem fresh (config : RuntimeConfig) :
    ClosuresOk ⟨⟨.fresh config, .empty⟩, fun _ => none, []⟩ where
  fits := fun _ present => by cases present
  pending := fun _ _ _ _ here => by cases here
  apart := fun _ _ _ _ _ _ _ _ here => by cases here
  ended := fun _ member => by cases member
  once := .nil
  heard := fun _ _ => rfl

/-- A step that closes no Session. -/
theorem mono {state next : Closing} (ok : ClosuresOk state) (closed : next.closed = state.closed)
    (nextOpening : state.recorded.server.nextOpening ≤ next.recorded.server.nextOpening)
    (registry : ∀ entry ∈ next.recorded.server.registry,
      entry ∈ state.recorded.server.registry ∨
        (entry.opening.serial = state.recorded.server.nextOpening ∧
          next.recorded.server.nextOpening = state.recorded.server.nextOpening + 1))
    (conns : ∀ id address session onward,
      (next.recorded.server.conns id).pc = .closeDispatch address session onward →
        (state.recorded.server.conns id).pc = .closeDispatch address session onward ∧
          next.recorded.history.closing id = state.recorded.history.closing id)
    (heard : ∀ generation, next.recorded.server.halted generation = false →
      state.recorded.server.halted generation = false ∧
        closuresOf (next.recorded.script generation) =
          closuresOf (state.recorded.script generation)) : ClosuresOk next := by
  have ended : ∀ opening, state.recorded.server.Ended opening →
      next.recorded.server.Ended opening := by
    intro opening gone
    refine ⟨Nat.lt_of_lt_of_le gone.old nextOpening, ?_⟩
    rintro entry present rfl
    rcases registry entry present with old | ⟨serial, -⟩
    · exact gone.absent entry old rfl
    · exact absurd serial (Nat.ne_of_lt gone.old)
  constructor
  case fits =>
    intro entry present
    rcases registry entry present with old | ⟨serial, later⟩
    · exact Nat.lt_of_lt_of_le (ok.fits entry old) nextOpening
    · omega
  case pending =>
    intro id address session onward here
    obtain ⟨before, same⟩ := conns id address session onward here
    obtain ⟨opening, found, named, gone, unclosed⟩ := ok.pending id address session onward before
    rw [same, closed]
    exact ⟨opening, found, named, ended opening gone, unclosed⟩
  case apart =>
    intro id other address session onward address' session' onward' here there same
    obtain ⟨before, kept⟩ := conns id address session onward here
    obtain ⟨before', kept'⟩ := conns other address' session' onward' there
    rw [kept, kept'] at same
    exact ok.apart _ _ _ _ _ _ _ _ before before' same
  case ended =>
    rw [closed]
    exact fun notice member => ended _ (ok.ended notice member)
  case once =>
    rw [closed]
    exact ok.once
  case heard =>
    intro generation alive
    obtain ⟨before, same⟩ := heard generation alive
    rw [same, ok.heard generation before, Closing.closedOn, Closing.closedOn, closed]

/-- A registration has been removed to close its Session. -/
theorem unregistered {state : Closing} {history : History} {active : Nat → Option Nat}
    (ok : ClosuresOk state) {id : Nat} {address : ActorAddress} {session : SessionId}
    {onward : AfterClose}
    (present : state.recorded.server.registry.contains address session = true)
    (there : (after.conns id).pc = .closeDispatch address session onward)
    (others : ∀ other, other ≠ id → after.conns other = state.recorded.server.conns other)
    (registry : after.registry = state.recorded.server.registry.unregisterActor address session)
    (nextOpening : after.nextOpening = state.recorded.server.nextOpening)
    (closing : history.closing = Function.update state.recorded.history.closing id
      ((state.recorded.server.registry.lookup address session).map SessionEntry.opening))
    (heard : ∀ generation, after.halted generation = false →
      state.recorded.server.halted generation = false ∧
        closuresOf (Recorded.script ⟨after, history⟩ generation) =
          closuresOf (state.recorded.script generation)) :
    ClosuresOk ⟨⟨after, history⟩, active, state.closed⟩ := by
  obtain ⟨entry, found⟩ : ∃ entry,
      state.recorded.server.registry.lookup address session = some entry :=
    Option.isSome_iff_exists.mp (List.find?_isSome.mpr (List.any_eq_true.mp present))
  obtain ⟨member, key⟩ := SessionRegistry.lookup_entry found
  have kept : ∀ other ∈ after.registry, other ∈ state.recorded.server.registry := by
    rw [registry]
    exact fun other left => (List.mem_filter.mp left).1
  have ended : ∀ opening, state.recorded.server.Ended opening → after.Ended opening :=
    fun opening gone => ⟨nextOpening ▸ gone.old, fun other left =>
      gone.absent other (kept other left)⟩
  have gone : after.Ended entry.opening := by
    refine ⟨nextOpening ▸ ok.fits entry member, ?_⟩
    rintro other left same
    rw [registry] at left
    have named : SessionRegistry.names address session other = true := by
      rw [SessionRegistry.names_iff, SessionEntry.key, same]
      exact key
    have apart := (List.mem_filter.mp left).2
    simp [named] at apart
  have mine : history.closing id = some entry.opening := by
    rw [closing, Function.update_self, found, Option.map_some]
  have theirs : ∀ other, other ≠ id →
      history.closing other = state.recorded.history.closing other := by
    intro other different
    rw [closing, Function.update_of_ne different]
  have before : ∀ other address session onward, other ≠ id →
      (after.conns other).pc = .closeDispatch address session onward →
        (state.recorded.server.conns other).pc = .closeDispatch address session onward := by
    intro other address session onward different here
    rwa [others other different] at here
  have foreign : ∀ other address session onward, other ≠ id →
      (after.conns other).pc = .closeDispatch address session onward →
        history.closing other ≠ history.closing id := by
    intro other address session onward different here same
    obtain ⟨opening, closes, -, past, -⟩ :=
      ok.pending other address session onward (before _ _ _ _ different here)
    rw [theirs other different, closes, mine, Option.some.injEq] at same
    exact past.absent entry member same.symm
  constructor
  case fits => exact fun other left => nextOpening ▸ ok.fits other (kept other left)
  case pending =>
    intro other address' session' onward' here
    by_cases same : other = id
    · subst same
      rw [there] at here
      cases here
      refine ⟨entry.opening, mine, congrArg Prod.snd key, gone, fun generation closed => ?_⟩
      exact (ok.ended _ closed).absent entry member rfl
    · obtain ⟨opening, closes, named, past, unclosed⟩ :=
        ok.pending other address' session' onward' (before _ _ _ _ same here)
      exact ⟨opening, (theirs other same).trans closes, named, ended opening past, unclosed⟩
  case apart =>
    intro one other address' session' onward' address'' session'' onward'' here here' same
    by_cases first : one = id
    · subst first
      by_contra different
      exact foreign other _ _ _ (Ne.symm different) here' same.symm
    · by_cases second : other = id
      · subst second
        exact absurd same (foreign one _ _ _ first here)
      · rw [theirs one first, theirs other second] at same
        exact ok.apart _ _ _ _ _ _ _ _ (before _ _ _ _ first here) (before _ _ _ _ second here')
          same
  case ended => exact fun notice closed => ended _ (ok.ended notice closed)
  case once => exact ok.once
  case heard =>
    intro generation alive
    obtain ⟨running, same⟩ := heard generation alive
    exact same.trans (ok.heard generation running)

/-- A notification has been sent to the actor that was active at the removal. -/
theorem notified {state : Closing} {history : History} {active : Nat → Option Nat}
    (ok : ClosuresOk state) (routes : RoutesOk state.recorded.server) {id : Nat}
    {address : ActorAddress} {session : SessionId} {onward : AfterClose}
    (here : (state.recorded.server.conns id).pc = .closeDispatch address session onward)
    (there : (after.conns id).pc = onward.pc)
    (others : ∀ other, other ≠ id → after.conns other = state.recorded.server.conns other)
    (registry : after.registry = state.recorded.server.registry)
    (nextOpening : after.nextOpening = state.recorded.server.nextOpening)
    (closing : history.closing = state.recorded.history.closing)
    (calls : ∀ generation, history.callsOf generation =
      state.recorded.history.callsOf generation)
    (sent : (state.active id = none ∧ after.tasks = state.recorded.server.tasks) ∨
      ∃ generation task, state.active id = some generation ∧
        Appended state.recorded.server after address (.sessionClosed session) generation task) :
    ClosuresOk ⟨⟨after, history⟩, active, state.closed ++ (state.noticeOf id).toList⟩ := by
  obtain ⟨opening, closes, named, gone, unclosed⟩ := ok.pending id address session onward here
  have before : ∀ other address session onward,
      (after.conns other).pc = .closeDispatch address session onward → other ≠ id ∧
        (state.recorded.server.conns other).pc = .closeDispatch address session onward := by
    intro other address session onward' here'
    by_cases same : other = id
    · subst same
      rw [there] at here'
      cases onward <;> cases here'
    · exact ⟨same, others other same ▸ here'⟩
  have ended : ∀ opening, state.recorded.server.Ended opening → after.Ended opening :=
    fun opening past => ⟨nextOpening ▸ past.old, registry ▸ past.absent⟩
  rcases sent with ⟨silent, tasks⟩ | ⟨generation, task, active', appended⟩
  · have none' : state.noticeOf id = none := by simp [Closing.noticeOf, silent]
    rw [none', Option.toList_none, List.append_nil]
    refine ok.mono rfl (Nat.le_of_eq nextOpening.symm) (fun entry left => .inl (registry ▸ left))
      (fun other address session onward here' => ?_) fun generation alive => ?_
    · exact ⟨(before other _ _ _ here').2, congrFun closing other⟩
    · refine ⟨(halted_of_tasks tasks generation).symm.trans alive, ?_⟩
      simp only [Recorded.script, calls, mailboxOf_of_tasks tasks]
  · have notice : state.noticeOf id = some (opening, generation) := by
      simp [Closing.noticeOf, closes, active']
    have delivery : Delivery state.recorded.server after address (.sessionClosed session) :=
      .appended generation task appended
    rw [notice, Option.toList_some]
    constructor
    case fits => exact fun entry left => nextOpening ▸ ok.fits entry (registry ▸ left)
    case pending =>
      intro other address' session' onward' here'
      obtain ⟨different, here''⟩ := before other _ _ _ here'
      obtain ⟨opening', closes', named', gone', unclosed'⟩ := ok.pending other _ _ _ here''
      refine ⟨opening', (congrFun closing other).trans closes', named', ended _ gone', ?_⟩
      intro generation' member
      rcases List.mem_append.mp member with old | new
      · exact unclosed' generation' old
      · cases List.mem_singleton.mp new
        exact different (ok.apart _ _ _ _ _ _ _ _ here'' here (closes'.trans closes.symm))
    case apart =>
      intro one other address' session' onward' address'' session'' onward'' first second same
      rw [show history.closing = _ from closing] at same
      exact ok.apart _ _ _ _ _ _ _ _ (before _ _ _ _ first).2 (before _ _ _ _ second).2 same
    case ended =>
      intro notice' member
      rcases List.mem_append.mp member with old | new
      · exact ended _ (ok.ended notice' old)
      · cases List.mem_singleton.mp new
        exact ended _ gone
    case once =>
      simp only [List.map_append, List.map_cons, List.map_nil]
      refine List.nodup_append.mpr ⟨ok.once, by simp, ?_⟩
      rintro other old last new same
      cases List.mem_singleton.mp new
      obtain ⟨⟨opening', generation'⟩, member, rfl⟩ := List.mem_map.mp old
      exact unclosed generation' ((show opening' = opening from same) ▸ member)
    case heard =>
      intro other alive
      have running := (delivery.halted routes other).symm.trans alive
      have old := ok.heard other running
      simp only [Closing.closedOn, Recorded.script, calls, delivery.mailboxOf routes,
        appended.target] at old ⊢
      by_cases same : other = generation
      · subst same
        rw [if_pos rfl, ← List.append_assoc, closuresOf_append, old]
        simp [closuresOf, named]
      · rw [if_neg same, old]
        simp [Ne.symm same]

/-- A step of a connection task that is not sending a notification. -/
theorem elsewhere {state : Closing} {id : Nat} {event : ConnEvent} (ok : ClosuresOk state)
    (routes : RoutesOk state.recorded.server)
    (others : ∀ other, other ≠ id → after.conns other = state.recorded.server.conns other)
    (move : ConnMove config state.recorded.server after id
      (state.recorded.server.conns id).pc (after.conns id).pc)
    (apart : ∀ address session onward,
      (state.recorded.server.conns id).pc ≠ .closeDispatch address session onward) :
    ClosuresOk (state.record after (.conn id event)) := by
  have heard : ∀ generation, after.halted generation = false →
      state.recorded.server.halted generation = false ∧
        closuresOf (Recorded.script ⟨after, state.recorded.history.record state.recorded.server
          after (.conn id event)⟩ generation) =
            closuresOf (state.recorded.script generation) := by
    intro generation alive
    obtain ⟨halted, same⟩ := move.closuresOf_script routes apart
    exact ⟨halted.symm.trans alive, same⟩
  rcases @ConnMove.record_closing _ _ _ state.recorded.history id event move with
    ⟨closing, still⟩ |
    ⟨address, session, onward, here, there, registry, -, -, -, closing⟩
  · refine ok.mono ?_ move.nextOpening_le (fun entry present => move.registry_origin present)
      ?_ heard
    · simp only [Closing.record, notifiedBy_elsewhere apart]
    · intro other address session onward here
      by_cases same : other = id
      · subst same
        exact absurd (still address session onward here) (apart address session onward)
      · rw [show (state.record after (.conn id event)).recorded.server = after from rfl,
          others other same] at here
        exact ⟨here, congrFun closing other⟩
  · have changed : state.record after (.conn id event) =
        ⟨⟨after, state.recorded.history.record state.recorded.server after (.conn id event)⟩,
          (state.record after (.conn id event)).active, state.closed⟩ := by
      simp only [Closing.record, notifiedBy_elsewhere apart]
    rw [changed]
    obtain ⟨present, nextOpening⟩ := move.of_close here there
    exact ok.unregistered present there others registry nextOpening closing heard

theorem controlled {state : Closing} {event : ServerEvent} (ok : ClosuresOk state)
    (effect : ControlEffect state.recorded.server after)
    (closed : (state.record after event).closed = state.closed)
    (silent : state.recorded.history.record state.recorded.server after event =
      state.recorded.history) : ClosuresOk (state.record after event) := by
  refine ok.mono closed (Nat.le_of_eq effect.nextOpening.symm)
    (fun entry present => .inl (effect.registry.subset present))
    (fun id address session onward here => ⟨(effect.conns id) ▸ here, ?_⟩) fun generation alive => ?_
  · exact congrFun (congrArg History.closing silent) id
  · obtain ⟨halted, same⟩ := @ControlEffect.script _ _ state.recorded.history effect generation
    refine ⟨halted.symm.trans alive, congrArg closuresOf ?_⟩
    simp only [Closing.record, silent]
    exact same

/-- Every step that sends its notification in time keeps the invariant. -/
theorem step? {state : Closing} {label : Bool × ServerEvent} (ok : ClosuresOk state)
    (routes : RoutesOk state.recorded.server) (met : Notified config state label)
    (stepped : state.recorded.server.step? config label.1 label.2 = some after) :
    ClosuresOk (state.record after label.2) := by
  obtain ⟨authorityValid, event⟩ := label
  cases Server.step?_moves stepped with
  | @conn id event control others move =>
      by_cases sending : ∃ address session onward,
          (state.recorded.server.conns id).pc = .closeDispatch address session onward
      · obtain ⟨address, session, onward, here⟩ := sending
        have closing : (state.recorded.history.record state.recorded.server after
            (.conn id event)).closing = state.recorded.history.closing := by
          simp [History.record, closedBy, here]
        rcases closeDispatch_step here stepped with ⟨there, same, quiet⟩ |
          ⟨⟨panics, rfl⟩, there, notified, registry, nextOpening, sent⟩
        · refine ok.mono ?_ (Nat.le_of_eq same.nextOpening.symm)
            (fun entry present => .inl (same.registry ▸ present)) ?_ ?_
          · simp only [Closing.record, quiet]
          · intro other address' session' onward' here'
            refine ⟨?_, congrFun closing other⟩
            by_cases same : other = id
            · subst same
              exact here.trans (there.symm.trans here')
            · rwa [← others other same]
          · intro generation alive
            obtain ⟨halted, kept⟩ := @closuresOf_script_of_tasks _ _ state.recorded.history id
              event generation same.tasks
            exact ⟨halted.symm.trans alive, kept⟩
        · have changed : state.record after (.conn id (.advance panics)) =
              ⟨⟨after, state.recorded.history.record state.recorded.server after
                (.conn id (.advance panics))⟩,
                (state.record after (.conn id (.advance panics))).active,
                state.closed ++ (state.noticeOf id).toList⟩ := by
            simp only [Closing.record, notified]
          have listener := met id panics address session onward rfl here
          rw [changed]
          refine ok.notified routes here there others registry nextOpening closing
            (fun generation => record_conn_callsOf generation) ?_
          rcases sent with ⟨deaf, same⟩ | ⟨generation, task, listens, appended⟩
          · exact .inl ⟨listener.symm.trans deaf, same.tasks⟩
          · exact .inr ⟨generation, task, listener.symm.trans listens, appended⟩
      · exact ok.elsewhere routes others move
          (fun address session onward here => sending ⟨address, session, onward, here⟩)
  | @task generation event task next found effect move _ nextOpening =>
      refine ok.mono rfl (Nat.le_of_eq nextOpening.symm) (fun entry present => .inl ?_)
        (fun id address session onward here => ?_) fun other alive => ?_
      · rcases move.registry with same | ⟨_, _, _, -, -, removed⟩
        · exact same ▸ present
        · exact (List.mem_filter.mp (removed ▸ present)).1
      · exact ⟨(congrFun effect.conns id) ▸ here, rfl⟩
      · obtain ⟨running, same⟩ := @TaskMove.script _ _ state.recorded.history _ event _ _ move
          found effect other alive
        exact ⟨running, congrArg closuresOf same⟩
  | @shutdown expired effect =>
      exact ok.controlled effect (by simp [Closing.record, notifiedBy]) record_shutdown
  | fence effect => exact ok.controlled effect (by simp [Closing.record, notifiedBy]) record_fence

end ClosuresOk

/-! ## Closed Sessions are heard of -/

theorem closing_step {state next : Closing} {label : Bool × ServerEvent}
    (stepped : (closingSystem config).step? state label = some next) :
    ∃ after, state.recorded.server.step? config label.1 label.2 = some after ∧
      next = state.record after label.2 := by
  obtain ⟨after, moved, rfl⟩ := Option.map_eq_some_iff.mp stepped
  exact ⟨after, moved, rfl⟩

/-- A run with its record of closed Sessions is a run of the Server. -/
theorem server_of_closing {guard : Closing → Bool × ServerEvent → Prop} {state : Closing}
    (reach : (closingSystem config).ReachableWhile guard state) :
    (serverSystem config).Reachable state.recorded.server := by
  refine invariant_of_step
    (fun state : Closing => (serverSystem config).Reachable state.recorded.server) ?_ ?_ reach
  · rintro _ rfl
    exact .start rfl
  · intro before label after earlier _ stepped
    obtain ⟨server, moved, rfl⟩ := closing_step stepped
    exact .step earlier trivial moved

theorem closuresOk_of_reachable {state : Closing}
    (reach : (closingSystem config).ReachableWhile (Notified config) state) :
    ClosuresOk state := by
  refine invariant_of_reachable_step ClosuresOk ?_ ?_ reach
  · rintro _ rfl
    exact .fresh config
  · intro before label after earlier ok met stepped
    obtain ⟨server, moved, rfl⟩ := closing_step stepped
    exact ok.step? (routesOk_of_reachable (server_of_closing earlier)) met moved

/-- A notification enters the mailbox of the actor that was active at the removal
if and only if that actor could take a message now. -/
theorem notification_is_heard_iff {state : Closing} {authorityValid panics : Bool} {id : Nat}
    {address : ActorAddress} {session : SessionId} {onward : AfterClose} {generation : Nat}
    (reach : (closingSystem config).Reachable state)
    (here : (state.recorded.server.conns id).pc = .closeDispatch address session onward)
    (stepped : state.recorded.server.step? config authorityValid (.conn id (.advance panics)) =
      some after) :
    after.mailboxOf generation =
        state.recorded.server.mailboxOf generation ++ [.sessionClosed session] ↔
      state.recorded.server.listenerAt config address = some generation := by
  have routes := routesOk_of_reachable (server_of_closing reach)
  rcases closeDispatch_step here stepped with ⟨there, -, -⟩ | ⟨-, -, -, -, -, sent⟩
  · simp only [Server.step?, here, connStep?, Option.some.injEq] at stepped
    rw [← stepped, setConn_pc] at there
    cases onward <;> cases there
  · rcases sent with ⟨deaf, same⟩ | ⟨listener, task, listens, appended⟩
    · rw [mailboxOf_of_tasks same.tasks, deaf]
      simp
    · have delivery : Delivery state.recorded.server after address (.sessionClosed session) :=
        .appended listener task appended
      rw [delivery.mailboxOf routes, appended.target, listens]
      by_cases same : generation = listener
      · simp [same]
      · simp [same, Ne.symm same]

/-- Where every notification finds the actor that was active at the removal, each
registration is closed once and every actor that goes on has been sent exactly
the `SessionClosed` of those closed on it. -/
theorem closed_sessions_are_heard {state : Closing}
    (reach : (closingSystem config).ReachableWhile (Notified config) state) :
    (state.closed.map Prod.fst).Nodup ∧
      ∀ generation, state.recorded.server.halted generation = false →
        closuresOf (state.recorded.script generation) = state.closedOn generation :=
  ⟨(closuresOk_of_reachable reach).once, (closuresOk_of_reachable reach).heard⟩

/-- `Notified` at one step. -/
def notified? (config : RuntimeConfig) (state : Closing) : Bool × ServerEvent → Bool
  | (_, .conn id (.advance _)) =>
      match (state.recorded.server.conns id).pc with
      | .closeDispatch address _ _ =>
          state.recorded.server.listenerAt config address == state.active id
      | _ => true
  | _ => true

theorem notified_of_check {state : Closing} {label : Bool × ServerEvent}
    (checked : notified? config state label = true) : Notified config state label := by
  obtain ⟨authorityValid, event⟩ := label
  rintro id panics address session onward rfl here
  simpa [notified?, here] using checked

def closingStart (config : RuntimeConfig) : Closing := ⟨⟨.fresh config, .empty⟩, fun _ => none, []⟩

/-- The Session of one round is closed and its actor hears of it. -/
theorem closed_session_is_heard :
    ∃ state, (closingSystem cartRuntime).ReachableWhile (Notified cartRuntime) state ∧
      state.closedOn 1 = [⟨7⟩] ∧ closuresOf (state.recorded.script 1) = [⟨7⟩] := by
  have checked : (closingSystem cartRuntime).Meets
      (fun state label => notified? cartRuntime state label = true)
      (closingStart cartRuntime) oneRound := meets_of_meets? rfl
  have reach := @reachableWhile_of_run? _ _ _ _ _ _ _ (.start rfl)
    (meets_mono (fun _ _ => notified_of_check) checked) rfl
  exact ⟨_, reach, rfl, (closed_sessions_are_heard reach).2 1 rfl⟩

/-- Five Actions, of which the actor handles the first, and then a `SessionClose`. -/
def closeOnFullMailbox : List (Bool × ServerEvent) :=
  openAndAnswer ++ handled (.action [1]) 5 ++ [(true, .task 1 .advance)] ++
    handled (.action [2]) 5 ++ handled (.action [3]) 5 ++ handled (.action [4]) 5 ++
    handled (.action [5]) 5 ++ handled .sessionClose 3

/-- The actor never hears of the closed Session. -/
theorem full_mailbox_loses_close :
    ∃ state, (closingSystem cartRuntime).Reachable state ∧
      state.recorded.server.routes cartAddress = some ⟨1, .active⟩ ∧
      state.recorded.server.halted 1 = false ∧
      state.closed = [(⟨cartAddress, ⟨7⟩, 0⟩, 1)] ∧
      closuresOf (state.recorded.script 1) ≠ state.closedOn 1 := by
  have ran : ((closingSystem cartRuntime).run? (closingStart cartRuntime) closeOnFullMailbox).map
      (fun state => ((state.recorded.server.routes cartAddress,
        state.recorded.server.halted 1), state.closed, closuresOf (state.recorded.script 1))) =
      some ((some ⟨1, .active⟩, false), [(⟨cartAddress, ⟨7⟩, 0⟩, 1)], []) := by
    decide +kernel
  obtain ⟨state, run, facts⟩ := Option.map_eq_some_iff.mp ran
  obtain ⟨⟨route, alive⟩, closed, script⟩ :
      (_ ∧ _) ∧ _ ∧ _ := by simpa only [Prod.mk.injEq] using facts
  refine ⟨state, reachable_of_run? rfl run, route, alive, closed, ?_⟩
  rw [script, Closing.closedOn, closed]
  decide

end Coactor.Runtime
