import Coactor.Runtime.SelfFence
import Coactor.Runtime.Completeness
import Coactor.Runtime.Moves

/-!
# Callbacks of a node that has lost its authority

`dispatch_message` asks for the Node authority when it admits a message; the
actor task takes the message later and asks nothing.  A `SessionClosed` is
admitted without any question.  So callbacks begin under authority exactly as
long as none is due when the authority goes, and none becomes due without it.
-/

namespace Coactor.Runtime

open Coactor.Foundation.Transition
open Coactor.Coordination

variable {config : RuntimeConfig} {server after : Server} {generation : Nat}
  {task next : ActorTask}

/-! ## Callbacks that are due -/

/-- The dispatch has found the authority valid and goes on. -/
def ConnPc.isAdmitting : ConnPc → Bool
  | .openDispatch _ _ .authority | .actionDispatch _ _ _ .authority => false
  | .openDispatch _ _ _ | .actionDispatch _ _ _ _ => true
  | _ => false

/-- A callback of the actor is under way to begin: its activation, or the one
for a message that its task can still take. -/
def ActorTask.isDue (task : ActorTask) : Bool :=
  task.pc.inActivation || task.pc.mayExecute && !task.mailbox.isEmpty

/-- No callback is due and no message is being admitted. -/
structure NothingDue (server : Server) : Prop where
  conns : ∀ id, (server.conns id).pc.isAdmitting = false
  tasks : ∀ generation task, server.tasks generation = some task → task.isDue = false

/-- The actor at this address is active and takes messages. -/
def TakesMessages (server : Server) (address : ActorAddress) : Prop :=
  ∃ generation task, server.routes address = some ⟨generation, .active⟩ ∧
    server.tasks generation = some task ∧ task.closed = false ∧ task.pc.mayExecute = true

namespace Server

theorem idle_set {middle : Server}
    (found : (middle.setTask generation next).tasks generation = some task)
    (idle : next.pc.inActivation = false) : task.pc.inActivation = false := by
  simp only [setTask, Function.update_self, Option.some.injEq] at found
  rwa [← found]

/-- Only a task just spawned goes on to its activation. -/
theorem taskStep?_inActivation {event : TaskEvent}
    (stepped : server.taskStep? config generation task task.pc event = some after)
    (here : after.tasks generation = some next) :
    task.pc.inActivation = true ∨ next.pc.inActivation = false := by
  obtain ⟨middle, moved, rfl, step⟩ := taskStep?_case stepped
  cases step with
  | passed passage =>
      cases passage with
      | polled spawned =>
          rw [spawned]
          exact .inl rfl
      | @handled message draining completed =>
          exact .inr (idle_set here (by cases completed <;> cases draining <;> rfl))
      | _ => exact .inr (idle_set here rfl)
  | @opened opening draining completed =>
      exact .inr (idle_set here (by cases completed <;> cases draining <;> rfl))
  | _ => exact .inr (idle_set here rfl)

end Server

theorem inbound_isAdmitting (envelope : Envelope) : envelope.inbound.isAdmitting = false :=
  envelope.inbound_cases (motive := fun pc => pc.isAdmitting = false) rfl (fun _ _ _ => rfl)
    (fun _ _ => rfl) (fun _ => rfl) fun _ _ => rfl

theorem afterClose_isAdmitting (next : AfterClose) : next.pc.isAdmitting = false := by
  cases next <;> rfl

/-- Only a dispatch at its authority check goes on to admit a message. -/
theorem ConnMove.isAdmitting {id : Nat} {pc goal : ConnPc}
    (move : ConnMove config server after id pc goal) (idle : pc.isAdmitting = false) :
    goal.isAdmitting = false ∨ (∃ opening reservation, pc = .openDispatch opening reservation .authority) ∨
      ∃ address session payload, pc = .actionDispatch address session payload .authority := by
  cases move with
  | quiet _ move =>
      cases move with
      | receive envelope => exact .inl (inbound_isAdmitting envelope)
      | @dispatching opening reservation stage _ early =>
          cases stage with
          | authority => exact .inr (.inl ⟨opening, reservation, rfl⟩)
          | _ => cases idle
      | @acting address session payload stage _ early =>
          cases stage with
          | authority => exact .inr (.inr ⟨address, session, payload, rfl⟩)
          | _ => cases idle
      | unclosed absent => exact .inl (afterClose_isAdmitting _)
      | noted => exact .inl idle
      | _ => exact .inl rfl
  | unopened _ _ _ _ onward =>
      rcases onward with ⟨error, rfl⟩ | rfl
      · exact .inl rfl
      · exact .inl rfl
  | unacted _ _ _ _ onward =>
      rcases onward with rfl | rfl
      · exact .inl rfl
      · exact .inl rfl
  | closed | unheard => exact .inl (afterClose_isAdmitting _)
  | _ => exact .inl rfl

/-- Without authority a dispatch admits nothing. -/
theorem Server.connStep?_isAdmitting {id : Nat} {event : ConnEvent}
    (idle : (server.conns id).pc.isAdmitting = false)
    (stepped : server.connStep? config false id (server.conns id).pc event = some after) :
    (after.conns id).pc.isAdmitting = false := by
  rcases (connStep?_moves rfl stepped).isAdmitting idle with there | ⟨opening, reservation, here⟩ |
    ⟨address, session, payload, here⟩
  · exact there
  · rw [here] at stepped
    cases event with
    | advance panics =>
        cases stepped
        simp only [Server.openDispatch, Bool.false_eq_true, if_false]
        rw [Server.setConn_pc]
        rfl
    | register =>
        cases stepped
        simpa using idle
    | abort =>
        simp only [Server.connStep?, Server.abortConn?, ite_self] at stepped
        cases stepped
    | _ => cases stepped
  · rw [here] at stepped
    cases event with
    | advance panics =>
        cases stepped
        simp only [Server.actionDispatch, Bool.false_eq_true, if_false]
        rw [Server.setConn_pc]
        rfl
    | register =>
        cases stepped
        simpa using idle
    | abort =>
        simp only [Server.connStep?, Server.abortConn?, ite_self] at stepped
        cases stepped
    | _ => cases stepped

/-! ## Steps without authority -/

namespace NothingDue

theorem fresh (config : RuntimeConfig) : NothingDue (.fresh config) where
  conns := fun _ => rfl
  tasks := fun _ _ found => by cases found

theorem not_inActivation (ok : NothingDue server) (found : server.tasks generation = some task) :
    task.pc.inActivation = false :=
  (Bool.or_eq_false_iff.mp (ok.tasks generation task found)).1

theorem controlled (ok : NothingDue server) (effect : ControlEffect server after) :
    NothingDue after where
  conns := fun id => by rw [effect.conns]; exact ok.conns id
  tasks := by
    intro generation task found
    obtain ⟨mark, keeps, same⟩ := effect.tasks generation
    rw [same, Option.map_eq_some_iff] at found
    obtain ⟨old, there, rfl⟩ := found
    have idle := ok.tasks generation old there
    unfold ActorTask.isDue at idle ⊢
    rwa [(keeps old).pc, (keeps old).mailbox]

theorem appended (ok : NothingDue server) {address : ActorAddress} {message : MailboxMessage}
    {target : Nat} {old : ActorTask}
    (appended : Appended server after address message target old)
    (deaf : ¬TakesMessages server address) (found : after.tasks generation = some task) :
    task.isDue = false := by
  rw [appended.tasks] at found
  by_cases same : generation = target
  · subst same
    rw [Function.update_self] at found
    obtain rfl := Option.some.inj found
    have leaves : old.pc.mayExecute = false := by
      rw [← Bool.not_eq_true]
      intro takes
      exact deaf ⟨generation, old, appended.route, appended.found, appended.isOpen, takes⟩
    rw [ActorTask.isDue, ok.not_inActivation appended.found, leaves, Bool.false_and,
      Bool.or_false]
  · rw [Function.update_of_ne same] at found
    exact ok.tasks generation task found

theorem conn (ok : NothingDue server) {id : Nat} {event : ConnEvent}
    (deaf : ∀ panics address session rest, event = .advance panics →
      (server.conns id).pc = .closeDispatch address session rest → ¬TakesMessages server address)
    (stepped : server.connStep? config false id (server.conns id).pc event = some after) :
    NothingDue after := by
  have admits := Server.connStep?_isAdmitting (ok.conns id) stepped
  have move := Server.connStep?_moves rfl stepped
  have admitting := ok.conns id
  constructor
  · intro other
    by_cases same : other = id
    · rw [same]
      exact admits
    · obtain ⟨conn, conns, -⟩ := Server.connStep?_conns stepped
      rw [conns, Function.update_of_ne same]
      exact ok.conns other
  · intro generation task found
    have working := @Server.connStep?_working server after config false id event
    generalize here : (server.conns id).pc = pc at move deaf admitting working
    generalize (after.conns id).pc = goal at move
    cases move with
    | quiet same | unheard same => exact ok.tasks generation task (same.tasks ▸ found)
    | register _ _ _ tasks | unregister _ _ tasks | close _ _ _ tasks =>
        exact ok.tasks generation task (tasks ▸ found)
    | unopened refusal | unacted refusal => exact ok.tasks generation task (refusal.tasks ▸ found)
    | opened | acted => cases admitting
    | closed appended =>
        rcases working rfl stepped with ⟨panics, advance⟩ | ⟨-, same⟩
        · exact ok.appended appended (deaf panics _ _ _ advance rfl) found
        · exact ok.tasks generation task (same.tasks ▸ found)

/-- A step of a task makes no callback due, and begins none. -/
theorem actor (ok : NothingDue server) {event : TaskEvent}
    (found : server.tasks generation = some task)
    (stepped : server.taskStep? config generation task task.pc event = some after) :
    NothingDue after := by
  obtain ⟨next, effect⟩ := Server.taskStep?_effect stepped
  have here : after.tasks generation = some next := by
    rw [effect.tasks, Function.update_self]
  refine ⟨fun id => by rw [effect.conns]; exact ok.conns id, fun other known there => ?_⟩
  by_cases same : other = generation
  · subst same
    obtain rfl := Option.some.inj (here.symm.trans there)
    have idle := ok.tasks other task found
    obtain ⟨waiting, empty⟩ := Bool.or_eq_false_iff.mp idle
    have starts : next.pc.inActivation = false :=
      (Server.taskStep?_inActivation stepped here).resolve_left (by rw [waiting]; decide)
    rw [ActorTask.isDue, starts, Bool.false_or, ← Bool.not_eq_true, Bool.and_eq_true]
    rintro ⟨takes, nonempty⟩
    have move := Server.taskStep?_moves stepped effect.tasks
    rw [move.executes takes, Bool.true_and, Bool.not_eq_false', List.isEmpty_iff] at empty
    have none : next.mailbox = [] := List.suffix_nil.mp (empty ▸ effect.mailbox)
    rw [none] at nonempty
    cases nonempty
  · rw [effect.tasks, Function.update_of_ne same] at there
    exact ok.tasks other known there

end NothingDue

/-! ## Callbacks begin under authority -/

variable {nodeConfig : NodeConfig} {sessionId : NodeSessionId} {state last : NodeState}

/-- The step begins `on_activate`, or the callback for a message. -/
def BeginsCallback (state : NodeState) (label : NodeLabel) (last : NodeState) : Prop :=
  ∃ generation task next, label = .server (.task generation .advance) ∧
    state.server.tasks generation = some task ∧ last.server.tasks generation = some next ∧
      (task.pc = .spawned ∧ next.pc = .activating ∨
        ∃ message draining, next.pc = .executing message draining)

/-- The authority is lost only while no callback is due and no message is being
admitted, and without authority no `SessionClosed` is handed to an actor that
takes messages. -/
structure CallbacksSettled (config : NodeConfig) (sessionId : NodeSessionId) (state : NodeState)
    (label : NodeLabel) : Prop where
  loss : ∀ last, state.step? config sessionId label = some last →
    state.authorityValid = true → last.authorityValid = false → NothingDue state.server
  closes : ∀ id panics address session rest, label = .server (.conn id (.advance panics)) →
    (state.server.conns id).pc = .closeDispatch address session rest →
      state.authorityValid = false → ¬TakesMessages state.server address

theorem nothingDue_step {label : NodeLabel}
    (ok : state.authorityValid = false → NothingDue state.server)
    (settled : CallbacksSettled nodeConfig sessionId state label)
    (stepped : state.step? nodeConfig sessionId label = some last) :
    last.authorityValid = false → NothingDue last.server := by
  intro invalid
  have before : last.server = state.server → NothingDue last.server := by
    intro same
    rw [same]
    cases valid : state.authorityValid with
    | false => exact ok valid
    | true => exact settled.loss last stepped valid invalid
  cases label with
  | tick elapsed =>
      cases stepped
      exact before rfl
  | lease input =>
      simp only [NodeState.step?, Option.ite_none_right_eq_some, Option.map_eq_some_iff] at stepped
      obtain ⟨-, session, -, rfl⟩ := stepped
      exact before rfl
  | server event =>
      simp only [NodeState.step?, Option.ite_none_right_eq_some, Option.map_eq_some_iff] at stepped
      obtain ⟨-, server, moved, rfl⟩ := stepped
      have ok := ok invalid
      cases event with
      | conn id event =>
          have without : state.authorityValid = false := invalid
          rw [without] at moved
          refine ok.conn (fun panics address session rest advance here => ?_) moved
          exact settled.closes id panics address session rest (advance ▸ rfl) here without
      | task generation event =>
          obtain ⟨task, found, moved⟩ := Option.bind_eq_some_iff.mp moved
          exact ok.actor found moved
      | shutdown expired => exact ok.controlled (Server.shutdownStep?_cases moved)
      | fence => exact ok.controlled (Server.fenceStep?_cases moved)

theorem nothingDue_of_reachable
    (reach : (nodeSystem nodeConfig sessionId).ReachableWhile
      (CallbacksSettled nodeConfig sessionId) state) :
    state.authorityValid = false → NothingDue state.server := by
  refine invariant_of_step (fun state : NodeState =>
    state.authorityValid = false → NothingDue state.server) ?_ ?_ reach
  · rintro start ⟨-, fresh⟩ -
    rw [fresh]
    exact .fresh _
  · intro before label after ok settled stepped
    exact nothingDue_step ok settled stepped

/-- In a run in which no callback is due when the authority is lost and none
becomes due without it, every callback begins under authority. -/
theorem callbacks_begin_under_authority
    (reach : (nodeSystem nodeConfig sessionId).ReachableWhile
      (CallbacksSettled nodeConfig sessionId) state)
    {label : NodeLabel} (begins : BeginsCallback state label last)
    (stepped : state.step? nodeConfig sessionId label = some last) :
    state.authorityValid = true := by
  rw [← Bool.not_eq_false]
  intro invalid
  have ok := nothingDue_of_reachable reach invalid
  obtain ⟨generation, task, next, rfl, found, here, callback⟩ := begins
  simp only [NodeState.step?, Option.ite_none_right_eq_some, Option.map_eq_some_iff] at stepped
  obtain ⟨-, server, moved, rfl⟩ := stepped
  obtain ⟨known, listed, moved⟩ := Option.bind_eq_some_iff.mp moved
  obtain rfl := Option.some.inj (listed.symm.trans found)
  obtain ⟨waiting, empty⟩ := Bool.or_eq_false_iff.mp (ok.tasks generation known found)
  rcases callback with ⟨spawned, -⟩ | ⟨message, draining, executing⟩
  · rw [spawned] at waiting
    cases waiting
  · obtain ⟨after, effect⟩ := Server.taskStep?_effect moved
    have same : server.tasks generation = some after := by
      rw [effect.tasks, Function.update_self]
    obtain rfl := Option.some.inj (same.symm.trans here)
    have move := Server.taskStep?_moves moved effect.tasks
    rcases move.call with ⟨_, _, first, -, -⟩ | ⟨idle, -⟩
    · have takes : known.pc.mayExecute = true := move.executes (by rw [executing]; rfl)
      rw [takes, first] at empty
      cases empty
    · rw [executing] at idle
      cases idle

/-! ## An activation after the lease -/

/-- A `SessionOpen` claims its address, is admitted and spawns its actor. -/
def openToSpawn : List NodeLabel :=
  openToClaim ++ [.reply (.issued 0), .reply (.outcome (.ok (.applied ⟨"1"⟩))), .advance false,
    .advance false, .advance false, .advance false].map fun event => .server (.conn 0 event)

/-- The authority is not lost, and the Server takes no step without it. -/
def keepsAuthority (config : NodeConfig) (sessionId : NodeSessionId) (state : NodeState)
    (label : NodeLabel) : Bool :=
  ((state.step? config sessionId label).all fun last =>
    !state.authorityValid || last.authorityValid) &&
    match label with
    | .server _ => state.authorityValid
    | _ => true

theorem callbacksSettled_of_keepsAuthority {label : NodeLabel}
    (keeps : keepsAuthority nodeConfig sessionId state label = true) :
    CallbacksSettled nodeConfig sessionId state label := by
  obtain ⟨kept, acting⟩ := Bool.and_eq_true_iff.mp keeps
  constructor
  · intro last stepped before lost
    rw [stepped, Option.all_some, before, lost] at kept
    cases kept
  · rintro id panics address session rest rfl here without
    rw [without] at acting
    cases acting

/-- The spawned task begins its activation under authority. -/
theorem spawned_actor_activates_under_authority :
    ∃ state last, (nodeSystem cartNode ⟨"a-1"⟩).run? cartStart (startNode ++ openToSpawn) =
        some state ∧
      state.step? cartNode ⟨"a-1"⟩ (.server (.task 1 .advance)) = some last ∧
      state.authorityValid = true := by
  have initial : (nodeSystem cartNode ⟨"a-1"⟩).ReachableWhile
      (CallbacksSettled cartNode ⟨"a-1"⟩) cartStart := .start ⟨rfl, rfl⟩
  have keeps : (nodeSystem cartNode ⟨"a-1"⟩).Meets
      (fun state label => keepsAuthority cartNode ⟨"a-1"⟩ state label = true) cartStart
      (startNode ++ openToSpawn) := meets_of_meets? rfl
  have reach := reachableWhile_of_run? initial
    (meets_mono (fun _ _ => callbacksSettled_of_keepsAuthority) keeps) rfl
  exact ⟨_, _, rfl, rfl, @callbacks_begin_under_authority _ _ _ _ reach
    (.server (.task 1 .advance)) ⟨1, _, _, rfl, rfl, rfl, .inl ⟨rfl, rfl⟩⟩ rfl⟩

/-- The lease runs out before the spawned task is run. -/
theorem actor_activates_without_authority :
    ¬ ∀ (config : NodeConfig) (sessionId : NodeSessionId) (state last : NodeState)
      (label : NodeLabel), (nodeSystem config sessionId).Reachable state →
        BeginsCallback state label last → state.step? config sessionId label = some last →
          state.authorityValid = true := by
  intro always
  have reach : (nodeSystem cartNode ⟨"a-1"⟩).Reachable _ :=
    reachableWhile_of_run? (.start ⟨rfl, rfl⟩) (meets_of_forall (fun _ _ => trivial) cartStart
      (startNode ++ openToSpawn ++ [.tick 10000000])) rfl
  have valid := always cartNode ⟨"a-1"⟩ _ _ (.server (.task 1 .advance)) reach
    ⟨1, _, _, rfl, rfl, rfl, .inl ⟨rfl, rfl⟩⟩ rfl
  exact absurd valid (by decide)

end Coactor.Runtime
