import Coactor.Runtime.Isolation

/-!
# A Server with a record of its run

The state of a Server forgets which generation a Session was opened on, which
callbacks an actor has received and whose `terminate_all` ended a Session.  A
recorded Server keeps these beside its state.  The record is written from the
states before and after a step and has no influence on the steps.
-/

namespace Coactor.Runtime

open Coactor.Foundation.Transition
open Coactor.Coordination
open Server

variable {server after : Server} {config : RuntimeConfig}

/-- What has happened so far: the generation whose mailbox each `SessionOpened`
entered, the opening whose registration a connection task has just removed to
close its Session, the messages that activated an actor, the callbacks in the
order they began, and the openings whose registrations each generation's
`terminate_all` has removed. -/
structure History where
  delivered : Opening → Option Nat
  closing : Nat → Option Opening
  activations : List (Nat × MailboxMessage)
  calls : List (Nat × MailboxMessage)
  terminated : List (Opening × Nat)

namespace History

def empty : History := ⟨fun _ => none, fun _ => none, [], [], []⟩

/-- The callbacks that one generation has received. -/
def callsOf (history : History) (generation : Nat) : List MailboxMessage :=
  (history.calls.filter fun call => call.1 == generation).map Prod.snd

end History

/-- The opening that a step delivers. -/
def deliveredBy (before after : Server) : ServerEvent → Option Opening
  | .conn id _ =>
      match (before.conns id).pc, (after.conns id).pc with
      | .openDispatch opening _ _, .openAwait _ => some opening
      | _, _ => none
  | _ => none

/-- The connection and the key of a registration that a step removes to close
the Session. -/
def closedBy (before after : Server) : ServerEvent → Option (Nat × SessionKey)
  | .conn id _ =>
      match (before.conns id).pc, (after.conns id).pc with
      | .closeUnregister address session _, .closeDispatch _ _ _ => some (id, (address, session))
      | _, _ => none
  | _ => none

/-- The message for which a step activates an actor. -/
def activatedBy (before after : Server) : ServerEvent → Option (Nat × MailboxMessage)
  | .conn _ _ =>
      match before.tasks before.nextGeneration, after.tasks before.nextGeneration with
      | none, some { mailbox := message :: _, .. } => some (before.nextGeneration, message)
      | _, _ => none
  | _ => none

/-- The callback that a step begins. -/
def calledBy (before after : Server) : ServerEvent → Option (Nat × MailboxMessage)
  | .task generation _ =>
      match before.tasks generation, after.tasks generation with
      | some task, some { pc := .executing message _, .. } =>
          if task.pc.isExecuting then none else some (generation, message)
      | _, _ => none
  | _ => none

/-- The openings that a step of `terminate_all` ends. -/
def terminatedBy (before : Server) : ServerEvent → List (Opening × Nat)
  | .task generation _ =>
      match before.tasks generation with
      | some { pc := .terminating (session :: _) _, address := address, .. } =>
          (before.registry.filter (SessionRegistry.names address session)).map
            fun entry => (entry.opening, generation)
      | _ => []
  | _ => []

def History.record (history : History) (before after : Server) (event : ServerEvent) :
    History where
  delivered := match deliveredBy before after event with
    | some opening =>
        Function.update history.delivered opening (some (before.target opening.address))
    | none => history.delivered
  closing := match closedBy before after event with
    | some (id, address, session) =>
        Function.update history.closing id
          ((before.registry.lookup address session).map SessionEntry.opening)
    | none => history.closing
  activations := history.activations ++ (activatedBy before after event).toList
  calls := history.calls ++ (calledBy before after event).toList
  terminated := history.terminated ++ terminatedBy before event

structure Recorded where
  server : Server
  history : History

/-- A Server whose run is recorded. -/
def recordedSystem (config : RuntimeConfig) : System Recorded (Bool × ServerEvent) where
  initial := fun recorded => recorded = ⟨.fresh config, .empty⟩
  step? := fun recorded label =>
    (recorded.server.step? config label.1 label.2).map fun after =>
      ⟨after, recorded.history.record recorded.server after label.2⟩

theorem recorded_step {recorded next : Recorded} {label : Bool × ServerEvent}
    (stepped : (recordedSystem config).step? recorded label = some next) :
    ∃ after, recorded.server.step? config label.1 label.2 = some after ∧
      next = ⟨after, recorded.history.record recorded.server after label.2⟩ := by
  obtain ⟨after, moved, rfl⟩ := Option.map_eq_some_iff.mp stepped
  exact ⟨after, moved, rfl⟩

/-- A recorded run is a run of the Server. -/
theorem reachable_server {guard : Recorded → Bool × ServerEvent → Prop}
    {guard' : Server → Bool × ServerEvent → Prop}
    (implies : ∀ recorded label, guard recorded label → guard' recorded.server label)
    {recorded : Recorded} (reach : (recordedSystem config).ReachableWhile guard recorded) :
    (serverSystem config).ReachableWhile guard' recorded.server := by
  induction reach with
  | start initial =>
      rw [initial]
      exact .start rfl
  | step earlier met stepped ih =>
      obtain ⟨after, moved, rfl⟩ := recorded_step stepped
      exact .step ih (implies _ _ met) moved

/-! ## What each move records -/

section

variable {history : History} {id : Nat} {event : ConnEvent} {generation : Nat}
  {taskEvent : TaskEvent}

@[simp]
theorem record_conn_calls :
    (history.record server after (.conn id event)).calls = history.calls := by
  simp [History.record, calledBy]

@[simp]
theorem record_conn_terminated :
    (history.record server after (.conn id event)).terminated = history.terminated := by
  simp [History.record, terminatedBy]

@[simp]
theorem record_task_delivered :
    (history.record server after (.task generation taskEvent)).delivered = history.delivered := rfl

@[simp]
theorem record_task_activations :
    (history.record server after (.task generation taskEvent)).activations =
      history.activations := by
  simp [History.record, activatedBy]

@[simp]
theorem record_task_closing :
    (history.record server after (.task generation taskEvent)).closing = history.closing := rfl

/-- `shutdown` and `fence` are not recorded. -/
theorem record_shutdown {expired : Bool} :
    history.record server after (.shutdown expired) = history := by
  simp [History.record, deliveredBy, closedBy, activatedBy, calledBy, terminatedBy]

theorem record_fence : history.record server after .fence = history := by
  simp [History.record, deliveredBy, closedBy, activatedBy, calledBy, terminatedBy]

/-- Only a delivery is recorded as one. -/
theorem ConnMove.record_delivered
    (move : ConnMove config server after id (server.conns id).pc (after.conns id).pc) :
    (history.record server after (.conn id event)).delivered = history.delivered ∨
      ∃ opening reservation, (server.conns id).pc = .openDispatch opening reservation .actors ∧
        (after.conns id).pc = .openAwait opening ∧
        Delivery server after opening.address (.sessionOpened opening) ∧
        after.registry = server.registry ∧ after.nextOpening = server.nextOpening ∧
        (history.record server after (.conn id event)).delivered =
          Function.update history.delivered opening (some (server.target opening.address)) := by
  generalize here : (server.conns id).pc = pc at move
  generalize there : (after.conns id).pc = next at move
  cases move with
  | opened delivery registry completions nextOpening =>
      exact .inr ⟨_, _, rfl, rfl, delivery, registry, nextOpening,
        by simp [History.record, deliveredBy, here, there]⟩
  | quiet same move =>
      refine .inl ?_
      cases move with
      | noted => cases pc <;> simp [History.record, deliveredBy, here, there]
      | aborted awaiting => cases pc <;> simp [History.record, deliveredBy, here, there]
      | _ => simp [History.record, deliveredBy, here, there]
  | unopened _ _ _ _ onward =>
      rcases onward with ⟨error, rfl⟩ | rfl
      · exact .inl (by simp [History.record, deliveredBy, here, there])
      · exact .inl (by simp [History.record, deliveredBy, here, there])
  | _ => exact .inl (by simp [History.record, deliveredBy, here, there])

/-- What `terminate_all` is recorded to end was registered before. -/
theorem mem_terminatedBy {opening : Opening} {by' : Nat} {task : ActorTask}
    (found : server.tasks generation = some task)
    (ended : (opening, by') ∈ terminatedBy server (.task generation taskEvent)) :
    by' = generation ∧ ∃ session rest onward entry,
      task.pc = .terminating (session :: rest) onward ∧ entry ∈ server.registry ∧
        entry.opening = opening ∧ entry.key = (task.address, session) := by
  obtain ⟨address, pc, mailbox, closed, shutdownSignal, abortRequested, completed⟩ := task
  cases pc with
  | terminating sessions onward =>
      cases sessions with
      | nil => simp [terminatedBy, found] at ended
      | cons session rest =>
          simp only [terminatedBy, found, List.mem_map, List.mem_filter, Prod.mk.injEq] at ended
          obtain ⟨entry, ⟨present, named⟩, rfl, rfl⟩ := ended
          exact ⟨rfl, session, rest, onward, entry, rfl, present, rfl,
            SessionRegistry.names_iff.mp named⟩
  | _ => simp [terminatedBy, found] at ended

end

end Coactor.Runtime
