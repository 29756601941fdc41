import Coactor.Runtime.Draining
import Coactor.Runtime.Termination

/-!
# Where an opening is delivered

An opening is registered, dispatched to one generation, and answered by it.
Until it is dispatched nobody has answered it; afterwards the generation that
carries it is the one it was delivered to, and that generation has not failed
it as long as it still takes messages.
-/

namespace Coactor.Runtime

open Coactor.Foundation.Transition
open Coactor.Coordination
open Server

variable {server after : Server} {config : RuntimeConfig}

/-! ## The opening of a connection task -/

/-- The opening a connection task has registered and not yet acknowledged. -/
def ConnPc.own? : ConnPc → Option Opening
  | .openDispatch opening _ _ | .openAwait opening | .openUnregister opening _ => some opening
  | _ => none

def Opening.key (opening : Opening) : SessionKey := (opening.address, opening.session)

theorem ConnPc.key_of_own {pc : ConnPc} {opening : Opening} (own : pc.own? = some opening)
    (lost : Bool) : pc.keys lost = [opening.key] := by
  cases pc <;> cases own <;> rfl

/-- A connection task has an opening from before, or has just registered it. -/
theorem ConnMove.own {id : Nat} {pc next : ConnPc}
    (move : ConnMove config server after id pc next) {opening : Opening}
    (own : next.own? = some opening) :
    pc.own? = some opening ∨ (opening.serial = server.nextOpening ∧
      Registers server after id pc opening.key) := by
  cases move with
  | quiet same move =>
      cases move with
      | receive envelope =>
          have keys := ConnPc.key_of_own own false
          rw [inbound_keys] at keys
          cases keys
      | @unclosed _ _ onward => cases onward <;> cases own
      | noted | dispatching | undispatched | turnedDown | unanswered => exact .inl own
      | _ => cases own
  | @register address session reservation absent registry =>
      cases own
      exact .inr ⟨rfl, ⟨reservation, rfl⟩, SessionRegistry.contains_eq_false absent, registry⟩
  | opened => exact .inl own
  | unopened _ _ _ _ onward =>
      rcases onward with ⟨error, rfl⟩ | rfl
      · exact .inl own
      · cases own
  | unacted _ _ _ _ onward => rcases onward with rfl | rfl <;> cases own
  | @closed _ _ onward | @unheard _ _ onward => cases onward <;> cases own
  | _ => cases own

/-- A connection task gives up an opening before it is delivered, or after it
has been answered with an error. -/
theorem ConnMove.into_unregister {id : Nat} {pc next : ConnPc}
    (move : ConnMove config server after id pc next) {opening : Opening} {error : SendError}
    (there : next = .openUnregister opening error) :
    (∃ error, pc = .openUnregister opening error) ∨
      (∃ reservation stage, pc = .openDispatch opening reservation stage) ∨
        server.completions opening = .dropped ∨
          ∃ generation error, server.completions opening = .sent generation (some error) := by
  cases move with
  | quiet same move =>
      cases move with
      | receive envelope =>
          have keys := congrArg (ConnPc.keys false) there
          rw [inbound_keys] at keys
          cases keys
      | @unclosed _ _ onward => cases onward <;> cases there
      | noted => exact .inl ⟨error, there⟩
      | undispatched early =>
          cases there
          exact .inr (.inl ⟨_, _, rfl⟩)
      | turnedDown sent =>
          cases there
          exact .inr (.inr (.inr ⟨_, _, sent⟩))
      | unanswered dropped =>
          cases there
          exact .inr (.inr (.inl dropped))
      | _ => cases there
  | unopened _ _ _ _ onward =>
      rcases onward with ⟨_, rfl⟩ | rfl
      · cases there
        exact .inr (.inl ⟨_, _, rfl⟩)
      · cases there
  | unacted _ _ _ _ onward => rcases onward with rfl | rfl <;> cases there
  | @closed _ _ onward | @unheard _ _ onward => cases onward <;> cases there
  | _ => cases there

/-! ## Tasks that stay -/

theorem Delivery.task_stays {address : ActorAddress} {message : MailboxMessage}
    (delivery : Delivery server after address message) (ok : RoutesOk server) {generation : Nat}
    {task : ActorTask} (found : server.tasks generation = some task) :
    ∃ next, after.tasks generation = some next ∧ next.address = task.address := by
  cases delivery with
  | appended target old appended =>
      rw [appended.tasks]
      by_cases same : generation = target
      · subst same
        rw [appended.found, Option.some.injEq] at found
        exact ⟨_, Function.update_self .., by rw [found]⟩
      · exact ⟨task, by rw [Function.update_of_ne same, found], rfl⟩
  | spawned spawned =>
      have less := ok.generation generation task found
      exact ⟨task, by rw [spawned.tasks, Function.update_of_ne (by omega), found], rfl⟩

/-- The task that a delivery goes to is one of the address. -/
theorem Delivery.target_task {address : ActorAddress} {message : MailboxMessage}
    (delivery : Delivery server after address message) (ok : RoutesOk server) :
    ∃ task, after.tasks (server.target address) = some task ∧ task.address = address := by
  cases delivery with
  | appended target old appended =>
      obtain ⟨found, present, placed⟩ := ok.task address _ appended.route
      rw [appended.found, Option.some.injEq] at present
      rw [appended.target, appended.tasks]
      exact ⟨_, Function.update_self .., by rw [present, placed]⟩
  | spawned spawned =>
      rw [spawned.target, spawned.tasks]
      exact ⟨_, Function.update_self .., rfl⟩

theorem ConnMove.task_stays {id : Nat} {pc next : ConnPc}
    (move : ConnMove config server after id pc next) (ok : RoutesOk server) {generation : Nat}
    {task : ActorTask} (found : server.tasks generation = some task) :
    ∃ current, after.tasks generation = some current ∧ current.address = task.address := by
  have kept : after.tasks = server.tasks →
      ∃ current, after.tasks generation = some current ∧ current.address = task.address :=
    fun same => ⟨task, same ▸ found, rfl⟩
  cases move with
  | quiet same | unheard same => exact kept same.tasks
  | register _ _ _ tasks | unregister _ _ tasks | close _ _ _ tasks => exact kept tasks
  | unopened refusal | unacted refusal => exact kept refusal.tasks
  | opened delivery | acted delivery => exact delivery.task_stays ok found
  | @closed _ _ _ target old appended =>
      exact (Delivery.appended target old appended).task_stays ok found

/-- A route belongs to the newest generation of its address. -/
def Newest (server : Server) : Prop :=
  ∀ address route generation task, server.routes address = some route →
    server.tasks generation = some task → task.address = address → generation ≤ route.generation

theorem Delivery.newest {address : ActorAddress} {message : MailboxMessage}
    (delivery : Delivery server after address message) (ok : RoutesOk server)
    (newest : Newest server) : Newest after := by
  intro other route generation task present found placed
  cases delivery with
  | appended target old appended =>
      rw [appended.routes] at present
      rw [appended.tasks] at found
      by_cases same : generation = target
      · subst same
        rw [Function.update_self, Option.some.injEq] at found
        exact newest other route generation old present appended.found (by rw [← placed, ← found])
      · rw [Function.update_of_ne same] at found
        exact newest other route generation task present found placed
  | spawned spawned =>
      rw [spawned.routes] at present
      rw [spawned.tasks] at found
      by_cases here : other = address
      · rw [here, Function.update_self, Option.some.injEq] at present
        subst present
        by_cases same : generation = server.nextGeneration
        · exact Nat.le_of_eq same
        · rw [Function.update_of_ne same] at found
          exact Nat.le_of_lt (ok.generation generation task found)
      · rw [Function.update_of_ne here] at present
        by_cases same : generation = server.nextGeneration
        · subst same
          rw [Function.update_self, Option.some.injEq] at found
          exact absurd (by rw [← placed, ← found]) here
        · rw [Function.update_of_ne same] at found
          exact newest other route generation task present found placed

theorem ConnMove.newest {id : Nat} {pc next : ConnPc}
    (move : ConnMove config server after id pc next) (ok : RoutesOk server)
    (newest : Newest server) : Newest after := by
  have kept : after.routes = server.routes → after.tasks = server.tasks → Newest after := by
    intro routes tasks address route generation task present found
    rw [routes] at present
    rw [tasks] at found
    exact newest address route generation task present found
  have refused : ∀ {address}, Refusal server after address → Newest after := by
    intro address refusal other route generation task present found
    rw [refusal.tasks] at found
    rcases refusal.routes with same | ⟨-, removed⟩
    · rw [same] at present
      exact newest other route generation task present found
    · rw [removed] at present
      by_cases here : other = address
      · rw [here, Function.update_self] at present
        cases present
      · rw [Function.update_of_ne here] at present
        exact newest other route generation task present found
  cases move with
  | quiet same | unheard same => exact kept same.routes same.tasks
  | register _ _ routes tasks | close _ _ routes tasks => exact kept routes tasks
  | unregister _ routes tasks => exact kept routes tasks
  | unopened refusal | unacted refusal => exact refused refusal
  | opened delivery | acted delivery => exact delivery.newest ok newest
  | @closed _ _ _ target old appended =>
      exact (Delivery.appended target old appended).newest ok newest

/-- A task only carries what it carried before. -/
theorem TaskMove.carries {generation : Nat} {task next : ActorTask}
    (move : TaskMove server after generation task next)
    (effect : TaskEffect server after generation task next) {opening : Opening}
    (carries : next.Carries opening) : task.Carries opening := by
  rcases carries with waiting | ⟨draining, executing⟩
  · exact .inl (effect.mailbox.subset waiting)
  · rcases move.call with ⟨message, _, taken, begun, -⟩ | ⟨idle, -⟩
    · rw [executing] at begun
      cases begun
      exact .inl (taken ▸ List.mem_cons_self)
    · rw [executing] at idle
      cases idle

/-! ## The invariant -/

/-- Where openings have been delivered, and how far they are answered. -/
structure DeliveriesOk (recorded : Recorded) : Prop where
  known : ∀ opening generation, recorded.history.delivered opening = some generation →
    opening.serial < recorded.server.nextOpening ∧
      ∃ task, recorded.server.tasks generation = some task ∧ task.address = opening.address
  carried : ∀ opening generation task, recorded.server.tasks generation = some task →
    task.Carries opening → recorded.history.delivered opening = some generation
  pending : ∀ opening generation task, recorded.history.delivered opening = some generation →
    recorded.server.tasks generation = some task → task.pc.mayExecute = true →
      recorded.server.completions opening = .pending ∨
        recorded.server.completions opening = .sent (some generation) none
  dispatching : ∀ id opening reservation stage,
    (recorded.server.conns id).pc = .openDispatch opening reservation stage →
      recorded.history.delivered opening = none ∧
        recorded.server.completions opening = .pending
  unregistering : ∀ id opening error generation task,
    (recorded.server.conns id).pc = .openUnregister opening error →
      recorded.history.delivered opening = some generation →
        recorded.server.tasks generation = some task → task.pc.mayExecute = false
  opening : ∀ id opening, (recorded.server.conns id).pc.own? = some opening →
    ∀ entry ∈ recorded.server.registry, entry.key = opening.key → entry.opening = opening
  newest : Newest recorded.server

namespace DeliveriesOk

variable {history : History}

theorem fresh (config : RuntimeConfig) : DeliveriesOk ⟨.fresh config, .empty⟩ where
  known := by
    intro opening generation delivered
    cases delivered
  carried := by
    intro opening generation task found
    cases found
  pending := by
    intro opening generation task delivered
    cases delivered
  dispatching := by
    intro id opening reservation stage here
    cases here
  unregistering := by
    intro id opening error generation task here
    cases here
  opening := by
    intro id opening own
    cases own
  newest := by
    intro address route generation task present
    cases present

/-! ### Steps of a connection task -/

section

variable {id : Nat} {event : ConnEvent}

/-- What is recorded as delivered was so before, or is delivered by this step. -/
theorem delivered_origin
    (move : ConnMove config server after id (server.conns id).pc (after.conns id).pc)
    {opening : Opening} {generation : Nat}
    (delivered : (history.record server after (.conn id event)).delivered opening =
      some generation) :
    history.delivered opening = some generation ∨
      ((∃ reservation, (server.conns id).pc = .openDispatch opening reservation .actors) ∧
        (after.conns id).pc = .openAwait opening ∧
        Delivery server after opening.address (.sessionOpened opening) ∧
        server.target opening.address = generation) := by
  rcases @ConnMove.record_delivered _ _ _ history id event move with same | ⟨other, reservation,
    here, there, delivery, -, -, recorded⟩
  · exact .inl (same ▸ delivered)
  · rw [recorded] at delivered
    by_cases same : opening = other
    · subst same
      rw [Function.update_self, Option.some.injEq] at delivered
      exact .inr ⟨⟨reservation, here⟩, there, delivery, delivered⟩
    · rw [Function.update_of_ne same] at delivered
      exact .inl delivered

theorem delivered_new {opening : Opening} {reservation : Bool} {stage : DispatchStage}
    (here : (server.conns id).pc = .openDispatch opening reservation stage)
    (there : (after.conns id).pc = .openAwait opening) :
    (history.record server after (.conn id event)).delivered opening =
      some (server.target opening.address) := by
  simp [History.record, deliveredBy, here, there]

theorem delivered_stays (ok : DeliveriesOk ⟨server, history⟩)
    (move : ConnMove config server after id (server.conns id).pc (after.conns id).pc)
    {opening : Opening} {generation : Nat}
    (delivered : history.delivered opening = some generation) :
    (history.record server after (.conn id event)).delivered opening = some generation := by
  rcases @ConnMove.record_delivered _ _ _ history id event move with same | ⟨other, reservation,
    here, -, -, -, -, recorded⟩
  · rwa [same]
  · rw [recorded, Function.update_of_ne]
    · exact delivered
    · rintro rfl
      have undelivered := (ok.dispatching id opening reservation _ here).1
      rw [show history.delivered opening = some generation from delivered] at undelivered
      cases undelivered

/-- No other connection task dispatches the same opening. -/
theorem dispatching_alone (exclusive : Exclusive true server) {other : Nat} {opening : Opening}
    {reservation reservation' : Bool} {stage stage' : DispatchStage}
    (here : (server.conns id).pc = .openDispatch opening reservation stage)
    (there : (server.conns other).pc = .openDispatch opening reservation' stage') : other = id := by
  refine exclusive.alone other id opening.key ?_ ?_
  · rw [there]
    exact List.mem_cons_self
  · rw [here]
    exact List.mem_cons_self

/-- A generation with a delivered opening has its task from before. -/
theorem delivered_task (ok : DeliveriesOk ⟨server, history⟩) (routes : RoutesOk server)
    (move : ConnMove config server after id (server.conns id).pc (after.conns id).pc)
    {opening : Opening} {generation : Nat} {task : ActorTask}
    (delivered : history.delivered opening = some generation)
    (found : after.tasks generation = some task) :
    ∃ old, server.tasks generation = some old ∧ old.pc = task.pc := by
  rcases move.task_origin found with ⟨old, stored, pc, -⟩ | fresh
  · exact ⟨old, stored, pc⟩
  · obtain ⟨-, current, present, -⟩ := ok.known opening generation delivered
    rw [fresh, show server.tasks server.nextGeneration = none from routes.fresh_generation] at present
    cases present

theorem connMove_dispatching (ok : DeliveriesOk ⟨server, history⟩) (openings : OpeningsOk server)
    (exclusive : Exclusive true server)
    (others : ∀ other, other ≠ id → after.conns other = server.conns other)
    (move : ConnMove config server after id (server.conns id).pc (after.conns id).pc)
    {other : Nat} {opening : Opening} {reservation : Bool} {stage : DispatchStage}
    (there : (after.conns other).pc = .openDispatch opening reservation stage) :
    (history.record server after (.conn id event)).delivered opening = none ∧
      after.completions opening = .pending := by
  have before : history.delivered opening = none ∧ server.completions opening = .pending := by
    by_cases same : other = id
    · subst same
      rcases move.into_dispatch there with ⟨reservation', stage', here⟩ | ⟨serial, -⟩
      · exact ok.dispatching other opening reservation' stage' here
      · refine ⟨?_, openings.fresh opening (Nat.le_of_eq serial.symm)⟩
        cases recorded : history.delivered opening with
        | none => rfl
        | some generation =>
            have less := (ok.known opening generation recorded).1
            simp only at less
            omega
    · rw [others other same] at there
      exact ok.dispatching other opening reservation stage there
  have elsewhere : ∀ reservation', (server.conns id).pc = .openDispatch opening reservation' .actors →
      other = id := by
    intro reservation' here
    by_contra different
    rw [others other different] at there
    exact different (dispatching_alone exclusive here there)
  constructor
  · cases recorded : (history.record server after (.conn id event)).delivered opening with
    | none => rfl
    | some generation =>
        rcases delivered_origin move recorded with old | ⟨⟨reservation', here⟩, gone, -⟩
        · rw [before.1] at old
          cases old
        · rw [← elsewhere reservation' here, there] at gone
          cases gone
  · rcases move.completions opening with same | ⟨⟨reservation', here⟩, onward, -⟩
    · rw [same]
      exact before.2
    · rw [← elsewhere reservation' here, there] at onward
      rcases onward with ⟨error, away⟩ | away <;> cases away

theorem connMove_unregistering (ok : DeliveriesOk ⟨server, history⟩) (routes : RoutesOk server)
    (exclusive : Exclusive true server)
    (others : ∀ other, other ≠ id → after.conns other = server.conns other)
    (move : ConnMove config server after id (server.conns id).pc (after.conns id).pc)
    {other : Nat} {opening : Opening} {error : SendError} {generation : Nat} {task : ActorTask}
    (there : (after.conns other).pc = .openUnregister opening error)
    (delivered : (history.record server after (.conn id event)).delivered opening =
      some generation)
    (found : after.tasks generation = some task) : task.pc.mayExecute = false := by
  rcases delivered_origin move delivered with old | ⟨⟨reservation, here⟩, gone, -⟩
  · obtain ⟨earlier, stored, pc⟩ := ok.delivered_task routes move old found
    rw [← pc]
    by_cases same : other = id
    · subst same
      rcases move.into_unregister there with ⟨error', here⟩ | ⟨reservation, stage, here⟩ | answered
      · exact ok.unregistering other opening error' generation earlier here old stored
      · have undelivered := (ok.dispatching other opening reservation stage here).1
        rw [show history.delivered opening = some generation from old] at undelivered
        cases undelivered
      · cases may : earlier.pc.mayExecute with
        | false => rfl
        | true =>
            rcases ok.pending opening generation earlier old stored may with pending | sent
            · rcases answered with dropped | ⟨by', error', failed⟩
              · exact absurd (dropped.symm.trans pending) (by simp)
              · exact absurd (failed.symm.trans pending) (by simp)
            · rcases answered with dropped | ⟨by', error', failed⟩
              · exact absurd (dropped.symm.trans sent) (by simp)
              · exact absurd (failed.symm.trans sent) (by simp)
    · rw [others other same] at there
      exact ok.unregistering other opening error generation earlier there old stored
  · have same : other = id := by
      by_contra different
      rw [others other different] at there
      refine different (exclusive.alone other id opening.key ?_ ?_)
      · rw [there]
        exact List.mem_cons_self
      · rw [here]
        exact List.mem_cons_self
    rw [← same, there] at gone
    cases gone

theorem connMove_opening (ok : DeliveriesOk ⟨server, history⟩) (exclusive : Exclusive true after)
    (others : ∀ other, other ≠ id → after.conns other = server.conns other)
    (move : ConnMove config server after id (server.conns id).pc (after.conns id).pc)
    {other : Nat} {opening : Opening} (own : (after.conns other).pc.own? = some opening)
    {entry : SessionEntry} (present : entry ∈ after.registry) (named : entry.key = opening.key) :
    entry.opening = opening := by
  have connected : entry.connection = other :=
    exclusive.own other opening.key (by rw [ConnPc.key_of_own own]; exact List.mem_cons_self)
      entry present named
  rcases move.registry with kept | ⟨key, registers, -, -⟩
  · by_cases same : other = id
    · subst same
      rcases move.own own with old | ⟨serial, registers⟩
      · exact ok.opening other opening old entry (kept entry present) named
      · exact absurd named (registers.absent entry (kept entry present))
    · rw [others other same] at own
      exact ok.opening other opening own entry (kept entry present) named
  · rw [registers.registry, List.mem_append, List.mem_singleton] at present
    rcases present with old | rfl
    · by_cases same : other = id
      · subst same
        rcases move.own own with earlier | ⟨serial, registers'⟩
        · exact ok.opening other opening earlier entry old named
        · exact absurd named (registers'.absent entry old)
      · rw [others other same] at own
        exact ok.opening other opening own entry old named
    · simp only at connected
      subst connected
      rcases move.own own with earlier | ⟨serial, registers'⟩
      · obtain ⟨reservation, here⟩ := registers.here
        rw [here] at earlier
        cases earlier
      · obtain ⟨place, name⟩ := Prod.mk.inj named
        simp only at place name
        rw [← serial, place, name]

theorem connMove (ok : DeliveriesOk ⟨server, history⟩) (routes : RoutesOk server)
    (openings : OpeningsOk server) (exclusive : Exclusive true server)
    (exclusive' : Exclusive true after)
    (others : ∀ other, other ≠ id → after.conns other = server.conns other)
    (move : ConnMove config server after id (server.conns id).pc (after.conns id).pc) :
    DeliveriesOk ⟨after, history.record server after (.conn id event)⟩ where
  known := by
    intro opening generation delivered
    rcases delivered_origin move delivered with old | ⟨⟨reservation, here⟩, -, delivery, rfl⟩
    · obtain ⟨serial, task, found, placed⟩ := ok.known opening generation old
      obtain ⟨current, present, same⟩ := move.task_stays routes found
      exact ⟨Nat.lt_of_lt_of_le serial move.nextOpening_le, current, present, same.trans placed⟩
    · exact ⟨Nat.lt_of_lt_of_le (openings.dispatching opening ⟨id, reservation, _, here⟩)
        move.nextOpening_le, delivery.target_task routes⟩
  carried := by
    intro opening generation task found carries
    rcases move.carries found carries with ⟨old, stored, earlier⟩ | ⟨reservation, here, there, rfl⟩
    · exact ok.delivered_stays move (ok.carried opening generation old stored earlier)
    · exact delivered_new here there
  pending := by
    intro opening generation task delivered found may
    rcases delivered_origin move delivered with old | ⟨⟨reservation, here⟩, there, -, rfl⟩
    · obtain ⟨current, present, pc⟩ := ok.delivered_task routes move old found
      have answer := ok.pending opening generation current old present (pc ▸ may)
      rcases move.completions opening with same | ⟨⟨reservation, here⟩, -, -⟩
      · simp only [same]
        exact answer
      · have undelivered := (ok.dispatching id opening reservation _ here).1
        rw [show history.delivered opening = some generation from old] at undelivered
        cases undelivered
    · left
      rcases move.completions opening with same | ⟨-, onward, -⟩
      · simp only [same]
        exact (ok.dispatching id opening reservation _ here).2
      · rw [there] at onward
        rcases onward with ⟨error, away⟩ | away <;> cases away
  dispatching := fun _ _ _ _ there => ok.connMove_dispatching openings exclusive others move there
  unregistering := fun _ _ _ _ _ there delivered found =>
    ok.connMove_unregistering routes exclusive others move there delivered found
  opening := fun _ _ own _ present named =>
    ok.connMove_opening exclusive' others move own present named
  newest := move.newest routes ok.newest

end

/-! ### Steps of an actor task, of `shutdown` and of `fence` -/

/-- A step of an actor task answers only what was delivered to it. -/
theorem moved (ok : DeliveriesOk ⟨server, history⟩) {generation : Nat} {task next : ActorTask}
    (found : server.tasks generation = some task)
    (effect : TaskEffect server after generation task next)
    (move : TaskMove server after generation task next)
    (nextOpening : after.nextOpening = server.nextOpening) {next' : History}
    (delivered : next'.delivered = history.delivered) : DeliveriesOk ⟨after, next'⟩ := by
  have origin : ∀ other current, after.tasks other = some current →
      ∃ old, server.tasks other = some old ∧ old.address = current.address ∧
        (current.pc.mayExecute = true → old.pc.mayExecute = true) ∧
        ∀ opening, current.Carries opening → old.Carries opening := by
    intro other current present
    rw [effect.tasks] at present
    by_cases same : other = generation
    · subst same
      rw [Function.update_self, Option.some.injEq] at present
      subst present
      exact ⟨task, found, effect.address.symm, move.executes, fun _ => move.carries effect⟩
    · rw [Function.update_of_ne same] at present
      exact ⟨current, present, rfl, id, fun _ => id⟩
  have registry : ∀ entry ∈ after.registry, entry ∈ server.registry := by
    intro entry present
    rcases move.registry with same | ⟨session, rest, onward, -, -, removed⟩
    · rwa [same] at present
    · rw [removed] at present
      exact (SessionRegistry.mem_unregisterActor.mp present).1
  constructor
  · intro opening target known
    simp only [delivered] at known
    obtain ⟨serial, current, present, placed⟩ := ok.known opening target known
    refine ⟨nextOpening ▸ serial, ?_⟩
    simp only [effect.tasks]
    by_cases same : target = generation
    · subst same
      rw [show server.tasks target = some current from present, Option.some.injEq] at found
      exact ⟨next, Function.update_self .., effect.address.trans (found ▸ placed)⟩
    · exact ⟨current, by rw [Function.update_of_ne same]; exact present, placed⟩
  · intro opening other current present carries
    obtain ⟨old, stored, -, -, earlier⟩ := origin other current present
    simp only [delivered]
    exact ok.carried opening other old stored (earlier opening carries)
  · intro opening target current known present may
    simp only [delivered] at known
    obtain ⟨old, stored, -, executes, -⟩ := origin target current present
    have answer := ok.pending opening target old known stored (executes may)
    rcases move.completions opening with same | ⟨⟨draining, here⟩, sent⟩ | ⟨carries, stopped, -⟩
    · simp only [same]
      exact answer
    · have own := ok.carried opening generation task found (.inr ⟨draining, here⟩)
      rw [show history.delivered opening = some target from known, Option.some.injEq] at own
      exact .inr (own ▸ sent)
    · have own := ok.carried opening generation task found carries
      rw [show history.delivered opening = some target from known, Option.some.injEq] at own
      rw [show after.tasks = _ from effect.tasks, own, Function.update_self,
        Option.some.injEq] at present
      rw [← present, stopped] at may
      cases may
  · intro id opening reservation stage here
    simp only [effect.conns] at here
    obtain ⟨undelivered, pending⟩ := ok.dispatching id opening reservation stage here
    refine ⟨delivered ▸ undelivered, ?_⟩
    have uncarried : ¬ task.Carries opening := by
      intro carries
      have own := ok.carried opening generation task found carries
      rw [undelivered] at own
      cases own
    rcases move.completions opening with same | ⟨⟨draining, executing⟩, -⟩ | ⟨carries, -⟩
    · simp only [same]
      exact pending
    · exact absurd (.inr ⟨draining, executing⟩) uncarried
    · exact absurd carries uncarried
  · intro id opening error target current here known present
    simp only [effect.conns] at here
    simp only [delivered] at known
    obtain ⟨old, stored, -, executes, -⟩ := origin target current present
    have stopped := ok.unregistering id opening error target old here known stored
    cases may : current.pc.mayExecute with
    | false => rfl
    | true => rw [executes may] at stopped; cases stopped
  · intro id opening own entry present
    simp only [effect.conns] at own
    exact ok.opening id opening own entry (registry entry present)
  · intro address route other current present here placed
    obtain ⟨old, stored, same, -⟩ := origin other current here
    obtain ⟨earlier, before, kept⟩ := effect.route_known present
    rw [← kept]
    exact ok.newest address earlier other old before stored (same.trans placed)

theorem controlled (ok : DeliveriesOk ⟨server, history⟩) (effect : ControlEffect server after) :
    DeliveriesOk ⟨after, history⟩ := by
  have origin : ∀ generation current, after.tasks generation = some current →
      ∃ old, server.tasks generation = some old ∧ SameTask old current := by
    intro generation current present
    obtain ⟨mark, keeps, marked⟩ := effect.tasks generation
    rw [marked] at present
    obtain ⟨old, stored, rfl⟩ := Option.map_eq_some_iff.mp present
    exact ⟨old, stored, keeps old⟩
  constructor
  · intro opening generation known
    obtain ⟨serial, task, found, placed⟩ := ok.known opening generation known
    obtain ⟨mark, keeps, marked⟩ := effect.tasks generation
    refine ⟨effect.nextOpening ▸ serial, mark task, ?_, (keeps task).address.trans placed⟩
    rw [show after.tasks generation = _ from marked,
      show server.tasks generation = some task from found]
    rfl
  · intro opening generation task found carries
    obtain ⟨old, stored, same⟩ := origin generation task found
    refine ok.carried opening generation old stored ?_
    rwa [ActorTask.Carries, same.mailbox, same.pc] at carries
  · intro opening generation task known found may
    obtain ⟨old, stored, same⟩ := origin generation task found
    simp only [effect.completions]
    exact ok.pending opening generation old known stored (same.pc ▸ may)
  · intro id opening reservation stage here
    simp only [effect.conns] at here
    simp only [effect.completions]
    exact ok.dispatching id opening reservation stage here
  · intro id opening error generation task here known found
    simp only [effect.conns] at here
    obtain ⟨old, stored, same⟩ := origin generation task found
    rw [same.pc]
    exact ok.unregistering id opening error generation old here known stored
  · intro id opening own entry present
    simp only [effect.conns] at own
    exact ok.opening id opening own entry (effect.registry.subset present)
  · intro address route generation task present found placed
    obtain ⟨old, stored, same⟩ := origin generation task found
    exact ok.newest address route generation old (effect.routes address route present) stored
      (same.address.symm.trans placed)

theorem step? (ok : DeliveriesOk ⟨server, history⟩) (routes : RoutesOk server)
    (openings : OpeningsOk server) (exclusive : Exclusive true server)
    {label : Bool × ServerEvent} (met : Uncontested true server label)
    (stepped : server.step? config label.1 label.2 = some after) :
    DeliveriesOk ⟨after, history.record server after label.2⟩ := by
  have exclusive' := exclusive.step? met stepped
  obtain ⟨authorityValid, event⟩ := label
  cases step?_moves stepped with
  | conn control others move =>
      exact ok.connMove routes openings exclusive exclusive' others move
  | task found effect move ends nextOpening =>
      exact ok.moved found effect move nextOpening record_task_delivered
  | shutdown effect =>
      rw [record_shutdown]
      exact ok.controlled effect
  | fence effect =>
      rw [record_fence]
      exact ok.controlled effect

end DeliveriesOk

theorem deliveriesOk_of_reachable {recorded : Recorded}
    (reach : (recordedSystem config).ReachableWhile
      (fun recorded label => Uncontested true recorded.server label) recorded) :
    DeliveriesOk recorded := by
  refine invariant_of_reachable_step DeliveriesOk ?_ ?_ reach
  · rintro _ rfl
    exact .fresh config
  · intro before label after earlier ok met stepped
    obtain ⟨server, moved, rfl⟩ := recorded_step stepped
    have unguarded : (serverSystem config).Reachable before.server :=
      reachable_server (fun _ _ _ => trivial) earlier
    exact ok.step? (routesOk_of_reachable unguarded) (openingsOk_of_reachable unguarded)
      (exclusive_of_reachable (reachable_server (fun _ _ => id) earlier)) met moved

end Coactor.Runtime
