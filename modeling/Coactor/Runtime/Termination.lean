import Coactor.Runtime.History

/-!
# Whose Sessions `terminate_all` ends

A Session is registered before its `SessionOpened` is dispatched, and the
registry knows no generations.  A generation that stops takes a snapshot of all
Sessions of its address and ends them one by one, so a Session that is opened on
the next generation in the meantime is ended as well.  When a `SessionOpened`
is dispatched only after every older generation is done with the Session, each
generation ends its own Sessions only.
-/

namespace Coactor.Runtime

open Coactor.Foundation.Transition
open Coactor.Coordination
open Server

variable {server after : Server} {config : RuntimeConfig}

/-! ## Dispatches after a stopped generation is done -/

/-- No older generation of the address can still end the Session, and none has. -/
def Server.Settled (server : Server) (opening : Opening) : Prop :=
  (∃ entry ∈ server.registry, entry.opening = opening) ∧
    ∀ generation task, server.tasks generation = some task →
      task.address = opening.address → generation < server.target opening.address →
        task.pc.mayTerminate opening.session = false

/-- A `SessionOpened` is dispatched while its Session is registered and every
older generation is done with it. -/
def Undisturbed (server : Server) : Bool × ServerEvent → Prop
  | (_, .conn id (.advance _)) =>
      match (server.conns id).pc with
      | .openDispatch opening _ .actors => server.Settled opening
      | _ => True
  | _ => True

/-! ## The invariant -/

/-- Openings delivered and openings ended, and what can still happen to them. -/
structure TerminationsOk (recorded : Recorded) : Prop where
  entries : ∀ entry ∈ recorded.server.registry,
    entry.opening.serial < recorded.server.nextOpening
  bounded : ∀ opening generation, recorded.history.delivered opening = some generation →
    generation < recorded.server.nextGeneration
  older : ∀ opening delivered generation task,
    recorded.history.delivered opening = some delivered →
    recorded.server.tasks generation = some task → task.address = opening.address →
    generation < delivered → task.pc.mayTerminate opening.session = false
  gone : ∀ opening generation, (opening, generation) ∈ recorded.history.terminated →
    opening.serial < recorded.server.nextOpening ∧
      ∀ entry ∈ recorded.server.registry, entry.opening ≠ opening
  own : ∀ opening generation delivered, (opening, generation) ∈ recorded.history.terminated →
    recorded.history.delivered opening = some delivered → delivered ≤ generation

namespace TerminationsOk

variable {history : History}

theorem fresh (config : RuntimeConfig) : TerminationsOk ⟨.fresh config, .empty⟩ where
  entries := by
    intro entry member
    cases member
  bounded := by
    intro opening generation delivered
    cases delivered
  older := by
    intro opening generation other task delivered
    cases delivered
  gone := by
    intro opening generation ended
    cases ended
  own := by
    intro opening generation delivered ended
    cases ended

/-- A delivery of an opening that no older generation can end any more. -/
theorem opened (ok : TerminationsOk ⟨server, history⟩) (routes : RoutesOk server)
    {opening : Opening} (settled : server.Settled opening)
    (delivery : Delivery server after opening.address (.sessionOpened opening))
    (registry : after.registry = server.registry)
    (nextOpening : after.nextOpening = server.nextOpening) {next : History}
    (delivered : next.delivered =
      Function.update history.delivered opening (some (server.target opening.address)))
    (terminated : next.terminated = history.terminated) : TerminationsOk ⟨after, next⟩ where
  entries := by
    simp only [registry, nextOpening]
    exact ok.entries
  bounded := by
    intro other generation found
    simp only [delivered] at found
    by_cases same : other = opening
    · subst same
      rw [Function.update_self, Option.some.injEq] at found
      exact found ▸ delivery.target_lt routes
    · rw [Function.update_of_ne same] at found
      exact Nat.lt_of_lt_of_le (ok.bounded other generation found) delivery.nextGeneration_le
  older := by
    intro other target generation task found present address less
    simp only [delivered] at found
    have bound : target ≤ server.nextGeneration := by
      by_cases same : other = opening
      · subst same
        rw [Function.update_self, Option.some.injEq] at found
        rw [← found]
        cases delivery with
        | appended target old appended =>
            rw [appended.target]
            exact Nat.le_of_lt (routes.generation _ _ appended.found)
        | spawned spawned => exact Nat.le_of_eq spawned.target
      · rw [Function.update_of_ne same] at found
        exact Nat.le_of_lt (ok.bounded other target found)
    rcases delivery.task_origin present with ⟨old, stored, pc, place⟩ | fresh
    · rw [← pc]
      by_cases same : other = opening
      · subst same
        rw [Function.update_self, Option.some.injEq] at found
        exact settled.2 generation old stored (place.trans address) (found ▸ less)
      · rw [Function.update_of_ne same] at found
        exact ok.older other target generation old found stored (place.trans address) less
    · exact absurd less (by omega)
  gone := by
    intro other generation ended
    simp only [terminated] at ended
    simp only [registry, nextOpening]
    exact ok.gone other generation ended
  own := by
    intro other generation target ended found
    simp only [terminated] at ended
    simp only [delivered] at found
    by_cases same : other = opening
    · subst same
      obtain ⟨entry, present, rfl⟩ := settled.1
      exact absurd rfl ((ok.gone entry.opening generation ended).2 entry present)
    · rw [Function.update_of_ne same] at found
      exact ok.own other generation target ended found

/-- A step that delivers no opening and ends no Session. -/
theorem mono (ok : TerminationsOk ⟨server, history⟩) {next : History}
    (registry : ∀ entry ∈ after.registry,
      entry ∈ server.registry ∨ entry.opening.serial = server.nextOpening)
    (nextOpening : server.nextOpening ≤ after.nextOpening)
    (fits : ∀ entry ∈ after.registry, entry.opening.serial < after.nextOpening)
    (nextGeneration : server.nextGeneration ≤ after.nextGeneration)
    (tasks : ∀ generation task, after.tasks generation = some task →
      (∃ old, server.tasks generation = some old ∧ old.address = task.address ∧
        ∀ session, task.pc.mayTerminate session = true → old.pc.mayTerminate session = true) ∨
      server.nextGeneration ≤ generation)
    (delivered : next.delivered = history.delivered)
    (terminated : next.terminated = history.terminated) : TerminationsOk ⟨after, next⟩ where
  entries := fits
  bounded := by
    intro opening generation found
    simp only [delivered] at found
    exact Nat.lt_of_lt_of_le (ok.bounded opening generation found) nextGeneration
  older := by
    intro opening target generation task found present address less
    simp only [delivered] at found
    rcases tasks generation task present with ⟨old, stored, place, terminates⟩ | fresh
    · have safe := ok.older opening target generation old found stored (place.trans address) less
      cases may : task.pc.mayTerminate opening.session with
      | false => rfl
      | true => rw [terminates _ may] at safe; cases safe
    · have bound : target < server.nextGeneration := ok.bounded opening target found
      exact absurd less (by omega)
  gone := by
    intro opening generation ended
    simp only [terminated] at ended
    obtain ⟨serial, absent⟩ := ok.gone opening generation ended
    refine ⟨Nat.lt_of_lt_of_le serial nextOpening, ?_⟩
    rintro entry present rfl
    rcases registry entry present with old | new
    · exact absent entry old rfl
    · exact absurd serial (by simp [new])
  own := by
    intro opening generation target ended found
    simp only [terminated] at ended
    simp only [delivered] at found
    exact ok.own opening generation target ended found

/-- A step of `terminate_all` ends a Session that no later generation has. -/
theorem terminated (ok : TerminationsOk ⟨server, history⟩) {generation : Nat}
    {taskEvent : TaskEvent} {task next : ActorTask}
    (found : server.tasks generation = some task)
    (effect : TaskEffect server after generation task next)
    (move : TaskMove server after generation task next)
    (ends : ∀ session rest onward, task.pc = .terminating (session :: rest) onward →
      after.registry = server.registry.unregisterActor task.address session)
    (nextOpening : after.nextOpening = server.nextOpening) :
    TerminationsOk ⟨after, history.record server after (.task generation taskEvent)⟩ := by
  have removed : ∀ entry ∈ after.registry, entry ∈ server.registry := by
    intro entry present
    rcases move.registry with same | ⟨session, rest, onward, -, -, registry⟩
    · rwa [same] at present
    · rw [registry] at present
      exact (SessionRegistry.mem_unregisterActor.mp present).1
  have ended : ∀ opening by',
      (opening, by') ∈ (history.record server after (.task generation taskEvent)).terminated →
        (opening, by') ∈ history.terminated ∨
          by' = generation ∧ ∃ session rest onward entry,
            task.pc = .terminating (session :: rest) onward ∧ entry ∈ server.registry ∧
              entry.opening = opening ∧ entry.key = (task.address, session) := by
    intro opening by' member
    rcases List.mem_append.mp member with old | new
    · exact .inl old
    · exact .inr (mem_terminatedBy found new)
  constructor
  · intro entry present
    rw [nextOpening]
    exact ok.entries entry (removed entry present)
  · intro opening delivered recorded
    rw [effect.nextGeneration]
    exact ok.bounded opening delivered recorded
  · intro opening delivered other current recorded present address less
    simp only [effect.tasks] at present
    by_cases same : other = generation
    · subst same
      rw [Function.update_self, Option.some.injEq] at present
      subst present
      have safe := ok.older opening delivered other task recorded found
        (effect.address.symm.trans address) less
      cases may : next.pc.mayTerminate opening.session with
      | false => rfl
      | true =>
          rw [move.terminates _ may] at safe
          cases safe
    · rw [Function.update_of_ne same] at present
      exact ok.older opening delivered other current recorded present address less
  · intro opening by' member
    simp only [nextOpening]
    rcases ended opening by' member with old | ⟨-, session, rest, onward, entry, here, present,
      rfl, key⟩
    · obtain ⟨serial, absent⟩ := ok.gone opening by' old
      exact ⟨serial, fun entry present => absent entry (removed entry present)⟩
    · refine ⟨ok.entries entry present, ?_⟩
      intro other remaining same
      rw [ends session rest onward here] at remaining
      refine (SessionRegistry.mem_unregisterActor.mp remaining).2 ?_
      rw [← key]
      simp only [SessionEntry.key, same]
  · intro opening by' delivered member recorded
    rcases ended opening by' member with old | ⟨rfl, session, rest, onward, entry, here, present,
      rfl, key⟩
    · exact ok.own opening by' delivered old recorded
    · by_contra later
      obtain ⟨place, name⟩ := Prod.mk.inj key
      have safe := ok.older entry.opening delivered by' task recorded found place.symm
        (Nat.lt_of_not_le later)
      rw [here, name] at safe
      simp [TaskPc.mayTerminate] at safe

theorem connMove (ok : TerminationsOk ⟨server, history⟩) (routes : RoutesOk server) {id : Nat}
    {event : ConnEvent}
    (move : ConnMove config server after id (server.conns id).pc (after.conns id).pc)
    (settled : ∀ opening reservation,
      (server.conns id).pc = .openDispatch opening reservation .actors →
      (after.conns id).pc = .openAwait opening → server.Settled opening) :
    TerminationsOk ⟨after, history.record server after (.conn id event)⟩ := by
  have delivered := @ConnMove.record_delivered _ _ _ history id event move
  rcases delivered with same | ⟨opening, reservation, here, there, delivery, registry,
    nextOpening, recorded⟩
  · refine ok.mono ?_ move.nextOpening_le ?_ move.nextGeneration_le ?_ same (by simp)
    · exact fun entry present => (move.registry_origin present).imp_right And.left
    · intro entry present
      rcases move.registry_origin present with old | ⟨serial, next⟩
      · exact Nat.lt_of_lt_of_le (ok.entries entry old) move.nextOpening_le
      · rw [serial, next]
        exact Nat.lt_succ_self _
    · intro generation task found
      rcases move.task_origin found with ⟨old, stored, pc, place⟩ | fresh
      · exact .inl ⟨old, stored, place, fun session may => by rw [pc]; exact may⟩
      · exact .inr (Nat.le_of_eq fresh.symm)
  · exact ok.opened routes (settled opening reservation here there) delivery registry nextOpening
      recorded (by simp)

theorem controlled (ok : TerminationsOk ⟨server, history⟩) (effect : ControlEffect server after) :
    TerminationsOk ⟨after, history⟩ := by
  refine ok.mono (fun entry present => .inl (effect.registry.subset present))
    (Nat.le_of_eq effect.nextOpening.symm) ?_ (Nat.le_of_eq effect.nextGeneration.symm) ?_ rfl rfl
  · intro entry present
    rw [effect.nextOpening]
    exact ok.entries entry (effect.registry.subset present)
  · intro generation task found
    obtain ⟨mark, keeps, marked⟩ := effect.tasks generation
    rw [marked] at found
    obtain ⟨old, stored, rfl⟩ := Option.map_eq_some_iff.mp found
    refine .inl ⟨old, stored, (keeps old).address.symm, fun session may => ?_⟩
    rwa [(keeps old).pc] at may

theorem step? (ok : TerminationsOk ⟨server, history⟩) (routes : RoutesOk server)
    {label : Bool × ServerEvent} (met : Undisturbed server label)
    (stepped : server.step? config label.1 label.2 = some after) :
    TerminationsOk ⟨after, history.record server after label.2⟩ := by
  obtain ⟨authorityValid, event⟩ := label
  cases step?_moves stepped with
  | @conn id event control others move =>
      refine ok.connMove routes move ?_
      intro opening reservation here there
      rcases connStep?_working (by rw [here]; rfl) stepped with ⟨panics, rfl⟩ | ⟨stays, -⟩
      · simpa only [Undisturbed, here] using met
      · rw [here, there] at stays
        cases stays
  | task found effect move ends nextOpening =>
      exact ok.terminated found effect move ends nextOpening
  | shutdown effect =>
      rw [record_shutdown]
      exact ok.controlled effect
  | fence effect =>
      rw [record_fence]
      exact ok.controlled effect

end TerminationsOk

theorem terminationsOk_of_reachable {recorded : Recorded}
    (reach : (recordedSystem config).ReachableWhile
      (fun recorded label => Undisturbed recorded.server label) recorded) :
    TerminationsOk recorded := by
  refine invariant_of_reachable_step TerminationsOk ?_ ?_ reach
  · rintro _ rfl
    exact .fresh config
  · intro before label after earlier ok met stepped
    obtain ⟨server, moved, rfl⟩ := recorded_step stepped
    have routes := routesOk_of_reachable (reachable_server (fun _ _ _ => trivial) earlier)
    exact ok.step? routes met moved

/-! ## A stopping generation ends its own Sessions -/

/-- When a `SessionOpened` is dispatched only after every older generation is
done with its Session, `terminate_all` of one generation never ends a Session
whose `SessionOpened` is delivered to a later generation, before or after. -/
theorem terminate_all_ends_own_sessions {recorded : Recorded}
    (reach : (recordedSystem config).ReachableWhile
      (fun recorded label => Undisturbed recorded.server label) recorded)
    {opening : Opening} {generation delivered : Nat}
    (ended : (opening, generation) ∈ recorded.history.terminated)
    (opened : recorded.history.delivered opening = some delivered) : delivered ≤ generation :=
  (terminationsOk_of_reachable reach).own opening generation delivered ended opened

/-- `Undisturbed` over the generations there are. -/
def undisturbed? (server : Server) : Bool × ServerEvent → Bool
  | (_, .conn id (.advance _)) =>
      match (server.conns id).pc with
      | .openDispatch opening _ .actors =>
          server.registry.any (fun entry => entry.opening == opening) &&
            (List.range server.nextGeneration).all fun generation =>
              (server.tasks generation).all fun task =>
                task.address != opening.address ||
                  decide (server.target opening.address ≤ generation) ||
                  !task.pc.mayTerminate opening.session
      | _ => true
  | _ => true

theorem undisturbed_of_check {label : Bool × ServerEvent} (ok : RoutesOk server)
    (checked : undisturbed? server label = true) : Undisturbed server label := by
  unfold undisturbed? at checked
  unfold Undisturbed
  split at checked
  · split at checked
    · simp only [Bool.and_eq_true, List.any_eq_true, beq_iff_eq, List.all_eq_true,
        List.mem_range] at checked
      refine ⟨checked.1, ?_⟩
      intro generation task found place less
      have safe := checked.2 generation (ok.generation generation task found)
      simpa [found, place, Nat.not_le_of_lt less] using safe
    · trivial
  · trivial

theorem meets_undisturbed {labels : List (Bool × ServerEvent)}
    (checked : (recordedSystem config).meets? (fun recorded label =>
      undisturbed? recorded.server label = true) ⟨.fresh config, .empty⟩ labels = true) :
    (recordedSystem config).Meets (fun recorded label => Undisturbed recorded.server label)
      ⟨.fresh config, .empty⟩ labels := by
  refine meets_of_check (fun recorded => RoutesOk recorded.server) ?_
    (fun _ _ ok checked => undisturbed_of_check ok checked) (routesOk_fresh config) checked
  intro before label after member ok stepped
  obtain ⟨server, moved, rfl⟩ := recorded_step stepped
  exact ok.step? moved

/-- The actor panics in `on_session_opened` and ends its Session. -/
def panicInOpen : List (Bool × ServerEvent) :=
  openAndActivate ++ [(true, .task 1 .advance), (true, .task 1 (.returned false)),
    (true, .task 1 .advance), (true, .task 1 .advance)]

theorem panicked_generation_ends_its_session :
    ∃ recorded, (recordedSystem cartRuntime).ReachableWhile
        (fun recorded label => Undisturbed recorded.server label) recorded ∧
      (⟨cartAddress, ⟨7⟩, 0⟩, 1) ∈ recorded.history.terminated ∧
      recorded.history.delivered ⟨cartAddress, ⟨7⟩, 0⟩ = some 1 ∧ 1 ≤ 1 := by
  have meets : (recordedSystem cartRuntime).Meets
      (fun recorded label => Undisturbed recorded.server label) ⟨.fresh cartRuntime, .empty⟩
      panicInOpen := meets_undisturbed rfl
  have reach := @reachableWhile_of_run? _ _ _ _ _ _ _ (.start rfl) meets rfl
  exact ⟨_, reach, List.mem_cons_self, rfl,
    @terminate_all_ends_own_sessions _ _ reach ⟨cartAddress, ⟨7⟩, 0⟩ 1 1 List.mem_cons_self rfl⟩

/-- Activation fails and the route is removed; a Session is opened on the next
generation; then the failed one goes on with `terminate_all`. -/
def openAfterFailure : List (Bool × ServerEvent) :=
  openToDispatch ++
    [(true, .conn 0 (.advance false)), (true, .task 1 .advance),
      (true, .task 1 (.activation .failed)), (true, .task 1 .advance), (true, .task 1 .advance)] ++
    ([.accept, .receive ⟨2, some cartAddress, some ⟨8⟩, some .sessionOpen⟩, .advance false,
      .reply (.owner (.ok none)), .reply (.permit true), .reply (.issued 1),
      .reply (.outcome (.ok (.applied ⟨""⟩))), .advance false, .advance false, .advance false,
      .advance false].map fun event => (true, .conn 1 event)) ++
    [(true, .task 1 .advance), (true, .task 1 .advance), (true, .task 1 .advance),
      (true, .task 1 .advance)]

theorem failed_generation_ends_later_session :
    ∃ recorded opening, (recordedSystem cartRuntime).Reachable recorded ∧
      (opening, 1) ∈ recorded.history.terminated ∧
      recorded.history.delivered opening = some 2 := by
  have reach := @reachable_of_run? _ _ (recordedSystem cartRuntime) ⟨.fresh cartRuntime, .empty⟩ _
    openAfterFailure rfl rfl
  exact ⟨_, ⟨cartAddress, ⟨8⟩, 1⟩, reach, List.mem_cons_of_mem _ List.mem_cons_self, rfl⟩

end Coactor.Runtime
