import Coactor.Runtime.Callbacks

/-!
# The callback protocol of an actor

For each Session an actor receives `on_session_opened`, then any number of
`on_message`, then `on_session_closed`, and so on.  A message is checked before
it is dispatched, and a dispatch finds whatever actor is there by then, or
spawns one.  The protocol is kept in every run in which each dispatch reaches
the actor it was checked for.
-/

namespace Coactor.Runtime

open Coactor.Foundation
open Coactor.Foundation.Transition
open Coactor.Coordination
open Server

variable {server after : Server} {history : History} {config : RuntimeConfig}

/-! ## Dispatches that reach their actor -/

/-- What is asked where a connection task registers a Session or is about to put
a message into a mailbox.  No other connection task may act on the key of a new
Session.  A `SessionOpened` is dispatched while its Session is registered, older
generations are done with it, and no sweep has ended Sessions of the actor.  An
Action or a `SessionClosed` is dispatched while the address is served by the
generation on which the Session was opened, and the latter finds room. -/
def Recorded.MayGo (config : RuntimeConfig) (recorded : Recorded) (id : Nat) : ConnPc → Prop
  | .openRegister address session _ =>
      ∀ other, other ≠ id → (address, session) ∉ (recorded.server.conns other).pc.keys true
  | .openDispatch opening _ .actors =>
      recorded.server.Settled opening ∧
        (recorded.server.wouldSpawn opening.address = false → recorded.server.hasSwept = false)
  | .actionDispatch address session _ .actors =>
      recorded.server.wouldSpawn address = false ∧
        ∀ generation, recorded.server.Serves address generation →
          ∃ entry ∈ recorded.server.registry, entry.key = (address, session) ∧
            recorded.history.delivered entry.opening = some generation
  | .closeDispatch address _ _ =>
      ∀ generation, recorded.server.Serves address generation →
        recorded.server.hasRoom config address = true ∧
          ∃ opening, recorded.history.closing id = some opening ∧
            recorded.history.delivered opening = some generation
  | _ => True

def Orderly (config : RuntimeConfig) (recorded : Recorded) : Bool × ServerEvent → Prop
  | (_, .conn id (.advance _)) => recorded.MayGo config id (recorded.server.conns id).pc
  | _ => True

theorem Orderly.uncontested {recorded : Recorded} {label : Bool × ServerEvent}
    (met : Orderly config recorded label) : Uncontested true recorded.server label := by
  obtain ⟨authorityValid, event⟩ := label
  cases event with
  | conn id event =>
      cases event with
      | advance panics =>
          simp only [Orderly] at met
          simp only [Uncontested]
          split
          · rename_i here
            rw [here] at met
            exact met
          · trivial
      | _ => trivial
  | _ => trivial

theorem Orderly.undisturbed {recorded : Recorded} {label : Bool × ServerEvent}
    (met : Orderly config recorded label) : Undisturbed recorded.server label := by
  obtain ⟨authorityValid, event⟩ := label
  cases event with
  | conn id event =>
      cases event with
      | advance panics =>
          simp only [Orderly] at met
          simp only [Undisturbed]
          split
          · rename_i here
            rw [here] at met
            exact met.1
          · trivial
      | _ => trivial
  | _ => trivial

/-! ## The invariant -/

/-- The Session is registered, or about to be closed, and was opened on this
generation. -/
def Recorded.IsOpenAt (recorded : Recorded) (address : ActorAddress) (generation : Nat)
    (session : SessionId) : Prop :=
  (∃ entry ∈ recorded.server.registry, entry.key = (address, session) ∧
      recorded.history.delivered entry.opening = some generation) ∨
    ∃ id onward opening, (recorded.server.conns id).pc = .closeDispatch address session onward ∧
      recorded.history.closing id = some opening ∧
      recorded.history.delivered opening = some generation

/-- The logs are in order, and a Session is open in the log of its generation as
long as it is registered or about to be closed. -/
structure ProtocolOk (recorded : Recorded) : Prop where
  calls : ∀ generation session,
    (Rounds.run? false (marks session (recorded.history.callsOf generation))).isSome
  ahead : ∀ generation session, recorded.server.halted generation = false →
    (recorded.phase? generation session).isSome
  born : ∀ call ∈ recorded.history.calls, call.1 < recorded.server.nextGeneration
  activations : ∀ activation ∈ recorded.history.activations,
    ∃ opening, activation.2 = .sessionOpened opening
  registered : ∀ entry ∈ recorded.server.registry, ∀ generation,
    recorded.history.delivered entry.opening = some generation →
      recorded.server.halted generation = false →
        recorded.phase? generation entry.opening.session = some true
  closing : ∀ id address session onward opening,
    (recorded.server.conns id).pc = .closeDispatch address session onward →
      recorded.history.closing id = some opening → opening.key = (address, session) ∧
        ∀ generation, recorded.history.delivered opening = some generation →
          recorded.server.halted generation = false →
            recorded.phase? generation session = some true
  absent : ∀ id address session onward,
    (recorded.server.conns id).pc = .closeDispatch address session onward →
      ∀ entry ∈ recorded.server.registry, entry.key ≠ (address, session)
  known : recorded.server.hasSwept = false → ∀ address generation session,
    recorded.server.Serves address generation → recorded.server.halted generation = false →
      recorded.phase? generation session = some true →
        recorded.IsOpenAt address generation session

/-- Where no key is registered twice, `lookup` finds the entry. -/
theorem SessionRegistry.lookup_of_mem {registry : SessionRegistry} {address : ActorAddress}
    {session : SessionId} {entry : SessionEntry}
    (single : ∀ first ∈ registry, ∀ second ∈ registry, first.key = second.key → first = second)
    (present : entry ∈ registry) (key : entry.key = (address, session)) :
    registry.lookup address session = some entry := by
  cases found : registry.lookup address session with
  | none =>
      have absent := List.find?_eq_none.mp found entry present
      exact absurd (names_iff.mpr key) absent
  | some other =>
      obtain ⟨present', key'⟩ := lookup_entry found
      rw [single other present' entry present (key'.trans key.symm)]

/-! ## Steps of a connection task -/

section

variable {id : Nat} {event : ConnEvent}

/-- A step that ends no closing of a Session and begins none. -/
structure KeepsClosing (before after : Recorded) : Prop where
  closing : after.history.closing = before.history.closing
  closers : ∀ id address session onward,
    (after.server.conns id).pc = .closeDispatch address session onward →
      (before.server.conns id).pc = .closeDispatch address session onward

/-- Only a dispatch leads from a dispatch to its answer. -/
theorem QuietMove.delivers_not {pc next : ConnPc} (move : QuietMove server id pc next)
    {opening : Opening} {reservation : Bool} (here : pc = .openDispatch opening reservation .actors)
    (there : next = .openAwait opening) : False := by
  subst here
  cases move <;> cases there

/-- A quiet move neither begins nor ends the closing of a Session. -/
theorem QuietMove.closes_not {pc next : ConnPc} (move : QuietMove server id pc next)
    {address : ActorAddress} {session : SessionId} {onward : AfterClose}
    (here : pc = .closeDispatch address session onward) : next = pc := by
  subst here
  cases move with
  | noted => rfl
  | aborted awaiting => cases awaiting

/-- The one address that a generation can serve. -/
theorem serves_place (routes : RoutesOk server) {place : ActorAddress} {generation : Nat}
    {task : ActorTask} (serves : server.Serves place generation)
    (found : server.tasks generation = some task) : task.address = place := by
  obtain ⟨other, present, placed⟩ := routes.task place _ serves.1
  rw [found, Option.some.injEq] at present
  rw [present, placed]

/-- A step of a connection task, with what is known in every such run. -/
structure ConnStep (config : RuntimeConfig) (server after : Server) (history : History) (id : Nat) :
    Prop where
  routes : RoutesOk server
  routes' : RoutesOk after
  deliveries : DeliveriesOk ⟨server, history⟩
  exclusive : Exclusive true server
  exclusive' : Exclusive true after
  control : SameControl server after
  others : ∀ other, other ≠ id → after.conns other = server.conns other
  move : ConnMove config server after id (server.conns id).pc (after.conns id).pc
  may : Recorded.MayGo config ⟨server, history⟩ id (server.conns id).pc

theorem ConnStep.swept (step : ConnStep config server after history id) :
    after.hasSwept = server.hasSwept := by
  simp only [Server.hasSwept, step.control.shutdown, step.control.fence]

theorem ConnStep.activations (step : ConnStep config server after history id) :
    ∀ activation ∈ (history.record server after (.conn id event)).activations,
      activation ∈ history.activations ∨ ∃ opening, activation.2 = .sessionOpened opening := by
  intro activation member
  rcases List.mem_append.mp member with old | new
  · exact .inl old
  · obtain ⟨generation, message⟩ := activation
    rcases step.move.activatedBy (Option.mem_toList.mp new) with opened | ⟨address, session,
      payload, here, spawns⟩
    · exact .inr opened
    · have stays := step.may
      rw [here] at stays
      rw [show server.wouldSpawn address = false from stays.1] at spawns
      cases spawns

/-- A step begins the closing of a Session, or leaves all of them as they are. -/
theorem ConnStep.closes (step : ConnStep config server after history id) :
    KeepsClosing ⟨server, history⟩ ⟨after, history.record server after (.conn id event)⟩ ∨
    ∃ address session onward, (server.conns id).pc = .closeUnregister address session onward ∧
      (after.conns id).pc = .closeDispatch address session onward ∧
      after.registry = server.registry.unregisterActor address session ∧
      after.tasks = server.tasks ∧ after.routes = server.routes ∧
      after.nextGeneration = server.nextGeneration ∧
      (history.record server after (.conn id event)).closing =
        Function.update history.closing id
          ((server.registry.lookup address session).map SessionEntry.opening) := by
  refine (@ConnMove.record_closing _ _ _ history id event step.move).imp_left ?_
  rintro ⟨closing, closers⟩
  refine ⟨closing, fun other address session onward here => ?_⟩
  by_cases same : other = id
  · subst same
    exact closers address session onward here
  · rwa [step.others other same] at here

/-- A Session that is open somewhere stays so while its entry and its closing do. -/
theorem ConnStep.isOpenAt (step : ConnStep config server after history id)
    (keeps : KeepsClosing ⟨server, history⟩ ⟨after, history.record server after (.conn id event)⟩)
    {address : ActorAddress} {generation : Nat} {session : SessionId}
    (entries : ∀ entry ∈ server.registry, entry.key = (address, session) →
      history.delivered entry.opening = some generation → entry ∈ after.registry)
    (leaves : ∀ onward opening, (server.conns id).pc = .closeDispatch address session onward →
      history.closing id = some opening → history.delivered opening = some generation →
        (after.conns id).pc = .closeDispatch address session onward)
    (isOpen : Recorded.IsOpenAt ⟨server, history⟩ address generation session) :
    Recorded.IsOpenAt ⟨after, history.record server after (.conn id event)⟩ address generation
      session := by
  rcases isOpen with ⟨entry, present, key, opened⟩ | ⟨other, onward, opening, closer, closes, opened⟩
  · exact .inl ⟨entry, entries entry present key opened, key,
      step.deliveries.delivered_stays step.move opened⟩
  · refine .inr ⟨other, onward, opening, ?_, keeps.closing ▸ closes,
      step.deliveries.delivered_stays step.move opened⟩
    by_cases same : other = id
    · subst same
      exact leaves onward opening closer closes opened
    · simp only [step.others other same]
      exact closer

end

namespace ProtocolOk

theorem fresh (config : RuntimeConfig) : ProtocolOk ⟨.fresh config, .empty⟩ where
  calls := fun _ _ => rfl
  ahead := fun _ _ _ => rfl
  born := by
    intro call member
    cases member
  activations := by
    intro activation member
    cases member
  registered := by
    intro entry member
    cases member
  closing := by
    intro id address session onward opening here
    cases here
  absent := by
    intro id address session onward here
    cases here
  known := by
    intro unswept address generation session serves
    cases serves.1

/-- A step after which no log of a living actor is longer. -/
theorem mono {before after : Recorded} (ok : ProtocolOk before)
    (alive : ∀ generation, after.server.halted generation = false →
      before.server.halted generation = false ∧
        ∀ session, after.phase? generation session = before.phase? generation session)
    (calls : ∀ generation session,
      (Rounds.run? false (marks session (after.history.callsOf generation))).isSome)
    (born : ∀ call ∈ after.history.calls, call.1 < after.server.nextGeneration)
    (activations : ∀ activation ∈ after.history.activations,
      activation ∈ before.history.activations ∨ ∃ opening, activation.2 = .sessionOpened opening)
    (delivered : ∀ opening generation, after.server.halted generation = false →
      after.history.delivered opening = some generation →
        before.history.delivered opening = some generation)
    (keeps : KeepsClosing before after)
    (registry : ∀ entry ∈ after.server.registry, entry ∈ before.server.registry ∨
      before.history.delivered entry.opening = none)
    (absent : ∀ id address session onward,
      (after.server.conns id).pc = .closeDispatch address session onward →
        ∀ entry ∈ after.server.registry, entry ∉ before.server.registry →
          entry.key ≠ (address, session))
    (unswept : after.server.hasSwept = false → before.server.hasSwept = false)
    (serves : ∀ address generation, after.server.Serves address generation →
      before.server.Serves address generation)
    (stays : after.server.hasSwept = false → ∀ address generation session,
      after.server.Serves address generation → after.server.halted generation = false →
        before.IsOpenAt address generation session → after.IsOpenAt address generation session) :
    ProtocolOk after where
  calls := calls
  ahead := by
    intro generation session running
    obtain ⟨earlier, same⟩ := alive generation running
    rw [same]
    exact ok.ahead generation session earlier
  born := born
  activations := fun activation member =>
    (activations activation member).elim (ok.activations activation) id
  registered := by
    intro entry present generation opened running
    obtain ⟨earlier, same⟩ := alive generation running
    have known := delivered entry.opening generation running opened
    rcases registry entry present with old | fresh
    · rw [same]
      exact ok.registered entry old generation known earlier
    · rw [fresh] at known
      cases known
  closing := by
    intro id address session onward opening here closes
    rw [keeps.closing] at closes
    obtain ⟨key, phase⟩ := ok.closing id address session onward opening
      (keeps.closers id address session onward here) closes
    refine ⟨key, fun generation opened running => ?_⟩
    obtain ⟨earlier, same⟩ := alive generation running
    rw [same]
    exact phase generation (delivered opening generation running opened) earlier
  absent := by
    intro id address session onward here entry present
    by_cases old : entry ∈ before.server.registry
    · exact ok.absent id address session onward (keeps.closers id address session onward here)
        entry old
    · exact absent id address session onward here entry present old
  known := by
    intro calm address generation session served running phase
    obtain ⟨earlier, same⟩ := alive generation running
    rw [same] at phase
    exact stays calm address generation session served running
      (ok.known (unswept calm) address generation session (serves address generation served) earlier
        phase)

/-- A generation that does not exist has an empty log. -/
theorem unborn_phase (ok : ProtocolOk ⟨server, history⟩) (routes : RoutesOk server)
    (session : SessionId) :
    Recorded.phase? ⟨server, history⟩ server.nextGeneration session = some false := by
  have silent : history.callsOf server.nextGeneration = [] := by
    simp only [History.callsOf, List.map_eq_nil_iff, List.filter_eq_nil_iff, beq_iff_eq]
    intro call member same
    exact absurd (ok.born call member) (by simp [same])
  simp [Recorded.phase?, Recorded.script, silent, Server.mailboxOf, routes.fresh_generation, marks,
    Rounds.run?]

/-! ### Steps of a connection task -/

section

variable {id : Nat} {event : ConnEvent}

/-- A step that delivers nothing and closes nothing. -/
theorem silent (ok : ProtocolOk ⟨server, history⟩) (step : ConnStep config server after history id)
    (tasks : after.tasks = server.tasks)
    (routes : ∀ address route, after.routes address = some route →
      server.routes address = some route)
    (delivered : (history.record server after (.conn id event)).delivered = history.delivered)
    (keeps : KeepsClosing ⟨server, history⟩ ⟨after, history.record server after (.conn id event)⟩)
    (registry : ∀ entry ∈ after.registry, entry ∈ server.registry ∨
      history.delivered entry.opening = none)
    (entries : ∀ entry ∈ server.registry, ∀ generation,
      history.delivered entry.opening = some generation → server.halted generation = false →
        entry ∈ after.registry)
    (leaves : ∀ address session onward, (server.conns id).pc = .closeDispatch address session onward →
      (after.conns id).pc = .closeDispatch address session onward ∨
        ∀ generation, ¬ server.Serves address generation) :
    ProtocolOk ⟨after, history.record server after (.conn id event)⟩ := by
  have serves := fun address generation => @serves_of_tasks server after tasks routes address generation
  refine ok.mono ?_ ?_ ?_ step.activations ?_ keeps ?_ ?_ ?_ serves ?_
  · intro generation running
    exact ⟨(halted_of_tasks tasks generation).symm.trans running,
      fun session => phase?_of_tasks tasks generation session⟩
  · intro generation session
    simp only [record_conn_callsOf]
    exact ok.calls generation session
  · intro call member
    simp only [record_conn_calls] at member
    exact Nat.lt_of_lt_of_le (ok.born call member) step.move.nextGeneration_le
  · intro opening generation _ known
    rwa [← delivered]
  · exact registry
  · intro other address session onward here entry present new key
    rcases step.move.registry with kept | ⟨named, registers, -, -⟩
    · exact new (kept entry present)
    · have claimed : (address, session) ∈ (after.conns other).pc.keys true := by
        rw [show (after.conns other).pc = _ from here]
        cases onward <;> exact List.mem_cons_self
      simp only [registers.registry, List.mem_append, List.mem_singleton] at present
      rcases present with old | added
      · exact new old
      · have added' : entry ∈ after.registry := by
          rw [registers.registry, added]
          exact List.mem_append_right _ List.mem_cons_self
        have connected := step.exclusive'.own other _ claimed entry added' key
        rw [added] at connected
        subst connected
        obtain ⟨reservation, registering⟩ := registers.here
        have closer := keeps.closers id address session onward here
        rw [show (server.conns id).pc = _ from registering] at closer
        cases closer
  · exact fun calm => step.swept.symm.trans calm
  · intro calm address generation session served running isOpen
    have alive := (halted_of_tasks tasks generation).symm.trans running
    refine step.isOpenAt keeps ?_ ?_ isOpen
    · exact fun entry present key opened => entries entry present generation opened alive
    · intro onward opening here closes opened
      rcases leaves address session onward here with stays | unserved
      · exact stays
      · exact absurd (serves address generation served) (unserved generation)

/-- A delivery to an actor that takes no more messages. -/
theorem undelivered (ok : ProtocolOk ⟨server, history⟩)
    (step : ConnStep config server after history id)
    {address : ActorAddress} {message : MailboxMessage}
    (delivery : Delivery server after address message) (registry : after.registry = server.registry)
    (keeps : KeepsClosing ⟨server, history⟩ ⟨after, history.record server after (.conn id event)⟩)
    (halted : server.halted (server.target address) = true)
    (fresh : ∀ opening generation,
      (history.record server after (.conn id event)).delivered opening = some generation →
        history.delivered opening = some generation ∨
          (generation = server.target address ∧ message.session = opening.session))
    (leaves : ∀ place session onward opening generation,
      (server.conns id).pc = .closeDispatch place session onward →
        history.closing id = some opening → history.delivered opening = some generation →
          generation = server.target address ∧ session = message.session) :
    ProtocolOk ⟨after, history.record server after (.conn id event)⟩ := by
  have alive : ∀ generation, after.halted generation = false →
      server.halted generation = false ∧ generation ≠ server.target address := by
    intro generation running
    have earlier := (delivery.halted step.routes generation).symm.trans running
    refine ⟨earlier, ?_⟩
    rintro rfl
    rw [halted] at earlier
    cases earlier
  refine ok.mono ?_ ?_ ?_ step.activations ?_ keeps ?_ ?_ ?_ ?_ ?_
  · intro generation running
    obtain ⟨earlier, different⟩ := alive generation running
    refine ⟨earlier, fun session => ?_⟩
    rw [delivery.phase? step.routes, if_neg (by simp [different])]
  · intro generation session
    simp only [record_conn_callsOf]
    exact ok.calls generation session
  · intro call member
    simp only [record_conn_calls] at member
    exact Nat.lt_of_lt_of_le (ok.born call member) delivery.nextGeneration_le
  · intro opening generation running opened
    exact (fresh opening generation opened).resolve_right fun new => (alive generation running).2 new.1
  · intro entry present
    exact .inl (registry ▸ present)
  · intro other place session onward here entry present new
    exact absurd (registry ▸ present) new
  · exact fun calm => step.swept.symm.trans calm
  · intro place generation serves
    rcases delivery.serves serves with served | ⟨new, target⟩
    · exact served
    · have unborn : server.halted server.nextGeneration = false := by
        simp [Server.halted, step.routes.fresh_generation]
      rw [target, unborn] at halted
      cases halted
  · intro calm place generation session served running isOpen
    refine step.isOpenAt keeps ?_ ?_ isOpen
    · exact fun entry present _ _ => registry ▸ present
    · intro onward opening here closes opened
      exact absurd (leaves place session onward opening generation here closes opened).1
        (alive generation running).2

/-- A delivery that fits into the log of its Session. -/
theorem delivered (ok : ProtocolOk ⟨server, history⟩)
    (step : ConnStep config server after history id) {address : ActorAddress} {message : MailboxMessage}
    (delivery : Delivery server after address message) (registry : after.registry = server.registry)
    (keeps : KeepsClosing ⟨server, history⟩ ⟨after, history.record server after (.conn id event)⟩)
    {isOpen isOpen' : Bool}
    (was : Recorded.phase? ⟨server, history⟩ (server.target address) message.session = some isOpen)
    (becomes : Rounds.step? isOpen message.mark = some isOpen')
    (fresh : ∀ opening generation,
      (history.record server after (.conn id event)).delivered opening = some generation →
        history.delivered opening = some generation ∨
          (generation = server.target address ∧ message.session = opening.session))
    (ends : isOpen' = false →
      (∀ entry ∈ server.registry,
        (history.record server after (.conn id event)).delivered entry.opening =
          some (server.target address) → entry.opening.session ≠ message.session) ∧
      ∀ other place session onward opening,
        (after.conns other).pc = .closeDispatch place session onward →
          history.closing other = some opening →
            (history.record server after (.conn id event)).delivered opening =
              some (server.target address) → session ≠ message.session)
    (begins : isOpen' = true → server.hasSwept = false → ∀ place,
      after.Serves place (server.target address) →
        Recorded.IsOpenAt ⟨after, history.record server after (.conn id event)⟩ place
          (server.target address) message.session)
    (leaves : ∀ place session onward opening generation,
      (server.conns id).pc = .closeDispatch place session onward →
        history.closing id = some opening → history.delivered opening = some generation →
          generation = server.target address ∧ session = message.session) :
    ProtocolOk ⟨after, history.record server after (.conn id event)⟩ := by
  have phase : ∀ generation session,
      Recorded.phase? ⟨after, history.record server after (.conn id event)⟩ generation session =
        if generation = server.target address ∧ message.session = session then some isOpen'
        else Recorded.phase? ⟨server, history⟩ generation session := by
    intro generation session
    rw [delivery.phase? step.routes]
    by_cases here : generation = server.target address ∧ message.session = session
    · rw [if_pos here, if_pos here, here.1, ← here.2, was]
      exact becomes
    · rw [if_neg here, if_neg here]
  constructor
  · intro generation session
    simp only [record_conn_callsOf]
    exact ok.calls generation session
  · intro generation session running
    rw [phase]
    by_cases here : generation = server.target address ∧ message.session = session
    · rw [if_pos here]
      rfl
    · rw [if_neg here]
      exact ok.ahead generation session ((delivery.halted step.routes generation).symm.trans running)
  · intro call member
    simp only [record_conn_calls] at member
    exact Nat.lt_of_lt_of_le (ok.born call member) delivery.nextGeneration_le
  · exact fun activation member =>
      (step.activations activation member).elim (ok.activations activation) fun opened => opened
  · intro entry present generation opened running
    simp only [registry] at present
    rw [phase]
    by_cases here : generation = server.target address ∧ message.session = entry.opening.session
    · rw [if_pos here]
      cases isOpen' with
      | true => rfl
      | false =>
          obtain ⟨rfl, same⟩ := here
          exact absurd same.symm ((ends rfl).1 entry present opened)
    · rw [if_neg here]
      rcases fresh entry.opening generation opened with old | new
      · exact ok.registered entry present generation old
          ((delivery.halted step.routes generation).symm.trans running)
      · exact absurd new here
  · intro other place session onward opening here closes
    rw [keeps.closing] at closes
    obtain ⟨key, open'⟩ := ok.closing other place session onward opening
      (keeps.closers other place session onward here) closes
    refine ⟨key, fun generation opened running => ?_⟩
    rw [phase]
    by_cases added : generation = server.target address ∧ message.session = session
    · rw [if_pos added]
      cases isOpen' with
      | true => rfl
      | false =>
          obtain ⟨rfl, same⟩ := added
          exact absurd same.symm ((ends rfl).2 other place session onward opening here closes opened)
    · rw [if_neg added]
      rcases fresh opening generation opened with old | ⟨target, same⟩
      · exact open' generation old ((delivery.halted step.routes generation).symm.trans running)
      · exact absurd ⟨target, same.trans (Prod.mk.inj key).2⟩ added
  · intro other place session onward here entry present
    simp only [registry] at present
    exact ok.absent other place session onward (keeps.closers other place session onward here)
      entry present
  · intro calm place generation session serves running now
    rw [step.swept] at calm
    rw [phase] at now
    by_cases here : generation = server.target address ∧ message.session = session
    · rw [if_pos here, Option.some.injEq] at now
      obtain ⟨rfl, rfl⟩ := here
      exact begins now calm place serves
    · rw [if_neg here] at now
      have before : server.Serves place generation := by
        rcases delivery.serves serves with served | ⟨new, -⟩
        · exact served
        · exact absurd now (by rw [new, ok.unborn_phase step.routes]; simp)
      refine step.isOpenAt keeps (fun entry present _ _ => registry ▸ present) ?_
        (ok.known calm place generation session before
          ((delivery.halted step.routes generation).symm.trans running) now)
      intro onward opening closer closes opened
      obtain ⟨target, named⟩ := leaves place session onward opening generation closer closes opened
      exact absurd ⟨target, named.symm⟩ here

/-- The `SessionOpened` of a registered Session reaches a log in which the
Session is closed. -/
theorem opened (ok : ProtocolOk ⟨server, history⟩) (step : ConnStep config server after history id)
    {opening : Opening} {reservation : Bool}
    (here : (server.conns id).pc = .openDispatch opening reservation .actors)
    (there : (after.conns id).pc = .openAwait opening)
    (delivery : Delivery server after opening.address (.sessionOpened opening))
    (registry : after.registry = server.registry)
    (keeps : KeepsClosing ⟨server, history⟩ ⟨after, history.record server after (.conn id event)⟩) :
    ProtocolOk ⟨after, history.record server after (.conn id event)⟩ := by
  obtain ⟨settled, unswept⟩ : server.Settled opening ∧
      (server.wouldSpawn opening.address = false → server.hasSwept = false) := by
    have may := step.may
    rwa [here] at may
  have undispatched := (step.deliveries.dispatching id opening reservation _ here).1
  have leaves : ∀ place session onward other generation,
      (server.conns id).pc = .closeDispatch place session onward →
        history.closing id = some other → history.delivered other = some generation →
          generation = server.target opening.address ∧ session = opening.session := by
    intro place session onward other generation away
    rw [here] at away
    cases away
  have fresh : ∀ other generation,
      (history.record server after (.conn id event)).delivered other = some generation →
        history.delivered other = some generation ∨
          (generation = server.target opening.address ∧ opening.session = other.session) := by
    intro other generation known
    rcases DeliveriesOk.delivered_origin step.move known with old | ⟨⟨reservation', own⟩, -, -, same⟩
    · exact .inl old
    · rw [here] at own
      cases own
      exact .inr ⟨same.symm, rfl⟩
  cases halted : server.halted (server.target opening.address) with
  | true => exact ok.undelivered step delivery registry keeps halted fresh leaves
  | false =>
      have closed : Recorded.phase? ⟨server, history⟩ (server.target opening.address)
          opening.session = some false := by
        cases spawns : server.wouldSpawn opening.address with
        | true =>
            rw [show server.target opening.address = server.nextGeneration by
              simp [Server.target, spawns]]
            exact ok.unborn_phase step.routes opening.session
        | false =>
            obtain ⟨isOpen, phase⟩ := Option.isSome_iff_exists.mp
              (ok.ahead (server.target opening.address) opening.session halted)
            cases isOpen with
            | false => exact phase
            | true =>
                rcases ok.known (unswept spawns) opening.address _ opening.session
                  (delivery.serves_target spawns) halted phase with
                    ⟨entry, present, key, known⟩ | ⟨other, onward, _, closer, -, -⟩
                · have same := step.deliveries.opening id opening
                    (by rw [show (server.conns id).pc = _ from here]; rfl) entry present key
                  rw [same, undispatched] at known
                  cases known
                · have alone : other = id := by
                    refine step.exclusive.alone other id opening.key ?_ ?_
                    · rw [show (server.conns other).pc = _ from closer]
                      cases onward <;> exact List.mem_cons_self
                    · rw [here]
                      exact List.mem_cons_self
                  rw [alone, show (server.conns id).pc = _ from here] at closer
                  cases closer
      refine ok.delivered step delivery registry keeps closed rfl fresh ?_ ?_ leaves
      · intro ends
        cases ends
      · intro _ _ place serves
        obtain ⟨entry, present, same⟩ := settled.1
        obtain ⟨task, found, placed⟩ := delivery.target_task step.routes
        have here' := serves_place step.routes' serves found
        refine .inl ⟨entry, registry ▸ present, ?_, ?_⟩
        · rw [SessionEntry.key, same, ← here', placed]
          rfl
        · rw [same]
          exact DeliveriesOk.delivered_new here there

/-- An Action reaches a log in which its Session is open. -/
theorem acted (ok : ProtocolOk ⟨server, history⟩) (step : ConnStep config server after history id)
    {address : ActorAddress} {session : SessionId} {payload : List UInt8}
    (here : (server.conns id).pc = .actionDispatch address session payload .actors)
    (delivery : Delivery server after address (.action session payload))
    (registry : after.registry = server.registry)
    (keeps : KeepsClosing ⟨server, history⟩ ⟨after, history.record server after (.conn id event)⟩) :
    ProtocolOk ⟨after, history.record server after (.conn id event)⟩ := by
  obtain ⟨stays, serving⟩ : server.wouldSpawn address = false ∧ ∀ generation,
      server.Serves address generation → ∃ entry ∈ server.registry,
        entry.key = (address, session) ∧ history.delivered entry.opening = some generation := by
    have may := step.may
    rwa [here] at may
  obtain ⟨entry, present, key, known⟩ := serving _ (delivery.serves_target stays)
  obtain ⟨place, name⟩ := Prod.mk.inj key
  have fresh : ∀ other generation,
      (history.record server after (.conn id event)).delivered other = some generation →
        history.delivered other = some generation ∨
          (generation = server.target address ∧ session = other.session) := by
    intro other generation recorded
    rcases DeliveriesOk.delivered_origin step.move recorded with old | ⟨⟨reservation, own⟩, -⟩
    · exact .inl old
    · rw [here] at own
      cases own
  have leaves : ∀ place session' onward other generation,
      (server.conns id).pc = .closeDispatch place session' onward →
        history.closing id = some other → history.delivered other = some generation →
          generation = server.target address ∧ session' = session := by
    intro place session' onward other generation away
    rw [here] at away
    cases away
  cases halted : server.halted (server.target address) with
  | true => exact ok.undelivered step delivery registry keeps halted fresh leaves
  | false =>
      have isOpen := ok.registered entry present _ known halted
      rw [name] at isOpen
      refine ok.delivered step delivery registry keeps isOpen rfl fresh ?_ ?_ leaves
      · intro ends
        cases ends
      · intro _ _ place' serves
        obtain ⟨task, found, placed⟩ := delivery.target_task step.routes
        have here' := serves_place step.routes' serves found
        refine .inl ⟨entry, registry ▸ present, ?_, step.deliveries.delivered_stays step.move known⟩
        rw [key, ← here', placed]
        rfl

/-- A `SessionClosed` reaches a log in which its Session is open. -/
theorem closed (ok : ProtocolOk ⟨server, history⟩) (step : ConnStep config server after history id)
    {address : ActorAddress} {session : SessionId} {onward : AfterClose} {generation : Nat}
    {task : ActorTask} (here : (server.conns id).pc = .closeDispatch address session onward)
    (there : (after.conns id).pc = onward.pc)
    (appended : Appended server after address (.sessionClosed session) generation task)
    (registry : after.registry = server.registry)
    (keeps : KeepsClosing ⟨server, history⟩ ⟨after, history.record server after (.conn id event)⟩) :
    ProtocolOk ⟨after, history.record server after (.conn id event)⟩ := by
  have delivery : Delivery server after address (.sessionClosed session) :=
    .appended generation task appended
  have serving : ∀ generation, server.Serves address generation →
      server.hasRoom config address = true ∧ ∃ opening,
        history.closing id = some opening ∧ history.delivered opening = some generation := by
    have may := step.may
    rwa [here] at may
  have serves : server.Serves address (server.target address) :=
    appended.target ▸ ⟨appended.route, task, appended.found, appended.isOpen⟩
  obtain ⟨-, opening, closes, known⟩ := serving _ serves
  obtain ⟨key, isOpen⟩ := ok.closing id address session onward opening here closes
  obtain ⟨place, name⟩ := Prod.mk.inj key
  have fresh : ∀ other generation,
      (history.record server after (.conn id event)).delivered other = some generation →
        history.delivered other = some generation ∨
          (generation = server.target address ∧ session = other.session) := by
    intro other generation recorded
    rcases DeliveriesOk.delivered_origin step.move recorded with old | ⟨⟨reservation, own⟩, -⟩
    · exact .inl old
    · rw [here] at own
      cases own
  have leaves : ∀ place session' onward' other generation,
      (server.conns id).pc = .closeDispatch place session' onward' →
        history.closing id = some other → history.delivered other = some generation →
          generation = server.target address ∧ session' = session := by
    intro place session' onward' other generation away closes' known'
    rw [here] at away
    cases away
    rw [closes, Option.some.injEq] at closes'
    subst closes'
    rw [show history.delivered opening = _ from known, Option.some.injEq] at known'
    exact ⟨known'.symm, rfl⟩
  have sameAddress : ∀ other : Opening,
      (history.record server after (.conn id event)).delivered other = some (server.target address) →
        other.session = session → other.key = (address, session) := by
    intro other recorded named
    have old : history.delivered other = some (server.target address) := by
      rcases DeliveriesOk.delivered_origin step.move recorded with old | ⟨⟨reservation, own⟩, -⟩
      · exact old
      · rw [here] at own
        cases own
    obtain ⟨-, owner, found, placed⟩ := step.deliveries.known other _ old
    rw [Opening.key, ← placed, named, serves_place step.routes serves found]
  cases halted : server.halted (server.target address) with
  | true => exact ok.undelivered step delivery registry keeps halted fresh leaves
  | false =>
      refine ok.delivered step delivery registry keeps (isOpen _ known halted) rfl fresh ?_ ?_ leaves
      · intro _
        constructor
        · intro entry present recorded named
          exact ok.absent id address session onward here entry present
            (sameAddress entry.opening recorded named)
        · intro other place' session' onward' ending closer closes' recorded named
          have closer' := keeps.closers other place' session' onward' closer
          have key' := (ok.closing other place' session' onward' ending closer' closes').1
          have same := sameAddress ending recorded ((Prod.mk.inj key').2.trans named)
          have alone : other = id := by
            refine step.exclusive.alone other id (address, session) ?_ ?_
            · rw [show (server.conns other).pc = _ from closer', ← same, key']
              cases onward' <;> exact List.mem_cons_self
            · rw [here]
              cases onward <;> exact List.mem_cons_self
          rw [alone, there] at closer
          cases onward <;> cases closer
      · intro reopens
        cases reopens

/-- A Session that is unregistered to be closed is still open in its log. -/
theorem close (ok : ProtocolOk ⟨server, history⟩) (step : ConnStep config server after history id)
    {address : ActorAddress} {session : SessionId} {onward : AfterClose}
    (here : (server.conns id).pc = .closeUnregister address session onward)
    (there : (after.conns id).pc = .closeDispatch address session onward)
    (registry : after.registry = server.registry.unregisterActor address session)
    (tasks : after.tasks = server.tasks) (routes : after.routes = server.routes)
    (nextGeneration : after.nextGeneration = server.nextGeneration)
    (closing : (history.record server after (.conn id event)).closing =
      Function.update history.closing id
        ((server.registry.lookup address session).map SessionEntry.opening)) :
    ProtocolOk ⟨after, history.record server after (.conn id event)⟩ := by
  have phase := fun generation session' =>
    @phase?_of_tasks server after history id event tasks generation session'
  have halted := halted_of_tasks tasks
  have fresh : ∀ other generation,
      (history.record server after (.conn id event)).delivered other = some generation →
        history.delivered other = some generation := by
    intro other generation recorded
    rcases DeliveriesOk.delivered_origin step.move recorded with old | ⟨⟨reservation, own⟩, -⟩
    · exact old
    · rw [here] at own
      cases own
  have kept : ∀ entry ∈ after.registry, entry ∈ server.registry ∧ entry.key ≠ (address, session) := by
    intro entry present
    rw [registry] at present
    exact SessionRegistry.mem_unregisterActor.mp present
  constructor
  · intro generation session'
    simp only [record_conn_callsOf]
    exact ok.calls generation session'
  · intro generation session' running
    rw [phase]
    exact ok.ahead generation session' ((halted generation).symm.trans running)
  · intro call member
    simp only [record_conn_calls] at member
    exact nextGeneration ▸ ok.born call member
  · exact fun activation member =>
      (step.activations activation member).elim (ok.activations activation) fun opened => opened
  · intro entry present generation known running
    rw [phase]
    exact ok.registered entry (kept entry present).1 generation (fresh _ _ known)
      ((halted generation).symm.trans running)
  · intro other place session' onward' opening closer closes
    simp only [closing] at closes
    by_cases same : other = id
    · subst same
      rw [show (after.conns other).pc = _ from there] at closer
      cases closer
      rw [Function.update_self, Option.map_eq_some_iff] at closes
      obtain ⟨entry, found, rfl⟩ := closes
      obtain ⟨present, key⟩ := SessionRegistry.lookup_entry found
      refine ⟨key, fun generation known running => ?_⟩
      rw [phase, ← (Prod.mk.inj key).2]
      exact ok.registered entry present generation (fresh _ _ known)
        ((halted generation).symm.trans running)
    · rw [Function.update_of_ne same] at closes
      simp only [step.others other same] at closer
      obtain ⟨key, isOpen⟩ := ok.closing other place session' onward' opening closer closes
      refine ⟨key, fun generation known running => ?_⟩
      rw [phase]
      exact isOpen generation (fresh _ _ known) ((halted generation).symm.trans running)
  · intro other place session' onward' closer entry present
    by_cases same : other = id
    · subst same
      rw [show (after.conns other).pc = _ from there] at closer
      cases closer
      exact (kept entry present).2
    · simp only [step.others other same] at closer
      exact ok.absent other place session' onward' closer entry (kept entry present).1
  · intro calm place generation session' serves running now
    rw [step.swept] at calm
    rw [phase] at now
    have before := serves_of_tasks tasks (fun _ _ present => routes ▸ present) serves
    rcases ok.known calm place generation session' before ((halted generation).symm.trans running)
      now with ⟨entry, present, key, known⟩ | ⟨other, onward', opening, closer, closes, known⟩
    · by_cases ending : entry.key = (address, session)
      · refine .inr ⟨id, onward, entry.opening, ?_, ?_, step.deliveries.delivered_stays step.move known⟩
        · cases key.symm.trans ending
          exact there
        · rw [show (history.record server after (.conn id event)).closing = _ from closing,
            Function.update_self, SessionRegistry.lookup_of_mem step.exclusive.single present ending]
          rfl
      · refine .inl ⟨entry, ?_, key, step.deliveries.delivered_stays step.move known⟩
        simp only [registry]
        exact SessionRegistry.mem_unregisterActor.mpr ⟨present, ending⟩
    · have different : other ≠ id := by
        rintro rfl
        rw [show (server.conns other).pc = _ from here] at closer
        cases closer
      refine .inr ⟨other, onward', opening, ?_, ?_, step.deliveries.delivered_stays step.move known⟩
      · simp only [step.others other different]
        exact closer
      · simp only [closing, Function.update_of_ne different]
        exact closes

theorem connMove (ok : ProtocolOk ⟨server, history⟩)
    (step : ConnStep config server after history id) :
    ProtocolOk ⟨after, history.record server after (.conn id event)⟩ := by
  have undelivered : (∀ opening reservation,
      (server.conns id).pc = .openDispatch opening reservation .actors →
        (after.conns id).pc = .openAwait opening → False) →
      (history.record server after (.conn id event)).delivered = history.delivered := by
    intro never
    rcases @ConnMove.record_delivered _ _ _ history id event step.move with same | ⟨opening,
      reservation, here, there, -⟩
    · exact same
    · exact (never opening reservation here there).elim
  rcases @ConnStep.closes _ _ _ _ id event step with keeps | ⟨address, session, onward, here, there, registry,
    tasks, routes, nextGeneration, closing⟩
  · have move := step.move
    generalize here : (server.conns id).pc = pc at move undelivered
    generalize there : (after.conns id).pc = next at move undelivered
    cases move with
    | quiet same move =>
        refine ok.silent step same.tasks (fun _ _ present => same.routes ▸ present)
          (undelivered fun _ _ here there => move.delivers_not here there) keeps
          (fun entry present => .inl (same.registry ▸ present))
          (fun entry present _ _ _ => same.registry ▸ present) ?_
        intro address session onward closer
        rw [here] at closer
        rw [there, move.closes_not closer]
        exact .inl closer
    | register absent registry routes tasks =>
        refine ok.silent step tasks (fun _ _ present => routes ▸ present)
          (undelivered fun _ _ here _ => by cases here) keeps ?_ ?_ ?_
        · intro entry present
          rw [registry, List.mem_append, List.mem_singleton] at present
          rcases present with old | rfl
          · exact .inl old
          · right
            cases known : history.delivered _ with
            | none => rfl
            | some generation =>
                exact absurd (step.deliveries.known _ generation known).1 (Nat.lt_irrefl _)
        · intro entry present _ _ _
          rw [registry]
          exact List.mem_append_left _ present
        · intro address session onward closer
          rw [here] at closer
          cases closer
    | opened delivery registry => exact ok.opened step here there delivery registry keeps
    | unopened refusal registry completions nextOpening onward =>
        refine ok.silent step refusal.tasks (fun _ _ present => refusal.keeps_routes present)
          (undelivered ?_) keeps (fun entry present => .inl (registry ▸ present))
          (fun entry present _ _ _ => registry ▸ present) ?_
        · intro opening reservation here there
          rcases onward with ⟨error, rfl⟩ | rfl <;> cases there
        · intro address session onward closer
          rw [here] at closer
          cases closer
    | @unregister opening error registry routes tasks =>
        refine ok.silent step tasks (fun _ _ present => routes ▸ present)
          (undelivered fun _ _ here _ => by cases here) keeps ?_ ?_ ?_
        · intro entry present
          rw [registry] at present
          exact .inl (SessionRegistry.mem_unregisterActor.mp present).1
        · intro entry present generation known alive
          rw [registry]
          refine SessionRegistry.mem_unregisterActor.mpr ⟨present, fun key => ?_⟩
          have own := step.deliveries.opening id opening
            (by rw [show (server.conns id).pc = _ from here]; rfl) entry present key
          obtain ⟨-, task, found, -⟩ := step.deliveries.known _ generation known
          have stopped := step.deliveries.unregistering id opening error generation task here
            (own ▸ known) found
          rw [halted_eq_false found, stopped] at alive
          cases alive
        · intro address session onward closer
          rw [here] at closer
          cases closer
    | acted delivery registry => exact ok.acted step here delivery registry keeps
    | unacted refusal registry =>
        refine ok.silent step refusal.tasks (fun _ _ present => refusal.keeps_routes present)
          (undelivered ?_) keeps (fun entry present => .inl (registry ▸ present))
          (fun entry present _ _ _ => registry ▸ present) ?_
        · intro opening reservation here there
          cases here
        · intro address session onward closer
          rw [here] at closer
          cases closer
    | @close address session onward =>
        have closer := keeps.closers id address session onward there
        rw [show (server.conns id).pc = _ from here] at closer
        cases closer
    | closed appended registry => exact ok.closed step here there appended registry keeps
    | @unheard address session onward same deaf =>
        refine ok.silent step same.tasks (fun _ _ present => same.routes ▸ present)
          (undelivered fun _ _ here _ => by cases here) keeps
          (fun entry present => .inl (same.registry ▸ present))
          (fun entry present _ _ _ => same.registry ▸ present) ?_
        intro place session' onward' closer
        rw [here] at closer
        cases closer
        refine .inr fun generation serves => ?_
        have may := step.may
        rw [here] at may
        rw [show server.hasRoom config address = true from (may generation serves).1] at deaf
        cases deaf
  · exact ok.close step here there registry tasks routes nextGeneration closing

end

/-- A step that only stores the handle of a connection task records nothing. -/
theorem record_unmoved {id : Nat} {event : ConnEvent} (tasks : after.tasks = server.tasks)
    (stays : (after.conns id).pc = (server.conns id).pc) :
    history.record server after (.conn id event) = history := by
  have delivered : deliveredBy server after (.conn id event) = none := by
    cases here : (server.conns id).pc <;> simp [deliveredBy, stays, here]
  have closed : closedBy server after (.conn id event) = none := by
    cases here : (server.conns id).pc <;> simp [closedBy, stays, here]
  have activated : activatedBy server after (.conn id event) = none := by
    cases here : server.tasks server.nextGeneration <;> simp [activatedBy, tasks, here]
  simp [History.record, delivered, closed, activated, calledBy, terminatedBy]

theorem unmoved (ok : ProtocolOk ⟨server, history⟩) (control : SameControl server after)
    (conns : ∀ id, (after.conns id).pc = (server.conns id).pc) (same : SameSessions server after) :
    ProtocolOk ⟨after, history⟩ := by
  have swept : after.hasSwept = server.hasSwept := by
    simp only [Server.hasSwept, control.shutdown, control.fence]
  refine ok.mono ?_ ok.calls (same.nextGeneration ▸ ok.born) (fun _ => .inl)
    (fun _ _ _ known => known) ⟨rfl, ?_⟩ (fun _ present => .inl (same.registry ▸ present)) ?_
    (fun calm => swept.symm.trans calm) ?_ ?_
  · intro generation running
    refine ⟨(halted_of_tasks same.tasks generation).symm.trans running, fun session => ?_⟩
    simp only [Recorded.phase?, Recorded.script, mailboxOf_of_tasks same.tasks]
  · intro id address session onward here
    exact (conns id).symm.trans here
  · intro id address session onward here entry present new
    exact absurd (same.registry ▸ present) new
  · intro address generation serves
    exact serves_of_tasks same.tasks (fun _ _ present => same.routes ▸ present) serves
  · intro calm address generation session _ _ isOpen
    rcases isOpen with ⟨entry, present, rest⟩ | ⟨id, onward, opening, closer, rest⟩
    · exact .inl ⟨entry, same.registry ▸ present, rest⟩
    · exact .inr ⟨id, onward, opening, (conns id).trans closer, rest⟩

/-! ### Steps of an actor task, of `shutdown` and of `fence` -/

theorem moved (ok : ProtocolOk ⟨server, history⟩) (routes : RoutesOk server)
    (deliveries : DeliveriesOk ⟨server, history⟩)
    (terminations : TerminationsOk ⟨server, history⟩) {generation : Nat} {event : TaskEvent}
    {task next : ActorTask} (found : server.tasks generation = some task)
    (effect : TaskEffect server after generation task next)
    (move : TaskMove server after generation task next)
    (closed : next.closed = false → task.closed = false) :
    ProtocolOk ⟨after, history.record server after (.task generation event)⟩ := by
  have removed : ∀ entry ∈ server.registry, entry ∈ after.registry ∨
      ∃ session rest onward, task.pc = .terminating (session :: rest) onward ∧
        entry.key = (task.address, session) := by
    intro entry present
    rcases move.registry with same | ⟨session, rest, onward, here, -, registry⟩
    · exact .inl (same ▸ present)
    · rw [registry]
      by_cases key : entry.key = (task.address, session)
      · exact .inr ⟨session, rest, onward, here, key⟩
      · exact .inl (SessionRegistry.mem_unregisterActor.mpr ⟨present, key⟩)
  have kept : ∀ entry ∈ after.registry, entry ∈ server.registry := by
    intro entry present
    rcases move.registry with same | ⟨session, rest, onward, -, -, registry⟩
    · rwa [same] at present
    · rw [registry] at present
      exact (SessionRegistry.mem_unregisterActor.mp present).1
  have survives : ∀ address other session entry, server.Serves address other →
      entry ∈ server.registry → entry.key = (address, session) →
      history.delivered entry.opening = some other → server.halted other = false →
      ∀ ended rest onward, task.pc = .terminating (ended :: rest) onward →
        entry.key ≠ (task.address, ended) := by
    intro address other session entry served present key known alive ended rest onward here named
    obtain ⟨place, -⟩ := Prod.mk.inj (key.symm.trans named)
    rcases Nat.lt_trichotomy generation other with less | same | greater
    · have done := terminations.older entry.opening other generation task known found
        (Prod.mk.inj named).1.symm less
      rw [here, show entry.opening.session = ended from (Prod.mk.inj named).2] at done
      simp [TaskPc.mayTerminate] at done
    · rw [← same, halted_eq_false found, here] at alive
      cases alive
    · have newest := deliveries.newest address _ generation task served.1 found place.symm
      exact absurd greater (Nat.not_lt_of_le newest)
  refine ok.mono ?_ ?_ ?_ ?_ ?_ ⟨rfl, ?_⟩ ?_ ?_ ?_ ?_ ?_
  · intro other running
    obtain ⟨earlier, script⟩ := @TaskMove.script _ _ history _ event _ _ move found effect other running
    exact ⟨earlier, fun session => by rw [Recorded.phase?, script]; rfl⟩
  · intro other session
    rcases @TaskMove.callsOf _ _ history _ event _ _ move found effect other with same |
      ⟨alive, rest, script⟩
    · simp only [same]
      exact ok.calls other session
    · have whole := ok.ahead other session alive
      rw [Recorded.phase?, ← script, marks, List.filter_append, List.map_append] at whole
      exact Rounds.isSome_of_append whole
  · intro call member
    rw [effect.nextGeneration]
    rcases List.mem_append.mp member with old | new
    · exact ok.born call old
    · rcases @TaskMove.calledBy _ _ _ event _ _ move found effect with ⟨message, called, -⟩ |
        ⟨called, -⟩
      · rw [called] at new
        rw [List.mem_singleton.mp new]
        exact routes.generation generation task found
      · rw [called] at new
        cases new
  · intro activation member
    rw [record_task_activations] at member
    exact .inl member
  · exact fun _ _ _ known => known
  · intro id address session onward here
    simpa only [effect.conns] using here
  · exact fun entry present => .inl (kept entry present)
  · exact fun id address session onward here entry present new => absurd (kept entry present) new
  · intro calm
    simpa only [Server.hasSwept, effect.shutdown, effect.fence] using calm
  · exact fun address other serves => effect.serves found closed serves
  · intro calm address other session serves running isOpen
    have served := effect.serves found closed serves
    rcases isOpen with ⟨entry, present, key, known⟩ | ⟨id, onward, opening, closer, rest⟩
    · rcases removed entry present with stays | ⟨ended, rest, onward, here, named⟩
      · exact .inl ⟨entry, stays, key, known⟩
      · exact absurd named (survives address other session entry served present key known
          (@TaskMove.script _ _ history _ event _ _ move found effect other running).1 ended rest
          onward here)
    · exact .inr ⟨id, onward, opening, (congrFun effect.conns id ▸ closer :), rest⟩

theorem controlled (ok : ProtocolOk ⟨server, history⟩) (effect : ControlEffect server after)
    (sweeps : after.hasSwept = false → server.hasSwept = false ∧ after.registry = server.registry) :
    ProtocolOk ⟨after, history⟩ := by
  refine ok.mono ?_ ok.calls ?_ (fun _ => .inl) (fun _ _ _ known => known) ⟨rfl, ?_⟩ ?_ ?_
    (fun calm => (sweeps calm).1) (fun _ _ => effect.serves) ?_
  · intro generation running
    obtain ⟨halted, script⟩ := @ControlEffect.script _ _ history effect generation
    exact ⟨halted.symm.trans running, fun session => by rw [Recorded.phase?, script]; rfl⟩
  · intro call member
    exact effect.nextGeneration ▸ ok.born call member
  · intro id address session onward here
    simpa only [effect.conns] using here
  · exact fun entry present => .inl (effect.registry.subset present)
  · intro id address session onward here entry present new
    exact absurd (effect.registry.subset present) new
  · intro calm address generation session _ _ isOpen
    rcases isOpen with ⟨entry, present, rest⟩ | ⟨id, onward, opening, closer, rest⟩
    · exact .inl ⟨entry, (sweeps calm).2 ▸ present, rest⟩
    · exact .inr ⟨id, onward, opening, (effect.conns id).trans closer, rest⟩

theorem step? (ok : ProtocolOk ⟨server, history⟩) (routes : RoutesOk server)
    (deliveries : DeliveriesOk ⟨server, history⟩) (terminations : TerminationsOk ⟨server, history⟩)
    (exclusive : Exclusive true server) {label : Bool × ServerEvent}
    (met : Orderly config ⟨server, history⟩ label)
    (stepped : server.step? config label.1 label.2 = some after) :
    ProtocolOk ⟨after, history.record server after label.2⟩ := by
  have routes' := routes.step? stepped
  have exclusive' := exclusive.step? met.uncontested stepped
  obtain ⟨authorityValid, event⟩ := label
  cases step?_moves stepped with
  | @conn id event control others move =>
      have checked : Recorded.MayGo config ⟨server, history⟩ id (server.conns id).pc ∨
          ((after.conns id).pc = (server.conns id).pc ∧ SameSessions server after) := by
        cases working : (server.conns id).pc.isWorking with
        | true =>
            rcases connStep?_working working stepped with ⟨panics, rfl⟩ | unmoved
            · exact .inl met
            · exact .inr unmoved
        | false =>
            left
            cases here : (server.conns id).pc <;> rw [here] at working <;> trivial
      rcases checked with may | ⟨stays, same⟩
      · exact ok.connMove ⟨routes, routes', deliveries, exclusive, exclusive', control, others, move,
          may⟩
      · rw [record_unmoved same.tasks stays]
        refine ok.unmoved control (fun other => ?_) same
        by_cases here : other = id
        · rw [here, stays]
        · rw [others other here]
  | @task generation event task next found effect move =>
      have moved : server.taskStep? config generation task task.pc event = some after := by
        simpa [Server.step?, found] using stepped
      exact ok.moved routes deliveries terminations found effect move
        (taskStep?_closed moved (by rw [effect.tasks, Function.update_self]))
  | shutdown effect =>
      rw [record_shutdown]
      exact ok.controlled effect (shutdownStep?_sweeps stepped)
  | fence effect =>
      rw [record_fence]
      exact ok.controlled effect (fenceStep?_sweeps stepped)

end ProtocolOk

theorem protocolOk_of_reachable {recorded : Recorded}
    (reach : (recordedSystem config).ReachableWhile (Orderly config) recorded) :
    ProtocolOk recorded := by
  refine invariant_of_reachable_step ProtocolOk ?_ ?_ reach
  · rintro _ rfl
    exact .fresh config
  · intro before label after earlier ok met stepped
    obtain ⟨server, moved, rfl⟩ := recorded_step stepped
    have unguarded : (serverSystem config).Reachable before.server :=
      reachable_server (fun _ _ _ => trivial) earlier
    exact ok.step? (routesOk_of_reachable unguarded)
      (deliveriesOk_of_reachable (reachableWhile_mono (fun _ _ met => met.uncontested) earlier))
      (terminationsOk_of_reachable (reachableWhile_mono (fun _ _ met => met.undisturbed) earlier))
      (exclusive_of_reachable (reachable_server (fun _ _ met => met.uncontested) earlier)) met moved

/-! ## The protocol -/

/-- When every dispatch reaches the actor it was checked for, the callbacks that
an actor has received for a Session are a prefix of rounds of opened, messages
and closed, and no actor was ever activated by anything but a `SessionOpened`. -/
theorem callbacks_follow_protocol {recorded : Recorded}
    (reach : (recordedSystem config).ReachableWhile (Orderly config) recorded) :
    (∀ generation session,
      Rounds.IsPrefix (marks session (recorded.history.callsOf generation))) ∧
    ∀ activation ∈ recorded.history.activations,
      ∃ opening, activation.2 = .sessionOpened opening := by
  have ok := protocolOk_of_reachable reach
  refine ⟨fun generation session => ?_, ok.activations⟩
  exact (Rounds.isPrefix_iff _).mpr (ok.calls generation session)

/-! ## Runs of a few connections -/

/-- `Orderly` among the connections below a number. -/
def orderly? (limit : Nat) (config : RuntimeConfig) (recorded : Recorded)
    (label : Bool × ServerEvent) : Bool :=
  uncontested? limit true recorded.server label && undisturbed? recorded.server label &&
    match label with
    | (_, .conn id (.advance _)) =>
        match (recorded.server.conns id).pc with
        | .openDispatch opening _ .actors =>
            recorded.server.wouldSpawn opening.address || !recorded.server.hasSwept
        | .actionDispatch address session _ .actors =>
            !recorded.server.wouldSpawn address &&
              (recorded.server.activeAt address).all fun generation =>
                recorded.server.registry.any fun entry => entry.key == (address, session) &&
                  recorded.history.delivered entry.opening == some generation
        | .closeDispatch address _ _ =>
            (recorded.server.activeAt address).all fun generation =>
              recorded.server.hasRoom config address && (recorded.history.closing id).any
                fun opening => recorded.history.delivered opening == some generation
        | _ => true
    | _ => true

theorem orderly_of_check {limit : Nat} {recorded : Recorded} {label : Bool × ServerEvent}
    (routes : RoutesOk recorded.server) (unaccepted : Unaccepted limit recorded.server)
    (checked : orderly? limit config recorded label = true) : Orderly config recorded label := by
  obtain ⟨⟨free, settled⟩, here⟩ : (uncontested? limit true recorded.server label = true ∧
      undisturbed? recorded.server label = true) ∧ _ := by
    simpa only [orderly?, Bool.and_eq_true] using checked
  have uncontested := uncontested_of_check unaccepted free
  have undisturbed := undisturbed_of_check routes settled
  obtain ⟨authorityValid, event⟩ := label
  cases event with
  | conn id event =>
      cases event with
      | advance panics =>
          simp only [Orderly]
          simp only [Uncontested] at uncontested
          simp only [Undisturbed] at undisturbed
          cases pc : (recorded.server.conns id).pc with
          | openRegister address session reservation =>
              rw [pc] at uncontested
              exact uncontested
          | openDispatch opening reservation stage =>
              cases stage with
              | actors =>
                  rw [pc] at undisturbed
                  refine ⟨undisturbed, fun stays => ?_⟩
                  simpa [pc, stays] using here
              | _ => trivial
          | actionDispatch address session payload stage =>
              cases stage with
              | actors =>
                  simp only [pc, Bool.and_eq_true, Bool.not_eq_true'] at here
                  refine ⟨here.1, fun generation serves => ?_⟩
                  simpa [serves.activeAt] using here.2
              | _ => trivial
          | closeDispatch address session onward =>
              simp only [pc] at here
              intro generation serves
              simpa [serves.activeAt, Option.any_eq_true] using here
          | _ => trivial
      | _ => trivial
  | _ => trivial

theorem meets_orderly {limit : Nat} {labels : List (Bool × ServerEvent)}
    (below : labels.all (fun label => label.2.connBelow limit) = true)
    (checked : (recordedSystem config).meets? (fun recorded label =>
      orderly? limit config recorded label = true) ⟨.fresh config, .empty⟩ labels = true) :
    (recordedSystem config).Meets (Orderly config) ⟨.fresh config, .empty⟩ labels := by
  refine meets_of_check
    (fun recorded => RoutesOk recorded.server ∧ Unaccepted limit recorded.server) ?_
    (fun _ _ ok checked => orderly_of_check ok.1 ok.2 checked)
    ⟨routesOk_fresh config, fun _ _ => rfl⟩ checked
  intro before label after member ok stepped
  obtain ⟨server, moved, rfl⟩ := recorded_step stepped
  exact ⟨ok.1.step? moved, ok.2.step? (List.all_eq_true.mp below label member) moved⟩

/-- The actor answers the open, and the connection goes back to its Envelopes. -/
def openAndAnswer : List (Bool × ServerEvent) :=
  openAndActivate ++ [(true, .task 1 .advance), (true, .task 1 (.returned true)),
    (true, .conn 0 (.advance false)), (true, .conn 0 (.advance false))]

/-- An Envelope of connection 0 for the Session, handled to its end. -/
def handled (kind : EnvelopeKind) (steps : Nat) : List (Bool × ServerEvent) :=
  (true, .conn 0 (.receive ⟨2, some cartAddress, some ⟨7⟩, some kind⟩)) ::
    List.replicate steps (true, .conn 0 (.advance false))

/-- A Session is opened, used once and closed. -/
def oneRound : List (Bool × ServerEvent) :=
  openAndAnswer ++ handled (.action [1]) 5 ++
    [(true, .task 1 .advance), (true, .task 1 (.returned true))] ++ handled .sessionClose 3 ++
    [(true, .task 1 .advance), (true, .task 1 (.returned true))]

theorem one_round_follows_protocol :
    ∃ recorded, (recordedSystem cartRuntime).ReachableWhile (Orderly cartRuntime) recorded ∧
      marks ⟨7⟩ (recorded.history.callsOf 1) = [.opens, .goesOn, .closes] ∧
      (∀ generation session,
        Rounds.IsPrefix (marks session (recorded.history.callsOf generation))) ∧
      ∀ activation ∈ recorded.history.activations,
        ∃ opening, activation.2 = .sessionOpened opening := by
  have meets : (recordedSystem cartRuntime).Meets (Orderly cartRuntime)
      ⟨.fresh cartRuntime, .empty⟩ oneRound := @meets_orderly _ 1 _ rfl rfl
  have reach := @reachableWhile_of_run? _ _ _ _ _ _ _ (.start rfl) meets rfl
  exact ⟨_, reach, rfl, callbacks_follow_protocol reach⟩

/-- The actor panics on one Action while the next one has passed its checks. -/
def actionAfterPanic : List (Bool × ServerEvent) :=
  openAndAnswer ++ handled (.action [1]) 5 ++ [(true, .task 1 .advance)] ++
    handled (.action [2]) 4 ++
    [(true, .task 1 (.returned false)), (true, .task 1 .advance), (true, .task 1 .advance),
      (true, .task 1 .advance), (true, .task 1 .advance), (true, .conn 0 (.advance false)),
      (true, .task 2 .advance), (true, .task 2 (.activation .activated)), (true, .task 2 .advance)]

/-- The second Action then activates a new actor, which handles it without
having opened the Session. -/
theorem action_activates_actor :
    ∃ recorded, (recordedSystem cartRuntime).Reachable recorded ∧
      recorded.history.callsOf 2 = [.action ⟨7⟩ [2]] ∧
      ¬ Rounds.IsPrefix (marks ⟨7⟩ (recorded.history.callsOf 2)) ∧
      (2, .action ⟨7⟩ [2]) ∈ recorded.history.activations := by
  have ran : ((recordedSystem cartRuntime).run? ⟨.fresh cartRuntime, .empty⟩ actionAfterPanic).map
      (fun recorded => (recorded.history.callsOf 2, recorded.history.activations)) =
      some ([.action ⟨7⟩ [2]], [(1, .sessionOpened ⟨cartAddress, ⟨7⟩, 0⟩), (2, .action ⟨7⟩ [2])]) := by
    decide +kernel
  obtain ⟨recorded, run, facts⟩ := Option.map_eq_some_iff.mp ran
  obtain ⟨calls, activations⟩ := Prod.mk.inj facts
  refine ⟨recorded, reachable_of_run? rfl run, calls, ?_, by simp [activations]⟩
  rw [calls]
  decide

end Coactor.Runtime
