import Coactor.Runtime.Isolation

/-!
# The Sessions of an ended connection

A connection task that has lost its connection closes the Sessions that were
bound to it one by one and ends.  The consumer's constructor runs on that task
too, inside `dispatch_message`, and a panic there ends the task before it has
closed anything.  Without such a panic a task that ends while the Server is
running leaves no Session behind.
-/

namespace Coactor.Runtime

open Coactor.Foundation.Transition
open Coactor.Coordination
open Server

variable {server after : Server} {config : RuntimeConfig}

/-! ## Panics of the constructor -/

/-- The step calls a constructor that panics. -/
def Server.constructorPanics (server : Server) : ServerEvent → Bool
  | .conn id (.advance true) =>
      match (server.conns id).pc with
      | .openDispatch opening reservation .actors =>
          server.wouldActivate opening.address reservation
      | .actionDispatch address _ _ .actors => server.wouldActivate address false
      | _ => false
  | _ => false

/-- No connection task calls a constructor that panics. -/
def Composed (server : Server) (label : Bool × ServerEvent) : Prop :=
  server.constructorPanics label.2 = false

instance (server : Server) (label : Bool × ServerEvent) : Decidable (Composed server label) :=
  inferInstanceAs (Decidable (_ = _))

namespace Server

variable {address : ActorAddress} {message : MailboxMessage} {reservation panics : Bool}

theorem spawn_panics (registered : (config.mailboxCapacity address.actorType).isSome = true)
    (panicked : (server.spawn config address message panics).2 = .panicked) : panics = true := by
  obtain ⟨capacity, found⟩ := Option.isSome_iff_exists.mp registered
  cases panics with
  | true => rfl
  | false =>
      simp [spawn, found] at panicked

theorem activate_panics (registered : (config.mailboxCapacity address.actorType).isSome = true)
    (panicked : (server.activate config address message reservation panics).2 = .panicked) :
    panics = true ∧ (reservation = true ∨ 0 < server.available) := by
  unfold activate at panicked
  split at panicked
  · rename_i reserved
    exact ⟨spawn_panics registered panicked, .inl reserved⟩
  · split at panicked
    · rename_i left
      exact ⟨spawn_panics registered panicked, .inr left⟩
    · cases panicked

/-- Only the constructor of a registered Actor Type can make a dispatch panic. -/
theorem dispatchActors_panics
    (registered : (config.mailboxCapacity address.actorType).isSome = true)
    (panicked : (server.dispatchActors config address message reservation panics).2 = .panicked) :
    panics = true ∧ server.wouldActivate address reservation = true := by
  unfold dispatchActors at panicked
  cases route : server.routes address with
  | none =>
      rw [route] at panicked
      obtain ⟨isTrue, free⟩ := activate_panics registered panicked
      exact ⟨isTrue, by simpa [wouldActivate, route] using free⟩
  | some found =>
      obtain ⟨generation, state⟩ := found
      rw [route] at panicked
      cases state with
      | deactivating => cases panicked
      | active =>
          simp only at panicked
          cases known : server.tasks generation with
          | none =>
              rw [known] at panicked
              cases panicked
          | some task =>
              rw [known] at panicked
              simp only at panicked
              split at panicked
              · rename_i closed
                obtain ⟨isTrue, -⟩ := activate_panics registered panicked
                exact ⟨isTrue, by simp [wouldActivate, wouldSpawn, route, known, closed]⟩
              · split at panicked
                · cases panicked
                · cases panicked

end Server

/-! ## What a connection task may still close -/

/-- A connection task at this point closes the Session before it ends, if it is
still registered on its connection. -/
def ConnPc.MayOwn (key : SessionKey) : ConnPc → Prop
  | .ended => False
  | .disconnecting rest => key ∈ rest
  | .closeUnregister address session (some rest) => key = (address, session) ∨ key ∈ rest
  | .closeDispatch _ _ (some rest) => key ∈ rest
  | _ => True

/-- The Actor Type of this address is registered. -/
def RuntimeConfig.Registers (config : RuntimeConfig) (address : ActorAddress) : Prop :=
  (config.mailboxCapacity address.actorType).isSome = true

/-- While the Server is running, every Session is on its way to be closed when
its connection task ends. -/
structure ConnectionsOk (config : RuntimeConfig) (server : Server) : Prop where
  registered : ∀ entry ∈ server.registry, config.Registers entry.opening.address
  opening : ∀ id opening reservation stage,
    (server.conns id).pc = .openDispatch opening reservation stage →
      config.Registers opening.address
  acting : ∀ id address session payload stage,
    (server.conns id).pc = .actionDispatch address session payload stage →
      config.Registers address
  unaborted : server.status = .running → ∀ id, (server.conns id).abortRequested = false
  bound : server.status = .running → ∀ entry ∈ server.registry,
    (server.conns entry.connection).pc.MayOwn entry.key

theorem inbound_mayOwn (envelope : Envelope) (key : SessionKey) : envelope.inbound.MayOwn key :=
  envelope.inbound_cases (motive := fun pc => pc.MayOwn key) trivial (fun _ _ _ => trivial)
    (fun _ _ => trivial) (fun _ => trivial) fun _ _ => trivial

/-! ## How a connection task ends -/

namespace Server

variable {id : Nat} {event : ConnEvent} {authorityValid : Bool}

/-- At an await point a connection task only ends because it is aborted. -/
theorem connStep?_aborts (awaiting : (server.conns id).pc.isAwaiting = true)
    (stepped : server.step? config authorityValid (.conn id event) = some after)
    (ended : (after.conns id).pc = .ended) : (server.conns id).abortRequested = true := by
  have aborted : ∀ {aborts : Option Server},
      (if (server.conns id).abortRequested then aborts else none) = some after →
        (server.conns id).abortRequested = true := by
    intro aborts taken
    split at taken
    · rename_i requested
      exact requested
    · cases taken
  have noted : ∀ {pc : ConnPc}, (server.conns id).pc = pc → pc ≠ .ended →
      some { server with
        conns := Function.update server.conns id { server.conns id with registered := true } } =
          some after → (server.conns id).abortRequested = true := by
    intro pc here alive taken
    cases taken
    simp only [Function.update_self] at ended
    exact absurd (here.symm.trans ended) alive
  simp only [step?] at stepped
  cases here : (server.conns id).pc with
  | receiving =>
      rw [here] at stepped
      cases event with
      | receive envelope =>
          cases stepped
          rw [setConn_pc] at ended
          have owns := inbound_mayOwn envelope (cartAddress, ⟨0⟩)
          rw [ended] at owns
          exact owns.elim
      | disconnect =>
          cases stepped
          rw [setConn_pc] at ended
          cases ended
      | register => exact noted here (by simp) stepped
      | abort => exact aborted stepped
      | _ => cases stepped
  | openLock address session =>
      rw [here] at stepped
      cases event with
      | advance panics =>
          simp only [connStep?] at stepped
          split at stepped
          · cases stepped
            rw [setConn_pc] at ended
            cases ended
          · cases stepped
      | register => exact noted here (by simp) stepped
      | abort => exact aborted stepped
      | _ => cases stepped
  | resolving address session program reserved =>
      rw [here] at stepped
      cases event with
      | reply reply =>
          simp only [connStep?, Option.bind_eq_some_iff, Option.map_eq_some_iff, Prod.exists]
            at stepped
          obtain ⟨next, -, middle, reserved', -, rfl⟩ := stepped
          rw [resolved_pc] at ended
          rcases next with (error | ⟨reservation⟩ | _) | ⟨request, resume⟩ <;> cases ended
      | register => exact noted here (by simp) stepped
      | abort => exact aborted stepped
      | _ => cases stepped
  | openAwait opening =>
      rw [here] at stepped
      cases event with
      | advance panics =>
          simp only [connStep?] at stepped
          split at stepped
          · cases stepped
          all_goals
            cases stepped
            rw [setConn_pc] at ended
            cases ended
      | register => exact noted here (by simp) stepped
      | abort => exact aborted stepped
      | _ => cases stepped
  | _ =>
      rw [here] at awaiting
      cases awaiting

/-- In a dispatch a connection task only ends because the constructor panics. -/
theorem connStep?_panics
    (here : (∃ opening reservation, config.Registers opening.address ∧
        (server.conns id).pc = .openDispatch opening reservation .actors) ∨
      ∃ address session payload, config.Registers address ∧
        (server.conns id).pc = .actionDispatch address session payload .actors)
    (stepped : server.step? config authorityValid (.conn id event) = some after)
    (ended : (after.conns id).pc = .ended) :
    server.constructorPanics (.conn id event) = true := by
  have working : (server.conns id).pc.isWorking = true := by
    rcases here with ⟨opening, reservation, -, here⟩ | ⟨address, session, payload, -, here⟩
    · rw [here]
      rfl
    · rw [here]
      rfl
  rcases connStep?_working working stepped with ⟨panics, rfl⟩ | ⟨kept, -⟩
  · simp only [step?] at stepped
    rcases here with ⟨opening, reservation, registered, here⟩ |
      ⟨address, session, payload, registered, here⟩
    · rw [here] at stepped
      simp only [connStep?, openDispatch, Option.some.injEq] at stepped
      split at stepped
      · subst stepped
        rw [setConn_pc] at ended
        cases ended
      · subst stepped
        rw [setConn_pc] at ended
        cases ended
      · rename_i dispatched
        obtain ⟨isTrue, constructs⟩ := dispatchActors_panics registered
          (congrArg Prod.snd dispatched)
        subst isTrue
        simp only [constructorPanics, here]
        exact constructs
    · rw [here] at stepped
      simp only [connStep?, actionDispatch, Option.some.injEq] at stepped
      split at stepped
      · rename_i dispatched
        obtain ⟨isTrue, constructs⟩ := dispatchActors_panics registered
          (congrArg Prod.snd dispatched)
        subst isTrue
        simp only [constructorPanics, here]
        exact constructs
      · subst stepped
        rw [setConn_pc] at ended
        cases ended
  · rw [kept] at ended
    rw [ended] at working
    cases working

end Server

/-- Where the last step of a connection task starts. -/
inductive ConnPc.MayEnd (pc : ConnPc) : Prop where
  | closed (here : pc = .ended ∨ pc = .disconnecting [])
  | awaiting (awaiting : pc.isAwaiting = true)
  | opening (opening : Opening) (reservation : Bool)
      (here : pc = .openDispatch opening reservation .actors)
  | acting (address : ActorAddress) (session : SessionId) (payload : List UInt8)
      (here : pc = .actionDispatch address session payload .actors)

theorem ConnMove.mayEnd {id : Nat} {pc next : ConnPc}
    (move : ConnMove config server after id pc next) (ended : next = .ended) : pc.MayEnd := by
  cases move with
  | quiet same move =>
      cases move with
      | receive envelope =>
          have owns := inbound_mayOwn envelope (cartAddress, ⟨0⟩)
          rw [ended] at owns
          exact owns.elim
      | disconnected => exact .closed (.inr rfl)
      | noted => exact .closed (.inl ended)
      | aborted awaiting => exact .awaiting awaiting
      | @unclosed _ _ onward => cases onward <;> cases ended
      | _ => cases ended
  | unopened => exact .opening _ _ rfl
  | unacted => exact .acting _ _ _ rfl
  | @closed _ _ onward | @unheard _ _ onward => cases onward <;> cases ended
  | _ => cases ended

/-! ## Nothing is left behind -/

namespace ConnectionsOk

theorem fresh (config : RuntimeConfig) : ConnectionsOk config (.fresh config) where
  registered := by
    intro entry member
    cases member
  opening := by rintro id opening reservation stage ⟨⟩
  acting := by rintro id address session payload stage ⟨⟩
  unaborted := fun _ _ => rfl
  bound := by
    intro _ entry member
    cases member

/-- Steps that drop registrations and leave connections where they are. -/
theorem shrink (ok : ConnectionsOk config server) (registry : after.registry.Sublist server.registry)
    (conns : ∀ id, (after.conns id).pc = (server.conns id).pc)
    (running : after.status = .running → server.status = .running ∧
      ∀ id, (after.conns id).abortRequested = (server.conns id).abortRequested) :
    ConnectionsOk config after where
  registered := fun entry member => ok.registered entry (registry.subset member)
  opening := fun id opening reservation stage here =>
    ok.opening id opening reservation stage (conns id ▸ here)
  acting := fun id address session payload stage here =>
    ok.acting id address session payload stage (conns id ▸ here)
  unaborted := by
    intro runs id
    obtain ⟨before, same⟩ := running runs
    rw [same]
    exact ok.unaborted before id
  bound := by
    intro runs entry member
    rw [conns]
    exact ok.bound (running runs).1 entry (registry.subset member)

section

variable {id : Nat}

/-- What a move of one connection task asks for the other facts. -/
theorem connMoved (ok : ConnectionsOk config server) (control : SameControl server after)
    (others : ∀ other, other ≠ id → after.conns other = server.conns other)
    (aborts : (after.conns id).abortRequested = (server.conns id).abortRequested)
    (registered : ∀ entry ∈ after.registry, entry ∈ server.registry ∨
      (config.Registers entry.opening.address ∧ entry.connection = id ∧
        (after.conns id).pc.MayOwn entry.key))
    (opening : ∀ opening reservation stage,
      (after.conns id).pc = .openDispatch opening reservation stage →
        config.Registers opening.address)
    (acting : ∀ address session payload stage,
      (after.conns id).pc = .actionDispatch address session payload stage →
        config.Registers address)
    (bound : server.status = .running → ∀ entry ∈ after.registry, entry.connection = id →
      entry ∈ server.registry → (server.conns id).pc.MayOwn entry.key →
        (after.conns id).pc.MayOwn entry.key) : ConnectionsOk config after where
  registered := by
    intro entry member
    rcases registered entry member with old | ⟨new, -, -⟩
    · exact ok.registered entry old
    · exact new
  opening := by
    intro other opening' reservation stage here
    by_cases same : other = id
    · subst same
      exact opening opening' reservation stage here
    · rw [others other same] at here
      exact ok.opening other opening' reservation stage here
  acting := by
    intro other address session payload stage here
    by_cases same : other = id
    · subst same
      exact acting address session payload stage here
    · rw [others other same] at here
      exact ok.acting other address session payload stage here
  unaborted := by
    intro running other
    rw [control.status] at running
    by_cases same : other = id
    · subst same
      rw [aborts]
      exact ok.unaborted running other
    · rw [others other same]
      exact ok.unaborted running other
  bound := by
    intro running entry member
    rw [control.status] at running
    by_cases same : entry.connection = id
    · rcases registered entry member with old | ⟨-, -, owns⟩
      · rw [same]
        exact bound running entry member same old (same ▸ ok.bound running entry old)
      · rw [same]
        exact owns
    · rcases registered entry member with old | ⟨-, own, -⟩
      · rw [others _ same]
        exact ok.bound running entry old
      · exact absurd own same

/-- A move to a point that dispatches nothing, without a registration. -/
theorem settled (ok : ConnectionsOk config server) (control : SameControl server after)
    (others : ∀ other, other ≠ id → after.conns other = server.conns other)
    (aborts : (after.conns id).abortRequested = (server.conns id).abortRequested)
    (registry : after.registry.Sublist server.registry)
    (opening : ∀ opening reservation stage,
      (after.conns id).pc ≠ .openDispatch opening reservation stage)
    (acting : ∀ address session payload stage,
      (after.conns id).pc ≠ .actionDispatch address session payload stage)
    (bound : server.status = .running → ∀ entry ∈ after.registry, entry.connection = id →
      entry ∈ server.registry → (server.conns id).pc.MayOwn entry.key →
        (after.conns id).pc.MayOwn entry.key) : ConnectionsOk config after :=
  ok.connMoved control others aborts (fun _ member => .inl (registry.subset member))
    (fun _ _ _ here => absurd here (opening _ _ _)) (fun _ _ _ _ here => absurd here (acting _ _ _ _))
    bound

theorem quietMove (ok : ConnectionsOk config server) (control : SameControl server after)
    (others : ∀ other, other ≠ id → after.conns other = server.conns other)
    (aborts : (after.conns id).abortRequested = (server.conns id).abortRequested)
    (same : SameSessions server after)
    (move : QuietMove server id (server.conns id).pc (after.conns id).pc)
    (alive : server.status = .running → (after.conns id).pc = .ended →
      (server.conns id).pc = .ended ∨ (server.conns id).pc = .disconnecting []) :
    ConnectionsOk config after := by
  have opens := ok.opening id
  have acts := ok.acting id
  have registry : after.registry.Sublist server.registry := same.registry ▸ List.Sublist.refl _
  have settled := ok.settled control others aborts registry
  have moved := ok.connMoved control others aborts fun _ member => .inl (registry.subset member)
  generalize here : (server.conns id).pc = pc at move alive opens acts settled moved
  generalize there : (after.conns id).pc = next at move alive settled moved
  cases move with
  | receive envelope =>
      refine settled ?_ ?_ fun _ entry _ _ _ _ => inbound_mayOwn envelope entry.key
      · intro opening reservation stage same
        have guards := inbound_guards envelope
        rw [same] at guards
        cases guards
      · intro address session payload stage same
        have keys := inbound_keys true envelope
        rw [same] at keys
        cases keys
  | disconnect =>
      refine settled (by simp) (by simp) ?_
      intro _ entry _ own old _
      simp only [ConnPc.MayOwn, SessionRegistry.bySender, List.mem_map, List.mem_filter, beq_iff_eq]
      exact ⟨entry, ⟨old, own⟩, rfl⟩
  | dispatching early =>
      refine moved ?_ (by simp) fun _ _ _ _ _ _ => trivial
      rintro opening reservation stage ⟨⟩
      exact opens _ _ _ rfl
  | @sink place session payload present =>
      refine moved (by simp) ?_ fun _ _ _ _ _ _ => trivial
      rintro _ _ _ stage ⟨⟩
      simp only [SessionRegistry.contains, List.any_eq_true, SessionRegistry.names_iff] at present
      obtain ⟨entry, member, key⟩ := present
      have registered := ok.registered entry member
      rwa [show entry.opening.address = place from congrArg Prod.fst key] at registered
  | acting early =>
      refine moved (by simp) ?_ fun _ _ _ _ _ _ => trivial
      rintro address session payload stage ⟨⟩
      exact acts _ _ _ _ rfl
  | @unclosed address session onward absent =>
      cases onward with
      | none => exact settled (by simp [AfterClose.pc]) (by simp [AfterClose.pc]) fun _ _ _ _ _ _ => trivial
      | some rest =>
          refine settled (by simp [AfterClose.pc]) (by simp [AfterClose.pc]) ?_
          rintro _ entry _ _ old (named | later)
          · exact absurd named (SessionRegistry.contains_eq_false absent entry old)
          · exact later
  | @lost address session rest =>
      refine settled (by simp) (by simp) ?_
      intro _ entry _ _ _ owned
      exact List.mem_cons.mp owned
  | disconnected =>
      refine settled (by simp) (by simp) ?_
      intro _ entry _ _ _ owned
      cases owned
  | noted => exact moved opens acts fun _ _ _ _ _ owned => owned
  | aborted awaiting =>
      refine settled (by simp) (by simp) ?_
      intro running entry _ _ _ owned
      rcases alive running rfl with rfl | rfl
      · exact owned
      · cases owned
  | _ => exact settled (by simp) (by simp) fun _ _ _ _ _ _ => trivial

theorem connMove (ok : ConnectionsOk config server) (control : SameControl server after)
    (others : ∀ other, other ≠ id → after.conns other = server.conns other)
    (aborts : (after.conns id).abortRequested = (server.conns id).abortRequested)
    (move : ConnMove config server after id (server.conns id).pc (after.conns id).pc)
    (registers : ∀ address session reservation, (server.conns id).pc =
      .openRegister address session reservation → (∃ opening reservation stage,
        (after.conns id).pc = .openDispatch opening reservation stage) → config.Registers address)
    (alive : server.status = .running → (after.conns id).pc = .ended →
      (server.conns id).pc = .ended ∨ (server.conns id).pc = .disconnecting []) :
    ConnectionsOk config after := by
  have settled := ok.settled control others aborts
  have moved := ok.connMoved control others aborts
  have quiet := ok.quietMove control others aborts
  generalize here : (server.conns id).pc = pc at move alive settled moved quiet registers
  generalize there : (after.conns id).pc = next at move alive settled moved quiet registers
  cases move with
  | quiet same move => exact quiet same move alive
  | @register address session reservation absent registry =>
      have registered := registers address session reservation rfl ⟨_, _, _, rfl⟩
      refine moved ?_ ?_ (by simp) fun _ _ _ _ _ _ => trivial
      · intro entry member
        rw [registry, List.mem_append, List.mem_singleton] at member
        rcases member with old | rfl
        · exact .inl old
        · exact .inr ⟨registered, rfl, trivial⟩
      · rintro opening reservation' stage ⟨⟩
        exact registered
  | opened delivery registry | acted delivery registry =>
      exact settled (registry ▸ List.Sublist.refl _) (by simp) (by simp) fun _ _ _ _ _ _ => trivial
  | unopened refusal registry completions nextOpening onward =>
      rcases onward with ⟨error, rfl⟩ | rfl
      · exact settled (registry ▸ List.Sublist.refl _) (by simp) (by simp)
          fun _ _ _ _ _ _ => trivial
      · refine settled (registry ▸ List.Sublist.refl _) (by simp) (by simp) ?_
        intro running
        rcases alive running rfl with ended | lost
        · cases ended
        · cases lost
  | unregister registry =>
      exact settled (registry ▸ List.filter_sublist) (by simp) (by simp) fun _ _ _ _ _ _ => trivial
  | unacted refusal registry completions nextOpening onward =>
      rcases onward with rfl | rfl
      · exact settled (registry ▸ List.Sublist.refl _) (by simp) (by simp)
          fun _ _ _ _ _ _ => trivial
      · refine settled (registry ▸ List.Sublist.refl _) (by simp) (by simp) ?_
        intro running
        rcases alive running rfl with ended | lost
        · cases ended
        · cases lost
  | @close address session onward present registry =>
      refine settled (registry ▸ List.filter_sublist) (by simp) (by simp) ?_
      intro _ entry member _ _ owned
      rw [registry, SessionRegistry.mem_unregisterActor] at member
      cases onward with
      | none => trivial
      | some rest =>
          rcases owned with named | later
          · exact absurd named member.2
          · exact later
  | @closed address session onward generation task appended registry =>
      cases onward with
      | none =>
          exact settled (registry ▸ List.Sublist.refl _) (by simp [AfterClose.pc])
            (by simp [AfterClose.pc]) fun _ _ _ _ _ _ => trivial
      | some rest =>
          exact settled (registry ▸ List.Sublist.refl _) (by simp [AfterClose.pc])
            (by simp [AfterClose.pc]) fun _ _ _ _ _ owned => owned
  | @unheard address session onward same =>
      cases onward with
      | none =>
          exact settled (same.registry ▸ List.Sublist.refl _) (by simp [AfterClose.pc])
            (by simp [AfterClose.pc]) fun _ _ _ _ _ _ => trivial
      | some rest =>
          exact settled (same.registry ▸ List.Sublist.refl _) (by simp [AfterClose.pc])
            (by simp [AfterClose.pc]) fun _ _ _ _ _ owned => owned

end

/-- Only the openings of a registered Actor Type are registered. -/
theorem registers {id : Nat} {event : ConnEvent} {authorityValid : Bool} {address : ActorAddress}
    {session : SessionId} {reservation : Bool}
    (stepped : server.step? config authorityValid (.conn id event) = some after)
    (here : (server.conns id).pc = .openRegister address session reservation)
    (there : ∃ opening reservation stage,
      (after.conns id).pc = .openDispatch opening reservation stage) :
    config.Registers address := by
  obtain ⟨opening, reservation', stage, there⟩ := there
  rcases connStep?_working (by rw [here]; rfl) stepped with ⟨panics, rfl⟩ | ⟨kept, -⟩
  · simp only [Server.step?] at stepped
    rw [here] at stepped
    simp only [connStep?, openRegister, Option.some.injEq] at stepped
    split at stepped
    · subst stepped
      rw [setConn_pc] at there
      cases there
    · rename_i capacity found
      exact Option.isSome_iff_exists.mpr ⟨capacity, found⟩
  · rw [kept, here] at there
    cases there

theorem step? (ok : ConnectionsOk config server) (routes : RoutesOk server)
    {authorityValid : Bool} {event : ServerEvent} (composed : server.constructorPanics event = false)
    (stepped : server.step? config authorityValid event = some after) :
    ConnectionsOk config after := by
  have stopped : ∀ event, (∀ id event', event ≠ .conn id event') →
      (∀ generation event', event ≠ .task generation event') →
      server.step? config authorityValid event = some after → after.status ≠ .running := by
    intro event noConn noTask stepped
    cases event with
    | conn id event' => exact absurd rfl (noConn id event')
    | task generation event' => exact absurd rfl (noTask generation event')
    | shutdown expired =>
        exact shutdownStep?_stops (fun begun running => begun (routes.quiet running).1) stepped
    | fence => exact fenceStep?_stops (fun begun running => begun (routes.quiet running).2) stepped
  cases Server.step?_moves stepped with
  | @conn id event control others move =>
      obtain ⟨conn, conns, aborts⟩ := connStep?_conns stepped
      refine ok.connMove control others ?_ move (fun _ _ _ => registers stepped) ?_
      · rw [conns, Function.update_self, aborts]
      · intro running ended
        have awaits := fun awaiting => connStep?_aborts awaiting stepped ended
        have panics := fun here => connStep?_panics here stepped ended
        have opens := ok.opening id
        have acts := ok.acting id
        rw [ok.unaborted running id] at awaits
        rw [composed] at panics
        cases move.mayEnd ended with
        | closed here => exact here
        | awaiting awaiting => cases awaits awaiting
        | opening opening reservation here =>
            cases panics (.inl ⟨_, _, opens _ _ _ here, here⟩)
        | acting address session payload here =>
            cases panics (.inr ⟨_, _, _, acts _ _ _ _ here, here⟩)
  | task found effect move =>
      refine ok.shrink ?_ (fun id => by rw [effect.conns]) fun running =>
        ⟨effect.status ▸ running, fun id => by rw [effect.conns]⟩
      rcases move.registry with same | ⟨_, _, _, -, -, removed⟩
      · exact same ▸ List.Sublist.refl _
      · exact removed ▸ List.filter_sublist
  | shutdown effect =>
      refine ok.shrink effect.registry effect.conns fun running => ?_
      exact absurd running (stopped _ (by simp) (by simp) stepped)
  | fence effect =>
      refine ok.shrink effect.registry effect.conns fun running => ?_
      exact absurd running (stopped _ (by simp) (by simp) stepped)

end ConnectionsOk

theorem connectionsOk_of_reachable
    (reach : (serverSystem config).ReachableWhile Composed server) :
    ConnectionsOk config server := by
  refine invariant_of_reachable_step (ConnectionsOk config) ?_ ?_ reach
  · rintro start rfl
    exact .fresh config
  · intro before label after earlier ok composed stepped
    exact ok.step? (routesOk_of_reachable (reachable_of_reachableWhile earlier)) composed stepped

/-- While the status is `RUNNING`, in every run in which no constructor panics on
a connection task, a task that has ended leaves no Session of its connection
behind. -/
theorem ended_connection_leaves_no_session
    (reach : (serverSystem config).ReachableWhile Composed server)
    (running : server.status = .running) (id : Nat) (ended : (server.conns id).pc = .ended) :
    ∀ entry ∈ server.registry, entry.connection ≠ id := by
  rintro entry member rfl
  have owns := (connectionsOk_of_reachable reach).bound running entry member
  rw [ended] at owns
  exact owns

/-- A connection that is lost after its Session was opened. -/
def openAndLose : List (Bool × ServerEvent) :=
  openAndActivate ++ [(true, .task 1 .advance), (true, .task 1 (.returned true)),
    (true, .conn 0 (.advance false)), (true, .conn 0 (.advance false)),
    (true, .conn 0 .disconnect)] ++ List.replicate 4 (true, .conn 0 (.advance false))

theorem lost_connection_leaves_no_session :
    ∃ server, (serverSystem cartRuntime).run? (.fresh cartRuntime) openAndLose = some server ∧
      server.status = .running ∧ (server.conns 0).pc = .ended ∧
      ∀ entry ∈ server.registry, entry.connection ≠ 0 := by
  have reach := @reachableWhile_of_run? _ _ (serverSystem cartRuntime) Composed _ _ openAndLose
    (.start rfl) (meets_of_meets? (by decide +kernel)) rfl
  exact ⟨_, rfl, rfl, rfl, ended_connection_leaves_no_session reach rfl 0 rfl⟩

/-- The constructor panics on the connection task of a Session, which stays
registered when the task has ended. -/
theorem constructor_panic_leaves_session :
    ∃ server, (serverSystem cartRuntime).run? (.fresh cartRuntime)
        (openToDispatch ++ [(true, .conn 0 (.advance true))]) = some server ∧
      server.status = .running ∧ (server.conns 0).pc = .ended ∧
      ∃ entry ∈ server.registry, entry.connection = 0 :=
  ⟨_, rfl, rfl, rfl, ⟨⟨cartAddress, ⟨7⟩, 0⟩, 0⟩, List.mem_singleton.mpr rfl, rfl⟩

end Coactor.Runtime
