import Coactor.Coordination.OwnerStore
import Coactor.Runtime.Calls
import Coactor.Runtime.Node

/-!
# Owner writes of a node that has lost its authority

Neither `resolve` nor `release_local_owner` asks for the Node authority, and
`dispatch_message` asks too late.  The last thing a claim does before its
conditional write is to take a permit, and the last thing a release does is to
read its own record.  If both happen under authority and the authority is not
lost in between, every write is sent under authority.
-/

namespace Coactor.Runtime

open Coactor.Foundation
open Coactor.Foundation.Transition
open Coactor.Coordination

/-! ## What comes before a conditional write -/

section Writes

variable {Result : Type}

/-- A conditional write may be sent while `ready`.  A permit makes a claim
ready, and nothing makes a release ready after its first read. -/
def writeContract (operation : OwnerOperation) :
    Program.Contract RouterCall RouterAnswer Result Bool where
  observe := fun _ request answer =>
    match request, answer with
    | .tryAcquire, granted => operation == .claim && granted
    | _, _ => false
  allowed := fun ready request =>
    match request with
    | .compareExchange _ _ => ready = true
    | _ => True
  ensures := fun _ _ => True

/-- The call waits to hand a conditional write to the store. -/
def AtWrite (program : RouterProgram Result) : Prop :=
  ∃ record revision, program.request? = some (.compareExchange record revision)

/-- Readiness matters at a conditional write only. -/
theorem satisfies_write_of {operation : OwnerOperation} {program : RouterProgram Result}
    {ready ready' : Bool} (satisfies : Program.Satisfies (writeContract operation) ready program)
    (keeps : AtWrite program → ready = true → ready' = true) :
    Program.Satisfies (writeContract operation) ready' program := by
  cases program with
  | ret result => trivial
  | call request resume =>
      refine ⟨?_, satisfies.2⟩
      cases request with
      | compareExchange record revision => exact keeps ⟨record, revision, rfl⟩ satisfies.1
      | _ => trivial

end Writes

section Programs

variable {router : ClusterRouter} {ready : Bool}

/-- A claim is ready when it comes to its write, whatever came before. -/
theorem satisfies_write_resolve :
    Program.Satisfies (writeContract .claim) ready router.resolve := by
  refine (router.plainOutline ?_ (fun _ _ _ => rfl) fun _ _ _ => trivial).satisfies_resolveLoop 3
    trivial
  intro view request silent
  cases request with
  | compareExchange record revision => exact absurd rfl (silent record revision)
  | _ => trivial

/-- The first read of its own record makes a release ready. -/
def writeOutline : ClusterRouter.ReleaseOutline (writeContract .release) where
  own := fun _ ready => ready = true
  sent := fun _ _ => True
  reads := fun _ => trivial
  fails := fun _ => trivial
  writes := id
  awaits := fun _ _ _ _ => trivial
  answered := fun _ _ _ => trivial
  applied := fun _ _ _ _ _ => trivial
  readBack := fun _ _ => trivial
  confirmed := fun _ => trivial

/-- A release is ready once it has read its own record, and never again. -/
theorem satisfies_write_release {next : ClusterRouter.ReleaseProgram} {reply : RouterReply}
    (resumed : router.releaseLocalOwner.resume? reply = some next)
    (own : ∀ current, reply = .owner (.ok (some current)) →
      router.isLocalOwner current.record = true → ready = true) :
    Program.Satisfies (writeContract .release) ready next := by
  obtain ⟨request, resume, answer, called, decoded, rfl⟩ := RouterProgram.resume?_cases resumed
  have asked : request = .readActorOwner := by cases called; rfl
  subst asked
  refine writeOutline.satisfies_release called fun current found isLocal => own current ?_ isLocal
  cases reply with
  | owner reply =>
      cases decoded
      rw [found]
  | _ => cases decoded

/-- After a reply that is not a granted permit a call is not ready. -/
theorem satisfies_write_resume {Result : Type} {operation : OwnerOperation}
    {program next : RouterProgram Result} {reply : RouterReply} {ready' : Bool}
    (satisfies : Program.Satisfies (writeContract operation) ready program)
    (resumed : program.resume? reply = some next)
    (granted : operation = .claim → reply = .permit true → ready' = true) :
    Program.Satisfies (writeContract operation) ready' next := by
  obtain ⟨request, resume, answer, rfl, decoded, rfl⟩ := RouterProgram.resume?_cases resumed
  have after := satisfies.2 answer
  cases request with
  | tryAcquire =>
      cases reply <;> cases decoded
      refine satisfies_write_of after fun _ permit => ?_
      obtain ⟨claims, accepted⟩ := Bool.and_eq_true_iff.mp permit
      exact granted (eq_of_beq claims) (congrArg RouterReply.permit accepted)
  | _ => exact satisfies_write_of after fun _ never => by cases never

end Programs

/-! ## When every write is sent under authority -/

variable {config : NodeConfig} {sessionId : NodeSessionId} {state after : NodeState}

/-- Some router call waits to hand a conditional write to the store. -/
def StandsAtWrite (server : Server) : Prop :=
  (∃ id address session program reserved,
    (server.conns id).pc = .resolving address session program reserved ∧ AtWrite program) ∨
  (∃ generation task program, server.tasks generation = some task ∧
    task.pc = .releasing program ∧ AtWrite program)

/-- `resolve` takes its permit, and `release_local_owner` finds its own record,
while the node has authority; and the authority is not lost while a router call
stands at its conditional write. -/
structure Authorised (config : NodeConfig) (sessionId : NodeSessionId) (state : NodeState)
    (label : NodeLabel) : Prop where
  permit : ∀ id, label = .server (.conn id (.reply (.permit true))) → state.hasAuthority = true
  release : ∀ generation task current,
    label = .server (.task generation (.reply (.owner (.ok (some current))))) →
    state.server.tasks generation = some task →
    task.pc = .releasing (config.runtime sessionId).router.releaseLocalOwner →
    (config.runtime sessionId).router.isLocalOwner current.record = true →
      state.hasAuthority = true
  loss : ∀ after, state.step? config sessionId label = some after →
    state.hasAuthority = true → after.hasAuthority = false → ¬ StandsAtWrite state.server

/-- Every suspended router call may send its write exactly when the node has
authority, or has not read its own record yet. -/
structure CallsReady (config : NodeConfig) (sessionId : NodeSessionId) (ready : Bool)
    (server : Server) : Prop where
  resolving : ∀ id address session program reserved,
    (server.conns id).pc = .resolving address session program reserved →
      Program.Satisfies (writeContract .claim) ready program
  releasing : ∀ generation task program, server.tasks generation = some task →
    task.pc = .releasing program →
      program = (config.runtime sessionId).router.releaseLocalOwner ∨
        Program.Satisfies (writeContract .release) ready program

namespace CallsReady

variable {server next : Server} {ready : Bool}

theorem fresh (runtime : RuntimeConfig) :
    CallsReady config sessionId ready (.fresh runtime) where
  resolving := fun _ _ _ _ _ here => by cases here
  releasing := fun _ _ _ found => by cases found

/-- Authority may come at any time, and go while no call stands at its write. -/
theorem change (ok : CallsReady config sessionId ready server) {ready' : Bool}
    (keeps : StandsAtWrite server → ready = true → ready' = true) :
    CallsReady config sessionId ready' server where
  resolving := by
    intro id address session program reserved here
    refine satisfies_write_of (ok.resolving _ _ _ _ _ here) fun stands => keeps (.inl ?_)
    exact ⟨id, address, session, program, reserved, here, stands⟩
  releasing := by
    intro generation task program found here
    rcases ok.releasing _ _ _ found here with first | satisfies
    · exact .inl first
    · refine .inr (satisfies_write_of satisfies fun stands => keeps (.inr ?_))
      exact ⟨generation, task, program, found, here, stands⟩

theorem controlled (ok : CallsReady config sessionId ready server)
    (effect : ControlEffect server next) : CallsReady config sessionId ready next where
  resolving := fun id _ _ _ _ here => ok.resolving id _ _ _ _ (effect.conns id ▸ here)
  releasing := by
    intro generation task program found here
    obtain ⟨mark, keeps, same⟩ := effect.tasks generation
    rw [same, Option.map_eq_some_iff] at found
    obtain ⟨old, there, rfl⟩ := found
    exact ok.releasing generation old program there ((keeps old).pc ▸ here)

theorem conn (ok : CallsReady config sessionId ready server) {authorityValid : Bool} {id : Nat}
    {event : ConnEvent} (permit : event = .reply (.permit true) → ready = true)
    (stepped : server.connStep? (config.runtime sessionId) authorityValid id
      (server.conns id).pc event = some next) :
    CallsReady config sessionId ready next where
  resolving := by
    intro other address session program reserved here
    by_cases same : other = id
    · subst same
      cases Server.connStep?_move rfl stepped with
      | kept unmoved _ => exact ok.resolving other _ _ _ _ (unmoved ▸ here)
      | begun _ _ _ moved =>
          rw [here] at moved
          cases moved
          exact satisfies_write_resolve
      | replied _ _ old resumed _ _ reply before answered continued moved =>
          rw [here] at moved
          have next : Program.Satisfies (writeContract .claim) ready resumed :=
            satisfies_write_resume (ok.resolving other _ _ _ _ before) continued
              fun _ granted => permit (granted ▸ answered)
          rcases resumed with (_ | _ | _) | ⟨request, resume⟩ <;> cases moved
          exact next
      | carried _ _ still _ =>
          rw [here] at still
          cases still
      | freed free _ =>
          rw [here] at free
          cases free
    · obtain ⟨conn, conns, -⟩ := Server.connStep?_conns stepped
      rw [conns, Function.update_of_ne same] at here
      exact ok.resolving other _ _ _ _ here
  releasing := by
    intro generation task program found here
    rcases (Server.connStep?_effect rfl stepped).2.task_origin found with new | ⟨old, there, pc, -⟩
    · rw [here] at new
      cases new
    · exact ok.releasing generation old program there (pc.trans here)

theorem task (ok : CallsReady config sessionId ready server) {generation : Nat} {task : ActorTask}
    {event : TaskEvent} (found : server.tasks generation = some task)
    (release : ∀ current, event = .reply (.owner (.ok (some current))) →
      task.pc = .releasing (config.runtime sessionId).router.releaseLocalOwner →
      (config.runtime sessionId).router.isLocalOwner current.record = true → ready = true)
    (stepped : server.taskStep? (config.runtime sessionId) generation task task.pc event =
      some next) :
    CallsReady config sessionId ready next := by
  obtain ⟨moved, effect⟩ := Server.taskStep?_effect stepped
  refine ⟨fun id _ _ _ _ here => ok.resolving id _ _ _ _ (effect.conns ▸ here), ?_⟩
  intro other known program here stands
  by_cases same : other = generation
  · subst same
    cases Server.taskStep?_move stepped here with
    | begun _ begun =>
        rw [stands] at begun
        cases begun
        exact .inl rfl
    | replied old resumed reply before answered continued after =>
        rw [stands] at after
        have next : Program.Satisfies (writeContract .release) ready resumed := by
          rcases ok.releasing other task old found before with first | satisfies
          · subst first
            exact satisfies_write_release continued fun current read own =>
              release current (read ▸ answered) before own
          · exact satisfies_write_resume satisfies continued fun never => by cases never
        cases resumed with
        | ret result => cases after
        | call request resume =>
            cases after
            exact .inr next
    | freed free _ =>
        rw [stands] at free
        cases free
  · rw [effect.tasks, Function.update_of_ne same] at here
    exact ok.releasing other known program here stands

end CallsReady

/-- A step of `shutdown` or of a task never sets the status to `FENCED`, and no
step of the Server touches the session. -/
theorem hasAuthority_of_status {server : Server}
    (status : server.status = state.server.status) :
    ({ state with server := server } : NodeState).hasAuthority = state.hasAuthority := by
  simp only [NodeState.hasAuthority, NodeState.authorityValid, status]

/-- Every authorised step keeps the calls ready. -/
theorem callsReady_step?
    (ok : CallsReady config sessionId state.hasAuthority state.server) {label : NodeLabel}
    (authorised : Authorised config sessionId state label)
    (stepped : state.step? config sessionId label = some after) :
    CallsReady config sessionId after.hasAuthority after.server := by
  have keeps : StandsAtWrite state.server → state.hasAuthority = true →
      after.hasAuthority = true := by
    intro stands before
    by_contra lost
    exact authorised.loss after stepped before (Bool.eq_false_iff.mpr lost) stands
  cases label with
  | tick elapsed =>
      cases stepped
      exact ok.change keeps
  | lease input =>
      simp only [NodeState.step?, Option.ite_none_right_eq_some, Option.map_eq_some_iff] at stepped
      obtain ⟨-, session, -, rfl⟩ := stepped
      exact ok.change keeps
  | server event =>
      simp only [NodeState.step?, Option.ite_none_right_eq_some, Option.map_eq_some_iff] at stepped
      obtain ⟨-, server, moved, rfl⟩ := stepped
      cases event with
      | conn id event =>
          have status := (Server.connStep?_effect rfl moved).1.status
          rw [hasAuthority_of_status status]
          exact ok.conn (fun permit => authorised.permit id (permit ▸ rfl)) moved
      | task generation event =>
          obtain ⟨task, found, moved⟩ := Option.bind_eq_some_iff.mp moved
          obtain ⟨next, effect⟩ := Server.taskStep?_effect moved
          rw [hasAuthority_of_status effect.status]
          refine ok.task found (fun current read here own => ?_) moved
          exact authorised.release generation task current (read ▸ rfl) found here own
      | shutdown expired => exact (ok.change keeps).controlled (Server.shutdownStep?_cases moved)
      | fence => exact (ok.change keeps).controlled (Server.fenceStep?_cases moved)

theorem callsReady_of_reachable
    (reach : (nodeSystem config sessionId).ReachableWhile (Authorised config sessionId) state) :
    CallsReady config sessionId state.hasAuthority state.server := by
  refine invariant_of_step (fun state => CallsReady config sessionId state.hasAuthority
    state.server) ?_ ?_ reach
  · rintro start ⟨-, fresh⟩
    rw [fresh]
    exact .fresh _
  · intro before label after ok authorised stepped
    exact callsReady_step? ok authorised stepped

/-- The step hands a conditional write of an owner record to the store. -/
def NodeLabel.IssuesWrite (label : NodeLabel) : Prop :=
  (∃ id ticket, label = .server (.conn id (.reply (.issued ticket)))) ∨
    ∃ generation ticket, label = .server (.task generation (.reply (.issued ticket)))

/-- A call that the store can answer with a ticket stands at its write. -/
theorem ready_of_issued {Result : Type} {operation : OwnerOperation} {ready : Bool}
    {program next : RouterProgram Result} {ticket : Nat}
    (satisfies : Program.Satisfies (writeContract operation) ready program)
    (resumed : program.resume? (.issued ticket) = some next) : ready = true := by
  obtain ⟨request, resume, answer, rfl, decoded, -⟩ := RouterProgram.resume?_cases resumed
  cases request with
  | compareExchange record revision => exact satisfies.1
  | _ => cases decoded

/-- In a run of authorised steps no conditional write of an owner record is
issued while the Node authority is invalid or the status is `FENCED`. -/
theorem self_fence_stops_mutation
    (reach : (nodeSystem config sessionId).ReachableWhile (Authorised config sessionId) state)
    (label : NodeLabel) (issues : label.IssuesWrite)
    (stepped : state.step? config sessionId label = some after) :
    state.authorityValid = true ∧ state.server.status ≠ .fenced := by
  have ok := callsReady_of_reachable reach
  suffices authority : state.hasAuthority = true by
    simp only [NodeState.hasAuthority, Bool.and_eq_true, bne_iff_ne] at authority
    exact ⟨authority.2, authority.1⟩
  rcases issues with ⟨id, ticket, rfl⟩ | ⟨generation, ticket, rfl⟩
  · simp only [NodeState.step?, Option.ite_none_right_eq_some, Option.map_eq_some_iff] at stepped
    obtain ⟨-, server, moved, rfl⟩ := stepped
    cases Server.connStep?_move rfl moved with
    | kept _ silent => exact absurd rfl (silent _)
    | begun address session waiting moved' =>
        rw [Server.step?, waiting] at moved
        cases moved
    | replied _ _ program next _ _ reply before answered resumed _ =>
        cases answered
        exact ready_of_issued (ok.resolving id _ _ _ _ before) resumed
    | carried _ _ _ silent => exact absurd rfl (silent _)
    | freed _ silent => exact absurd rfl (silent _)
  · simp only [NodeState.step?, Option.ite_none_right_eq_some, Option.map_eq_some_iff] at stepped
    obtain ⟨-, server, moved, rfl⟩ := stepped
    obtain ⟨task, found, moved⟩ := Option.bind_eq_some_iff.mp moved
    obtain ⟨next, effect⟩ := Server.taskStep?_effect moved
    have here : server.tasks generation = some next := by
      rw [effect.tasks, Function.update_self]
    cases Server.taskStep?_move moved here with
    | begun waiting _ =>
        rw [waiting] at moved
        cases moved
    | replied program next reply before answered resumed _ =>
        cases answered
        rcases ok.releasing generation task program found before with first | satisfies
        · subst first
          cases resumed
        · exact ready_of_issued satisfies resumed
    | freed _ silent => exact absurd rfl (silent _)

/-! ## Two runs of one node -/

/-- The Server acts under authority only, and the authority is not lost. -/
def steady (config : NodeConfig) (sessionId : NodeSessionId) (state : NodeState)
    (label : NodeLabel) : Bool :=
  match label, state.step? config sessionId label with
  | _, none => false
  | .server _, some after => state.hasAuthority && after.hasAuthority
  | _, some after => !state.hasAuthority || after.hasAuthority

theorem authorised_of_steady {label : NodeLabel}
    (calm : steady config sessionId state label = true) :
    Authorised config sessionId state label := by
  have kept : ∀ after, state.step? config sessionId label = some after →
      state.hasAuthority = true → after.hasAuthority = true := by
    intro after stepped before
    cases label <;> simp only [steady, stepped, before, Bool.true_and, Bool.not_true,
      Bool.false_or] at calm <;> exact calm
  have acting : ∀ event, label = .server event → state.hasAuthority = true := by
    rintro event rfl
    cases stepped : state.step? config sessionId (.server event) with
    | none => simp [steady, stepped] at calm
    | some after =>
        simp only [steady, stepped, Bool.and_eq_true] at calm
        exact calm.1
  refine ⟨fun id same => acting _ same, fun _ _ _ same _ _ _ => acting _ same, ?_⟩
  intro after stepped before lost
  rw [kept after stepped before] at lost
  cases lost

/-- The node of the first cart actor. -/
def cartNode : NodeConfig where
  lease := ⟨"node-a", "node-a:1", 10000000, 2⟩
  mailboxCapacity := cartRuntime.mailboxCapacity
  positive := cartRuntime.positive

def cartStart : NodeState where
  now := 0
  session := .fresh cartNode.lease
  server := .fresh (cartNode.runtime ⟨"a-1"⟩)

/-- The session acquires its lease at instant zero and builds the Server. -/
def startNode : List NodeLabel :=
  [.advance, .advance, .found (.ok none), .advance, .issued 0,
    .outcome (.ok (.applied ⟨"1"⟩)), .advance, .advance].map .lease

/-- A `SessionOpen` that is about to send its claim. -/
def openToClaim : List NodeLabel :=
  [.accept, .receive ⟨2, some cartAddress, some ⟨7⟩, some .sessionOpen⟩, .advance false,
    .reply (.owner (.ok none)), .reply (.permit true)].map fun event => .server (.conn 0 event)

/-- The lease runs out, and the renewal task fences the runtime. -/
def loseLease : List NodeLabel :=
  [.tick 10000000, .lease .advance, .lease .advance, .lease .advance] ++
    List.replicate 6 (.server .fence)

/-- A started node sends its first claim under authority. -/
theorem started_node_claims_under_authority :
    ∃ state after, (nodeSystem cartNode ⟨"a-1"⟩).run? cartStart (startNode ++ openToClaim) =
        some state ∧
      state.step? cartNode ⟨"a-1"⟩ (.server (.conn 0 (.reply (.issued 0)))) = some after ∧
      state.authorityValid = true ∧ state.server.status ≠ .fenced := by
  have initial : (nodeSystem cartNode ⟨"a-1"⟩).ReachableWhile (Authorised cartNode ⟨"a-1"⟩)
      cartStart := .start ⟨rfl, rfl⟩
  have calm : (nodeSystem cartNode ⟨"a-1"⟩).Meets
      (fun state label => steady cartNode ⟨"a-1"⟩ state label = true) cartStart
      (startNode ++ openToClaim) := meets_of_meets? rfl
  have reach := reachableWhile_of_run? initial (meets_mono (fun _ _ => authorised_of_steady) calm)
    rfl
  exact ⟨_, _, rfl, rfl, self_fence_stops_mutation reach
    (.server (.conn 0 (.reply (.issued 0)))) (.inl ⟨0, 0, rfl⟩) rfl⟩

/-- A fenced node still accepts a connection and sends a claim for it. -/
theorem fenced_node_claims :
    ∃ state after, (nodeSystem cartNode ⟨"a-1"⟩).run? cartStart
        (startNode ++ loseLease ++ openToClaim) = some state ∧
      state.step? cartNode ⟨"a-1"⟩ (.server (.conn 0 (.reply (.issued 0)))) = some after ∧
      state.authorityValid = false ∧ state.server.status = .fenced :=
  ⟨_, _, rfl, rfl, rfl, rfl⟩

end Coactor.Runtime
