import Coactor.Runtime.Lifecycle

/-!
# The cases of one step

Every way in which an actor task or a connection task can take one step, with
the guard of its branch and what it leaves of the Server.  What a step does to
one part of a Server is read off these cases.
-/

namespace Coactor.Runtime

open Coactor.Coordination

/-! ## Actor tasks -/

/-- Where a task stands once it has handled a message. -/
def TaskPc.afterMessage (draining completed : Bool) : TaskPc :=
  if completed then (if draining then .draining else .receiving)
  else .terminateAll .actorStopped .leave

/-- The await points at which an abort drops nothing that others wait for. -/
def TaskPc.leavesQuietly : TaskPc → Bool
  | .activating | .receiving | .deactivating | .releaseLock | .draining
  | .shutdownDeactivating => true
  | _ => false

/-- A step of an actor task that changes nothing but its program point. -/
inductive TaskPassage (server : Server) (generation : Nat) (task : ActorTask) :
    TaskEvent → TaskPc → Prop where
  | polled (here : task.pc = .spawned) :
      TaskPassage server generation task .advance .activating
  | activated (here : task.pc = .activating) :
      TaskPassage server generation task (.activation .activated) .receiving
  | activationFailed (here : task.pc = .activating) :
      TaskPassage server generation task (.activation .failed) (.failClose .activationFailed)
  | activationPanicked (here : task.pc = .activating) :
      TaskPassage server generation task (.activation .panicked) (.failClose .actorStopped)
  | listed {error : SendError} {onward : AfterTermination}
      (here : task.pc = .terminateAll error onward) :
      TaskPassage server generation task .advance
        (.terminating (server.registry.sessionsOf task.address) onward)
  | left (here : task.pc = .terminating [] .leave) :
      TaskPassage server generation task .advance .guardDrop
  | swept (here : task.pc = .terminating [] .deactivate) :
      TaskPassage server generation task .advance .shutdownDeactivating
  | told (here : task.pc = .receiving) (signal : task.shutdownSignal = true) :
      TaskPassage server generation task .advance .shutdownClose
  | closed (here : task.pc = .receiving) (untold : task.shutdownSignal = false)
      (routed : server.isRouted generation = true) (empty : task.mailbox = [])
      (shut : task.closed = true) :
      TaskPassage server generation task .advance .removing
  | idled (here : task.pc = .receiving) (untold : task.shutdownSignal = false)
      (routed : server.isRouted generation = true) :
      TaskPassage server generation task .idle .idleCount
  | handled {message : MailboxMessage} {draining completed : Bool}
      (here : task.pc = .executing message draining)
      (plain : ∀ opening, message ≠ .sessionOpened opening) :
      TaskPassage server generation task (.returned completed)
        (.afterMessage draining completed)
  | unused (here : task.pc = .idleCount)
      (none : server.registry.sessionCount task.address = 0) :
      TaskPassage server generation task .advance .idleBegin
  | used (here : task.pc = .idleCount)
      (some : server.registry.sessionCount task.address ≠ 0) :
      TaskPassage server generation task .advance .receiving
  | retained (here : task.pc = .idleBegin) :
      TaskPassage server generation task .advance .receiving
  | deactivated {completed : Bool} (here : task.pc = .deactivating) :
      TaskPassage server generation task (.returned completed) .releaseLock
  | asked {program : ClusterRouter.ReleaseProgram} {reply : RouterReply} {request : RouterCall}
      {resume : RouterAnswer request → ClusterRouter.ReleaseProgram}
      (here : task.pc = .releasing program)
      (resumed : program.resume? reply = some (.call request resume)) :
      TaskPassage server generation task (.reply reply) (.releasing (.call request resume))
  | drained (here : task.pc = .draining) (empty : task.mailbox = []) :
      TaskPassage server generation task .advance
        (.terminateAll .runtimeShuttingDown .deactivate)
  | stopped {completed : Bool} (here : task.pc = .shutdownDeactivating) :
      TaskPassage server generation task (.returned completed) .removing
  | aborted (here : task.pc.leavesQuietly = true) (requested : task.abortRequested = true) :
      TaskPassage server generation task .abort .guardDrop

/-- One step of an actor task: the Server without the task, and the task. -/
inductive TaskCase (config : RuntimeConfig) (server : Server) (generation : Nat)
    (task : ActorTask) : TaskEvent → Server → ActorTask → Prop where
  | passed {event : TaskEvent} {onward : TaskPc}
      (passage : TaskPassage server generation task event onward) :
      TaskCase config server generation task event server { task with pc := onward }
  | failClosed {error : SendError} (here : task.pc = .failClose error) :
      TaskCase config server generation task .advance server
        { task with closed := true, pc := .failRemove error }
  | failRemoved {error : SendError} (here : task.pc = .failRemove error) :
      TaskCase config server generation task .advance
        (server.removeRoute task.address generation) { task with pc := .failPending error }
  | failAnswered {error : SendError} (here : task.pc = .failPending error) :
      TaskCase config server generation task .advance
        (server.completeAll (.sent (some generation) (some error)) task.mailbox)
        { task with mailbox := [], pc := .terminateAll error .leave }
  | terminated {session : SessionId} {rest : List SessionId} {onward : AfterTermination}
      (here : task.pc = .terminating (session :: rest) onward) :
      TaskCase config server generation task .advance
        { server with registry := server.registry.unregisterActor task.address session }
        { task with pc := .terminating rest onward }
  | received {message : MailboxMessage} {rest : List MailboxMessage}
      (here : task.pc = .receiving) (untold : task.shutdownSignal = false)
      (routed : server.isRouted generation = true) (first : task.mailbox = message :: rest) :
      TaskCase config server generation task .advance server
        { task with mailbox := rest, pc := .executing message false }
  | opened {opening : Opening} {draining completed : Bool}
      (here : task.pc = .executing (.sessionOpened opening) draining) :
      TaskCase config server generation task (.returned completed)
        (server.complete opening (.sent (some generation)
          (if completed then none else some .actorStopped)))
        { task with pc := .afterMessage draining completed }
  | begun {route : Route} (here : task.pc = .idleBegin)
      (present : server.routes task.address = some route)
      (own : route.generation = generation) (empty : task.mailbox = []) :
      TaskCase config server generation task .advance
        { server with
          routes := Function.update server.routes task.address
            (some { route with state := .deactivating }) }
        { task with pc := .deactivating }
  | locked (here : task.pc = .releaseLock) (free : server.resolutions task.address = none) :
      TaskCase config server generation task .advance
        (server.lock task.address (.task generation))
        { task with pc := .releasing config.router.releaseLocalOwner }
  | released {program : ClusterRouter.ReleaseProgram} {reply : RouterReply}
      {result : Except SendError Unit} (here : task.pc = .releasing program)
      (resumed : program.resume? reply = some (.ret result)) :
      TaskCase config server generation task (.reply reply) (server.unlock task.address)
        { task with pc := .removing }
  | shutdownClosed (here : task.pc = .shutdownClose) :
      TaskCase config server generation task .advance server
        { task with closed := true, pc := .draining }
  | drained {message : MailboxMessage} {rest : List MailboxMessage}
      (here : task.pc = .draining) (first : task.mailbox = message :: rest) :
      TaskCase config server generation task .advance server
        { task with mailbox := rest, pc := .executing message true }
  | removed (here : task.pc = .removing) :
      TaskCase config server generation task .advance
        (server.removeRoute task.address generation) { task with pc := .guardDrop }
  | guardDropped (here : task.pc = .guardDrop) :
      TaskCase config server generation task .advance
        (server.removeRoute task.address generation) { task with pc := .guardComplete }
  | guardCompleted (here : task.pc = .guardComplete) :
      TaskCase config server generation task .advance server
        { task with completed := true, pc := .dropReceiver }
  | receiverDropped (here : task.pc = .dropReceiver) :
      TaskCase config server generation task .advance
        (server.completeAll .dropped task.mailbox)
        { task with mailbox := [], closed := true, pc := .ended }
  | unpolled (here : task.pc = .spawned) (requested : task.abortRequested = true) :
      TaskCase config server generation task .abort (server.completeAll .dropped task.mailbox)
        { task with pc := .ended, mailbox := [], closed := true }
  | interrupted {message : MailboxMessage} {draining : Bool}
      (here : task.pc = .executing message draining) (requested : task.abortRequested = true) :
      TaskCase config server generation task .abort (server.completeAll .dropped [message])
        { task with pc := .guardDrop }
  | unlocked {program : ClusterRouter.ReleaseProgram} (here : task.pc = .releasing program)
      (requested : task.abortRequested = true) :
      TaskCase config server generation task .abort (server.unlock task.address)
        { task with pc := .guardDrop }

namespace Server

variable {config : RuntimeConfig} {server after : Server} {generation : Nat} {task : ActorTask}

theorem abortTask?_case (requested : task.abortRequested = true)
    (aborted : server.abortTask? generation task = some after) :
    ∃ middle next, after = middle.setTask generation next ∧
      TaskCase config server generation task .abort middle next := by
  unfold abortTask? at aborted
  split at aborted
  case h_1 here =>
    cases aborted
    exact ⟨_, _, rfl, .unpolled here requested⟩
  case h_4 here =>
    cases aborted
    exact ⟨_, _, rfl, .interrupted here requested⟩
  case h_7 here =>
    cases aborted
    exact ⟨_, _, rfl, .unlocked here requested⟩
  case h_10 => cases aborted
  all_goals
    rename_i here
    cases aborted
    exact ⟨_, _, rfl, .passed (.aborted (by rw [here]; rfl) requested)⟩

/-- A step of an actor task is one of the cases. -/
theorem taskStep?_case {event : TaskEvent}
    (stepped : server.taskStep? config generation task task.pc event = some after) :
    ∃ middle next, after = middle.setTask generation next ∧
      TaskCase config server generation task event middle next := by
  unfold taskStep? at stepped
  split at stepped
  case h_1 here =>
    cases stepped
    exact ⟨_, _, rfl, .passed (.polled here)⟩
  case h_2 here =>
    cases stepped
    exact ⟨_, _, rfl, .passed (.activated here)⟩
  case h_3 here =>
    cases stepped
    exact ⟨_, _, rfl, .passed (.activationFailed here)⟩
  case h_4 here =>
    cases stepped
    exact ⟨_, _, rfl, .passed (.activationPanicked here)⟩
  case h_5 here =>
    cases stepped
    exact ⟨_, _, rfl, .failClosed here⟩
  case h_6 here =>
    cases stepped
    exact ⟨_, _, rfl, .failRemoved here⟩
  case h_7 here =>
    cases stepped
    exact ⟨_, _, rfl, .failAnswered here⟩
  case h_8 here =>
    cases stepped
    exact ⟨_, _, rfl, .passed (.listed here)⟩
  case h_9 here =>
    cases stepped
    exact ⟨_, _, rfl, .terminated here⟩
  case h_10 here =>
    cases stepped
    exact ⟨_, _, rfl, .passed (.left here)⟩
  case h_11 here =>
    cases stepped
    exact ⟨_, _, rfl, .passed (.swept here)⟩
  case h_12 here =>
    split at stepped
    · rename_i signal
      cases stepped
      exact ⟨_, _, rfl, .passed (.told here signal)⟩
    · rename_i untold
      rw [Bool.not_eq_true] at untold
      split at stepped
      · rename_i routed
        split at stepped
        · rename_i first
          cases stepped
          exact ⟨_, _, rfl, .received here untold routed first⟩
        · rename_i empty
          split at stepped
          · rename_i shut
            cases stepped
            exact ⟨_, _, rfl, .passed (.closed here untold routed empty shut)⟩
          · cases stepped
      · cases stepped
  case h_13 here =>
    split at stepped
    · rename_i quiet
      cases stepped
      exact ⟨_, _, rfl, .passed (.idled here quiet.1 quiet.2)⟩
    · cases stepped
  case h_14 message draining completed here =>
    cases stepped
    unfold executed
    cases message with
    | sessionOpened opening => exact ⟨_, _, rfl, .opened here⟩
    | action session payload => exact ⟨_, _, rfl, .passed (.handled here (by rintro _ ⟨⟩))⟩
    | sessionClosed session => exact ⟨_, _, rfl, .passed (.handled here (by rintro _ ⟨⟩))⟩
  case h_15 here =>
    split at stepped
    · rename_i none
      cases stepped
      exact ⟨_, _, rfl, .passed (.unused here none)⟩
    · rename_i some
      cases stepped
      exact ⟨_, _, rfl, .passed (.used here some)⟩
  case h_16 here =>
    cases stepped
    unfold beginDeactivation
    split
    · rename_i route present
      split
      · rename_i held
        exact ⟨_, _, rfl, .begun here present held.1 held.2⟩
      · exact ⟨_, _, rfl, .passed (.retained here)⟩
    · exact ⟨_, _, rfl, .passed (.retained here)⟩
  case h_17 here =>
    cases stepped
    exact ⟨_, _, rfl, .passed (.deactivated here)⟩
  case h_18 here =>
    split at stepped
    · rename_i free
      cases stepped
      exact ⟨_, _, rfl, .locked here free⟩
    · cases stepped
  case h_19 program reply here =>
    obtain ⟨onward, resumed, rfl⟩ := Option.map_eq_some_iff.mp stepped
    cases onward with
    | ret result => exact ⟨_, _, rfl, .released here resumed⟩
    | call request resume => exact ⟨_, _, rfl, .passed (.asked here resumed)⟩
  case h_20 here =>
    cases stepped
    exact ⟨_, _, rfl, .shutdownClosed here⟩
  case h_21 here =>
    split at stepped
    · rename_i first
      cases stepped
      exact ⟨_, _, rfl, .drained here first⟩
    · rename_i empty
      cases stepped
      exact ⟨_, _, rfl, .passed (.drained here empty)⟩
  case h_22 here =>
    cases stepped
    exact ⟨_, _, rfl, .passed (.stopped here)⟩
  case h_23 here =>
    cases stepped
    exact ⟨_, _, rfl, .removed here⟩
  case h_24 here =>
    cases stepped
    exact ⟨_, _, rfl, .guardDropped here⟩
  case h_25 here =>
    cases stepped
    exact ⟨_, _, rfl, .guardCompleted here⟩
  case h_26 here =>
    cases stepped
    exact ⟨_, _, rfl, .receiverDropped here⟩
  case h_27 =>
    split at stepped
    · rename_i requested
      exact abortTask?_case requested stepped
    · cases stepped
  case h_28 => cases stepped

end Server

/-! ## Connection tasks -/

/-- An Envelope is taken up at one of five program points. -/
theorem Envelope.inbound_cases {motive : ConnPc → Prop} (envelope : Envelope)
    (receiving : motive .receiving)
    (action : ∀ address session payload, motive (.actionBound address session payload))
    (opens : ∀ address session, motive (.openLock address session))
    (refuses : ∀ session, motive (.openAck session (some (.remoteProtocol .versionMismatch))))
    (closes : ∀ address session, motive (.closeBound address session)) :
    motive envelope.inbound := by
  unfold Envelope.inbound
  split
  · simp only
    split
    · split
      · exact action _ _ _
      · exact receiving
    · split
      · exact opens _ _
      · exact refuses _
    · exact closes _ _
    · exact receiving
  · exact receiving

/-- Where the dispatch of an opening goes on after the section under the actors lock. -/
def DispatchEnd.openPc (opening : Opening) : DispatchEnd → ConnPc
  | .enqueued => .openAwait opening
  | .failed error => .openUnregister opening error
  | .panicked => .ended

/-- Where the dispatch of an Action goes on after it. -/
def DispatchEnd.actionPc : DispatchEnd → ConnPc
  | .panicked => .ended
  | _ => .receiving

/-- The await points at which an abort drops nothing that others wait for. -/
def ConnPc.leavesQuietly : ConnPc → Bool
  | .receiving | .openLock _ _ | .openAwait _ => true
  | _ => false

/-- A step of a connection task that changes nothing but its program point. -/
inductive ConnPassage (authorityValid : Bool) (server : Server) (id : Nat) :
    ConnPc → ConnEvent → ConnPc → Prop where
  | accepted : ConnPassage authorityValid server id .unaccepted .accept .receiving
  | received (envelope : Envelope) :
      ConnPassage authorityValid server id .receiving (.receive envelope) envelope.inbound
  | disconnected :
      ConnPassage authorityValid server id .receiving .disconnect
        (.disconnecting (server.registry.bySender id))
  | authorized {opening : Opening} {reservation panics : Bool} (valid : authorityValid = true) :
      ConnPassage authorityValid server id (.openDispatch opening reservation .authority)
        (.advance panics) (.openDispatch opening reservation .status)
  | running {opening : Opening} {reservation panics : Bool}
      (running : server.status.refusal = none) :
      ConnPassage authorityValid server id (.openDispatch opening reservation .status)
        (.advance panics) (.openDispatch opening reservation .actors)
  | answered {opening : Opening} {generation : Option Nat} {panics : Bool}
      (sent : server.completions opening = .sent generation none) :
      ConnPassage authorityValid server id (.openAwait opening) (.advance panics)
        (.openAck opening.session none)
  | turnedDown {opening : Opening} {generation : Option Nat} {error : SendError} {panics : Bool}
      (sent : server.completions opening = .sent generation (some error)) :
      ConnPassage authorityValid server id (.openAwait opening) (.advance panics)
        (.openUnregister opening error)
  | unanswered {opening : Opening} {panics : Bool}
      (dropped : server.completions opening = .dropped) :
      ConnPassage authorityValid server id (.openAwait opening) (.advance panics)
        (.openUnregister opening .actorStopped)
  | acknowledged {session : SessionId} {failure : Option SendError} {panics : Bool} :
      ConnPassage authorityValid server id (.openAck session failure) (.advance panics) .receiving
  | bound {address : ActorAddress} {session : SessionId} {payload : List UInt8} {panics : Bool}
      (bound : server.registry.isBoundTo address session id = true) :
      ConnPassage authorityValid server id (.actionBound address session payload)
        (.advance panics) (.actionSink address session payload)
  | unbound {address : ActorAddress} {session : SessionId} {payload : List UInt8}
      {panics : Bool} (unbound : server.registry.isBoundTo address session id = false) :
      ConnPassage authorityValid server id (.actionBound address session payload)
        (.advance panics) .receiving
  | present {address : ActorAddress} {session : SessionId} {payload : List UInt8}
      {panics : Bool} (present : server.registry.contains address session = true) :
      ConnPassage authorityValid server id (.actionSink address session payload)
        (.advance panics) (.actionDispatch address session payload .authority)
  | absent {address : ActorAddress} {session : SessionId} {payload : List UInt8}
      {panics : Bool} (absent : server.registry.contains address session = false) :
      ConnPassage authorityValid server id (.actionSink address session payload)
        (.advance panics) .receiving
  | actionAuthorized {address : ActorAddress} {session : SessionId} {payload : List UInt8}
      {panics : Bool} (valid : authorityValid = true) :
      ConnPassage authorityValid server id (.actionDispatch address session payload .authority)
        (.advance panics) (.actionDispatch address session payload .status)
  | actionUnauthorized {address : ActorAddress} {session : SessionId} {payload : List UInt8}
      {panics : Bool} (invalid : authorityValid = false) :
      ConnPassage authorityValid server id (.actionDispatch address session payload .authority)
        (.advance panics) .receiving
  | actionRunning {address : ActorAddress} {session : SessionId} {payload : List UInt8}
      {panics : Bool} (running : server.status.refusal = none) :
      ConnPassage authorityValid server id (.actionDispatch address session payload .status)
        (.advance panics) (.actionDispatch address session payload .actors)
  | actionStopped {address : ActorAddress} {session : SessionId} {payload : List UInt8}
      {error : SendError} {panics : Bool} (stopped : server.status.refusal = some error) :
      ConnPassage authorityValid server id (.actionDispatch address session payload .status)
        (.advance panics) .receiving
  | closing {address : ActorAddress} {session : SessionId} {panics : Bool}
      (bound : server.registry.isBoundTo address session id = true) :
      ConnPassage authorityValid server id (.closeBound address session) (.advance panics)
        (.closeUnregister address session none)
  | foreign {address : ActorAddress} {session : SessionId} {panics : Bool}
      (unbound : server.registry.isBoundTo address session id = false) :
      ConnPassage authorityValid server id (.closeBound address session) (.advance panics)
        .receiving
  | unclosed {address : ActorAddress} {session : SessionId} {next : AfterClose} {panics : Bool}
      (absent : server.registry.contains address session = false) :
      ConnPassage authorityValid server id (.closeUnregister address session next)
        (.advance panics) next.pc
  | left {panics : Bool} :
      ConnPassage authorityValid server id (.disconnecting []) (.advance panics) .ended
  | lost {address : ActorAddress} {session : SessionId}
      {rest : List (ActorAddress × SessionId)} {panics : Bool} :
      ConnPassage authorityValid server id (.disconnecting ((address, session) :: rest))
        (.advance panics) (.closeUnregister address session (some rest))
  | aborted {pc : ConnPc} (quiet : pc.leavesQuietly = true)
      (requested : (server.conns id).abortRequested = true) :
      ConnPassage authorityValid server id pc .abort .ended

/-- One step of a connection task, from its program point to the Server it leaves. -/
inductive ConnCase (config : RuntimeConfig) (authorityValid : Bool) (server : Server) (id : Nat) :
    ConnPc → ConnEvent → Server → Prop where
  | passed {pc next : ConnPc} {event : ConnEvent}
      (passage : ConnPassage authorityValid server id pc event next) :
      ConnCase config authorityValid server id pc event (server.setConn id next)
  | locked {address : ActorAddress} {session : SessionId} {panics : Bool}
      (free : server.resolutions address = none) :
      ConnCase config authorityValid server id (.openLock address session) (.advance panics)
        ((server.lock address (.conn id)).setConn id
          (.resolving address session config.router.resolve false))
  | asked {address : ActorAddress} {session : SessionId} {program : ClusterRouter.ResolveProgram}
      {reserved reserved' : Bool} {reply : RouterReply} {request : RouterCall}
      {resume : RouterAnswer request → ClusterRouter.ResolveProgram} {middle : Server}
      (resumed : program.resume? reply = some (.call request resume))
      (replied : server.capacityReply? reserved reply = some (middle, reserved')) :
      ConnCase config authorityValid server id (.resolving address session program reserved)
        (.reply reply)
        (middle.setConn id (.resolving address session (.call request resume) reserved'))
  | resolvedHere {address : ActorAddress} {session : SessionId}
      {program : ClusterRouter.ResolveProgram} {reserved reserved' reservation : Bool}
      {reply : RouterReply} {middle : Server}
      (resumed : program.resume? reply = some (.ret (.ok (.localOwner reservation))))
      (replied : server.capacityReply? reserved reply = some (middle, reserved')) :
      ConnCase config authorityValid server id (.resolving address session program reserved)
        (.reply reply) (middle.setConn id (.openRegister address session reservation))
  | resolvedAway {address : ActorAddress} {session : SessionId}
      {program : ClusterRouter.ResolveProgram} {reserved reserved' : Bool} {reply : RouterReply}
      {result : Except SendError ResolvedOwner} {error : SendError} {middle : Server}
      (resumed : program.resume? reply = some (.ret result))
      (away : result = .ok .remote ∧ error = .notOwner ∨ result = .error error)
      (replied : server.capacityReply? reserved reply = some (middle, reserved')) :
      ConnCase config authorityValid server id (.resolving address session program reserved)
        (.reply reply)
        ((middle.unlock address).setConn id (.openAck session (some error)))
  | unregistrable {address : ActorAddress} {session : SessionId} {reservation panics : Bool}
      {error : SendError}
      (refused : config.mailboxCapacity address.actorType = none ∧
          error = .actorTypeNotRegistered address.actorType ∨
        server.registry.contains address session = true ∧ error = .actorStopped) :
      ConnCase config authorityValid server id (.openRegister address session reservation)
        (.advance panics)
        (((server.unlock address).refund reservation).setConn id (.openAck session (some error)))
  | registered {address : ActorAddress} {session : SessionId} {reservation panics : Bool}
      (absent : server.registry.contains address session = false) :
      ConnCase config authorityValid server id (.openRegister address session reservation)
        (.advance panics)
        ({ server with
          registry := server.registry ++ [SessionEntry.mk ⟨address, session, server.nextOpening⟩ id]
          nextOpening := server.nextOpening + 1 }.setConn id
            (.openDispatch ⟨address, session, server.nextOpening⟩ reservation .authority))
  | undispatched {opening : Opening} {reservation panics : Bool} {stage : DispatchStage}
      {error : SendError}
      (refused : stage = .authority ∧ authorityValid = false ∧ error = .nodeFenced ∨
        stage = .status ∧ server.status.refusal = some error) :
      ConnCase config authorityValid server id (.openDispatch opening reservation stage)
        (.advance panics)
        (((server.unlock opening.address).refund reservation).setConn id
          (.openUnregister opening error))
  | dispatched {opening : Opening} {reservation panics : Bool} {middle : Server}
      {ending : DispatchEnd}
      (dispatched : server.dispatchActors config opening.address (.sessionOpened opening)
        reservation panics = (middle, ending)) :
      ConnCase config authorityValid server id (.openDispatch opening reservation .actors)
        (.advance panics)
        ((middle.unlock opening.address).setConn id (ending.openPc opening))
  | unregistered {opening : Opening} {error : SendError} {panics : Bool} :
      ConnCase config authorityValid server id (.openUnregister opening error) (.advance panics)
        ({ server with
          registry := server.registry.unregisterActor opening.address opening.session }.setConn
            id (.openAck opening.session (some error)))
  | actionDispatched {address : ActorAddress} {session : SessionId} {payload : List UInt8}
      {panics : Bool} {middle : Server} {ending : DispatchEnd}
      (dispatched : server.dispatchActors config address (.action session payload) false
        panics = (middle, ending)) :
      ConnCase config authorityValid server id (.actionDispatch address session payload .actors)
        (.advance panics) (middle.setConn id ending.actionPc)
  | closed {address : ActorAddress} {session : SessionId} {next : AfterClose} {panics : Bool}
      (present : server.registry.contains address session = true) :
      ConnCase config authorityValid server id (.closeUnregister address session next)
        (.advance panics)
        ({ server with registry := server.registry.unregisterActor address session }.setConn id
          (.closeDispatch address session next))
  | closeDispatched {address : ActorAddress} {session : SessionId} {next : AfterClose}
      {panics : Bool} :
      ConnCase config authorityValid server id (.closeDispatch address session next)
        (.advance panics)
        ((server.dispatchIfActive config address (.sessionClosed session)).setConn id next.pc)
  | noted {pc : ConnPc} (accepted : pc ≠ .unaccepted) :
      ConnCase config authorityValid server id pc .register
        { server with
          conns := Function.update server.conns id { server.conns id with registered := true } }
  | unlocked {address : ActorAddress} {session : SessionId}
      {program : ClusterRouter.ResolveProgram} {reserved : Bool}
      (requested : (server.conns id).abortRequested = true) :
      ConnCase config authorityValid server id (.resolving address session program reserved)
        .abort (((server.unlock address).refund reserved).setConn id .ended)

namespace Server

variable {config : RuntimeConfig} {server after : Server} {authorityValid : Bool} {id : Nat}
  {pc : ConnPc}

theorem resolving_case {address : ActorAddress} {session : SessionId}
    {program next : ClusterRouter.ResolveProgram} {reserved reserved' : Bool}
    {reply : RouterReply} {middle : Server} (resumed : program.resume? reply = some next)
    (replied : server.capacityReply? reserved reply = some (middle, reserved')) :
    ConnCase config authorityValid server id (.resolving address session program reserved)
      (.reply reply) (middle.resolved id address session reserved' next) := by
  rcases next with (error | ⟨reservation⟩ | _) | ⟨request, resume⟩
  · exact .resolvedAway resumed (.inr rfl) replied
  · exact .resolvedHere resumed replied
  · exact .resolvedAway resumed (.inl ⟨rfl, rfl⟩) replied
  · exact .asked resumed replied

theorem openRegister_case {address : ActorAddress} {session : SessionId}
    {reservation panics : Bool} :
    ConnCase config authorityValid server id (.openRegister address session reservation)
      (.advance panics) (server.openRegister config id address session reservation) := by
  unfold openRegister
  split
  · rename_i unknown
    exact .unregistrable (.inl ⟨unknown, rfl⟩)
  · simp only [SessionRegistry.registerActor]
    cases present : server.registry.contains address session with
    | true => exact .unregistrable (.inr ⟨present, rfl⟩)
    | false => exact .registered present

theorem openDispatch_case {opening : Opening} {reservation panics : Bool}
    {stage : DispatchStage} :
    ConnCase config authorityValid server id (.openDispatch opening reservation stage)
      (.advance panics)
      (server.openDispatch config authorityValid id opening reservation panics stage) := by
  cases stage with
  | authority =>
      cases authorityValid with
      | true => exact .passed (.authorized rfl)
      | false => exact .undispatched (.inl ⟨rfl, rfl, rfl⟩)
  | status =>
      simp only [openDispatch]
      split
      · rename_i running
        exact .passed (.running running)
      · rename_i stopped
        exact .undispatched (.inr ⟨rfl, stopped⟩)
  | actors =>
      simp only [openDispatch]
      split
      all_goals
        rename_i dispatched
        exact .dispatched dispatched

theorem actionDispatch_case {address : ActorAddress} {session : SessionId}
    {payload : List UInt8} {panics : Bool} {stage : DispatchStage} :
    ConnCase config authorityValid server id (.actionDispatch address session payload stage)
      (.advance panics)
      (server.actionDispatch config authorityValid id address session payload panics stage) := by
  cases stage with
  | authority =>
      cases authorityValid with
      | true => exact .passed (.actionAuthorized rfl)
      | false => exact .passed (.actionUnauthorized rfl)
  | status =>
      simp only [actionDispatch]
      split
      · rename_i running
        exact .passed (.actionRunning running)
      · rename_i stopped
        exact .passed (.actionStopped stopped)
  | actors =>
      simp only [actionDispatch]
      rcases ended : server.dispatchActors config address (.action session payload) false panics
        with ⟨middle, ending⟩
      cases ending <;> exact .actionDispatched ended

theorem abortConn?_case (requested : (server.conns id).abortRequested = true)
    (aborted : server.abortConn? id pc = some after) :
    ConnCase config authorityValid server id pc .abort after := by
  unfold abortConn? at aborted
  split at aborted
  case h_3 =>
    cases aborted
    exact .unlocked requested
  case h_5 => cases aborted
  all_goals
    cases aborted
    exact .passed (.aborted rfl requested)

/-- A step of a connection task is one of the cases. -/
theorem connStep?_case {event : ConnEvent}
    (stepped : server.connStep? config authorityValid id pc event = some after) :
    ConnCase config authorityValid server id pc event after := by
  unfold connStep? at stepped
  split at stepped
  case h_1 =>
    cases stepped
    exact .passed .accepted
  case h_2 envelope =>
    cases stepped
    exact .passed (.received envelope)
  case h_3 =>
    cases stepped
    exact .passed .disconnected
  case h_4 =>
    split at stepped
    · rename_i free
      cases stepped
      exact .locked free
    · cases stepped
  case h_5 =>
    simp only [Option.bind_eq_some_iff, Option.map_eq_some_iff, Prod.exists] at stepped
    obtain ⟨next, resumed, middle, reserved, replied, rfl⟩ := stepped
    exact resolving_case resumed replied
  case h_6 =>
    cases stepped
    exact openRegister_case
  case h_7 =>
    cases stepped
    exact openDispatch_case
  case h_8 =>
    cases stepped
    exact .unregistered
  case h_9 =>
    split at stepped
    · cases stepped
    · rename_i sent
      cases stepped
      exact .passed (.answered sent)
    · rename_i sent
      cases stepped
      exact .passed (.turnedDown sent)
    · rename_i dropped
      cases stepped
      exact .passed (.unanswered dropped)
  case h_10 =>
    cases stepped
    exact .passed .acknowledged
  case h_11 =>
    split at stepped
    · rename_i bound
      cases stepped
      exact .passed (.bound bound)
    · rename_i unbound
      cases stepped
      exact .passed (.unbound (by simpa using unbound))
  case h_12 =>
    split at stepped
    · rename_i present
      cases stepped
      exact .passed (.present present)
    · rename_i absent
      cases stepped
      exact .passed (.absent (by simpa using absent))
  case h_13 =>
    cases stepped
    exact actionDispatch_case
  case h_14 =>
    split at stepped
    · rename_i bound
      cases stepped
      exact .passed (.closing bound)
    · rename_i unbound
      cases stepped
      exact .passed (.foreign (by simpa using unbound))
  case h_15 =>
    split at stepped
    · rename_i present
      cases stepped
      exact .closed present
    · rename_i absent
      cases stepped
      exact .passed (.unclosed (by simpa using absent))
  case h_16 =>
    cases stepped
    exact .closeDispatched
  case h_17 =>
    cases stepped
    exact .passed .left
  case h_18 =>
    cases stepped
    exact .passed .lost
  case h_19 =>
    split at stepped
    · cases stepped
    · rename_i accepted
      cases stepped
      exact .noted accepted
  case h_20 =>
    split at stepped
    · rename_i requested
      exact abortConn?_case requested stepped
    · cases stepped
  case h_21 => cases stepped

end Server

end Coactor.Runtime
