import Coactor.Client.Cases

/-!
# What one step of `open` does

A connection is seen here as what waits in the queue of its sender and where its
receive loop stands.  Every step of a call of `open` is a move between two
stages of its current attempt with one effect on a connection or on
`pending_opens`.
-/

namespace Coactor.Client

open Coactor.Foundation
open Coactor.Runtime
open Coactor.Transport

/-! ## The traffic of a connection -/

/-- What waits in the queue of a sender, and where the receive loop stands. -/
structure Traffic where
  queue : List Sent
  loop : LoopPc

def TransportConnection.traffic (connection : TransportConnection) : Traffic :=
  ⟨connection.sender.items, connection.loop⟩

namespace ClientInner

def traffic (client : ClientInner) (id : Nat) : Option Traffic :=
  (client.connections id).map TransportConnection.traffic

variable {client : ClientInner} {id : Nat} {session : SessionId}

theorem traffic_modify (change : TransportConnection → TransportConnection) :
    (client.modify id change).traffic = Function.update client.traffic id
      ((client.connections id).map fun connection => (change connection).traffic) := by
  funext other
  by_cases same : other = id
  · subst same
    simp [traffic, modify, Function.comp_def]
  · simp [traffic, modify, Function.update_of_ne same]

theorem traffic_modify_same {change : TransportConnection → TransportConnection}
    (same : ∀ connection, (change connection).traffic = connection.traffic) :
    (client.modify id change).traffic = client.traffic := by
  rw [traffic_modify]
  refine (congrArg _ ?_).trans (Function.update_eq_self id client.traffic)
  exact congrArg (Option.map · (client.connections id)) (funext same)

theorem offer_items (channel : Channel Sent) (sent : Sent) :
    (channel.offer sent).items = channel.items ++ if channel.accepts then [sent] else [] := by
  cases accepts : channel.accepts with
  | true => simp [Channel.offer_of_accepts accepts]
  | false => simp [Channel.offer_of_refuses accepts]

end ClientInner

/-! ## Stages of an attempt -/

/-- What a call of `open` has to do with `pending_opens` at a program point. -/
inductive Stage where
  | preparing
  | trying (connection ticket : Nat)
  | awaiting (connection ticket : Nat)
  | cleaning
  | returned (connection : Option Nat)
  | abandoned
  deriving DecidableEq, Repr

def AfterUnbind.stage : AfterUnbind → Stage
  | .exhausted => .preparing
  | .retract _ => .cleaning

def OpenPc.stage : OpenPc → Stage
  | .checking _ connection ticket | .sending _ connection ticket => .trying connection ticket
  | .awaiting _ connection ticket => .awaiting connection ticket
  | .closeChecking _ _ _ | .closeSending _ _ _ | .retracting _ _ => .cleaning
  | .unbinding _ _ next | .uncounting _ _ next => next.stage
  | .failed _ => .returned none
  | .opened connection | .dropUnregistering connection | .dropUnbinding connection
  | .dropUncounting connection | .dropChecking connection | .dropSending connection
  | .dropped connection => .returned (some connection)
  | .abandoned => .abandoned
  | _ => .preparing

/-- The moves between stages that leave `pending_opens` alone.  An attempt ends
with a result, with its oneshot channel, or with the deadline. -/
inductive StageMove (client : ClientInner) (expired : Bool) : Stage → Stage → Prop where
  | stays {stage} : StageMove client expired stage stage
  | unsent {connection ticket} : StageMove client expired (.trying connection ticket) .cleaning
  | opened {connection ticket} (sent : client.oneshots ticket = .sent none) :
      StageMove client expired (.awaiting connection ticket) (.returned (some connection))
  | failed {connection ticket} (ended : client.oneshots ticket ≠ .waiting) :
      StageMove client expired (.awaiting connection ticket) .cleaning
  | elapsed {connection ticket} (late : expired = true) :
      StageMove client expired (.awaiting connection ticket) .cleaning
  | unopened : StageMove client expired .preparing (.returned none)
  | abandoned {connection ticket} :
      StageMove client expired (.awaiting connection ticket) .abandoned
  | given : StageMove client expired .preparing .abandoned

/-! ## Moves of `open` -/

/-- A step that touches no connection and no pending open. -/
structure SameAttempts (before after : ClientInner) : Prop where
  traffic : after.traffic = before.traffic
  pendingOpens : after.pendingOpens = before.pendingOpens
  oneshots : after.oneshots = before.oneshots
  nextTicket : after.nextTicket = before.nextTicket
  nextConnection : after.nextConnection = before.nextConnection

/-- What one step of a call of `open` does. -/
inductive OpenMove (config : ClientConfig) (before after : ClientInner) (session : SessionId)
    (call next : OpenCall) : Prop where
  | quiet (same : SameAttempts before after)
      (move : StageMove before call.expired call.pc.stage next.pc.stage)
  | connect (here : call.pc.stage = .preparing) (there : next.pc.stage = .preparing)
      (traffic : after.traffic =
        Function.update before.traffic before.nextConnection (some ⟨[], .unspawned⟩))
      (nextConnection : after.nextConnection = before.nextConnection + 1)
      (pendingOpens : after.pendingOpens = before.pendingOpens)
      (oneshots : after.oneshots = before.oneshots) (nextTicket : after.nextTicket = before.nextTicket)
  | spawn (here : call.pc.stage = .preparing) (there : next.pc.stage = .preparing)
      (connection : Nat) (queue : List Sent)
      (unspawned : before.traffic connection = some ⟨queue, .unspawned⟩)
      (traffic : after.traffic =
        Function.update before.traffic connection (some ⟨queue, .receiving⟩))
      (nextConnection : after.nextConnection = before.nextConnection)
      (pendingOpens : after.pendingOpens = before.pendingOpens)
      (oneshots : after.oneshots = before.oneshots) (nextTicket : after.nextTicket = before.nextTicket)
  | attempt (target : Target) (connection : Nat) (here : call.pc = .acquired target connection)
      (left : call.attempts < config.maxOpenAttempts)
      (there : next.pc.stage = .trying connection before.nextTicket)
      (traffic : after.traffic = before.traffic)
      (nextConnection : after.nextConnection = before.nextConnection)
      (pendingOpens : after.pendingOpens = Function.update before.pendingOpens session
        (some ⟨connection, before.nextTicket⟩))
      (oneshots : after.oneshots = before.dropSender (before.pendingOpens session))
      (nextTicket : after.nextTicket = before.nextTicket + 1)
  | send (connection ticket : Nat) (here : call.pc.stage = .trying connection ticket)
      (there : next.pc.stage = .awaiting connection ticket) (queue : List Sent) (loop : LoopPc)
      (found : before.traffic connection = some ⟨queue, loop⟩)
      (traffic : after.traffic = Function.update before.traffic connection
        (some ⟨queue ++ [⟨some ticket, envelopeSessionOpen call.address session⟩], loop⟩))
      (nextConnection : after.nextConnection = before.nextConnection)
      (pendingOpens : after.pendingOpens = before.pendingOpens)
      (oneshots : after.oneshots = before.oneshots) (nextTicket : after.nextTicket = before.nextTicket)
  | close (connection : Nat) (queue : List Sent) (loop : LoopPc)
      (same : next.pc.stage = call.pc.stage)
      (found : before.traffic connection = some ⟨queue, loop⟩)
      (traffic : after.traffic = Function.update before.traffic connection
        (some ⟨queue ++ [⟨none, envelopeSessionClose call.address session⟩], loop⟩))
      (nextConnection : after.nextConnection = before.nextConnection)
      (pendingOpens : after.pendingOpens = before.pendingOpens)
      (oneshots : after.oneshots = before.oneshots) (nextTicket : after.nextTicket = before.nextTicket)
  | retract (here : call.pc.stage = .cleaning ∨ call.pc.stage = .preparing)
      (there : next.pc.stage = .preparing)
      (traffic : after.traffic = before.traffic)
      (nextConnection : after.nextConnection = before.nextConnection)
      (pendingOpens : after.pendingOpens = Function.update before.pendingOpens session none)
      (oneshots : after.oneshots = before.dropSender (before.pendingOpens session))
      (nextTicket : after.nextTicket = before.nextTicket)

/-- What no step of `open` changes but for its own call. -/
structure Aside (before after : ClientInner) : Prop where
  calls : after.calls = before.calls
  sends : after.sends = before.sends
  begun : after.begun = before.begun
  status : after.status = before.status
  shutdown : after.shutdown = before.shutdown
  items : ∀ session, (after.channels session).items = (before.channels session).items

/-- How the data of a call go on. -/
structure Onward (call next : OpenCall) : Prop where
  address : next.address = call.address
  expired : call.expired = true → next.expired = true
  returned : call.pc.hasReturned = true → next.pc.hasReturned = true

/-- A step of `open` changes its own call and makes one of the moves. -/
structure OpenStep (config : ClientConfig) (before after : ClientInner) (session : SessionId)
    (call next : OpenCall) : Prop where
  calls : after.calls = Function.update before.calls session (some next)
  aside : Aside { before with calls := after.calls } after
  onward : Onward call next
  move : OpenMove config before after session call next

variable {client middle after : ClientInner} {config : ClientConfig} {id : Nat}
  {session : SessionId} {call next : OpenCall}

theorem SameAttempts.refl (client : ClientInner) : SameAttempts client client :=
  ⟨rfl, rfl, rfl, rfl, rfl⟩

theorem Aside.refl (client : ClientInner) : Aside client client :=
  ⟨rfl, rfl, rfl, rfl, rfl, fun _ => rfl⟩

theorem Aside.trans (one : Aside client middle) (two : Aside middle after) :
    Aside client after where
  calls := two.calls.trans one.calls
  sends := two.sends.trans one.sends
  begun := two.begun.trans one.begun
  status := two.status.trans one.status
  shutdown := two.shutdown.trans one.shutdown
  items := fun session => (two.items session).trans (one.items session)

theorem OpenStep.of_setCall (aside : Aside client middle) (onward : Onward call next)
    (move : OpenMove config client (middle.setCall session next) session call next) :
    OpenStep config client (middle.setCall session next) session call next where
  calls := by rw [ClientInner.setCall, aside.calls]
  aside := ⟨rfl, aside.sends, aside.begun, aside.status, aside.shutdown, aside.items⟩
  onward := onward
  move := move

namespace ClientInner

theorem aside_modify (change : TransportConnection → TransportConnection) :
    Aside client (client.modify id change) := ⟨rfl, rfl, rfl, rfl, rfl, fun _ => rfl⟩

theorem aside_dropReceiver : Aside client (client.dropReceiver session) where
  calls := rfl
  sends := rfl
  begun := rfl
  status := rfl
  shutdown := rfl
  items := by
    intro other
    by_cases same : other = session
    · subst same
      simp [dropReceiver, Channel.close]
    · simp [dropReceiver, Function.update_of_ne same]

/-- A step that only moves its call on. -/
theorem quiet_step (aside : Aside client middle) (same : SameAttempts client middle)
    (onward : Onward call next)
    (move : StageMove client call.expired call.pc.stage next.pc.stage) :
    OpenStep config client (middle.setCall session next) session call next :=
  .of_setCall aside onward (.quiet
    ⟨same.traffic, same.pendingOpens, same.oneshots, same.nextTicket, same.nextConnection⟩ move)

theorem same_modify {change : TransportConnection → TransportConnection}
    (same : ∀ connection, (change connection).traffic = connection.traffic) :
    SameAttempts client (client.modify id change) :=
  ⟨traffic_modify_same same, rfl, rfl, rfl, rfl⟩

theorem pool_aside (endpoint : String) : Aside client (client.pool endpoint).2 := by
  unfold pool
  split
  · exact .refl client
  · exact ⟨rfl, rfl, rfl, rfl, rfl, fun _ => rfl⟩

theorem pool_same (endpoint : String) : SameAttempts client (client.pool endpoint).2 := by
  unfold pool
  split
  · exact .refl client
  · exact ⟨rfl, rfl, rfl, rfl, rfl⟩

/-! ### How calls go on -/

theorem onward_goto {pc : OpenPc} (returned : call.pc.hasReturned = true → pc.hasReturned = true) :
    Onward call (call.goto pc) := ⟨rfl, id, returned⟩

theorem onward_unacquired (target : Target) (working : call.pc.hasReturned = false) :
    Onward call (call.unacquired target) := by
  have vacuous : ∀ pc : OpenPc, call.pc.hasReturned = true → pc.hasReturned = true := by
    intro pc returned
    rw [working] at returned
    cases returned
  unfold OpenCall.unacquired
  split
  · exact ⟨rfl, id, vacuous _⟩
  · exact ⟨rfl, id, vacuous _⟩

theorem unacquired_stage (target : Target) : (call.unacquired target).pc.stage = .preparing := by
  unfold OpenCall.unacquired
  split <;> rfl

theorem resolved_step (program : OwnerProgram) (working : call.pc.hasReturned = false) :
    Onward call (call.resolved program) ∧ (call.resolved program).pc.stage = .preparing := by
  have goto : ∀ pc : OpenPc, pc.stage = .preparing →
      Onward call (call.goto pc) ∧ (call.goto pc).pc.stage = .preparing :=
    fun pc stage => ⟨onward_goto (by simp [working]), stage⟩
  unfold OpenCall.resolved
  split
  · split
    · exact goto _ rfl
    · exact goto _ rfl
  · exact goto _ rfl
  · exact goto _ rfl
  · exact goto _ rfl

theorem selected_step (endpoint : Except SendError String)
    (working : call.pc.hasReturned = false) :
    Onward call (call.selected endpoint) ∧ (call.selected endpoint).pc.stage = .preparing := by
  cases endpoint with
  | ok endpoint => exact ⟨onward_goto (by simp [working]), rfl⟩
  | error error => exact ⟨onward_goto (by simp [working]), rfl⟩

theorem retracted_step (maxOpenAttempts : Nat) (target : Target) (error : SendError)
    (working : call.pc.hasReturned = false) :
    Onward call (call.retracted maxOpenAttempts target error) ∧
      (call.retracted maxOpenAttempts target error).pc.stage = .preparing := by
  have goto : ∀ pc : OpenPc, pc.stage = .preparing →
      Onward call (call.goto pc) ∧ (call.goto pc).pc.stage = .preparing :=
    fun pc stage => ⟨onward_goto (by simp [working]), stage⟩
  unfold OpenCall.retracted
  simp only
  split
  · split
    · exact goto _ rfl
    · exact goto _ rfl
  · split
    · split
      · exact goto _ rfl
      · exact ⟨⟨rfl, id, by simp [working]⟩, rfl⟩
    · exact goto _ rfl
  · split
    · exact goto _ rfl
    · exact ⟨onward_unacquired target working, unacquired_stage target⟩
  · exact goto _ rfl

/-! ### Steps of `open` -/

theorem traffic_update {value : Option TransportConnection}
    (connections : after.connections = Function.update client.connections id value) :
    after.traffic =
      Function.update client.traffic id (value.map TransportConnection.traffic) := by
  funext other
  by_cases same : other = id
  · subst same
    simp [traffic, connections]
  · simp [traffic, connections, Function.update_of_ne same]

theorem traffic_eq_some {connection : TransportConnection}
    (found : client.connections id = some connection) :
    client.traffic id = some ⟨connection.sender.items, connection.loop⟩ := by
  simp [traffic, found, TransportConnection.traffic]

theorem traffic_connect (endpoint : String) (pool : Nat) :
    (client.connect endpoint pool).traffic =
      Function.update client.traffic client.nextConnection (some ⟨[], .unspawned⟩) :=
  @traffic_update client (client.connect endpoint pool) client.nextConnection
    (some ⟨endpoint, ⟨transportChannelCapacity, [], false⟩, [], 0, false, .unspawned, false, false⟩)
    rfl

theorem connect_step {endpoint : String} {pool : Nat} (onward : Onward call next)
    (here : call.pc.stage = .preparing) (there : next.pc.stage = .preparing) :
    OpenStep config client ((client.connect endpoint pool).setCall session next) session call
      next :=
  .of_setCall ⟨rfl, rfl, rfl, rfl, rfl, fun _ => rfl⟩ onward
    (.connect here there (traffic_connect endpoint pool) rfl rfl rfl rfl)

theorem spawn_step {pool : Nat} (onward : Onward call next)
    (here : call.pc.stage = .preparing) (there : next.pc.stage = .preparing) :
    OpenStep config client
      (((client.spawnReceiveLoop id).setPoolHolder pool false).setCall session next) session call
      next := by
  have aside : Aside client ((client.spawnReceiveLoop id).setPoolHolder pool false) :=
    ⟨rfl, rfl, rfl, rfl, rfl, fun _ => rfl⟩
  refine .of_setCall aside onward ?_
  have traffic := @traffic_modify client id fun connection =>
    if connection.loop = .unspawned then
      { connection with loop := .receiving, registered := true } else connection
  cases found : client.connections id with
  | none =>
      rw [found] at traffic
      refine .quiet ⟨traffic.trans ?_, rfl, rfl, rfl, rfl⟩ (here ▸ there ▸ .stays)
      refine (congrArg _ ?_).trans (Function.update_eq_self id client.traffic)
      simp [ClientInner.traffic, found]
  | some connection =>
      rw [found] at traffic
      by_cases unspawned : connection.loop = .unspawned
      · refine .spawn here there id connection.sender.items ?_ (traffic.trans ?_) rfl rfl rfl rfl
        · rw [traffic_eq_some found, unspawned]
        · simp [unspawned, TransportConnection.traffic]
      · refine .quiet ⟨traffic.trans ?_, rfl, rfl, rfl, rfl⟩ (here ▸ there ▸ .stays)
        refine (congrArg _ ?_).trans (Function.update_eq_self id client.traffic)
        simp [ClientInner.traffic, found, unspawned]

theorem traffic_offerTo (sent : Sent) :
    (client.offerTo id sent).traffic = Function.update client.traffic id
      ((client.connections id).map fun connection =>
        ⟨connection.sender.items ++ if connection.sender.accepts then [sent] else [],
          connection.loop⟩) := by
  rw [offerTo, traffic_modify]
  simp only [TransportConnection.traffic, offer_items]

/-- A `SessionClose` enters the queue of a sender or is refused. -/
theorem offerTo_move (stage : next.pc.stage = call.pc.stage)
    (traffic : after.traffic = (client.offerTo id
      ⟨none, envelopeSessionClose call.address session⟩).traffic)
    (nextConnection : after.nextConnection = client.nextConnection)
    (pendingOpens : after.pendingOpens = client.pendingOpens)
    (oneshots : after.oneshots = client.oneshots)
    (nextTicket : after.nextTicket = client.nextTicket) :
    OpenMove config client after session call next := by
  rw [traffic_offerTo] at traffic
  have refused : after.traffic = client.traffic → OpenMove config client after session call next :=
    fun same => .quiet ⟨same, pendingOpens, oneshots, nextTicket, nextConnection⟩ (stage ▸ .stays)
  cases found : client.connections id with
  | none =>
      refine refused (traffic.trans ?_)
      refine (congrArg _ ?_).trans (Function.update_eq_self id client.traffic)
      simp [ClientInner.traffic, found]
  | some connection =>
      cases accepts : connection.sender.accepts with
      | true =>
          refine .close id connection.sender.items connection.loop stage (traffic_eq_some found)
            (traffic.trans ?_) nextConnection pendingOpens oneshots nextTicket
          simp [found, accepts]
      | false =>
          refine refused (traffic.trans ?_)
          refine (congrArg _ ?_).trans (Function.update_eq_self id client.traffic)
          simp [ClientInner.traffic, found, accepts, TransportConnection.traffic]

/-- A step that keeps the stage. -/
theorem still_step (aside : Aside client middle) (same : SameAttempts client middle)
    (onward : Onward call next) (stage : next.pc.stage = call.pc.stage) :
    OpenStep config client (middle.setCall session next) session call next :=
  quiet_step aside same onward (stage ▸ .stays)

theorem onward_stage (target : Target) (next : AfterUnbind) :
    (next.onward target).stage = next.stage := by
  cases next <;> rfl

/-- The await points are those of a prepared or of a sent attempt. -/
theorem abandoned_move {expired : Bool} {pc : OpenPc} (awaiting : pc.isAwaiting = true) :
    StageMove client expired pc.stage .abandoned := by
  cases pc with
  | resolving | listing | poolLock | connecting => exact .given
  | awaiting => exact .abandoned
  | _ => cases awaiting

/-- Every case of a call of `open` is one of the moves. -/
theorem moves_of_case {pc : OpenPc} {event : OpenEvent} (here : call.pc = pc)
    (step : OpenCase config client session call pc event middle next) :
    OpenStep config client (middle.setCall session next) session call next := by
  have goto : ∀ next : OpenPc, pc.hasReturned = false → Onward call (call.goto next) :=
    fun next working => onward_goto (by simp [here, working])
  have stays : SameAttempts client client := .refl client
  cases step with
  | @answered _ resumed =>
      have onward := @resolved_step call resumed (by rw [here]; rfl)
      exact still_step (.refl _) stays onward.1 (onward.2.trans (by rw [here]; rfl))
  | listed nodes ordered =>
      have onward := @selected_step call
        (selectPlacementCandidate (placementCandidates nodes) call.excluded ordered)
        (by rw [here]; rfl)
      exact still_step ⟨rfl, rfl, rfl, rfl, rfl, fun _ => rfl⟩ ⟨rfl, rfl, rfl, rfl, rfl⟩ onward.1
        (onward.2.trans (by rw [here]; rfl))
  | @cached candidates ordered =>
      have onward := @selected_step call
        (selectPlacementCandidate candidates call.excluded ordered) (by rw [here]; rfl)
      exact still_step (.refl _) stays onward.1 (onward.2.trans (by rw [here]; rfl))
  | unlisted | listingElapsed | sieved | weighed | chosen | rebound | exhausted | closeSkipped
  | closeChecked =>
      exact still_step (.refl _) stays (goto _ rfl) (by rw [here]; rfl)
  | @pooled target =>
      exact still_step (pool_aside target.endpoint) (pool_same target.endpoint) (goto _ rfl)
        (by rw [here]; rfl)
  | locked | few | full =>
      exact still_step ⟨rfl, rfl, rfl, rfl, rfl, fun _ => rfl⟩ ⟨rfl, rfl, rfl, rfl, rfl⟩
        (goto _ rfl) (by rw [here]; rfl)
  | @lockElapsed target =>
      exact still_step (.refl _) stays (onward_unacquired target (by rw [here]; rfl))
        ((unacquired_stage target).trans (by rw [here]; rfl))
  | @refused target | @connectElapsed target | @choiceless target =>
      exact still_step ⟨rfl, rfl, rfl, rfl, rfl, fun _ => rfl⟩ ⟨rfl, rfl, rfl, rfl, rfl⟩
        (onward_unacquired target (by rw [here]; rfl))
        ((unacquired_stage target).trans (by rw [here]; rfl))
  | connected => exact connect_step (goto _ rfl) (by rw [here]; rfl) rfl
  | bound | counted | unbound =>
      exact still_step (aside_modify _) (same_modify fun _ => rfl) (goto _ rfl) (by rw [here]; rfl)
  | spawned => exact spawn_step (goto _ rfl) (by rw [here]; rfl) rfl
  | @attempted target connection left =>
      exact .of_setCall ⟨rfl, rfl, rfl, rfl, rfl, fun _ => rfl⟩ (goto _ rfl)
        (.attempt target connection here left rfl rfl rfl rfl rfl rfl)
  | checked => exact quiet_step (.refl _) stays (goto _ rfl) (by rw [here]; exact .stays)
  | checkedLost | unsent =>
      exact quiet_step (.refl _) stays (goto _ rfl) (by rw [here]; exact .unsent)
  | @sent target connection ticket found sender present accepted =>
      obtain ⟨-, rfl⟩ := Channel.trySend_eq_ok.mp accepted
      refine .of_setCall (aside_modify _) ⟨rfl, id, by rw [here]; rintro ⟨⟩⟩
        (.send connection ticket (by rw [here]; rfl) rfl found.sender.items found.loop
          (traffic_eq_some present) ?_ rfl rfl rfl rfl)
      refine (traffic_modify _).trans ?_
      simp [present, TransportConnection.traffic]
  | opened acknowledged =>
      exact quiet_step (.refl _) stays (goto _ rfl) (by rw [here]; exact .opened acknowledged)
  | failed acknowledged =>
      exact quiet_step (.refl _) stays (goto _ rfl)
        (by rw [here]; exact .failed (by simp [acknowledged]))
  | unanswered dropped =>
      exact quiet_step (.refl _) stays (goto _ rfl) (by rw [here]; exact .failed (by simp [dropped]))
  | awaitElapsed late =>
      exact quiet_step (.refl _) stays (goto _ rfl) (by rw [here]; exact .elapsed late)
  | closeSent =>
      exact .of_setCall (aside_modify _) (goto _ rfl)
        (offerTo_move (by rw [here]; rfl) rfl rfl rfl rfl rfl)
  | @unheld target _ next =>
      exact still_step (.refl _) stays (goto _ rfl)
        ((onward_stage target next).trans (by rw [here]; rfl))
  | @uncounted target _ next =>
      exact still_step (aside_modify _) (same_modify fun _ => rfl) (goto _ rfl)
        ((onward_stage target next).trans (by rw [here]; rfl))
  | @retracted target error =>
      have onward := @retracted_step call config.maxOpenAttempts target error (by rw [here]; rfl)
      exact .of_setCall ⟨rfl, rfl, rfl, rfl, rfl, fun _ => rfl⟩ onward.1
        (.retract (.inl (by rw [here]; rfl)) onward.2 rfl rfl rfl rfl rfl)
  | cleared =>
      exact .of_setCall ⟨rfl, rfl, rfl, rfl, rfl, fun _ => rfl⟩ (goto _ rfl)
        (.retract (.inr (by rw [here]; rfl)) rfl rfl rfl rfl rfl rfl)
  | unregistered =>
      have unregistered : Aside client (client.unregisterLocal session) :=
        ⟨rfl, rfl, rfl, rfl, rfl, fun _ => rfl⟩
      exact quiet_step (unregistered.trans aside_dropReceiver) ⟨rfl, rfl, rfl, rfl, rfl⟩
        (onward_goto fun _ => rfl) (by rw [here]; exact .unopened)
  | drops | dropUnheld | dropChecked =>
      exact still_step (.refl _) stays (onward_goto fun _ => rfl) (by rw [here]; rfl)
  | dropUnregistered =>
      exact still_step ⟨rfl, rfl, rfl, rfl, rfl, fun _ => rfl⟩ ⟨rfl, rfl, rfl, rfl, rfl⟩
        (onward_goto fun _ => rfl) (by rw [here]; rfl)
  | dropUnbound | dropUncounted =>
      exact still_step (aside_modify _) (same_modify fun _ => rfl) (onward_goto fun _ => rfl)
        (by rw [here]; rfl)
  | dropSkipped =>
      exact still_step aside_dropReceiver ⟨rfl, rfl, rfl, rfl, rfl⟩ (onward_goto fun _ => rfl)
        (by rw [here]; rfl)
  | dropSent =>
      exact .of_setCall ((aside_modify _).trans aside_dropReceiver) (onward_goto fun _ => rfl)
        (offerTo_move (by rw [here]; rfl) rfl rfl rfl rfl rfl)
  | expires => exact still_step (.refl _) stays ⟨rfl, fun _ => rfl, id⟩ rfl
  | abandoned awaiting =>
      have move := @abandoned_move client call.expired pc awaiting
      exact quiet_step aside_dropReceiver ⟨rfl, rfl, rfl, rfl, rfl⟩ (onward_goto fun _ => rfl)
        (here ▸ move)
  | abandonedConnect =>
      refine quiet_step (Aside.trans ?_ aside_dropReceiver) ⟨rfl, rfl, rfl, rfl, rfl⟩
        (onward_goto fun _ => rfl) (by rw [here]; exact .given)
      exact ⟨rfl, rfl, rfl, rfl, rfl, fun _ => rfl⟩

/-- Every step of a call of `open` is one of the moves. -/
theorem openStep?_moves {pc : OpenPc} {event : OpenEvent} (here : call.pc = pc)
    (stepped : client.openStep? config session call pc event = some after) :
    ∃ next, OpenStep config client after session call next := by
  obtain ⟨middle, next, step, rfl⟩ := openStep?_cases stepped
  exact ⟨next, moves_of_case here step⟩

end ClientInner

end Coactor.Client
