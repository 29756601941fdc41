import Coactor.Client.Residue

/-!
# Dropping the future of `open`

A future of `open` that is dropped at one of its await points runs no more code,
so whatever the call holds there stays.  Its Session stays registered, and where
the call awaits the acknowledgement its binding and its pending open stay and no
`SessionClose` is sent.
-/

namespace Coactor.Client

open Coactor.Coordination
open Coactor.Foundation
open Coactor.Foundation.Transition
open Coactor.Runtime

variable {config : ClientConfig} {client after : ClientInner} {session : SessionId}
  {call next : OpenCall} {event : OpenEvent} {pc onward : OpenPc}
  {journal entries : List OpenEntry} {id : Nat}

/-- Nothing of a dropped call is left on the Client and on its live connections. -/
structure CleanedUp (state : Journaled) (session : SessionId) : Prop where
  unregistered : session ∉ state.client.receivers
  unpending : state.client.pendingOpens session = none
  unbound : ∀ id connection, state.client.connections id = some connection →
    connection.closed = false → session ∉ connection.sessions
  closes : ∀ later id endpoint earlier,
    state.journal session = later ++ .sent id endpoint :: earlier →
      state.client.isClosed id = false → .closeHanded id ∈ later

/-! ## Connections that a call has sent on -/

/-- A connection that exists and has been closed. -/
def ClientInner.Lost (client : ClientInner) (id : Nat) : Prop :=
  ∃ binding, client.bindings id = some binding ∧ binding.closed = true

theorem isClosed_of_lost (lost : client.Lost id) : client.isClosed id = true := by
  obtain ⟨binding, found, closed⟩ := lost
  obtain ⟨connection, present, rfl⟩ := Option.map_eq_some_iff.mp found
  rw [ClientInner.isClosed, present]
  exact closed

theorem lost_of_isClosed {binding : Binding} (found : client.bindings id = some binding)
    (closed : client.isClosed id = true) : client.Lost id := by
  refine ⟨binding, found, ?_⟩
  obtain ⟨connection, present, rfl⟩ := Option.map_eq_some_iff.mp found
  rw [ClientInner.isClosed, present] at closed
  exact closed

/-- A call neither removes nor closes a connection. -/
theorem ResourceMove.binding (move : ResourceMove client after session pc onward)
    (fresh : client.bindings client.nextConnection = none) {binding : Binding}
    (found : client.bindings id = some binding) :
    ∃ later, after.bindings id = some later ∧ later.closed = binding.closed := by
  have changed : ∀ {other : Nat} {change : Binding → Binding},
      (∀ binding, (change binding).closed = binding.closed) →
      after.bindings = Function.update client.bindings other
        ((client.bindings other).map change) →
      ∃ later, after.bindings id = some later ∧ later.closed = binding.closed := by
    intro other change closed bindings
    rw [bindings]
    by_cases same : id = other
    · subst same
      rw [Function.update_self, found]
      exact ⟨_, rfl, closed binding⟩
    · rw [Function.update_of_ne same]
      exact ⟨binding, found, rfl⟩
  cases move with
  | keeps same | locked same | rebound same | unbound same | abandons same =>
      exact ⟨binding, (congrFun same.bindings id).trans found, rfl⟩
  | pooled bindings | retained bindings | unregisters bindings =>
      exact ⟨binding, (congrFun bindings id).trans found, rfl⟩
  | connected bindings =>
      refine ⟨binding, ?_, rfl⟩
      rw [bindings, Function.update_of_ne]
      · exact found
      · rintro rfl
        cases fresh.symm.trans found
  | bound bindings =>
      refine changed ?_ bindings
      exact fun _ => rfl
  | unbinds bound bindings =>
      refine changed ?_ bindings
      exact fun _ => rfl

theorem Fades.binding (fades : Fades client after) {binding : Binding}
    (found : client.bindings id = some binding) :
    ∃ later, after.bindings id = some later ∧ (binding.closed = true → later.closed = true) := by
  have rel := fades.bindings id
  rw [found] at rel
  generalize there : after.bindings id = later at rel
  cases rel with
  | some faded => exact ⟨_, rfl, faded.closed⟩

/-- Every connection a call has sent on exists, and the call still works with it,
has handed it a `SessionClose`, or it is closed. -/
def Settled (client : ClientInner) (journal : List OpenEntry) (call : OpenCall) : Prop :=
  ∀ later id endpoint earlier, journal = later ++ .sent id endpoint :: earlier →
    (∃ binding, client.bindings id = some binding) ∧
      (call.pc = .abandoned ∨ call.pc.sentOn? = some id ∨ .closeHanded id ∈ later ∨
        client.Lost id)

theorem Settled.mono (settled : Settled client journal call)
    (keeps : ∀ id binding, client.bindings id = some binding → ∃ later,
      after.bindings id = some later ∧ (binding.closed = true → later.closed = true)) :
    Settled after journal call := by
  intro later id endpoint earlier split
  obtain ⟨⟨binding, found⟩, settles⟩ := settled later id endpoint earlier split
  obtain ⟨aged, there, closed⟩ := keeps id binding found
  refine ⟨⟨aged, there⟩, ?_⟩
  rcases settles with gone | still | handed | ⟨binding', found', lost⟩
  · exact .inl gone
  · exact .inr (.inl still)
  · exact .inr (.inr (.inl handed))
  · obtain rfl := Option.some.inj (found.symm.trans found')
    exact .inr (.inr (.inr ⟨aged, there, closed lost⟩))

/-- A step that sends nothing leaves no connection behind. -/
theorem Settled.unsent (settled : Settled client journal call)
    (keeps : ∀ id binding, client.bindings id = some binding → ∃ later,
      after.bindings id = some later ∧ (binding.closed = true → later.closed = true))
    (unsent : ∀ entry ∈ entries, entry.isSent = false)
    (abandoned : call.pc = .abandoned → next.pc = .abandoned)
    (hands : Hands client call.pc next.pc entries) : Settled after (entries ++ journal) next := by
  intro later id endpoint earlier split
  obtain ⟨rest, rfl, old⟩ := split_append unsent split
  obtain ⟨⟨binding, found⟩, settles⟩ := settled rest id endpoint earlier old
  obtain ⟨aged, there, closed⟩ := keeps id binding found
  have lost : client.Lost id → after.Lost id := by
    rintro ⟨known, found', isLost⟩
    obtain rfl := Option.some.inj (found.symm.trans found')
    exact ⟨aged, there, closed isLost⟩
  refine ⟨⟨aged, there⟩, ?_⟩
  rcases settles with gone | still | handed | isLost
  · exact .inl (abandoned gone)
  · rcases hands with gone | hands
    · exact .inl gone
    · rcases hands id still with kept | handed | isClosed
      · exact .inr (.inl kept)
      · exact .inr (.inr (.inl (List.mem_append_left rest handed)))
      · exact .inr (.inr (.inr (lost (lost_of_isClosed found isClosed))))
  · exact .inr (.inr (.inl (List.mem_append_right _ handed)))
  · exact .inr (.inr (.inr (lost isLost)))

/-- The answers of the store settle nothing and unsettle nothing. -/
theorem Settled.heard (settled : Settled client journal call)
    (answers : ∀ entry ∈ entries, entry.isAnswer = true) : Settled client (entries ++ journal) call := by
  have unsent : ∀ entry ∈ entries, entry.isSent = false := by
    intro entry member
    have answer := answers entry member
    cases entry with
    | sent => cases answer
    | _ => rfl
  intro later id endpoint earlier split
  obtain ⟨rest, rfl, old⟩ := split_append unsent split
  obtain ⟨known, settles⟩ := settled rest id endpoint earlier old
  refine ⟨known, ?_⟩
  rcases settles with gone | still | handed | lost
  · exact .inl gone
  · exact .inr (.inl still)
  · exact .inr (.inr (.inl (List.mem_append_right _ handed)))
  · exact .inr (.inr (.inr lost))

theorem Settled.openEffect (settled : Settled client journal call)
    (fresh : client.bindings client.nextConnection = none)
    (effect : OpenEffect config client after session call next event) :
    Settled after (client.noted session call call.pc event ++ journal) next := by
  have keeps : ∀ id binding, client.bindings id = some binding → ∃ later,
      after.bindings id = some later ∧ (binding.closed = true → later.closed = true) := by
    intro id binding found
    obtain ⟨later, there, same⟩ := effect.resources.binding fresh found
    exact ⟨later, there, fun closed => same.trans closed⟩
  have unsent := fun unsent =>
    settled.unsent keeps unsent effect.move.abandoned effect.hands
  cases effect.move with
  | kept same move => exact unsent move.sendsNothing
  | sent target connection ticket found here there present attempts excluded failedLiveOwner noted =>
      rw [noted]
      intro later id endpoint earlier split
      cases later with
      | nil =>
          cases split
          obtain ⟨aged, known, -⟩ := keeps connection _ (congrArg _ present)
          refine ⟨⟨aged, known⟩, .inr (.inl ?_)⟩
          rw [there]
          rfl
      | cons first rest =>
          obtain ⟨rfl, old⟩ := List.cons.inj split
          obtain ⟨known, settles⟩ := settled.mono keeps rest id endpoint earlier old
          refine ⟨known, ?_⟩
          rw [here] at settles
          rcases settles with gone | still | handed | lost
          · cases gone
          · cases still
          · exact .inr (.inr (.inl (.tail _ handed)))
          · exact .inr (.inr (.inr lost))
  | unacquired target here onward noted =>
      refine unsent ?_
      rw [noted]
      exact forall_given_up (fun _ => rfl) rfl
  | retried target error here retries left onward noted =>
      refine unsent ?_
      rw [noted]
      exact forall_given_up (fun _ => rfl) rfl

theorem settled_of_reachable {state : Journaled}
    (reach : (journaledSystem config).Reachable state) :
    ∀ session call, state.client.calls session = some call →
      Settled state.client (state.journal session) call := by
  refine invariant_of_reachable_step (fun state : Journaled => ∀ session call,
    state.client.calls session = some call →
      Settled state.client (state.journal session) call) ?_ ?_ reach
  · rintro _ rfl session call ⟨⟩
  · intro before event after earlier settled _ stepped
    have fresh : before.client.bindings before.client.nextConnection = none := by
      obtain ⟨owner, leads⟩ := PoolsOk.reachable (client_of_journaled earlier)
      exact leads.known _ (Nat.le_refl _)
    have unknown := (Recorded.reachable earlier).2
    obtain ⟨client, moved, rfl⟩ := journaled_step stepped
    intro session call found
    simp only [Journaled.record] at found ⊢
    cases ClientInner.step?_effect moved with
    | @begin begun address absent calls cache receivers fades =>
        rw [journalAfter_of_outside (by rintro session openEvent ⟨⟩)]
        rw [calls] at found
        by_cases same : session = begun
        · rw [same, unknown begun absent]
          intro later id endpoint earlier split
          simp at split
        · rw [Function.update_of_ne same] at found
          exact (settled session call found).mono fun _ _ => fades.binding
    | @call called openEvent current next known effect =>
        simp only [Journaled.journalAfter, known]
        rw [effect.calls] at found
        by_cases same : session = called
        · subst same
          rw [Function.update_self, Option.some.injEq] at found
          rw [Function.update_self, ← found]
          exact ((settled session current known).heard (heard_cases before _ _).1).openEffect fresh effect
        · rw [Function.update_of_ne same] at found ⊢
          refine (settled session call found).mono fun id binding known => ?_
          obtain ⟨later, there, same⟩ := effect.resources.binding fresh known
          exact ⟨later, there, fun closed => same.trans closed⟩
    | other outside calls cache receivers fades =>
        rw [journalAfter_of_outside outside]
        exact (settled session call (calls ▸ found)).mono fun _ _ => fades.binding

/-- Where a call awaits an acknowledgement, what it did last was to send. -/
def AwaitsSent (journal : List OpenEntry) (call : OpenCall) : Prop :=
  ∀ target id ticket, call.pc = .awaiting target id ticket →
    ∃ endpoint earlier, journal = .sent id endpoint :: earlier

theorem phase_awaiting {target : Target} (here : pc.phase = .awaiting target) :
    ∃ id ticket, pc = .awaiting target id ticket := by
  cases pc with
  | awaiting other id ticket =>
      cases here
      exact ⟨id, ticket, rfl⟩
  | unbinding other id next | uncounting other id next => cases next <;> cases here
  | _ => cases here

theorem AwaitsSent.openEffect (awaits : AwaitsSent journal call)
    (effect : OpenEffect config client after session call next event) :
    AwaitsSent (client.noted session call call.pc event ++ journal) next := by
  intro target id ticket there
  cases effect.move with
  | kept same move =>
      have resources := effect.resources
      rw [there] at move
      generalize here : call.pc.phase = phase at move
      generalize client.noted session call call.pc event = entries at move
      cases move with
      | stays =>
          obtain ⟨other, old, before⟩ := phase_awaiting here
          rw [there, before] at resources
          cases resources with
          | keeps same keeps =>
              obtain rfl := Option.some.inj keeps.bound
              exact awaits target id old before
          | unbinds bound bindings receivers pools poolConnections nextPool nextConnection free =>
              cases free
          | unbound same bound unheld free => cases free
          | unregisters bindings receivers pools poolConnections nextPool nextConnection leaving =>
              rcases leaving with ⟨error, leaving⟩ | ⟨connection, leaving⟩ <;> cases leaving
  | sent other connection old found here there' present attempts excluded failedLiveOwner noted =>
      obtain ⟨rfl, rfl, rfl⟩ : other = target ∧ connection = id ∧ old = ticket := by
        simpa using there'.symm.trans there
      rw [noted]
      exact ⟨_, journal, rfl⟩
  | unacquired other here onward =>
      rw [onward, ClientInner.unacquired_pc] at there
      cases there
  | retried other error here retries left onward =>
      rw [onward, ClientInner.unacquired_pc] at there
      cases there

/-- A call that awaits an acknowledgement hears no answer of the store. -/
theorem AwaitsSent.heard {state : Journaled} (awaits : AwaitsSent journal call) :
    AwaitsSent (state.heard call.pc event ++ journal) call := by
  intro target id ticket here
  have silent : state.heard call.pc event = [] := by
    obtain ⟨-, silent | searching | searching⟩ := heard_cases state call.pc event
    · exact silent
    · rw [here] at searching
      cases searching
    · rw [here] at searching
      cases searching
  rw [silent]
  exact awaits target id ticket here

/-! ## Dropped calls -/

theorem awaitsSent_of_reachable {state : Journaled}
    (reach : (journaledSystem config).Reachable state) :
    ∀ session call, state.client.calls session = some call →
      AwaitsSent (state.journal session) call := by
  refine (calls_of_moves AwaitsSent ?_ ?_ reach).1
  · rintro address target id ticket ⟨⟩
  · exact fun before middle session call next event earlier met found step effect awaits =>
      awaits.heard.openEffect effect

theorem openStep?_abandon :
    client.openStep? config session call pc .abandon =
      if pc.isAwaiting then
        some (((match pc.heldPool? with
          | some pool => client.setPoolHolder pool false
          | none => client).dropReceiver session).setCall session (call.goto .abandoned))
      else none := by
  cases pc with
  | choosing target pool best rest => cases rest <;> rfl
  | retaining target pool kept rest => cases rest <;> rfl
  | _ => rfl

/-- The drop of a future changes nothing but its own call and the receiver. -/
theorem abandoned_state {state next : Journaled}
    (known : state.client.calls session = some call)
    (stepped : (journaledSystem config).step? state (.call session .abandon) = some next) :
    call.pc.isAwaiting = true ∧ next.client.receivers = state.client.receivers ∧
      next.client.pendingOpens = state.client.pendingOpens ∧
      next.client.connections = state.client.connections ∧
      next.journal session = state.journal session := by
  obtain ⟨after, moved, rfl⟩ := journaled_step stepped
  obtain ⟨current, known', moved⟩ := Option.bind_eq_some_iff.mp moved
  obtain rfl := Option.some.inj (known.symm.trans known')
  rw [openStep?_abandon] at moved
  split at moved
  · rename_i awaiting
    cases moved
    refine ⟨awaiting, ?_, ?_, ?_, ?_⟩
    · simp only [Journaled.record]
      split <;> rfl
    · simp only [Journaled.record]
      split <;> rfl
    · simp only [Journaled.record]
      split <;> rfl
    · simp only [Journaled.record, Journaled.journalAfter, known, Function.update_self,
        ClientInner.noted_quiet (.inr rfl), heard_quiet (.inr rfl), List.nil_append]
  · cases moved

/-- At an await point a call awaits an acknowledgement, or works with no connection. -/
theorem isAwaiting_cases (awaiting : pc.isAwaiting = true) :
    (∃ target id ticket, pc = .awaiting target id ticket) ∨
      (pc.stage = .preparing ∧ pc.bound? = none ∧ pc.sentOn? = none) := by
  cases pc <;> first
    | exact absurd awaiting Bool.false_ne_true
    | exact .inr ⟨rfl, rfl, rfl⟩
    | exact .inl ⟨_, _, _, rfl⟩

/-- A dropped call is cleaned up exactly where a receive loop has terminated its
Session before and, while an acknowledgement was awaited, its connection is
closed and its pending open is gone. -/
theorem dropped_open_is_cleaned_up_iff {state next : Journaled}
    (reach : (journaledSystem config).Reachable state)
    (known : state.client.calls session = some call)
    (stepped : (journaledSystem config).step? state (.call session .abandon) = some next) :
    CleanedUp next session ↔ session ∉ state.client.receivers ∧
      ∀ target id ticket, call.pc = .awaiting target id ticket →
        state.client.pendingOpens session = none ∧ state.client.isClosed id = true := by
  obtain ⟨awaiting, receivers, pendingOpens, connections, journal⟩ := abandoned_state known stepped
  have closed : ∀ id, next.client.isClosed id = state.client.isClosed id := by
    intro id
    rw [ClientInner.isClosed, ClientInner.isClosed, connections]
  constructor
  · intro clean
    refine ⟨receivers ▸ clean.unregistered, fun target id ticket here => ?_⟩
    refine ⟨(congrFun pendingOpens session).symm.trans clean.unpending, ?_⟩
    obtain ⟨endpoint, earlier, last⟩ :=
      awaitsSent_of_reachable reach session call known target id ticket here
    by_contra live
    have handed := clean.closes [] id endpoint earlier (journal.trans last)
      ((closed id).trans (Bool.eq_false_iff.mpr live))
    cases handed
  · rintro ⟨unregistered, ended⟩
    refine ⟨receivers ▸ unregistered, ?_, ?_, ?_⟩
    · rw [pendingOpens]
      rcases isAwaiting_cases awaiting with ⟨target, id, ticket, here⟩ | ⟨preparing, -, -⟩
      · exact (ended target id ticket here).1
      · exact (PendingOk.reachable (client_of_journaled reach)).unpending known preparing
    · intro id connection found live member
      rw [connections] at found
      obtain ⟨current, known', bound⟩ := (Tidy.reachable (client_of_journaled reach)).bound id session
        ⟨connection.binding, congrArg (Option.map TransportConnection.binding) found, member⟩
      obtain rfl := Option.some.inj (known.symm.trans known')
      rcases isAwaiting_cases awaiting with ⟨target, other, ticket, here⟩ | ⟨-, unbound, -⟩
      · rw [here] at bound
        obtain rfl := Option.some.inj (bound.resolve_right (by rintro ⟨⟩))
        have isClosed := (ended target other ticket here).2
        rw [ClientInner.isClosed, found, Option.all_some, live] at isClosed
        cases isClosed
      · rcases bound with bound | gone
        · cases unbound.symm.trans bound
        · rw [gone] at awaiting
          cases awaiting
    · intro later id endpoint earlier split live
      rw [closed] at live
      obtain ⟨-, settles⟩ := settled_of_reachable reach session call known later id endpoint earlier
        (journal ▸ split)
      rcases settles with gone | still | handed | lost
      · rw [gone] at awaiting
        cases awaiting
      · rcases isAwaiting_cases awaiting with ⟨target, other, ticket, here⟩ | ⟨-, -, unsent⟩
        · rw [here] at still
          obtain rfl := Option.some.inj still
          cases live.symm.trans (ended target other ticket here).2
        · cases unsent.symm.trans still
      · exact handed
      · cases live.symm.trans (isClosed_of_lost lost)

/-- The connection is lost between `acquire_connection` and `send_session_open`;
its receive loop terminates the Session, and the call goes on. -/
def lostBeforeSend : List ClientEvent :=
  .begin ⟨7⟩ cartAddress :: placed [shop "node-a" "host-a", shop "node-b" "host-b"]
    ["host-a", "host-b"] ++ [.call ⟨7⟩ .connected] ++ .replicate 3 (.call ⟨7⟩ .advance) ++
    [.loop 1 .lost] ++ .replicate 7 (.loop 1 .advance) ++ .replicate 5 (.call ⟨7⟩ .advance)

/-- The Session of a call dropped after this has been terminated already. -/
theorem terminated_open_is_cleaned_up :
    ∃ state next, (journaledSystem storefront).Reachable state ∧
      (journaledSystem storefront).step? state (.call ⟨7⟩ .abandon) = some next ∧
      CleanedUp next ⟨7⟩ := by
  have reach := @reachable_of_run? _ _ (journaledSystem storefront) .fresh _ lostBeforeSend rfl rfl
  refine ⟨_, _, reach, rfl, (dropped_open_is_cleaned_up_iff reach rfl rfl).mpr ⟨by decide, ?_⟩⟩
  rintro target id ticket ⟨⟩

/-- A `SessionOpen` is sent and its acknowledgement is awaited. -/
def sentOpen : List ClientEvent :=
  .begin ⟨7⟩ cartAddress :: placed [shop "node-a" "host-a"] ["host-a"] ++
    [.call ⟨7⟩ .connected] ++ .replicate 6 (.call ⟨7⟩ .advance)

/-- The future of a call is dropped while it awaits its acknowledgement. -/
theorem dropped_open_stays :
    ∃ state next connection, (journaledSystem storefront).Reachable state ∧
      (journaledSystem storefront).step? state (.call ⟨7⟩ .abandon) = some next ∧
      ⟨7⟩ ∈ next.client.receivers ∧ next.client.pendingOpens ⟨7⟩ = some ⟨1, 0⟩ ∧
      next.client.connections 1 = some connection ∧ connection.closed = false ∧
      ⟨7⟩ ∈ connection.sessions ∧
      connection.sender.items = [⟨some 0, envelopeSessionOpen cartAddress ⟨7⟩⟩] ∧
      ¬ CleanedUp next ⟨7⟩ := by
  have reach := @reachable_of_run? _ _ (journaledSystem storefront) .fresh _ sentOpen rfl rfl
  refine ⟨_, _, _, reach, rfl, by decide, rfl, rfl, rfl, List.mem_cons_self, rfl, fun clean => ?_⟩
  exact clean.unregistered (by decide)

end Coactor.Client
