import Coactor.Client.Attempts
import Coactor.Client.Pending

/-!
# What a call of `open` leaves behind

A Session is in the bound set of at most the connection its call works with, and
a call that has failed has given up its binding, its pending open and its
receiver.  Every selection of a failed call, and every selection but the last of
a successful one, was followed by `on_placement_failed`.
-/

namespace Coactor.Client

open Coactor.Coordination
open Coactor.Foundation
open Coactor.Foundation.Transition
open Coactor.Runtime
open Coactor.Transport

variable {config : ClientConfig} {client after : ClientInner} {session : SessionId}
  {call next : OpenCall} {event : OpenEvent} {pc onward : OpenPc}
  {journal entries : List OpenEntry} {target : Target}

/-! ## Bound sets -/

/-- A Session in the bound set of a connection. -/
def ClientInner.Holds (client : ClientInner) (id : Nat) (session : SessionId) : Prop :=
  ∃ binding, client.bindings id = some binding ∧ session ∈ binding.sessions

theorem holds_update {id : Nat} {change : Binding → Binding}
    (bindings : after.bindings = Function.update client.bindings id
      ((client.bindings id).map change)) {other : Nat} (holds : after.Holds other session) :
    client.Holds other session ∨
      (other = id ∧ ∃ binding, client.bindings id = some binding ∧
        session ∈ (change binding).sessions) := by
  obtain ⟨binding, found, member⟩ := holds
  rw [bindings] at found
  by_cases same : other = id
  · rw [same, Function.update_self] at found
    obtain ⟨before, known, rfl⟩ := Option.map_eq_some_iff.mp found
    exact .inr ⟨same, before, known, member⟩
  · rw [Function.update_of_ne same] at found
    exact .inl ⟨binding, found, member⟩

theorem holds_same (bindings : after.bindings = client.bindings) {id : Nat}
    (holds : after.Holds id session) : client.Holds id session := by
  unfold ClientInner.Holds at holds ⊢
  rwa [bindings] at holds

theorem Fades.holds (fades : Fades client after) {id : Nat} (holds : after.Holds id session) :
    client.Holds id session := by
  obtain ⟨binding, found, member⟩ := holds
  have rel := fades.bindings id
  rw [found] at rel
  generalize there : client.bindings id = earlier at rel
  cases rel with
  | some faded => exact ⟨_, there, faded.sessions session member⟩

namespace ResourceMove

/-- A call changes bound sets only by its own Session. -/
theorem holds_other (move : ResourceMove client after session pc onward) {other : SessionId}
    (different : other ≠ session) {id : Nat} (holds : after.Holds id other) :
    client.Holds id other := by
  cases move with
  | keeps same | locked same | rebound same | unbound same | abandons same =>
      exact holds_same same.bindings holds
  | pooled bindings | retained bindings | unregisters bindings => exact holds_same bindings holds
  | connected bindings =>
      obtain ⟨binding, found, member⟩ := holds
      rw [bindings] at found
      by_cases same : id = client.nextConnection
      · rw [same, Function.update_self, Option.some.injEq] at found
        rw [← found] at member
        cases member
      · rw [Function.update_of_ne same] at found
        exact ⟨binding, found, member⟩
  | bound bindings =>
      rcases holds_update bindings holds with old | ⟨rfl, binding, known, member⟩
      · exact old
      · rcases List.mem_append.mp member with earlier | new
        · exact ⟨binding, known, earlier⟩
        · exact absurd (List.mem_singleton.mp new) different
  | unbinds bound bindings =>
      rcases holds_update bindings holds with old | ⟨rfl, binding, known, member⟩
      · exact old
      · exact ⟨binding, known, (List.mem_filter.mp member).1⟩

/-- The Session of a call is bound where the call says, or nowhere. -/
theorem holds_own (move : ResourceMove client after session pc onward)
    (bound : ∀ id, client.Holds id session → pc.bound? = some id) {id : Nat}
    (holds : after.Holds id session) : onward.bound? = some id ∨ onward = .abandoned := by
  cases move with
  | keeps same keeps => exact .inl (keeps.bound.trans (bound id (holds_same same.bindings holds)))
  | pooled bindings | locked same =>
      first
        | cases bound id (holds_same bindings holds)
        | cases bound id (holds_same same.bindings holds)
  | retained bindings receivers pools poolConnections nextPool nextConnection keeps =>
      exact .inl (keeps.bound.trans (bound id (holds_same bindings holds)))
  | connected bindings =>
      obtain ⟨binding, found, member⟩ := holds
      rw [bindings] at found
      by_cases same : id = client.nextConnection
      · rw [same, Function.update_self, Option.some.injEq] at found
        rw [← found] at member
        cases member
      · rw [Function.update_of_ne same] at found
        cases bound id ⟨binding, found, member⟩
  | rebound same => cases bound id (holds_same same.bindings holds)
  | bound bindings =>
      rcases holds_update bindings holds with old | ⟨rfl, -⟩
      · cases bound id old
      · exact .inl rfl
  | @unbinds _ _ connection here bindings =>
      rcases holds_update bindings holds with old | ⟨rfl, binding, known, member⟩
      · obtain rfl := Option.some.inj ((bound id old).symm.trans here)
        obtain ⟨binding, found, member⟩ := holds
        rw [bindings, Function.update_self] at found
        obtain ⟨before, known, rfl⟩ := Option.map_eq_some_iff.mp found
        simp at member
      · simp at member
  | @unbound _ _ connection same here unheld =>
      obtain ⟨binding, known, member⟩ := holds_same same.bindings holds
      obtain rfl := Option.some.inj ((bound id ⟨binding, known, member⟩).symm.trans here)
      obtain ⟨found, present, rfl⟩ := Option.map_eq_some_iff.mp known
      rw [ClientInner.isBound, present, Option.any_some, decide_eq_false_iff_not] at unheld
      exact absurd member unheld
  | unregisters bindings receivers pools poolConnections nextPool nextConnection leaving same =>
      exact .inl (same.trans (bound id (holds_same bindings holds)))
  | abandons => exact .inr rfl

/-- A call removes no receiver but its own, and that only when it returns. -/
theorem receivers_cases (move : ResourceMove client after session pc onward) :
    after.receivers = client.receivers ∨
      (after.receivers = client.receivers.filter (· != session) ∧ onward.hasReturned = true ∧
        ((∃ error, pc = .unregistering error) ∨ ∃ connection, pc = .dropUnregistering connection)) := by
  cases move with
  | keeps same | locked same | rebound same | unbound same | abandons same => exact .inl same.receivers
  | pooled bindings receivers | retained bindings receivers | connected bindings receivers
  | bound bindings receivers | unbinds bound bindings receivers => exact .inl receivers
  | unregisters bindings receivers pools poolConnections nextPool nextConnection leaving bound idle
      returned => exact .inr ⟨receivers, returned, leaving⟩

/-- Receivers are only removed, and a call that fails has removed its own. -/
theorem receivers (move : ResourceMove client after session pc onward) :
    (∀ other ∈ after.receivers, other ∈ client.receivers) ∧
      (onward.hasFailed = true → session ∉ after.receivers) := by
  have kept : ∀ {later : OpenPc}, after.receivers = client.receivers → later.hasFailed = false →
      (∀ other ∈ after.receivers, other ∈ client.receivers) ∧
        (later.hasFailed = true → session ∉ after.receivers) := by
    intro later same unfailed
    rw [same, unfailed]
    exact ⟨fun _ member => member, by rintro ⟨⟩⟩
  cases move with
  | keeps same keeps => exact kept same.receivers keeps.unfailed
  | pooled bindings receivers => exact kept receivers rfl
  | locked same | rebound same => exact kept same.receivers rfl
  | retained bindings receivers pools poolConnections nextPool nextConnection keeps =>
      exact kept receivers keeps.unfailed
  | connected bindings receivers | bound bindings receivers => exact kept receivers rfl
  | unbinds bound bindings receivers pools poolConnections nextPool nextConnection free idle
      unfailed => exact kept receivers unfailed
  | unbound same bound unheld free idle unfailed => exact kept same.receivers unfailed
  | unregisters bindings receivers =>
      rw [receivers]
      exact ⟨fun _ member => (List.mem_filter.mp member).1, fun _ => by simp⟩
  | abandons same => exact kept same.receivers rfl

end ResourceMove

/-- Bound sets hold the Sessions of calls that say so, and a call that has failed
has no receiver. -/
structure Tidy (client : ClientInner) : Prop where
  bound : ∀ id session, client.Holds id session → ∃ call, client.calls session = some call ∧
    (call.pc.bound? = some id ∨ call.pc = .abandoned)
  unregistered : ∀ session call, client.calls session = some call → call.pc.hasFailed = true →
    session ∉ client.receivers

theorem phase_abandoned (here : pc.phase = .abandoned) : pc = .abandoned := by
  cases pc with
  | abandoned => rfl
  | unbinding target connection next | uncounting target connection next =>
      cases next <;> cases here
  | _ => cases here

theorem CallMove.abandoned (move : CallMove config client call next event entries)
    (here : call.pc = .abandoned) : next.pc = .abandoned := by
  cases move with
  | kept same move =>
      rw [here] at move
      generalize there : next.pc.phase = phase at move
      cases move with
      | stays | abandoned => exact phase_abandoned there
  | sent target connection ticket found sending => cases here.symm.trans sending
  | unacquired target acquiring =>
      rw [here] at acquiring
      cases acquiring
  | retried target error cleaning =>
      rw [here] at cleaning
      cases cleaning

namespace Tidy

theorem fresh : Tidy .fresh where
  bound := by rintro id session ⟨binding, ⟨⟩, -⟩
  unregistered := by rintro session call ⟨⟩

theorem openEffect (tidy : Tidy client) (found : client.calls session = some call)
    (effect : OpenEffect config client after session call next event) : Tidy after where
  bound id other holds := by
    rw [effect.calls]
    by_cases same : other = session
    · subst same
      rw [Function.update_self]
      refine ⟨next, rfl, ?_⟩
      by_cases gone : call.pc = .abandoned
      · exact .inr (effect.move.abandoned gone)
      · refine effect.resources.holds_own (fun id holds => ?_) holds
        obtain ⟨current, known, here⟩ := tidy.bound id other holds
        obtain rfl := Option.some.inj (found.symm.trans known)
        exact here.resolve_right gone
    · rw [Function.update_of_ne same]
      exact tidy.bound id other (effect.resources.holds_other same holds)
  unregistered other current known failed := by
    obtain ⟨removed, own⟩ := effect.resources.receivers
    rw [effect.calls] at known
    by_cases same : other = session
    · rw [same, Function.update_self, Option.some.injEq] at known
      exact same ▸ own (known ▸ failed)
    · rw [Function.update_of_ne same] at known
      exact fun member => tidy.unregistered other current known failed (removed other member)

theorem effect (tidy : Tidy client) {event : ClientEvent}
    (effect : ClientEffect config client after event) : Tidy after := by
  cases effect with
  | @begin begun address unknown calls cache receivers fades =>
      constructor
      · intro id other holds
        obtain ⟨current, known, here⟩ := tidy.bound id other (fades.holds holds)
        refine ⟨current, ?_, here⟩
        rw [calls, Function.update_of_ne]
        · exact known
        · rintro rfl
          cases unknown.symm.trans known
      · intro other current known failed member
        rw [calls] at known
        by_cases same : other = begun
        · rw [same, Function.update_self, Option.some.injEq] at known
          rw [← known] at failed
          cases failed
        · rw [Function.update_of_ne same] at known
          rw [receivers] at member
          rcases List.mem_append.mp member with earlier | new
          · exact tidy.unregistered other current known failed earlier
          · exact same (List.mem_singleton.mp new)
  | call found effect => exact tidy.openEffect found effect
  | other outside calls cache receivers fades =>
      constructor
      · rw [calls]
        exact fun id other holds => tidy.bound id other (fades.holds holds)
      · rw [calls]
        exact fun other current known failed member =>
          tidy.unregistered other current known failed (receivers other member)

theorem reachable (reach : (clientSystem config).Reachable client) : Tidy client := by
  refine invariant_of_step Tidy ?_ ?_ reach
  · rintro _ rfl
    exact fresh
  · intro before event after tidy _ stepped
    exact tidy.effect (ClientInner.step?_effect stepped)

end Tidy

/-! ## Selections and their failures -/

/-- What a placement attempt has selected. -/
def Target.placed (target : Target) : List PlacementMark :=
  if target.isPlacement then [.selected target.endpoint] else []

/-- Every selection but that of the current target has been given back. -/
def Placed (journal : List OpenEntry) (target : Target) : Prop :=
  ∃ marks, placementMarks journal = target.placed ++ marks ∧ RolledBack marks

/-- The current target has been sent a `SessionOpen`. -/
def SentTo (journal : List OpenEntry) (target : Target) : Prop :=
  ∃ connection earlier, journal = .sent connection target.endpoint :: earlier ∧
    Placed earlier target

/-- What has been given back at a phase of an iteration. -/
def MarksAt (journal : List OpenEntry) : Phase → Prop
  | .resolving | .listing | .failing | .failed => RolledBack (placementMarks journal)
  | .acquiring target | .trying target | .cleaning target _ | .exhausted target =>
      Placed journal target
  | .awaiting target => SentTo journal target
  | .opened => ∃ target, SentTo journal target
  | .abandoned => True

theorem SentTo.placed (sent : SentTo journal target) : Placed journal target := by
  obtain ⟨connection, earlier, rfl, placed⟩ := sent
  exact placed

theorem placed_live {endpoint : String} {identity : String × NodeSessionId}
    (rolledBack : RolledBack (placementMarks journal)) :
    Placed journal ⟨endpoint, some identity⟩ := ⟨_, rfl, rolledBack⟩

/-- Giving the current target back completes the selections. -/
theorem Placed.rollback (placed : Placed journal target) :
    RolledBack (placementMarks (target.rollback ++ journal)) := by
  obtain ⟨marks, same, rolledBack⟩ := placed
  obtain ⟨endpoint, _ | identity⟩ := target
  · have more : placementMarks (Target.rollback ⟨endpoint, none⟩ ++ journal) =
        .failed endpoint :: placementMarks journal := rfl
    rw [more, same]
    exact .pair endpoint rolledBack
  · have none : placementMarks (Target.rollback ⟨endpoint, some identity⟩ ++ journal) =
        placementMarks journal := rfl
    rw [none, same]
    exact rolledBack

theorem PhaseMove.marks {phase later : Phase}
    (move : PhaseMove config client call event phase later entries) (marks : MarksAt journal phase) :
    MarksAt (entries ++ journal) later := by
  cases move with
  | stays | attempts | exhausts | unlisted | unsent | failed => exact marks
  | closed connection => exact marks
  | live unfailed => exact placed_live marks
  | failedAgain | unresolved | unowned | unselected => exact marks
  | selected => exact ⟨_, rfl, marks⟩
  | opened => exact ⟨_, marks⟩
  | answered => exact marks.placed
  | gaveUp => exact marks.rollback
  | @lost target error | @repeats target left =>
      rw [List.append_assoc]
      exact @Placed.rollback (.ended target _ :: journal) target marks
  | abandoned => trivial

theorem marks_unacquired {entry : OpenEntry} (fails : Fails target entry)
    (placed : Placed journal target) :
    MarksAt ((target.rollback ++ [entry]) ++ journal) (call.unacquired target).pc.phase := by
  rw [ClientInner.unacquired_pc, List.append_assoc]
  refine @Placed.rollback ([entry] ++ journal) target ?_
  rcases fails with rfl | rfl | ⟨rfl, -⟩ <;> exact placed

theorem CallMove.marks (move : CallMove config client call next event entries)
    (leads : ∀ target connection ticket, call.pc = .sending target connection ticket →
      client.LeadsTo connection target.endpoint)
    (marks : MarksAt journal call.pc.phase) : MarksAt (entries ++ journal) next.pc.phase := by
  cases move with
  | kept same move => exact move.marks marks
  | sent target connection ticket found here there present attempts excluded failedLiveOwner noted =>
      obtain ⟨binding, bound, endpoint⟩ := leads target connection ticket here
      have same : found.endpoint = target.endpoint := by
        rw [ClientInner.bindings, present, Option.map_some, Option.some.injEq] at bound
        rw [← endpoint, ← bound]
        rfl
      rw [here] at marks
      rw [there, noted, same]
      exact ⟨connection, journal, rfl, marks⟩
  | unacquired target here onward noted =>
      rw [here] at marks
      rw [noted, onward]
      exact marks_unacquired (.inl rfl) marks
  | retried target error here retries left onward noted =>
      rw [here] at marks
      rw [noted, onward]
      refine marks_unacquired ?_ marks
      rcases retries with rfl | ⟨rfl, placement⟩
      · exact .inr (.inl rfl)
      · exact .inr (.inr ⟨rfl, placement⟩)

/-- The answers of the store mark nothing. -/
theorem placementMarks_answers (answers : ∀ entry ∈ entries, entry.isAnswer = true) :
    placementMarks (entries ++ journal) = placementMarks journal := by
  induction entries with
  | nil => rfl
  | cons entry entries ih =>
      rw [← ih fun other member => answers other (.tail _ member)]
      have first := answers entry List.mem_cons_self
      cases entry with
      | answered | directory => rfl
      | _ => cases first

theorem marks_heard {state : Journaled} {pc : OpenPc} (marks : MarksAt journal pc.phase) :
    MarksAt (state.heard pc event ++ journal) pc.phase := by
  obtain ⟨answers, silent | here | here⟩ := heard_cases state pc event
  · rwa [silent]
  · rw [here] at marks ⊢
    exact (congrArg RolledBack (placementMarks_answers answers)).mpr marks
  · rw [here] at marks ⊢
    exact (congrArg RolledBack (placementMarks_answers answers)).mpr marks

theorem marks_of_reachable {state : Journaled} (reach : (journaledSystem config).Reachable state) :
    ∀ session call, state.client.calls session = some call →
      MarksAt (state.journal session) call.pc.phase := by
  refine (calls_of_moves (fun journal call => MarksAt journal call.pc.phase) ?_ ?_ reach).1
  · exact fun address => .nil
  · intro before middle session call next event earlier met found step effect marks
    exact effect.move.marks (fun _ _ _ => (PoolsOk.reachable (client_of_journaled earlier)).leadsTo
      found) (marks_heard marks)

/-! ## Failed and successful calls -/

/-- A call of `open` that has returned an error is in no bound set, has no pending
open and no receiver, and has given back each of its selections once; one that
has returned a Session has given back all but the one it was sent to. -/
theorem failed_open_leaves_no_residue {state : Journaled}
    (reach : (journaledSystem config).Reachable state)
    (known : state.client.calls session = some call) :
    (∀ error, call.pc = .failed error →
      (∀ id connection, state.client.connections id = some connection →
        session ∉ connection.sessions) ∧
      state.client.pendingOpens session = none ∧ session ∉ state.client.receivers ∧
      RolledBack (placementMarks (state.journal session))) ∧
    ∀ connection, call.pc = .opened connection →
      ∃ (target : Target) (sentOn : Nat) (earlier : List OpenEntry) (marks : List PlacementMark),
      state.journal session = .sent sentOn target.endpoint :: earlier ∧
      placementMarks earlier = target.placed ++ marks ∧ RolledBack marks := by
  have tidy := Tidy.reachable (client_of_journaled reach)
  have marks := marks_of_reachable reach session call known
  constructor
  · intro error here
    refine ⟨fun id connection found member => ?_, ?_, ?_, ?_⟩
    · obtain ⟨current, known', bound⟩ := tidy.bound id session
        ⟨connection.binding, congrArg (Option.map TransportConnection.binding) found, member⟩
      obtain rfl := Option.some.inj (known.symm.trans known')
      rw [here] at bound
      rcases bound with none | gone
      · cases none
      · cases gone
    · cases pending : state.client.pendingOpens session with
      | none => rfl
      | some entry =>
          obtain ⟨current, known', mayPend⟩ :=
            (PendingOk.reachable (client_of_journaled reach)).pending session entry pending
          obtain rfl := Option.some.inj (known.symm.trans known')
          rw [here] at mayPend
          exact mayPend.elim
    · exact tidy.unregistered session call known (by rw [here]; rfl)
    · rw [here] at marks
      exact marks
  · intro connection here
    rw [here] at marks
    obtain ⟨target, sentOn, earlier, sent, marks, same, rolledBack⟩ := marks
    exact ⟨target, sentOn, earlier, marks, sent, same, rolledBack⟩

/-- The only candidate is at capacity and there is no other one. -/
def fullServer : List ClientEvent :=
  .begin ⟨7⟩ cartAddress :: placed [shop "node-a" "host-a"] ["host-a"] ++
    [.call ⟨7⟩ .connected] ++ .replicate 6 (.call ⟨7⟩ .advance) ++
    [.loop 1 (.receive ⟨some 0, some ⟨7⟩,
      some (.sessionOpenedAck (some (.failure (toWire .runtimeAtCapacity))))⟩),
      .loop 1 .advance, .loop 1 .advance] ++ .replicate 6 (.call ⟨7⟩ .advance) ++
    [.call ⟨7⟩ (.reply (.owner (.ok none))),
      .call ⟨7⟩ (.nodes [shop "node-a" "host-a"] ["host-a"])] ++
    .replicate 2 (.call ⟨7⟩ .advance)

theorem full_server_leaves_no_residue :
    ∃ state call, (journaledSystem storefront).Reachable state ∧
      state.client.calls ⟨7⟩ = some call ∧ call.pc = .failed .runtimeAtCapacity ∧
      placementMarks (state.journal ⟨7⟩) = [.failed "host-a", .selected "host-a"] ∧
      state.client.pendingOpens ⟨7⟩ = none ∧ ⟨7⟩ ∉ state.client.receivers ∧
      RolledBack (placementMarks (state.journal ⟨7⟩)) := by
  have reach := @reachable_of_run? _ _ (journaledSystem storefront) .fresh _ fullServer rfl rfl
  exact ⟨_, _, reach, rfl, rfl, rfl,
    ((failed_open_leaves_no_residue reach rfl).1 .runtimeAtCapacity rfl).2⟩

end Coactor.Client
