import Coactor.Coordination.NodeSession
import Coactor.Foundation.Transition

/-!
# When lost Node authority comes back

One Node Session is run against an arbitrary clock and arbitrary answers of the
store.  Its authority changes in two places only: a granted renewal moves the
deadline, and fencing lowers the flag.  The first of them does not look at the
old deadline.
-/

namespace Coactor.Coordination.AuthorityLoss

open Coactor.Foundation.Transition

/-- One Node Session and the clock it reads. -/
structure TimedSession where
  now : Nat
  session : NodeSession
  deriving DecidableEq, Repr

inductive TimedLabel where
  | tick (elapsed : Nat)
  | input (input : LeaseInput)
  deriving DecidableEq, Repr

namespace TimedSession

def valid (state : TimedSession) : Bool := state.session.authorityValid state.now

def step? (sessionId : NodeSessionId) (state : TimedSession) :
    TimedLabel → Option TimedSession
  | .tick elapsed => some { state with now := state.now + elapsed }
  | .input input =>
      (state.session.step? sessionId state.now input).map fun session =>
        { state with session := session }

end TimedSession

/-- Every run of one Node Session, from an unstarted one at any instant. -/
def timedSystem (sessionId : NodeSessionId) (config : ServerRuntimeConfig) :
    System TimedSession TimedLabel where
  initial := fun state => state.session = .fresh config
  step? := TimedSession.step? sessionId

variable {sessionId : NodeSessionId} {config : ServerRuntimeConfig}

/-! ## The two changes of the authority -/

/-- A step leaves a constructed authority alone, renews it from a granted
operation, or fences it. -/
theorem step?_authority {now : Nat} {session after : NodeSession} {input : LeaseInput}
    {authority : NodeAuthority} (constructed : session.authority = some authority)
    (stepped : session.step? sessionId now input = some after) :
    after.authority = some authority ∨
      (∃ node next started, session.phase = .granted node next started ∧ input = .advance ∧
        after.authority = some (authority.renew started)) ∨
      (∃ node revision, after.authority = some authority.fence ∧
        after.phase = .fencing node revision) := by
  simp only [NodeSession.step?, constructed] at stepped
  split at stepped
  · rename_i node revision hphase
    cases input <;> simp only [NodeSession.startStep, hphase, reduceCtorEq] at stepped
    split at stepped <;> cases stepped <;> exact .inl constructed
  · simp only [NodeSession.renewalStep] at stepped
    split at stepped
    case h_15 node next started hphase =>
      cases stepped
      exact .inr (.inl ⟨node, next, started, hphase, rfl, rfl⟩)
    case h_17 node revision hphase =>
      cases stepped
      exact .inr (.inr ⟨node, revision, rfl, rfl⟩)
    all_goals first
      | (cases stepped; done)
      | (cases stepped; exact .inl constructed)
      | (split at stepped <;> cases stepped <;> exact .inl constructed)

/-- A session without authority constructs one for the operation it has acquired
its lease with, and with its flag up. -/
theorem step?_constructs {now : Nat} {session after : NodeSession} {input : LeaseInput}
    (missing : session.authority = none)
    (stepped : session.step? sessionId now input = some after) :
    after.authority = none ∨ ∃ node started revision,
      session.phase = .acquired node started revision ∧
        after.authority = some (.new started session.config.nodeLeaseTtl) := by
  simp only [NodeSession.step?, missing, NodeSession.startStep] at stepped
  split at stepped
  case h_14 node started revision hphase =>
    cases stepped
    exact .inr ⟨node, started, revision, hphase, rfl⟩
  all_goals first
    | (cases stepped; done)
    | (cases stepped; exact .inl missing)
    | (split at stepped <;> cases stepped <;> exact .inl missing)

/-- The flag is down only on the way out of the renewal loop. -/
def FlagDownLeaves (session : NodeSession) : Prop :=
  ∀ authority, session.authority = some authority → authority.valid = false →
    (∃ node revision, session.phase = .fencing node revision) ∨
      ∃ node revision, session.phase = .exited node revision false

theorem step?_flagDownLeaves {now : Nat} {session after : NodeSession} {input : LeaseInput}
    (leaves : FlagDownLeaves session)
    (stepped : session.step? sessionId now input = some after) : FlagDownLeaves after := by
  intro authority constructed down
  cases before : session.authority with
  | none =>
      rcases step?_constructs before stepped with missing | ⟨_, started, _, -, made⟩
      · rw [missing] at constructed
        cases constructed
      · rw [made] at constructed
        cases constructed
        cases down
  | some old =>
      rcases step?_authority before stepped with same | ⟨node, next, started, hphase, -, renewed⟩ |
        ⟨node, revision, -, hphase⟩
      · rw [same] at constructed
        cases constructed
        rcases leaves authority before down with ⟨node, revision, hphase⟩ | ⟨node, revision, hphase⟩
        · cases input <;>
            simp [NodeSession.step?, before, hphase, NodeSession.renewalStep] at stepped
          subst stepped
          exact .inr ⟨node, revision, rfl⟩
        · cases input <;>
            simp [NodeSession.step?, before, hphase, NodeSession.renewalStep] at stepped
      · rw [renewed] at constructed
        cases constructed
        rcases leaves old before down with ⟨_, _, other⟩ | ⟨_, _, other⟩ <;>
          rw [hphase] at other <;> cases other
      · exact .inl ⟨node, revision, hphase⟩

theorem flagDownLeaves_of_reachable {state : TimedSession}
    (reach : (timedSystem sessionId config).Reachable state) :
    FlagDownLeaves state.session := by
  refine invariant_of_step (fun state => FlagDownLeaves state.session) ?_ ?_ reach
  · intro start initial authority constructed
    rw [initial] at constructed
    cases constructed
  · intro before label after leaves _ stepped
    cases label with
    | tick elapsed =>
        cases stepped
        exact leaves
    | input input =>
        obtain ⟨session, moved, rfl⟩ := Option.map_eq_some_iff.mp stepped
        exact step?_flagDownLeaves leaves moved

/-! ## Timely renewals -/

/-- A granted renewal is taken up before the deadline it extends, or only when
the deadline it would set has passed as well. -/
def Timely (state : TimedSession) (label : TimedLabel) : Prop :=
  ∀ node next started authority, state.session.phase = .granted node next started →
    state.session.authority = some authority → label = .input .advance →
    state.now < authority.deadline ∨ started + authority.ttl ≤ state.now

/-- Along this interleaving an authority that is once invalid stays invalid. -/
def LossIsFinal (system : System TimedSession TimedLabel) (start : TimedSession)
    (labels : List TimedLabel) : Prop :=
  ∀ first second third before after, labels = first ++ second ++ third →
    system.run? start first = some before → system.run? before second = some after →
    before.session.authority ≠ none → before.valid = false → after.valid = false

theorem valid_eq_false_iff (state : TimedSession) {authority : NodeAuthority}
    (constructed : state.session.authority = some authority) :
    state.valid = false ↔ ¬ (authority.valid = true ∧ state.now < authority.deadline) := by
  rw [← NodeAuthority.isValid_iff, Bool.not_eq_true]
  simp [TimedSession.valid, NodeSession.authorityValid, constructed]

/-- One timely step keeps a lost authority lost. -/
theorem step?_keeps_loss {before after : TimedSession} {label : TimedLabel}
    (timely : Timely before label) (stepped : before.step? sessionId label = some after)
    {authority : NodeAuthority} (constructed : before.session.authority = some authority)
    (lost : before.valid = false) :
    after.session.authority ≠ none ∧ after.valid = false := by
  have gone := (valid_eq_false_iff before constructed).mp lost
  cases label with
  | tick elapsed =>
      cases stepped
      refine ⟨by simp [constructed], ?_⟩
      refine (valid_eq_false_iff { before with now := before.now + elapsed } constructed).mpr ?_
      exact fun valid => gone ⟨valid.1, Nat.lt_of_le_of_lt (Nat.le_add_right _ _) valid.2⟩
  | input input =>
      obtain ⟨session, moved, rfl⟩ := Option.map_eq_some_iff.mp stepped
      rcases step?_authority constructed moved with
        same | ⟨node, next, started, hphase, rfl, renewed⟩ | ⟨_, _, fenced, -⟩
      · exact ⟨by simp [same], (valid_eq_false_iff _ same).mpr gone⟩
      · refine ⟨by simp [renewed], (valid_eq_false_iff _ renewed).mpr ?_⟩
        rintro ⟨flag, early⟩
        rcases timely node next started authority hphase constructed rfl with inTime | tooLate
        · exact gone ⟨flag, inTime⟩
        · exact Nat.not_lt.mpr tooLate early
      · refine ⟨by simp [fenced], (valid_eq_false_iff _ fenced).mpr ?_⟩
        rintro ⟨flag, -⟩
        cases flag

theorem run?_keeps_loss {before after : TimedSession} {labels : List TimedLabel}
    (timely : (timedSystem sessionId config).Meets Timely before labels)
    (run : (timedSystem sessionId config).run? before labels = some after)
    (constructed : before.session.authority ≠ none) (lost : before.valid = false) :
    after.valid = false := by
  induction labels generalizing before with
  | nil =>
      cases run
      exact lost
  | cons label labels ih =>
      obtain ⟨next, stepped, rest⟩ := run?_cons run
      obtain ⟨authority, found⟩ := Option.ne_none_iff_exists'.mp constructed
      obtain ⟨stays, stillLost⟩ := step?_keeps_loss timely.1 stepped found lost
      exact ih (timely.2 next stepped) rest stays stillLost

/-- A step that is not timely revives a lost authority. -/
theorem revives_of_not_timely {before after : TimedSession} {label : TimedLabel}
    (reach : (timedSystem sessionId config).Reachable before)
    (late : ¬ Timely before label) (stepped : before.step? sessionId label = some after) :
    before.session.authority ≠ none ∧ before.valid = false ∧ after.valid = true := by
  simp only [Timely, not_forall, not_or, Nat.not_lt, Nat.not_le] at late
  obtain ⟨node, next, started, authority, hphase, constructed, rfl, past, early⟩ := late
  have flag : authority.valid = true := by
    by_contra down
    rcases flagDownLeaves_of_reachable reach authority constructed
      (Bool.eq_false_iff.mpr down) with ⟨_, _, other⟩ | ⟨_, _, other⟩ <;>
      rw [hphase] at other <;> cases other
  have moved : after = { before with
      session := { before.session with
        authority := some (authority.renew started)
        phase := .sleeping node next } } := by
    simpa [TimedSession.step?, NodeSession.step?, constructed, hphase,
      NodeSession.renewalStep] using stepped.symm
  refine ⟨by simp [constructed], ?_, ?_⟩
  · exact (valid_eq_false_iff _ constructed).mpr fun valid => Nat.not_lt.mpr past valid.2
  · subst moved
    rw [← Bool.not_eq_false, valid_eq_false_iff _ rfl, not_not]
    exact ⟨flag, early⟩

theorem meets_of_lossIsFinal {start middle final : TimedSession} (first rest : List TimedLabel)
    (initial : (timedSystem sessionId config).initial start)
    (isFinal : LossIsFinal (timedSystem sessionId config) start (first ++ rest))
    (ran : (timedSystem sessionId config).run? start first = some middle)
    (run : (timedSystem sessionId config).run? middle rest = some final) :
    (timedSystem sessionId config).Meets Timely middle rest := by
  induction rest generalizing first middle with
  | nil => trivial
  | cons label rest ih =>
      obtain ⟨next, stepped, remaining⟩ := run?_cons run
      have single : (timedSystem sessionId config).run? middle [label] = some next := by
        simp [System.run?, stepped]
      have ranNext : (timedSystem sessionId config).run? start (first ++ [label]) = some next := by
        rw [run?_append, ran]
        exact single
      have meets := ih (first ++ [label]) (by simpa using isFinal) ranNext remaining
      refine ⟨?_, fun other taken => ?_⟩
      · by_contra late
        obtain ⟨constructed, lost, revived⟩ :=
          revives_of_not_timely (reachable_of_run? initial ran) late stepped
        have stays := isFinal first [label] rest middle next (by simp) ran single constructed lost
        rw [stays] at revived
        cases revived
      · rw [stepped] at taken
        cases taken
        exact meets

/-- Lost authority stays lost along a run exactly when every granted renewal of
that run is taken up in time. -/
theorem authority_loss_is_final_iff {start final : TimedSession} {labels : List TimedLabel}
    (initial : (timedSystem sessionId config).initial start)
    (run : (timedSystem sessionId config).run? start labels = some final) :
    LossIsFinal (timedSystem sessionId config) start labels ↔
      (timedSystem sessionId config).Meets Timely start labels := by
  constructor
  · intro isFinal
    exact meets_of_lossIsFinal [] labels initial isFinal rfl run
  · rintro meets first second third before after rfl ran continued constructed lost
    exact run?_keeps_loss (meets_right (meets_left meets) ran) continued constructed lost

/-! ## A renewal answered after its deadline -/

/-- A session with a lease of ten units. -/
def tenUnits : TimedSession where
  now := 0
  session := .fresh ⟨"node-a", "node-a:1", 10, 8⟩

/-- Start, begin a renewal at instant 5, and see its `Applied` answer at 12. -/
def lateAnswer : List TimedLabel :=
  [.input .advance, .input .advance, .input (.found (.ok none)), .input .advance,
    .input (.issued 0), .input (.outcome (.ok (.applied ⟨"r0"⟩))), .input .advance,
    .input .advance, .tick 5, .input .advance, .input .advance, .input .advance,
    .input (.sample ⟨8, 8, true⟩), .input .advance, .input (.issued 1), .tick 7,
    .input (.outcome (.ok (.applied ⟨"r1"⟩)))]

/-- At instant 12 the authority has expired at 10, and taking up the answer
makes it valid again until 15. -/
theorem late_answer_revives_authority :
    ((timedSystem ⟨"a-1"⟩ ⟨"node-a", "node-a:1", 10, 8⟩).run? tenUnits
        (lateAnswer ++ [.input .advance])).isSome = true ∧
      ¬ LossIsFinal (timedSystem ⟨"a-1"⟩ ⟨"node-a", "node-a:1", 10, 8⟩) tenUnits
        (lateAnswer ++ [.input .advance]) := by
  refine ⟨by decide, fun isFinal => ?_⟩
  have revived := isFinal lateAnswer [.input .advance] [] _ _ (by simp) rfl rfl
    (by decide) (by decide)
  revert revived
  decide

/-- The run with the late answer is executable and is not a timely one. -/
theorem late_answer_is_not_timely :
    ¬ (timedSystem ⟨"a-1"⟩ ⟨"node-a", "node-a:1", 10, 8⟩).Meets Timely tenUnits
      (lateAnswer ++ [.input .advance]) := by
  intro meets
  have initial : (timedSystem ⟨"a-1"⟩ ⟨"node-a", "node-a:1", 10, 8⟩).initial tenUnits := rfl
  have isFinal := (authority_loss_is_final_iff initial rfl).mpr meets
  have revived := isFinal lateAnswer [.input .advance] [] _ _ (by simp) rfl rfl
    (by decide) (by decide)
  revert revived
  decide

end Coactor.Coordination.AuthorityLoss
