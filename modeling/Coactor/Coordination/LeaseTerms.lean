import Coactor.Coordination.AuthorityLoss
import Coactor.Coordination.LeaseSystem

/-!
# The instants a deadline is counted from

Every deadline of a session is counted from an instant that its phase has kept
since the operation began.  When all instants and TTLs are whole milliseconds,
so are the deadlines, and cutting them off to milliseconds loses nothing.
-/

namespace Coactor.Coordination

open Coactor.Foundation.Transition

/-- The instant a phase keeps for the deadline it may lead to. -/
def LeasePhase.started? : LeasePhase → Option Nat
  | .acquiring _ started => some started
  | .inspected _ started _ => some started
  | .putting _ started _ => some started
  | .awaitingAcquire _ started _ => some started
  | .confirmingStart _ started _ => some started
  | .readingStart _ started _ => some started
  | .acquired _ started _ => some started
  | .begun _ _ started => some started
  | .sampled _ _ started => some started
  | .renewing _ _ started => some started
  | .awaitingRenewal _ _ started _ => some started
  | .confirming _ _ started _ _ => some started
  | .reading _ _ started _ _ => some started
  | .granted _ _ started => some started
  | _ => none

variable {id : NodeSessionId} {now : Nat} {session after : NodeSession} {input : LeaseInput}

/-- An instant that a phase keeps was kept before, or is the present one: of an
acquisition that begins, or of a renewal. -/
theorem step?_started (stepped : session.step? id now input = some after) {started : Nat}
    (kept : after.phase.started? = some started) :
    session.phase.started? = some started ∨
      started = now ∧ (session.authority = none → ∃ node, session.phase = .drafted node) := by
  simp only [NodeSession.step?] at stepped
  split at stepped
  · unfold NodeSession.startStep at stepped
    split at stepped
    all_goals
      (try split at stepped) <;> cases stepped <;>
        simp_all [LeasePhase.started?]
  · split at stepped
    · unfold NodeSession.startStep at stepped
      split at stepped
      all_goals
        (try split at stepped) <;> cases stepped <;>
          simp_all [LeasePhase.started?]
    · unfold NodeSession.renewalStep at stepped
      split at stepped
      all_goals
        (try split at stepped) <;> cases stepped <;>
          simp_all [LeasePhase.started?]

/-- A deadline was there before, or is counted from the instant of the phase. -/
theorem step?_deadline (stepped : session.step? id now input = some after)
    {authority : NodeAuthority} (constructed : after.authority = some authority) :
    (∃ earlier, session.authority = some earlier ∧
      authority.deadline = earlier.deadline) ∨
    ∃ started, session.phase.started? = some started ∧
      authority.deadline = started + authority.ttl := by
  cases before : session.authority with
  | none =>
      rcases AuthorityLoss.step?_constructs before stepped with
        missing | ⟨node, started, revision, hphase, made⟩
      · rw [missing] at constructed
        cases constructed
      · rw [made] at constructed
        cases constructed
        exact .inr ⟨started, by rw [hphase]; rfl, rfl⟩
  | some earlier =>
      rcases AuthorityLoss.step?_authority before stepped with
        same | ⟨node, next, started, hphase, -, renewed⟩ | ⟨node, revision, fenced, -⟩
      · rw [same] at constructed
        cases constructed
        exact .inl ⟨authority, rfl, rfl⟩
      · rw [renewed] at constructed
        cases constructed
        exact .inr ⟨started, by rw [hphase]; rfl, rfl⟩
      · rw [fenced] at constructed
        cases constructed
        exact .inl ⟨earlier, rfl, rfl⟩

/-! ## Whole milliseconds -/

/-- An instant or a TTL is a whole number of milliseconds. -/
def WholeMillis (nanos : Nat) : Prop := nanosPerMilli ∣ nanos

instance (nanos : Nat) : Decidable (WholeMillis nanos) :=
  inferInstanceAs (Decidable (nanosPerMilli ∣ nanos))

theorem WholeMillis.add {first second : Nat} (one : WholeMillis first)
    (two : WholeMillis second) : WholeMillis (first + second) :=
  Nat.dvd_add one two

/-- Whole milliseconds before a deadline leave a millisecond before its floor. -/
theorem WholeMillis.div_lt {now deadline : Nat} (whole : WholeMillis deadline)
    (early : now < deadline) : now / nanosPerMilli < deadline / nanosPerMilli := by
  obtain ⟨millis, rfl⟩ := whole
  rw [Nat.mul_div_cancel_left millis (by decide)]
  exact Nat.div_lt_of_lt_mul early

theorem WholeMillis.div_add {ttl : Nat} (whole : WholeMillis ttl) (started : Nat) :
    (started + ttl) / nanosPerMilli = started / nanosPerMilli + ttl / nanosPerMilli := by
  obtain ⟨millis, rfl⟩ := whole
  rw [Nat.add_mul_div_left started millis (by decide), Nat.mul_div_cancel_left millis (by decide)]

/-- The deadline of a session and the instant its phase keeps are whole. -/
structure WholeSession (session : NodeSession) : Prop where
  started : ∀ started, session.phase.started? = some started → WholeMillis started
  deadline : ∀ authority, session.authority = some authority → WholeMillis authority.deadline

theorem wholeSession_fresh (config : ServerRuntimeConfig) : WholeSession (.fresh config) where
  started := by rintro started ⟨⟩
  deadline := by rintro authority ⟨⟩

/-- A step at a whole instant keeps a session whole, if its TTL is. -/
theorem WholeSession.step? (ok : WholeSession session) (instant : WholeMillis now)
    (term : ∀ authority, after.authority = some authority → WholeMillis authority.ttl)
    (stepped : session.step? id now input = some after) : WholeSession after where
  started := by
    intro started kept
    rcases step?_started stepped kept with earlier | ⟨rfl, -⟩
    · exact ok.started started earlier
    · exact instant
  deadline := by
    intro authority constructed
    rcases step?_deadline stepped constructed with ⟨earlier, held, same⟩ | ⟨started, kept, counted⟩
    · rw [same]
      exact ok.deadline earlier held
    · rw [counted]
      exact (ok.started started kept).add (term authority constructed)

end Coactor.Coordination
