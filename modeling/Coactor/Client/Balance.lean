import Coactor.Client.Placement
import Mathlib.Algebra.Order.Field.Rat
import Mathlib.Tactic.GCongr
import Mathlib.Tactic.Linarith

/-!
# Two candidates are loaded greedily

With two candidates every pick sees both, so with exact Load Ratios it takes the
one with the lower predicted ratio, whatever the random source yields.
-/

namespace Coactor.Client

open Coactor.Foundation.Transition

/-! ## Exact ratios -/

/-- `predicted_ratio` without rounding. -/
def exactRatio (load : PredictedLoad) : ℚ :=
  ((load.activeActorCount : ℚ) + load.extra) / load.maxActorCount

def lowerExactly : LowerRatio := fun left right => decide (exactRatio left < exactRatio right)

/-- The Load Ratio of a candidate with some placements in flight. -/
def PlacementCandidate.loadWith (candidate : PlacementCandidate) (inFlight : ℚ) : ℚ :=
  (candidate.activeActorCount + inFlight) / candidate.maxActorCount

/-- Every pick in flight went to the candidate that was not the more loaded one
at that time. -/
structure Balanced (left right : PlacementCandidate) (picks : Nat) (inFlight : InFlightMap) :
    Prop where
  total : inFlight.extra left.endpoint + inFlight.extra right.endpoint = picks
  greedyLeft : 0 < inFlight.extra left.endpoint →
    left.loadWith (inFlight.extra left.endpoint - 1) ≤
      right.loadWith (inFlight.extra right.endpoint)
  greedyRight : 0 < inFlight.extra right.endpoint →
    right.loadWith (inFlight.extra right.endpoint - 1) ≤
      left.loadWith (inFlight.extra left.endpoint)

/-- No counter is older than some moment. -/
def StartedFrom (start : Nat) (inFlight : InFlightMap) : Prop :=
  ∀ endpoint entry, inFlight endpoint = some entry → start ≤ entry.updated

variable {left right : PlacementCandidate} {picks start now : Nat} {inFlight : InFlightMap}

theorem extra_count_self (endpoint : String) :
    (inFlight.count endpoint now).extra endpoint = inFlight.extra endpoint + 1 := by
  rw [InFlightMap.count, InFlightMap.extra, Function.update_self, Option.elim_some]

theorem extra_count_of_ne {endpoint other : String} (apart : other ≠ endpoint) :
    (inFlight.count endpoint now).extra other = inFlight.extra other := by
  rw [InFlightMap.count, InFlightMap.extra, Function.update_of_ne apart, InFlightMap.extra]

theorem retain_of_startedFrom (started : StartedFrom start inFlight)
    (recent : now - start < inFlightTtl) : inFlight.retain now = inFlight := by
  funext endpoint
  rw [InFlightMap.retain]
  cases here : inFlight endpoint with
  | none => rfl
  | some entry =>
      have since := started endpoint entry here
      rw [Option.filter_some, if_pos]
      rw [decide_eq_true_eq]
      omega

theorem startedFrom_count (started : StartedFrom start inFlight) (later : start ≤ now)
    (endpoint : String) : StartedFrom start (inFlight.count endpoint now) := by
  intro other entry here
  by_cases same : other = endpoint
  · rw [same, InFlightMap.count, Function.update_self] at here
    obtain rfl := Option.some.inj here
    exact later
  · rw [InFlightMap.count, Function.update_of_ne same] at here
    exact started other entry here

namespace Balanced

theorem symm (balanced : Balanced left right picks inFlight) :
    Balanced right left picks inFlight where
  total := by rw [Nat.add_comm, balanced.total]
  greedyLeft := balanced.greedyRight
  greedyRight := balanced.greedyLeft

/-- A pick of the less loaded candidate keeps the balance. -/
theorem count (balanced : Balanced left right picks inFlight)
    (apart : right.endpoint ≠ left.endpoint)
    (lower : left.loadWith (inFlight.extra left.endpoint) ≤
      right.loadWith (inFlight.extra right.endpoint)) :
    Balanced left right (picks + 1) (inFlight.count left.endpoint now) := by
  constructor
  · rw [extra_count_self, extra_count_of_ne apart, ← balanced.total]
    omega
  · intro _
    rw [extra_count_self, extra_count_of_ne apart, Nat.cast_succ, add_sub_cancel_right]
    exact lower
  · rw [extra_count_self, extra_count_of_ne apart]
    intro counted
    calc right.loadWith (inFlight.extra right.endpoint - 1)
        ≤ left.loadWith (inFlight.extra left.endpoint) := balanced.greedyRight counted
      _ ≤ left.loadWith (inFlight.extra left.endpoint + 1 : ℕ) := by
          unfold PlacementCandidate.loadWith
          gcongr
          omega

/-- Equally loaded candidates of one size differ by at most one pick. -/
theorem le_succ (balanced : Balanced left right picks inFlight)
    (sized : 1 ≤ left.maxActorCount) (loads : left.activeActorCount = right.activeActorCount)
    (sizes : left.maxActorCount = right.maxActorCount) :
    inFlight.extra left.endpoint ≤ inFlight.extra right.endpoint + 1 := by
  rcases Nat.eq_zero_or_pos (inFlight.extra left.endpoint) with none | counted
  · omega
  · have greedy := balanced.greedyLeft counted
    unfold PlacementCandidate.loadWith at greedy
    have positive : (0 : ℚ) < right.maxActorCount := by
      rw [← sizes]
      exact_mod_cast sized
    rw [loads, sizes, div_le_div_iff_of_pos_right positive] at greedy
    have counts : (inFlight.extra left.endpoint : ℚ) ≤ inFlight.extra right.endpoint + 1 := by
      linarith
    exact_mod_cast counts

end Balanced

/-! ## Picks -/

theorem exactRatio_predicted {candidate : PlacementCandidate} (sized : 1 ≤ candidate.maxActorCount) :
    exactRatio (inFlight.predicted candidate) =
      candidate.loadWith (inFlight.extra candidate.endpoint) := by
  simp only [exactRatio, InFlightMap.predicted, PlacementCandidate.loadWith, Nat.max_eq_left sized]

/-- Whatever the samples, the target is not the more loaded of two candidates. -/
theorem balanced_pick {placement after : P2cPlacement} {order : List String}
    (balanced : Balanced left right picks placement.inFlight)
    (apart : left.endpoint ≠ right.endpoint) (leftSized : 1 ≤ left.maxActorCount)
    (rightSized : 1 ≤ right.maxActorCount) (started : StartedFrom start placement.inFlight)
    (later : start ≤ now) (recent : now - start < inFlightTtl)
    (picked : placement.pick lowerExactly [left, right] now = some (order, after)) :
    Balanced left right (picks + 1) after.inFlight ∧ StartedFrom start after.inFlight := by
  rcases pick_eq_some picked with ⟨⟨⟩, -⟩ |
    ⟨first, second, one, other, target, isFirst, isSecond, differ, chosen, -, counted⟩
  rw [retain_of_startedFrom started recent] at chosen counted
  rw [counted]
  refine ⟨?_, startedFrom_count started later _⟩
  have both : one = left ∧ other = right ∨ one = right ∧ other = left := by
    have differs : second ≠ first := differ (by simp)
    have firstBelow : first < 2 := (List.getElem?_eq_some_iff.mp isFirst).1
    have secondBelow : second < 2 := (List.getElem?_eq_some_iff.mp isSecond).1
    obtain ⟨rfl, rfl⟩ | ⟨rfl, rfl⟩ : first = 0 ∧ second = 1 ∨ first = 1 ∧ second = 0 := by omega
    · exact .inl ⟨(Option.some.inj isFirst).symm, (Option.some.inj isSecond).symm⟩
    · exact .inr ⟨(Option.some.inj isFirst).symm, (Option.some.inj isSecond).symm⟩
  have ratios : ∀ {candidate : PlacementCandidate}, candidate = left ∨ candidate = right →
      exactRatio (placement.inFlight.predicted candidate) =
        candidate.loadWith (placement.inFlight.extra candidate.endpoint) := by
    rintro candidate (rfl | rfl)
    · exact exactRatio_predicted leftSized
    · exact exactRatio_predicted rightSized
  have least : target = left ∧ left.loadWith (placement.inFlight.extra left.endpoint) ≤
        right.loadWith (placement.inFlight.extra right.endpoint) ∨
      target = right ∧ right.loadWith (placement.inFlight.extra right.endpoint) ≤
        left.loadWith (placement.inFlight.extra left.endpoint) := by
    rw [chosen]
    simp only [sortPair, lowerExactly, decide_eq_true_eq]
    rcases both with ⟨rfl, rfl⟩ | ⟨rfl, rfl⟩
    · rw [ratios (.inl rfl), ratios (.inr rfl)]
      split
      · rename_i lower
        exact .inr ⟨rfl, lower.le⟩
      · rename_i lower
        exact .inl ⟨rfl, not_lt.mp lower⟩
    · rw [ratios (.inl rfl), ratios (.inr rfl)]
      split
      · rename_i lower
        exact .inl ⟨rfl, lower.le⟩
      · rename_i lower
        exact .inr ⟨rfl, not_lt.mp lower⟩
  rcases least with ⟨rfl, lower⟩ | ⟨rfl, lower⟩
  · exact balanced.count (Ne.symm apart) lower
  · exact (balanced.symm.count apart lower).symm

theorem pick_step {lower : LowerRatio} {candidates : List PlacementCandidate}
    {history after : PlacementHistory}
    (stepped : (placementSystem lower).step? history (.pick candidates now) = some after) :
    history.clock ≤ now ∧ after.clock = now ∧ ∃ order,
      history.placement.pick lower candidates now = some (order, after.placement) := by
  simp only [placementSystem] at stepped
  split at stepped
  · rename_i advances
    obtain ⟨⟨order, placement⟩, picked, rfl⟩ := Option.map_eq_some_iff.mp stepped
    exact ⟨advances, rfl, order, picked⟩
  · cases stepped

/-- Moments do not decrease. -/
theorem clock_le_of_run {lower : LowerRatio} {candidates : List PlacementCandidate}
    {history final : PlacementHistory} {times : List Nat}
    (run : (placementSystem lower).run? history (times.map (.pick candidates)) = some final) :
    ∀ now ∈ times, history.clock ≤ now := by
  induction times generalizing history with
  | nil => rintro now ⟨⟩
  | cons first times ih =>
      obtain ⟨next, stepped, rest⟩ := run?_cons run
      obtain ⟨advances, clock, -⟩ := pick_step stepped
      rw [List.forall_mem_cons]
      exact ⟨advances, fun now member => Nat.le_trans advances (clock ▸ ih rest now member)⟩

/-- Picks within the window keep the balance. -/
theorem balanced_run {history final : PlacementHistory} {times : List Nat}
    (apart : left.endpoint ≠ right.endpoint) (leftSized : 1 ≤ left.maxActorCount)
    (rightSized : 1 ≤ right.maxActorCount)
    (balanced : Balanced left right picks history.placement.inFlight)
    (started : StartedFrom start history.placement.inFlight)
    (inside : ∀ now ∈ times, start ≤ now ∧ now - start < inFlightTtl)
    (run : (placementSystem lowerExactly).run? history
      (times.map (.pick [left, right])) = some final) :
    Balanced left right (picks + times.length) final.placement.inFlight := by
  induction times generalizing history picks with
  | nil =>
      obtain rfl := Option.some.inj run
      exact balanced
  | cons now times ih =>
      obtain ⟨next, stepped, rest⟩ := run?_cons run
      obtain ⟨⟨later, recent⟩, inside⟩ := List.forall_mem_cons.mp inside
      obtain ⟨-, -, order, picked⟩ := pick_step stepped
      obtain ⟨balanced, started⟩ :=
        balanced_pick balanced apart leftSized rightSized started later recent picked
      have whole := ih balanced started inside rest
      rwa [List.length_cons, Nat.add_comm times.length, ← Nat.add_assoc]

/-- After any number of picks between two candidates within the window, all
picks are counted, none went to a more loaded candidate than the other, and
equal candidates differ by at most one pick. -/
theorem two_candidates_are_balanced {left right : PlacementCandidate}
    {history final : PlacementHistory} {times : List Nat}
    (apart : left.endpoint ≠ right.endpoint) (leftSized : 1 ≤ left.maxActorCount)
    (rightSized : 1 ≤ right.maxActorCount)
    (initial : (placementSystem lowerExactly).initial history)
    (window : ∀ first ∈ times, ∀ last ∈ times, last - first < inFlightTtl)
    (run : (placementSystem lowerExactly).run? history
      (times.map (.pick [left, right])) = some final) :
    let leftCount := final.placement.inFlight.extra left.endpoint
    let rightCount := final.placement.inFlight.extra right.endpoint
    leftCount + rightCount = times.length ∧
      (0 < leftCount →
        ((left.activeActorCount : ℚ) + leftCount - 1) / left.maxActorCount ≤
          ((right.activeActorCount : ℚ) + rightCount) / right.maxActorCount) ∧
      (0 < rightCount →
        ((right.activeActorCount : ℚ) + rightCount - 1) / right.maxActorCount ≤
          ((left.activeActorCount : ℚ) + leftCount) / left.maxActorCount) ∧
      (left.activeActorCount = right.activeActorCount →
        left.maxActorCount = right.maxActorCount →
          leftCount ≤ rightCount + 1 ∧ rightCount ≤ leftCount + 1) := by
  obtain ⟨unused, -⟩ := initial
  have none : ∀ endpoint, history.placement.inFlight.extra endpoint = 0 := by
    intro endpoint
    rw [unused]
    rfl
  have balanced : Balanced left right times.length final.placement.inFlight := by
    have fresh : Balanced left right 0 history.placement.inFlight := by
      constructor
      · rw [none, none]
      · intro counted
        rw [none] at counted
        cases counted
      · intro counted
        rw [none] at counted
        cases counted
    cases times with
    | nil =>
        obtain rfl := Option.some.inj run
        exact fresh
    | cons start times =>
        obtain ⟨next, stepped, rest⟩ := run?_cons run
        obtain ⟨-, clock, -⟩ := pick_step stepped
        have inside : ∀ now ∈ start :: times, start ≤ now ∧ now - start < inFlightTtl := by
          intro now member
          refine ⟨?_, window start List.mem_cons_self now member⟩
          rcases List.mem_cons.mp member with rfl | later
          · exact Nat.le_refl now
          · exact clock ▸ clock_le_of_run rest now later
        have started : StartedFrom start history.placement.inFlight := by
          rw [unused]
          rintro endpoint entry ⟨⟩
        have whole := balanced_run apart leftSized rightSized fresh started inside run
        rwa [Nat.zero_add] at whole
  refine ⟨balanced.total, ?_, ?_, fun loads sizes => ?_⟩
  · intro counted
    rw [add_sub_assoc]
    exact balanced.greedyLeft counted
  · intro counted
    rw [add_sub_assoc]
    exact balanced.greedyRight counted
  · exact ⟨balanced.le_succ leftSized loads sizes,
      balanced.symm.le_succ rightSized loads.symm sizes.symm⟩

/-- Three picks between two candidates of different sizes. -/
theorem three_picks_are_balanced : ∃ final,
    (placementSystem lowerExactly).run?
        ⟨⟨[0, 1, 1, 1, 0, 0, 1], fun _ => none⟩, 0, []⟩
        ([0, 1000000000, 2000000000].map
          (.pick [⟨"host-a:7000", 10, 100⟩, ⟨"host-b:7000", 5, 50⟩])) = some final ∧
      final.placement.inFlight.extra "host-a:7000" +
        final.placement.inFlight.extra "host-b:7000" = 3 := by
  obtain ⟨final, run, -⟩ : ∃ final, (placementSystem lowerExactly).run?
        ⟨⟨[0, 1, 1, 1, 0, 0, 1], fun _ => none⟩, 0, []⟩
        ([0, 1000000000, 2000000000].map
          (.pick [⟨"host-a:7000", 10, 100⟩, ⟨"host-b:7000", 5, 50⟩])) = some final ∧
        final.clock = 2000000000 :=
    Option.map_eq_some_iff.mp (by decide)
  refine ⟨final, run, ?_⟩
  exact (@two_candidates_are_balanced ⟨"host-a:7000", 10, 100⟩ ⟨"host-b:7000", 5, 50⟩ _ _ _
    (by decide) (by decide) (by decide) ⟨rfl, rfl⟩ (by decide) run).1

end Coactor.Client
