import Coactor.Client.State
import Coactor.Foundation.Transition
import Mathlib.Data.List.Basic

/-!
# The default Placement Strategy

`P2cPlacement` draws two candidates and puts the one with the lower predicted
Load Ratio first.  A pick counts its target as in flight; the counter of an
endpoint is dropped when its last pick is older than `IN_FLIGHT_TTL`, and
`on_placement_failed` counts one down.  Here the counters are compared with the
picks themselves.
-/

namespace Coactor.Client

open Coactor.Foundation
open Coactor.Foundation.Transition

/-! ## The strategy -/

/-- `IN_FLIGHT_TTL`, in nanoseconds. -/
def inFlightTtl : Nat := 3000000000

/-- The counter of an endpoint and the moment of its last pick. -/
structure InFlight where
  count : Nat
  updated : Nat
  deriving DecidableEq, Repr

abbrev InFlightMap := String → Option InFlight

/-- `rng` is what the random source will still yield. -/
structure P2cPlacement where
  rng : List UInt64
  inFlight : InFlightMap

/-- What `predicted_ratio` divides. -/
structure PredictedLoad where
  activeActorCount : Nat
  extra : Nat
  maxActorCount : Nat
  deriving DecidableEq, Repr

/-- Whether the first ratio is lower than the second. -/
abbrev LowerRatio := PredictedLoad → PredictedLoad → Bool

namespace InFlightMap

/-- What a pick adds to the load of an endpoint. -/
def extra (inFlight : InFlightMap) (endpoint : String) : Nat :=
  (inFlight endpoint).elim 0 InFlight.count

/-- `retain`: the counters picked within the window before this moment. -/
def retain (now : Nat) (inFlight : InFlightMap) : InFlightMap :=
  fun endpoint => (inFlight endpoint).filter fun entry => decide (now - entry.updated < inFlightTtl)

/-- Count a pick. -/
def count (endpoint : String) (now : Nat) (inFlight : InFlightMap) : InFlightMap :=
  Function.update inFlight endpoint (some ⟨inFlight.extra endpoint + 1, now⟩)

/-- Count one down, if there is a counter. -/
def rollBack (endpoint : String) (inFlight : InFlightMap) : InFlightMap :=
  Function.update inFlight endpoint
    ((inFlight endpoint).map fun entry => { entry with count := entry.count - 1 })

def predicted (inFlight : InFlightMap) (candidate : PlacementCandidate) : PredictedLoad :=
  ⟨candidate.activeActorCount, inFlight.extra candidate.endpoint, max candidate.maxActorCount 1⟩

end InFlightMap

/-- A candidate by the next random word. -/
def nextIndex (n : Nat) : List UInt64 → Option (Nat × List UInt64)
  | [] => none
  | word :: rng => some (word.toNat % n, rng)

/-- The second sample, drawn again until it differs from the first. -/
def sampleSecond (n first : Nat) : List UInt64 → Option (Nat × List UInt64)
  | [] => none
  | word :: rng =>
      if 1 < n ∧ word.toNat % n = first then sampleSecond n first rng
      else some (word.toNat % n, rng)

/-- The stable sort of two samples. -/
def sortPair (lower : LowerRatio) (inFlight : InFlightMap) (left right : PlacementCandidate) :
    PlacementCandidate × PlacementCandidate :=
  if lower (inFlight.predicted right) (inFlight.predicted left) then (right, left) else (left, right)

namespace P2cPlacement

/-- `P2cPlacement::pick`; it does not return where the random source ends. -/
def pick (lower : LowerRatio) (candidates : List PlacementCandidate) (now : Nat)
    (placement : P2cPlacement) : Option (List String × P2cPlacement) :=
  let n := candidates.length
  if n = 0 then some ([], placement)
  else do
    let (first, rng) ← nextIndex n placement.rng
    let (second, rng) ← sampleSecond n first rng
    let left ← candidates[first]?
    let right ← candidates[second]?
    let inFlight := placement.inFlight.retain now
    if second = first then
      some ([left.endpoint], ⟨rng, inFlight.count left.endpoint now⟩)
    else
      let (target, other) := sortPair lower inFlight left right
      some ([target.endpoint, other.endpoint], ⟨rng, inFlight.count target.endpoint now⟩)

/-- `on_placement_failed`. -/
def onPlacementFailed (endpoint : String) (placement : P2cPlacement) : P2cPlacement :=
  { placement with inFlight := placement.inFlight.rollBack endpoint }

end P2cPlacement

/-! ## What a pick does -/

variable {lower : LowerRatio} {candidates : List PlacementCandidate} {now : Nat}
  {placement after : P2cPlacement} {order : List String}

theorem sampleSecond_ne {n first second : Nat} {rng rest : List UInt64} (several : 1 < n)
    (sampled : sampleSecond n first rng = some (second, rest)) : second < n ∧ second ≠ first := by
  induction rng with
  | nil => cases sampled
  | cons word rng ih =>
      unfold sampleSecond at sampled
      split at sampled
      · exact ih sampled
      · rename_i fresh
        obtain ⟨rfl, rfl⟩ := Prod.mk.inj (Option.some.inj sampled)
        exact ⟨Nat.mod_lt _ (Nat.lt_trans Nat.one_pos several), fun same => fresh ⟨several, same⟩⟩

/-- A pick orders one or two of the candidates and counts the first. -/
theorem pick_eq_some (picked : placement.pick lower candidates now = some (order, after)) :
    candidates = [] ∧ order = [] ∧ after = placement ∨
      ∃ (first second : Nat) (left right target : PlacementCandidate),
        candidates[first]? = some left ∧ candidates[second]? = some right ∧
        (1 < candidates.length → second ≠ first) ∧
        target = (sortPair lower (placement.inFlight.retain now) left right).1 ∧
        order.head? = some target.endpoint ∧
        after.inFlight = (placement.inFlight.retain now).count target.endpoint now := by
  unfold P2cPlacement.pick at picked
  simp only at picked
  split at picked
  · rename_i none
    obtain ⟨rfl, rfl⟩ := Prod.mk.inj (Option.some.inj picked)
    exact .inl ⟨List.length_eq_zero_iff.mp none, rfl, rfl⟩
  · right
    obtain ⟨⟨first, rng⟩, -, picked⟩ := Option.bind_eq_some_iff.mp picked
    obtain ⟨⟨second, rest⟩, sampled, picked⟩ := Option.bind_eq_some_iff.mp picked
    obtain ⟨left, isLeft, picked⟩ := Option.bind_eq_some_iff.mp picked
    obtain ⟨right, isRight, picked⟩ := Option.bind_eq_some_iff.mp picked
    have apart : 1 < candidates.length → second ≠ first :=
      fun several => (sampleSecond_ne several sampled).2
    simp only at isLeft isRight picked
    split at picked
    · rename_i same
      obtain ⟨rfl, rfl⟩ := Prod.mk.inj (Option.some.inj picked)
      obtain rfl : left = right := Option.some.inj (isLeft.symm.trans (same ▸ isRight))
      refine ⟨first, second, left, left, left, isLeft, isRight, apart, ?_, rfl, rfl⟩
      simp only [sortPair, ite_self]
    · obtain ⟨rfl, rfl⟩ := Prod.mk.inj (Option.some.inj picked)
      exact ⟨first, second, left, right, _, isLeft, isRight, apart, rfl, rfl, rfl⟩

/-! ## Picks and failures in time -/

/-- One earlier pick: its target and moment, whether a failure has reported it,
and whether it belongs to the endpoint's present series, in which every pick is
less than the window after the one before it. -/
structure Pick where
  endpoint : String
  time : Nat
  reported : Bool
  current : Bool
  deriving DecidableEq, Repr

/-- The strategy, the time, and all picks, the last one first. -/
structure PlacementHistory where
  placement : P2cPlacement
  clock : Nat
  picks : List Pick

inductive PlacementEvent where
  | pick (candidates : List PlacementCandidate) (now : Nat)
  | failed (index now : Nat)

def Pick.within (now : Nat) (pick : Pick) : Bool := decide (now - pick.time < inFlightTtl)

/-- The endpoint was picked within the window. -/
def pickedWithin (now : Nat) (endpoint : String) (picks : List Pick) : Bool :=
  picks.any fun pick => pick.endpoint == endpoint && pick.within now

/-- What a new pick of an endpoint, which may go on with its series, leaves of
an earlier one. -/
def Pick.settle (endpoint : String) (joins : Bool) (pick : Pick) : Pick :=
  { pick with current := pick.current && (pick.endpoint != endpoint || joins) }

/-- A pick after more than the window starts a new series of its endpoint. -/
def addPick (endpoint : String) (now : Nat) (picks : List Pick) : List Pick :=
  ⟨endpoint, now, false, true⟩ ::
    picks.map (Pick.settle endpoint (pickedWithin now endpoint picks))

/-- The picks of an endpoint within the window that no failure has reported. -/
def windowCount (now : Nat) (endpoint : String) (picks : List Pick) : Nat :=
  picks.countP fun pick => pick.endpoint == endpoint && !pick.reported && pick.within now

/-- Picks and reports of failures at moments that do not decrease; a failure
reports one earlier pick, once. -/
def placementSystem (lower : LowerRatio) : System PlacementHistory PlacementEvent where
  initial history := history.placement.inFlight = (fun _ => none) ∧ history.picks = []
  step? history
    | .pick candidates now =>
        if history.clock ≤ now then
          (history.placement.pick lower candidates now).map fun found =>
            ⟨found.2, now, found.1.head?.elim history.picks fun endpoint =>
              addPick endpoint now history.picks⟩
        else none
    | .failed index now =>
        match history.picks[index]? with
        | none => none
        | some pick =>
            if history.clock ≤ now ∧ pick.reported = false then
              some ⟨history.placement.onPlacementFailed pick.endpoint, now,
                history.picks.set index { pick with reported := true }⟩
            else none

/-- A failure reports a pick of the present series of its endpoint, or one of
an endpoint that was not picked within the window. -/
def ReportsCurrent (history : PlacementHistory) : PlacementEvent → Prop
  | .pick _ _ => True
  | .failed index now => ∀ pick, history.picks[index]? = some pick →
      pick.current = true ∨ pickedWithin now pick.endpoint history.picks = false

/-! ## What the counters count -/

/-- The picks that a counter counts. -/
def Pick.counts (endpoint : String) (pick : Pick) : Bool :=
  pick.endpoint == endpoint && !pick.reported && pick.current

/-- What holds between the counters and the picks at a moment. -/
structure Tallied (inFlight : InFlightMap) (now : Nat) (picks : List Pick) : Prop where
  past : ∀ pick ∈ picks, pick.time ≤ now
  broken : ∀ pick ∈ picks, pick.current = false → pick.within now = false
  absent : ∀ endpoint, inFlight endpoint = none → pickedWithin now endpoint picks = false
  last : ∀ endpoint entry, inFlight endpoint = some entry →
    (∃ pick ∈ picks, pick.endpoint = endpoint ∧ pick.time = entry.updated) ∧
      ∀ pick ∈ picks, pick.endpoint = endpoint → pick.time ≤ entry.updated
  counted : ∀ endpoint entry, inFlight endpoint = some entry → now - entry.updated < inFlightTtl →
    entry.count = picks.countP (Pick.counts endpoint)

variable {inFlight : InFlightMap} {endpoint : String} {picks : List Pick}

theorem within_iff {pick : Pick} : pick.within now = true ↔ now - pick.time < inFlightTtl :=
  decide_eq_true_iff

theorem within_eq_false_iff {pick : Pick} :
    pick.within now = false ↔ inFlightTtl ≤ now - pick.time := by
  rw [← Bool.not_eq_true, within_iff, Nat.not_lt]

theorem mem_addPick {pick : Pick} (member : pick ∈ addPick endpoint now picks) :
    pick = ⟨endpoint, now, false, true⟩ ∨
      ∃ earlier ∈ picks, pick = earlier.settle endpoint (pickedWithin now endpoint picks) := by
  rcases List.mem_cons.mp member with rfl | old
  · exact .inl rfl
  · obtain ⟨earlier, listed, rfl⟩ := List.mem_map.mp old
    exact .inr ⟨earlier, listed, rfl⟩

theorem pickedWithin_iff : pickedWithin now endpoint picks = true ↔
    ∃ pick ∈ picks, pick.endpoint = endpoint ∧ pick.within now = true := by
  simp only [pickedWithin, List.any_eq_true, Bool.and_eq_true, beq_iff_eq]

theorem pickedWithin_eq_false_iff : pickedWithin now endpoint picks = false ↔
    ∀ pick ∈ picks, pick.endpoint = endpoint → pick.within now = false := by
  rw [← Bool.not_eq_true, pickedWithin_iff]
  simp only [not_exists, not_and, Bool.not_eq_true]

theorem retain_eq_some {entry : InFlight} :
    inFlight.retain now endpoint = some entry ↔
      inFlight endpoint = some entry ∧ now - entry.updated < inFlightTtl := by
  simp only [InFlightMap.retain, Option.filter_eq_some_iff, decide_eq_true_eq]

namespace Tallied

theorem mono {earlier : Nat} (tallied : Tallied inFlight earlier picks) (later : earlier ≤ now) :
    Tallied inFlight now picks := by
  have ages : ∀ {pick : Pick}, pick.within earlier = false → pick.within now = false := by
    intro pick old
    rw [within_eq_false_iff] at old ⊢
    omega
  constructor
  · exact fun pick member => Nat.le_trans (tallied.past pick member) later
  · exact fun pick member broken => ages (tallied.broken pick member broken)
  · intro endpoint absent
    have none := tallied.absent endpoint absent
    rw [pickedWithin_eq_false_iff] at none ⊢
    exact fun pick member here => ages (none pick member here)
  · exact tallied.last
  · intro endpoint entry here fresh
    exact tallied.counted endpoint entry here (by omega)

/-- A counter is kept as long as its endpoint was picked within the window. -/
theorem kept_iff (tallied : Tallied inFlight now picks) :
    (∃ entry, inFlight.retain now endpoint = some entry) ↔
      pickedWithin now endpoint picks = true := by
  constructor
  · rintro ⟨entry, kept⟩
    obtain ⟨here, fresh⟩ := retain_eq_some.mp kept
    obtain ⟨⟨pick, member, same, time⟩, -⟩ := tallied.last endpoint entry here
    exact pickedWithin_iff.mpr ⟨pick, member, same, within_iff.mpr (time ▸ fresh)⟩
  · intro picked
    cases here : inFlight endpoint with
    | none =>
        rw [tallied.absent endpoint here] at picked
        cases picked
    | some entry =>
        refine ⟨entry, retain_eq_some.mpr ⟨here, ?_⟩⟩
        obtain ⟨pick, member, same, recent⟩ := pickedWithin_iff.mp picked
        have upTo := (tallied.last endpoint entry here).2 pick member same
        rw [within_iff] at recent
        omega

theorem retain (tallied : Tallied inFlight now picks) : Tallied (inFlight.retain now) now picks := by
  constructor
  · exact tallied.past
  · exact tallied.broken
  · intro endpoint absent
    rw [← Bool.not_eq_true, ← tallied.kept_iff]
    rintro ⟨entry, kept⟩
    rw [absent] at kept
    cases kept
  · exact fun endpoint entry kept => tallied.last endpoint entry (retain_eq_some.mp kept).1
  · exact fun endpoint entry kept => tallied.counted endpoint entry (retain_eq_some.mp kept).1

theorem extra_of_not_picked (tallied : Tallied inFlight now picks)
    (none : pickedWithin now endpoint picks = false) :
    (inFlight.retain now).extra endpoint = 0 := by
  cases kept : inFlight.retain now endpoint with
  | none => rw [InFlightMap.extra, kept, Option.elim_none]
  | some entry =>
      rw [tallied.kept_iff.mp ⟨entry, kept⟩] at none
      cases none

theorem extra_of_picked (tallied : Tallied inFlight now picks)
    (picked : pickedWithin now endpoint picks = true) :
    (inFlight.retain now).extra endpoint = picks.countP (Pick.counts endpoint) := by
  obtain ⟨entry, kept⟩ := tallied.kept_iff.mpr picked
  obtain ⟨here, fresh⟩ := retain_eq_some.mp kept
  rw [InFlightMap.extra, kept, Option.elim_some, tallied.counted endpoint entry here fresh]

/-- A new pick makes its counter count the series it goes on with, or itself. -/
theorem extra_succ (tallied : Tallied inFlight now picks) :
    (inFlight.retain now).extra endpoint + 1 =
      (addPick endpoint now picks).countP (Pick.counts endpoint) := by
  have own : Pick.counts endpoint ⟨endpoint, now, false, true⟩ = true := by simp [Pick.counts]
  rw [addPick, List.countP_cons_of_pos own, List.countP_map]
  cases picked : pickedWithin now endpoint picks with
  | true =>
      rw [tallied.extra_of_picked picked]
      congr 2
      funext pick
      simp only [Function.comp_apply, Pick.counts, Pick.settle, Bool.or_true, Bool.and_true]
  | false =>
      rw [tallied.extra_of_not_picked picked, Nat.zero_add, List.countP_eq_zero.mpr, Nat.zero_add]
      intro pick _
      simp only [Function.comp_apply, Pick.counts, Pick.settle, Bool.or_false, Bool.and_eq_true,
        beq_iff_eq, bne_iff_ne, not_and]
      exact fun same _ other => other same.1

theorem counts_settle {other : String} (apart : other ≠ endpoint) (joins : Bool) (pick : Pick) :
    Pick.counts other (pick.settle endpoint joins) = Pick.counts other pick := by
  simp only [Pick.counts, Pick.settle]
  by_cases same : pick.endpoint = other
  · have apart' : (pick.endpoint != endpoint) = true := by
      rw [same]
      exact bne_iff_ne.mpr apart
    rw [apart', Bool.true_or, Bool.and_true]
  · simp only [beq_eq_false_iff_ne.mpr same, Bool.false_and]

/-- A pick keeps the counters in step with the picks. -/
theorem count (tallied : Tallied inFlight now picks) :
    Tallied ((inFlight.retain now).count endpoint now) now (addPick endpoint now picks) := by
  have kept := tallied.retain
  constructor
  · intro pick member
    rcases mem_addPick member with rfl | ⟨earlier, listed, rfl⟩
    · exact Nat.le_refl now
    · exact tallied.past earlier listed
  · intro pick member broken
    rcases mem_addPick member with rfl | ⟨earlier, listed, rfl⟩
    · cases broken
    · simp only [Pick.settle, Bool.and_eq_false_iff, Bool.or_eq_false_iff] at broken
      rcases broken with old | ⟨same, none⟩
      · exact tallied.broken earlier listed old
      · have here : earlier.endpoint = endpoint := by simpa using same
        exact pickedWithin_eq_false_iff.mp none earlier listed here
  · intro other absent
    have apart : other ≠ endpoint := by
      rintro rfl
      rw [InFlightMap.count, Function.update_self] at absent
      cases absent
    rw [InFlightMap.count, Function.update_of_ne apart] at absent
    have none := pickedWithin_eq_false_iff.mp (kept.absent other absent)
    rw [pickedWithin_eq_false_iff]
    intro pick member here
    rcases mem_addPick member with rfl | ⟨earlier, listed, rfl⟩
    · exact absurd here.symm apart
    · exact none earlier listed here
  · intro other entry here
    by_cases same : other = endpoint
    · subst same
      rw [InFlightMap.count, Function.update_self] at here
      obtain rfl := Option.some.inj here
      refine ⟨⟨_, List.mem_cons_self, rfl, rfl⟩, fun pick member _ => ?_⟩
      rcases mem_addPick member with rfl | ⟨earlier, listed, rfl⟩
      · exact Nat.le_refl now
      · exact tallied.past earlier listed
    · rw [InFlightMap.count, Function.update_of_ne same] at here
      obtain ⟨⟨pick, member, named, time⟩, latest⟩ := kept.last other entry here
      refine ⟨⟨_, List.mem_cons_of_mem _ (List.mem_map_of_mem member), named, time⟩,
        fun pick member named => ?_⟩
      rcases mem_addPick member with rfl | ⟨earlier, listed, rfl⟩
      · exact absurd named.symm same
      · exact latest earlier listed named
  · intro other entry here fresh
    by_cases same : other = endpoint
    · subst same
      rw [InFlightMap.count, Function.update_self] at here
      obtain rfl := Option.some.inj here
      exact tallied.extra_succ
    · rw [InFlightMap.count, Function.update_of_ne same] at here
      have own : ¬Pick.counts other ⟨endpoint, now, false, true⟩ = true := by
        simp only [Pick.counts, beq_eq_false_iff_ne.mpr (Ne.symm same), Bool.false_and,
          Bool.false_eq_true, not_false_eq_true]
      rw [kept.counted other entry here fresh, addPick, List.countP_cons_of_neg own, List.countP_map]
      congr 1
      funext pick
      exact (counts_settle same _ pick).symm

/-- A reported failure keeps the counters in step with the picks, if the pick is
counted or its counter is of no more use. -/
theorem rollBack {pick : Pick} {front back : List Pick}
    (tallied : Tallied inFlight now (front ++ pick :: back)) (unreported : pick.reported = false)
    (counted : pick.current = true ∨
      pickedWithin now pick.endpoint (front ++ pick :: back) = false) :
    Tallied (inFlight.rollBack pick.endpoint) now
      (front ++ { pick with reported := true } :: back) := by
  have every : ∀ {Property : Pick → Prop},
      (Property pick → Property { pick with reported := true }) →
      (∀ other ∈ front ++ pick :: back, Property other) →
      ∀ other ∈ front ++ { pick with reported := true } :: back, Property other := by
    intro Property same all
    rw [List.forall_mem_append, List.forall_mem_cons] at all ⊢
    exact ⟨all.1, same all.2.1, all.2.2⟩
  have entries : ∀ {endpoint : String} {entry : InFlight},
      inFlight.rollBack pick.endpoint endpoint = some entry →
      ∃ earlier, inFlight endpoint = some earlier ∧ earlier.updated = entry.updated ∧
        entry.count = if endpoint = pick.endpoint then earlier.count - 1 else earlier.count := by
    intro endpoint entry here
    by_cases same : endpoint = pick.endpoint
    · subst same
      rw [InFlightMap.rollBack, Function.update_self, Option.map_eq_some_iff] at here
      obtain ⟨earlier, here, rfl⟩ := here
      exact ⟨earlier, here, rfl, by rw [if_pos rfl]⟩
    · rw [InFlightMap.rollBack, Function.update_of_ne same] at here
      exact ⟨entry, here, rfl, by rw [if_neg same]⟩
  constructor
  · exact every id tallied.past
  · exact every id tallied.broken
  · intro endpoint absent
    have absent' : inFlight endpoint = none := by
      by_cases same : endpoint = pick.endpoint
      · subst same
        rwa [InFlightMap.rollBack, Function.update_self, Option.map_eq_none_iff] at absent
      · rwa [InFlightMap.rollBack, Function.update_of_ne same] at absent
    rw [pickedWithin_eq_false_iff]
    exact every id (pickedWithin_eq_false_iff.mp (tallied.absent endpoint absent'))
  · intro endpoint entry here
    obtain ⟨earlier, here, updated, -⟩ := entries here
    obtain ⟨⟨last, member, named, time⟩, latest⟩ := tallied.last endpoint earlier here
    rw [← updated]
    refine ⟨?_, every id latest⟩
    rw [List.mem_append, List.mem_cons] at member
    rcases member with left | rfl | right
    · exact ⟨last, List.mem_append_left _ left, named, time⟩
    · exact ⟨_, List.mem_append_right _ List.mem_cons_self, named, time⟩
    · exact ⟨last, List.mem_append_right _ (List.mem_cons_of_mem _ right), named, time⟩
  · intro endpoint entry here fresh
    obtain ⟨earlier, here, updated, value⟩ := entries here
    have total := tallied.counted endpoint earlier here (updated ▸ fresh)
    have after' : ¬Pick.counts endpoint { pick with reported := true } = true := by
      simp [Pick.counts]
    rw [value, total, List.countP_append, List.countP_append, List.countP_cons_of_neg after']
    by_cases same : endpoint = pick.endpoint
    · subst same
      have picked : pickedWithin now pick.endpoint (front ++ pick :: back) = true :=
        tallied.kept_iff.mp ⟨earlier, retain_eq_some.mpr ⟨here, updated ▸ fresh⟩⟩
      have current : pick.current = true :=
        counted.resolve_right (by rw [picked]; exact Bool.noConfusion)
      have before' : Pick.counts pick.endpoint pick = true := by
        simp [Pick.counts, unreported, current]
      rw [if_pos rfl, List.countP_cons_of_pos before']
      omega
    · have before' : ¬Pick.counts endpoint pick = true := by
        simp [Pick.counts, Ne.symm same]
      rw [if_neg same, List.countP_cons_of_neg before']

end Tallied

/-! ## Counters and windows -/

variable {history : PlacementHistory}

theorem tallied_step {before after : PlacementHistory} {event : PlacementEvent}
    (tallied : Tallied before.placement.inFlight before.clock before.picks)
    (met : ReportsCurrent before event)
    (stepped : (placementSystem lower).step? before event = some after) :
    before.clock ≤ after.clock ∧
      Tallied after.placement.inFlight after.clock after.picks := by
  cases event with
  | pick candidates now =>
      simp only [placementSystem] at stepped
      split at stepped
      · rename_i later
        obtain ⟨⟨order, placement⟩, picked, rfl⟩ := Option.map_eq_some_iff.mp stepped
        refine ⟨later, ?_⟩
        rcases pick_eq_some picked with ⟨-, rfl, rfl⟩ |
          ⟨first, second, left, right, target, -, -, -, -, leads, counted⟩
        · exact tallied.mono later
        · simp only [leads, Option.elim_some, counted]
          exact (tallied.mono later).count
      · cases stepped
  | failed index now =>
      simp only [placementSystem] at stepped
      split at stepped
      · cases stepped
      · rename_i pick here
        split at stepped
        · rename_i enabled
          obtain rfl := Option.some.inj stepped
          refine ⟨enabled.1, ?_⟩
          obtain ⟨bound, value⟩ := List.getElem?_eq_some_iff.mp here
          obtain ⟨front, back, whole, -, changed⟩ :=
            @List.exists_of_set _ _ { pick with reported := true } _ bound
          rw [value] at whole
          have counted := met pick here
          rw [whole] at counted
          simp only [P2cPlacement.onPlacementFailed, changed]
          refine Tallied.rollBack ?_ enabled.2 counted
          rw [← whole]
          exact tallied.mono enabled.1
        · cases stepped

theorem tallied_of_reachable
    (reach : (placementSystem lower).ReachableWhile ReportsCurrent history) :
    Tallied history.placement.inFlight history.clock history.picks := by
  refine invariant_of_step (fun history : PlacementHistory =>
    Tallied history.placement.inFlight history.clock history.picks) ?_ ?_ reach
  · rintro history ⟨unused, none⟩
    rw [unused, none]
    constructor
    · rintro pick ⟨⟩
    · rintro pick ⟨⟩
    · intro endpoint _
      rfl
    · rintro endpoint entry ⟨⟩
    · rintro endpoint entry ⟨⟩
  · intro before event after tallied met stepped
    exact (tallied_step tallied met stepped).2

theorem countP_eq_iff {Element : Type} {all some' : Element → Bool} {elements : List Element}
    (implies : ∀ element ∈ elements, some' element = true → all element = true) :
    elements.countP all = elements.countP some' ↔
      ∀ element ∈ elements, all element = true → some' element = true := by
  induction elements with
  | nil => simp
  | cons element elements ih =>
      obtain ⟨here, rest⟩ := List.forall_mem_cons.mp implies
      have fewer : elements.countP some' ≤ elements.countP all :=
        List.countP_mono_left rest
      rw [List.forall_mem_cons, ← ih rest, List.countP_cons, List.countP_cons]
      cases inner : some' element with
      | true =>
          rw [here inner]
          simp
      | false =>
          cases outer : all element with
          | true =>
              simp only [if_true, Bool.false_eq_true, if_false]
              refine iff_of_false (by omega) ?_
              rintro ⟨unmet, -⟩
              cases unmet trivial
          | false => simp

/-- Where every reported failure is of a pick that is still counted, a pick adds
the number of unreported picks within the window exactly if the endpoint's
present series has no unreported pick from before the window. -/
theorem in_flight_counts_window
    (reach : (placementSystem lower).ReachableWhile ReportsCurrent history)
    (later : history.clock ≤ now) (endpoint : String) :
    (history.placement.inFlight.retain now).extra endpoint =
        windowCount now endpoint history.picks ↔
      (pickedWithin now endpoint history.picks = true → ∀ pick ∈ history.picks,
        pick.endpoint = endpoint → pick.current = true → pick.reported = false →
          pick.within now = true) := by
  have tallied := (tallied_of_reachable reach).mono later
  cases picked : pickedWithin now endpoint history.picks with
  | false =>
      refine iff_of_true ?_ (fun impossible => by cases impossible)
      rw [tallied.extra_of_not_picked picked, windowCount, eq_comm, List.countP_eq_zero]
      intro pick member inside
      simp only [Bool.and_eq_true, beq_iff_eq] at inside
      rw [pickedWithin_eq_false_iff.mp picked pick member inside.1.1] at inside
      cases inside.2
  | true =>
      have implies : ∀ pick ∈ history.picks,
          (pick.endpoint == endpoint && !pick.reported && pick.within now) = true →
            pick.counts endpoint = true := by
        intro pick member inside
        rw [Bool.and_eq_true] at inside
        rw [Pick.counts, inside.1, Bool.true_and, ← Bool.not_eq_false]
        intro broken
        rw [tallied.broken pick member broken] at inside
        cases inside.2
      rw [tallied.extra_of_picked picked, windowCount, countP_eq_iff implies]
      simp only [Pick.counts, Bool.and_eq_true, beq_iff_eq, Bool.not_eq_true', and_imp,
        forall_const]
      constructor
      · intro inside pick member here current unreported
        exact (inside pick member here unreported current).2
      · intro inside pick member here unreported current
        exact ⟨⟨here, unreported⟩, inside pick member here current unreported⟩

/-! ## A counter that outlives its window -/

def unused : PlacementHistory := ⟨⟨List.replicate 6 0, fun _ => none⟩, 0, []⟩

def onlyCandidate : List PlacementCandidate := [⟨"host-a:7000", 10, 100⟩]

/-- Two picks, two seconds apart. -/
def twoPicks : List PlacementEvent :=
  [.pick onlyCandidate 0, .pick onlyCandidate 2000000000]

theorem reachable_of_picks {final : PlacementHistory} {events : List PlacementEvent}
    {guard : PlacementHistory → PlacementEvent → Prop}
    (meets : (placementSystem lower).Meets guard unused events)
    (run : (placementSystem lower).run? unused events = some final) :
    (placementSystem lower).ReachableWhile guard final :=
  reachableWhile_of_run? (.start ⟨rfl, rfl⟩) meets run

/-- Half a second after the second pick both are counted. -/
theorem two_recent_picks_are_counted :
    ∃ final, (placementSystem fun _ _ => false).run? unused twoPicks = some final ∧
      (final.placement.inFlight.retain 2500000000).extra "host-a:7000" =
        windowCount 2500000000 "host-a:7000" final.picks := by
  obtain ⟨final, run, known⟩ : ∃ final,
      (placementSystem fun _ _ => false).run? unused twoPicks = some final ∧
        (decide (final.clock ≤ 2500000000), final.picks) =
          (true, [⟨"host-a:7000", 2000000000, false, true⟩, ⟨"host-a:7000", 0, false, true⟩]) :=
    Option.map_eq_some_iff.mp (by decide)
  obtain ⟨clock, picks⟩ := Prod.mk.inj known
  have meets : (placementSystem fun _ _ => false).Meets ReportsCurrent unused twoPicks :=
    ⟨trivial, fun _ _ => ⟨trivial, fun _ _ => trivial⟩⟩
  have reach := reachable_of_picks meets run
  refine ⟨final, run, (in_flight_counts_window reach (of_decide_eq_true clock) _).mpr ?_⟩
  rw [picks]
  decide

/-- At four seconds the first pick is from before the window and still counted. -/
theorem in_flight_counts_old_pick :
    ¬ ∀ (lower : LowerRatio) (history : PlacementHistory) (now : Nat) (endpoint : String),
      (placementSystem lower).Reachable history → history.clock ≤ now →
        (history.placement.inFlight.retain now).extra endpoint =
          windowCount now endpoint history.picks := by
  intro always
  obtain ⟨final, run, counts⟩ : ∃ final,
      (placementSystem fun _ _ => false).run? unused twoPicks = some final ∧
        (decide (final.clock ≤ 4000000000),
          (final.placement.inFlight.retain 4000000000).extra "host-a:7000",
          windowCount 4000000000 "host-a:7000" final.picks) = (true, 2, 1) :=
    Option.map_eq_some_iff.mp (by decide)
  have reach := reachable_of_picks (meets_of_forall (fun _ _ => trivial) _ _) run
  obtain ⟨clock, extra, window⟩ := Prod.mk.inj counts |>.imp_right Prod.mk.inj
  have same := always _ final 4000000000 "host-a:7000" reach (of_decide_eq_true clock)
  rw [extra, window] at same
  cases same

end Coactor.Client
