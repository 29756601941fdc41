import Mathlib.Data.Finset.Card
import Mathlib.Data.List.Count

/-!
# Choices spread out among bins

Bins are chosen one after the other.  As long as there may be more bins a choice
takes a new one, and then always one that was chosen least often.  However many
choices there are, as many bins are used as possible, and none was chosen twice
more often than another.
-/

namespace Coactor.Foundation

variable {Bin : Type} [DecidableEq Bin] {limit : Nat} {choices : List Bin} {bin : Bin}

/-- Choices, newest first, each of a new bin or else of a least chosen one. -/
inductive LeastChosen (limit : Nat) : List Bin → Prop where
  | none : LeastChosen limit []
  | fresh {choices : List Bin} {bin : Bin} (earlier : LeastChosen limit choices)
      (few : choices.toFinset.card < limit) (unused : bin ∉ choices) :
      LeastChosen limit (bin :: choices)
  | least {choices : List Bin} {bin : Bin} (earlier : LeastChosen limit choices)
      (full : limit ≤ choices.toFinset.card) (used : bin ∈ choices)
      (least : ∀ other ∈ choices, choices.count bin ≤ choices.count other) :
      LeastChosen limit (bin :: choices)

/-- As many bins are used as possible, and evenly. -/
structure Spread (limit : Nat) (choices : List Bin) : Prop where
  used : choices.toFinset.card = min choices.length limit
  even : ∀ one ∈ choices, ∀ two ∈ choices, choices.count one ≤ choices.count two + 1

namespace Spread

/-- As long as there may be more bins, no bin is chosen twice. -/
theorem nodup (spread : Spread limit choices) (few : choices.toFinset.card < limit) :
    choices.Nodup := by
  have all : choices.toFinset.card = choices.length := by
    have used := spread.used
    omega
  exact Multiset.toFinset_card_eq_card_iff_nodup.mp all

theorem fresh (spread : Spread limit choices) (few : choices.toFinset.card < limit)
    (unused : bin ∉ choices) : Spread limit (bin :: choices) := by
  have nodup : (bin :: choices).Nodup := List.nodup_cons.mpr ⟨unused, spread.nodup few⟩
  constructor
  · have all := List.toFinset_card_of_nodup (spread.nodup few)
    rw [List.toFinset_card_of_nodup nodup, List.length_cons]
    omega
  · intro one _ two member
    have once := List.nodup_iff_count_le_one.mp nodup one
    omega

theorem least (spread : Spread limit choices) (full : limit ≤ choices.toFinset.card)
    (used : bin ∈ choices)
    (least : ∀ other ∈ choices, choices.count bin ≤ choices.count other) :
    Spread limit (bin :: choices) := by
  have known : ∀ {other}, other ∈ bin :: choices → other ∈ choices := by
    intro other member
    rcases List.mem_cons.mp member with rfl | earlier
    · exact used
    · exact earlier
  constructor
  · have same : (bin :: choices).toFinset = choices.toFinset := by
      rw [List.toFinset_cons]
      exact Finset.insert_eq_of_mem (List.mem_toFinset.mpr used)
    have earlier := spread.used
    rw [same, List.length_cons]
    omega
  · intro one first two second
    have even := spread.even one (known first) two (known second)
    have low := least two (known second)
    rw [List.count_cons, List.count_cons]
    by_cases same : bin = one
    · subst same
      rw [beq_self_eq_true, if_pos rfl]
      omega
    · rw [if_neg (by simpa using same)]
      omega

end Spread

theorem LeastChosen.spread (chosen : LeastChosen limit choices) : Spread limit choices := by
  induction chosen with
  | none =>
      constructor
      · rfl
      · rintro one ⟨⟩
  | fresh _ few unused spread => exact spread.fresh few unused
  | least _ full used least spread => exact spread.least full used least

end Coactor.Foundation
