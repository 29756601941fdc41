import Mathlib.Algebra.Order.BigOperators.Group.Finset
import Mathlib.Data.List.Basic

/-!
# Items on a line

A line carries items from where they enter to where they leave, through any number
of places, and may lose some of them on the way.  Read from what has left to what
has just entered, it holds its items in the order of entry.  A step that passes
items on, loses items, or takes new ones in at the end keeps this so.
-/

namespace Coactor.Foundation

variable {Item Mark : Type}

/-- A step of a line beside the record of what has entered it: what is on the line
afterwards was there before, or has entered at the end. -/
def Conveys (line entered line' entered' : List Item) : Prop :=
  ∃ new : List Item, line'.Sublist (line ++ new) ∧ (entered ++ new).Sublist entered'

namespace Conveys

variable {line entered line' entered' : List Item}

/-- What is in order stays in order. -/
theorem ordered (conveys : Conveys line entered line' entered') (ordered : line.Sublist entered) :
    line'.Sublist entered' := by
  obtain ⟨new, moved, recorded⟩ := conveys
  exact (moved.trans (ordered.append_right new)).trans recorded

/-- Nothing enters. -/
theorem of_sublist (moved : line'.Sublist line) (recorded : entered.Sublist entered') :
    Conveys line entered line' entered' :=
  ⟨[], by rwa [List.append_nil], by rwa [List.append_nil]⟩

theorem of_eq (moved : line' = line) (recorded : entered' = entered) :
    Conveys line entered line' entered' :=
  of_sublist (moved ▸ .refl _) (recorded ▸ .refl _)

end Conveys

/-- An item that is passed on leaves the first place and comes last in the next. -/
theorem filterMap_pass (read : Item → Option Mark) (front rest : List Item) (item : Item) :
    (front ++ [item]).filterMap read ++ rest.filterMap read =
      front.filterMap read ++ (item :: rest).filterMap read := by
  rw [← List.filterMap_append, ← List.filterMap_append, List.append_assoc, List.singleton_append]

theorem filterMap_singleton (read : Item → Option Mark) (item : Item) :
    [item].filterMap read = (read item).toList := by
  cases seen : read item with
  | none => rw [List.filterMap_cons_none seen, List.filterMap_nil, Option.toList_none]
  | some mark => rw [List.filterMap_cons_some seen, List.filterMap_nil, Option.toList_some]

/-- The first item is read first. -/
theorem filterMap_first (read : Item → Option Mark) (item : Item) (rest : List Item) :
    (item :: rest).filterMap read = (read item).toList ++ rest.filterMap read := by
  rw [← filterMap_singleton, ← List.filterMap_append, List.singleton_append]

/-- An item that enters comes last, if it has a reading. -/
theorem filterMap_enter (read : Item → Option Mark) (front : List Item) (item : Item) :
    (front ++ [item]).filterMap read = front.filterMap read ++ (read item).toList := by
  rw [List.filterMap_append, filterMap_singleton]

/-! ## Counting over places -/

section

variable {Place : Type} [DecidableEq Place] {before after : Place → Nat}

/-- What enters one place is all that the places gain together. -/
theorem sum_le_of_gain {target : Place} {gain : Nat} (there : after target ≤ before target + gain)
    (elsewhere : ∀ place, place ≠ target → after place ≤ before place) (places : Finset Place) :
    ∑ place ∈ places, after place ≤ ∑ place ∈ places, before place + gain := by
  have rest : ∑ place ∈ places.erase target, after place ≤
      ∑ place ∈ places.erase target, before place :=
    Finset.sum_le_sum fun place member => elsewhere place (Finset.ne_of_mem_erase member)
  by_cases member : target ∈ places
  · have one := Finset.add_sum_erase places after member
    have two := Finset.add_sum_erase places before member
    omega
  · rw [Finset.erase_eq_of_notMem member] at rest
    exact Nat.le_add_right_of_le rest

/-- What leaves one place is lost by the places together, as soon as it is one of
them. -/
theorem sum_le_of_loss {source : Place} {loss : Nat} (there : loss + after source ≤ before source)
    (elsewhere : ∀ place, place ≠ source → after place ≤ before place) (places : Finset Place) :
    loss + ∑ place ∈ places, after place ≤ ∑ place ∈ insert source places, before place := by
  have rest : ∑ place ∈ places.erase source, after place ≤
      ∑ place ∈ places.erase source, before place :=
    Finset.sum_le_sum fun place member => elsewhere place (Finset.ne_of_mem_erase member)
  have all := Finset.add_sum_erase (insert source places) before (Finset.mem_insert_self _ _)
  rw [Finset.erase_insert_eq_erase] at all
  by_cases member : source ∈ places
  · have one := Finset.add_sum_erase places after member
    omega
  · rw [Finset.erase_eq_of_notMem member] at rest all
    omega

end

end Coactor.Foundation
