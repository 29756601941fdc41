import Mathlib.Data.Set.Card

/-!
# Counting the occupied entries of a map

A map gives a value to every key, and some values count as occupied.  One
update changes the number of occupied entries by what its key had before and
has afterwards, so a conservation law over a map is checked update by update.
-/

namespace Coactor.Foundation

variable {Key Value : Type} {held : Value → Bool} {entries after : Key → Value}

/-- The keys whose entry is occupied. -/
def occupied (held : Value → Bool) (entries : Key → Value) : Set Key :=
  {key | held (entries key) = true}

/-- How many entries are occupied. -/
noncomputable def occupancy (held : Value → Bool) (entries : Key → Value) : Nat :=
  (occupied held entries).ncard

theorem occupied_congr (same : ∀ key, held (after key) = held (entries key)) :
    occupied held after = occupied held entries := by
  ext key
  simp only [occupied, Set.mem_ofPred_eq, same key]

theorem occupied_eq_empty (vacant : ∀ key, held (entries key) = false) :
    occupied held entries = ∅ := by
  ext key
  simp [occupied, vacant key]

section

variable [DecidableEq Key] {key : Key} {value : Value}

theorem occupied_update_of_held (holds : held value = true) :
    occupied held (Function.update entries key value) = insert key (occupied held entries) := by
  ext other
  by_cases same : other = key
  · subst same
    simp [occupied, holds]
  · simp [occupied, same]

theorem occupied_update_of_vacant (vacant : held value = false) :
    occupied held (Function.update entries key value) = occupied held entries \ {key} := by
  ext other
  by_cases same : other = key
  · subst same
    simp [occupied, vacant]
  · simp [occupied, same]

theorem finite_update (finite : (occupied held entries).Finite) :
    (occupied held (Function.update entries key value)).Finite := by
  cases holds : held value with
  | true =>
      rw [occupied_update_of_held holds]
      exact finite.insert key
  | false =>
      rw [occupied_update_of_vacant holds]
      exact finite.sdiff

/-- One update trades the entry that was there for the one that is put there. -/
theorem occupancy_update (finite : (occupied held entries).Finite) :
    occupancy held (Function.update entries key value) + (held (entries key)).toNat =
      occupancy held entries + (held value).toNat := by
  unfold occupancy
  cases before : held (entries key) with
  | true =>
      have member : key ∈ occupied held entries := before
      cases holds : held value with
      | true => rw [occupied_update_of_held holds, Set.insert_eq_of_mem member]
      | false =>
          rw [occupied_update_of_vacant holds]
          exact Set.ncard_sdiff_singleton_add_one member finite
  | false =>
      have absent : key ∉ occupied held entries := by
        simp [occupied, before]
      cases holds : held value with
      | true =>
          rw [occupied_update_of_held holds, Set.ncard_insert_of_notMem absent finite]
          rfl
      | false => rw [occupied_update_of_vacant holds, Set.sdiff_singleton_eq_self absent]

end

/-- The occupied entries are counted by a list without repetitions that has one
element for each of them. -/
theorem occupancy_eq_length {Item : Type} {items : List Item} (nodup : items.Nodup)
    (key : Item → Key)
    (injective : ∀ one ∈ items, ∀ two ∈ items, key one = key two → one = two)
    (covers : ∀ found, held (entries found) = true ↔ ∃ item ∈ items, key item = found) :
    occupancy held entries = items.length := by
  classical
  have image : occupied held entries = key '' (items.toFinset : Set Item) := by
    ext found
    simpa [occupied] using covers found
  have injOn : Set.InjOn key (items.toFinset : Set Item) := by
    intro one first two second same
    exact injective one (List.mem_toFinset.mp first) two (List.mem_toFinset.mp second) same
  rw [occupancy, image, injOn.ncard_image, Set.ncard_coe_finset,
    List.toFinset_card_of_nodup nodup]

end Coactor.Foundation
