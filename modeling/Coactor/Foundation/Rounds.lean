import Mathlib.Data.List.Infix

/-!
# Rounds

A log of marks that forms rounds: each round is opened, goes on any number of
times, and is closed before the next one is opened.  Whether a log is a prefix
of such rounds is decided mark by mark.
-/

namespace Coactor.Foundation

inductive Mark where
  | opens
  | goesOn
  | closes
  deriving DecidableEq, Repr

namespace Rounds

/-- Whether a round is open after this mark; a mark can be out of place. -/
def step? : Bool → Mark → Option Bool
  | false, .opens => some true
  | true, .goesOn => some true
  | true, .closes => some false
  | _, _ => none

/-- Whether a round is open at the end of a log. -/
def run? : Bool → List Mark → Option Bool
  | isOpen, [] => some isOpen
  | isOpen, mark :: marks => (step? isOpen mark).bind fun next => run? next marks

/-- A closed round with so many marks inside. -/
def round (length : Nat) : List Mark :=
  .opens :: (List.replicate length .goesOn ++ [.closes])

/-- The log is a prefix of closed rounds. -/
def IsPrefix (marks : List Mark) : Prop :=
  ∃ lengths : List Nat, marks <+: lengths.flatMap round

theorem run?_append (isOpen : Bool) (first second : List Mark) :
    run? isOpen (first ++ second) =
      (run? isOpen first).bind fun middle => run? middle second := by
  induction first generalizing isOpen with
  | nil => rfl
  | cons mark marks ih =>
      simp only [List.cons_append, run?, Option.bind_assoc]
      exact congrArg _ (funext fun next => ih next)

theorem run?_concat (isOpen : Bool) (marks : List Mark) (mark : Mark) :
    run? isOpen (marks ++ [mark]) = (run? isOpen marks).bind (step? · mark) := by
  rw [run?_append]
  congr 1
  funext middle
  simp [run?]

theorem isSome_of_append {isOpen : Bool} {first second : List Mark}
    (isSome : (run? isOpen (first ++ second)).isSome) : (run? isOpen first).isSome := by
  rw [run?_append] at isSome
  cases ran : run? isOpen first with
  | none => simp [ran] at isSome
  | some middle => rfl

theorem run?_goesOn (length : Nat) :
    run? true (List.replicate length .goesOn ++ [.closes]) = some false := by
  induction length with
  | zero => rfl
  | succ length ih => simpa [List.replicate_succ, run?, step?] using ih

theorem run?_rounds (lengths : List Nat) : run? false (lengths.flatMap round) = some false := by
  induction lengths with
  | nil => rfl
  | cons length rest ih =>
      rw [List.flatMap_cons, run?_append]
      have once : run? false (round length) = some false := by
        simpa [round, run?, step?] using run?_goesOn length
      simpa [once] using ih

/-- A log that ends closed consists of closed rounds, the first of which may
have been open before. -/
theorem rounds_of_run? {isOpen : Bool} {marks : List Mark} (ran : run? isOpen marks = some false) :
    ∃ lengths : List Nat, (isOpen = false ∧ marks = lengths.flatMap round) ∨
      (isOpen = true ∧ ∃ length,
        marks = List.replicate length .goesOn ++ .closes :: lengths.flatMap round) := by
  induction marks generalizing isOpen with
  | nil =>
      cases ran
      exact ⟨[], .inl ⟨rfl, rfl⟩⟩
  | cons mark marks ih =>
      obtain ⟨next, stepped, rest⟩ := Option.bind_eq_some_iff.mp ran
      obtain ⟨lengths, ⟨closed, rfl⟩ | ⟨opened, length, rfl⟩⟩ := ih rest
      · cases isOpen <;> cases mark <;> cases stepped <;> cases closed
        exact ⟨lengths, .inr ⟨rfl, 0, rfl⟩⟩
      · cases isOpen <;> cases mark <;> cases stepped <;> cases opened
        · exact ⟨length :: lengths, .inl ⟨rfl, by simp [round]⟩⟩
        · exact ⟨lengths, .inr ⟨rfl, length + 1, by simp [List.replicate_succ]⟩⟩

/-- A log is a prefix of rounds when no mark of it is out of place. -/
theorem isPrefix_iff (marks : List Mark) : IsPrefix marks ↔ (run? false marks).isSome := by
  constructor
  · rintro ⟨lengths, rest, whole⟩
    refine @isSome_of_append false marks rest ?_
    rw [whole, run?_rounds]
    rfl
  · intro isSome
    obtain ⟨isOpen, ran⟩ := Option.isSome_iff_exists.mp isSome
    have finished : ∃ rest, run? false (marks ++ rest) = some false := by
      cases isOpen with
      | false => exact ⟨[], by simpa using ran⟩
      | true => exact ⟨[.closes], by simp [run?_concat, ran, step?]⟩
    obtain ⟨rest, finished⟩ := finished
    obtain ⟨lengths, ⟨-, whole⟩ | ⟨opened, -⟩⟩ := rounds_of_run? finished
    · exact ⟨lengths, rest, whole⟩
    · cases opened

instance (marks : List Mark) : Decidable (IsPrefix marks) :=
  decidable_of_iff _ (isPrefix_iff marks).symm

end Rounds

end Coactor.Foundation
