import Mathlib.Logic.Function.Basic

/-!
# Bounded first-in first-out channels

Senders never wait: an item is accepted when the channel is open and has room,
and handed back otherwise.  The receiver takes items in the order in which they
were accepted.
-/

namespace Coactor.Foundation

structure Channel (Item : Type) where
  capacity : Nat
  items : List Item
  closed : Bool
  deriving DecidableEq, Repr

inductive TrySendError where
  | full
  | closed
  deriving DecidableEq, Repr

namespace Channel

variable {Item : Type} (channel : Channel Item)

/-- Whether an item sent now is accepted. -/
def accepts : Bool := !channel.closed && decide (channel.items.length < channel.capacity)

def trySend (item : Item) : Except TrySendError (Channel Item) :=
  if channel.closed then .error .closed
  else if channel.items.length < channel.capacity then
    .ok { channel with items := channel.items ++ [item] }
  else .error .full

/-- Send and ignore the answer. -/
def offer (item : Item) : Channel Item :=
  match channel.trySend item with
  | .ok after => after
  | .error _ => channel

def receive? : Option (Item × Channel Item) :=
  match channel.items with
  | [] => none
  | item :: rest => some (item, { channel with items := rest })

def close : Channel Item := { channel with closed := true }

variable {channel} {item : Item} {after : Channel Item}

theorem trySend_of_accepts (accepts : channel.accepts = true) :
    channel.trySend item = .ok { channel with items := channel.items ++ [item] } := by
  simp only [Channel.accepts, Bool.and_eq_true, Bool.not_eq_eq_eq_not, Bool.not_true,
    decide_eq_true_eq] at accepts
  simp [trySend, accepts.1, accepts.2]

theorem trySend_eq_ok :
    channel.trySend item = .ok after ↔
      channel.accepts = true ∧ after = { channel with items := channel.items ++ [item] } := by
  constructor
  · intro sent
    unfold trySend at sent
    split at sent
    · cases sent
    · rename_i isOpen
      split at sent
      · rename_i room
        cases sent
        simpa [accepts, room] using isOpen
      · cases sent
  · rintro ⟨accepts, rfl⟩
    exact trySend_of_accepts accepts

theorem offer_of_accepts (accepts : channel.accepts = true) :
    channel.offer item = { channel with items := channel.items ++ [item] } := by
  rw [offer, trySend_of_accepts accepts]

theorem offer_of_refuses (refuses : channel.accepts = false) : channel.offer item = channel := by
  unfold offer
  split
  · rename_i sent
    rw [(trySend_eq_ok.mp sent).1] at refuses
    cases refuses
  · rfl

end Channel

end Coactor.Foundation
