import Mathlib.Data.List.Basic

/-! # Bounded first-in first-out queues

The queue never blocks a producer: an item that does not fit is handed back.
-/

namespace Foundation

structure BoundedQueue (Item : Type u) (capacity : Nat) where
  items : List Item
  bounded : items.length ≤ capacity

namespace BoundedQueue

variable {Item : Type u} {capacity : Nat}

def empty : BoundedQueue Item capacity where
  items := []
  bounded := Nat.zero_le _

/-- Append an item; a full queue hands it back. -/
def trySend (queue : BoundedQueue Item capacity) (item : Item) :
    Except Item (BoundedQueue Item capacity) :=
  if room : queue.items.length < capacity then
    .ok {
      items := queue.items ++ [item]
      bounded := by
        rw [List.length_append]
        exact room }
  else
    .error item

/-- Take the oldest item. -/
def tryReceive (queue : BoundedQueue Item capacity) :
    Option (Item × BoundedQueue Item capacity) :=
  match shape : queue.items with
  | [] => none
  | item :: items =>
      some (item, {
        items
        bounded := by
          have bounded := queue.bounded
          simp only [shape, List.length_cons] at bounded
          omega })

theorem trySend_of_room {queue : BoundedQueue Item capacity}
    (room : queue.items.length < capacity) (item : Item) :
    ∃ next, queue.trySend item = .ok next ∧ next.items = queue.items ++ [item] :=
  ⟨_, dif_pos room, rfl⟩

theorem trySend_eq_ok {queue next : BoundedQueue Item capacity} {item : Item}
    (sent : queue.trySend item = .ok next) :
    queue.items.length < capacity ∧ next.items = queue.items ++ [item] := by
  rw [trySend] at sent
  split at sent
  case isTrue room =>
    cases sent
    exact ⟨room, rfl⟩
  case isFalse => cases sent

/-- Only a full queue rejects, and what it hands back is the item itself. -/
theorem trySend_eq_error {queue : BoundedQueue Item capacity}
    {item returned : Item} (rejected : queue.trySend item = .error returned) :
    queue.items.length = capacity ∧ returned = item := by
  rw [trySend] at rejected
  split at rejected
  case isTrue => cases rejected
  case isFalse noRoom =>
    cases rejected
    exact ⟨Nat.le_antisymm queue.bounded (Nat.le_of_not_lt noRoom), rfl⟩

theorem tryReceive_eq_some {queue next : BoundedQueue Item capacity} {item : Item}
    (received : queue.tryReceive = some (item, next)) :
    queue.items = item :: next.items := by
  rw [tryReceive] at received
  split at received
  case h_1 => cases received
  case h_2 shape =>
    cases received
    exact shape

theorem tryReceive_eq_none {queue : BoundedQueue Item capacity}
    (received : queue.tryReceive = none) : queue.items = [] := by
  rw [tryReceive] at received
  split at received
  case h_1 shape => exact shape
  case h_2 => cases received

end BoundedQueue

end Foundation
