import Mathlib.Data.List.Induction

/-! # The latest value in a stream of messages

Several kinds of message share one stream. `carried` picks the messages of one
kind and reads the value each of them carries.
-/

namespace Foundation

variable {Message : Type u} {Value : Type v} {carried : Message → Option Value}

/-- The value carried by the last message that carries one. -/
def latest (carried : Message → Option Value) (messages : List Message) :
    Option Value :=
  (messages.filterMap carried).getLast?

theorem latest_append (front back : List Message) :
    latest carried (front ++ back) =
      (latest carried back).or (latest carried front) := by
  rw [latest, List.filterMap_append, List.getLast?_append, latest, latest]

/-- Messages of other kinds leave the latest value alone. -/
theorem latest_append_of_none {front back : List Message}
    (others : ∀ message ∈ back, carried message = none) :
    latest carried (front ++ back) = latest carried front := by
  have nothing : back.filterMap carried = [] :=
    List.filterMap_eq_nil_iff.mpr others
  rw [latest_append, latest, nothing]
  rfl

theorem latest_append_of_some {front back : List Message} {value : Value}
    (last : latest carried back = some value) :
    latest carried (front ++ back) = some value := by
  rw [latest_append, last, Option.some_or]

theorem latest_snoc (messages : List Message) (message : Message) :
    latest carried (messages ++ [message]) =
      (carried message).or (latest carried messages) := by
  rw [latest_append]
  cases shown : carried message <;> simp [latest, shown]

/-- A value is the latest if one message carries it and none carries another. -/
theorem latest_eq_some_of_only {messages : List Message} {message : Message} {value : Value}
    (member : message ∈ messages) (carries : carried message = some value)
    (only : ∀ other ∈ messages, ∀ found ∈ carried other, found = value) :
    latest carried messages = some value := by
  have shown : value ∈ messages.filterMap carried :=
    List.mem_filterMap.mpr ⟨message, member, carries⟩
  cases last : latest carried messages with
  | none =>
      rw [List.getLast?_eq_none_iff.mp last] at shown
      cases shown
  | some found =>
      rcases List.mem_filterMap.mp (List.mem_of_getLast? last) with ⟨other, listed, carries⟩
      rw [only other listed found carries]

/-- What is picked of each value is last picked of the latest, if anything is. -/
theorem latest_bind {Part : Type w} {pick : Value → Option Part} {messages : List Message}
    {value : Value} {part : Part} (last : latest carried messages = some value)
    (picked : pick value = some part) :
    latest (fun message => (carried message).bind pick) messages = some part := by
  rcases List.getLast?_eq_some_iff.mp last with ⟨front, split⟩
  rw [latest, ← List.filterMap_filterMap, split, List.filterMap_append, List.filterMap_cons,
    picked]
  exact List.getLast?_concat

/-- When a message sets a reading if it carries one and leaves it alone otherwise,
folding a stream of messages shows the latest value. -/
theorem read_foldl {State : Type w} {read : State → Value}
    {apply : State → Message → State}
    (read_apply : ∀ state message,
      read (apply state message) = (carried message).getD (read state))
    (start : State) (messages : List Message) :
    read (messages.foldl apply start) = (latest carried messages).getD (read start) := by
  induction messages using List.reverseRecOn with
  | nil => rfl
  | append_singleton messages message induction =>
      rw [List.foldl_append, List.foldl_cons, List.foldl_nil, read_apply, induction,
        latest_snoc]
      cases carried message <;> rfl

end Foundation
