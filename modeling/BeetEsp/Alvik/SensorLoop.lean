import BeetEsp.Alvik.Actions

/-! # From the sensors to the motors

A leaf orders its answer to what the sensors show, and the flush of the next frame sends
it. Between the order and the wire nothing is made up, repeated or put in another order,
and the robot obeys the last order it was sent.
-/

namespace BeetEsp.Alvik.Actions

open Foundation
open Transport (accepted transmitted drives Told)

variable {P : Quantities} {R : Readouts P} {white : P.Color} {robot : AlvikComponents R}
  {wheels : Wheels P}

/-- What the command path did. -/
def onPath (history : List (Event P)) : List (Transport.Event P) :=
  history.filterMap Event.pathOf

/-- The velocities ordered, in order. -/
def orders (history : List (Event P)) : List (DifferentialDrive P) :=
  history.filterMap Event.driveOf

@[simp] theorem onPath_append (front back : List (Event P)) :
    onPath (front ++ back) = onPath front ++ onPath back :=
  List.filterMap_append

@[simp] theorem orders_append (front back : List (Event P)) :
    orders (front ++ back) = orders front ++ orders back :=
  List.filterMap_append

@[simp] theorem onPath_sensing (events : List (StatusPath.Event P)) :
    onPath (events.map Event.sensing) = [] := by
  rw [onPath, List.filterMap_map]
  exact List.filterMap_eq_nil_iff.mpr fun _ _ => rfl

@[simp] theorem orders_sensing (events : List (StatusPath.Event P)) :
    orders (events.map Event.sensing) = [] := by
  rw [orders, List.filterMap_map]
  exact List.filterMap_eq_nil_iff.mpr fun _ _ => rfl

@[simp] theorem onPath_shown (leaf : Option Leaf) (action : Transport.Action P)
    (events : List (Transport.Event P)) : onPath (shown leaf action events) = events :=
  filterMap_pathOf_shown leaf action events

@[simp] theorem orders_shown (leaf : Option Leaf) (action : Transport.Action P)
    (events : List (Transport.Event P)) :
    orders (shown leaf action events) = (orderOf action).toList :=
  filterMap_driveOf_shown leaf action events

/-! ## Nothing is made up -/

/-- The component has the last order, and what was told is a part of the orders, the last
of them left out while it waits for its flush. -/
structure Ordered (state : State R) (history : List (Event P)) : Prop where
  told : ∃ front, .rest P :: orders history = front ++ [state.path.ecs.drive.value] ∧
    (drives (accepted (onPath history))).Sublist
      (if state.path.ecs.drive.changed then front else front ++ [state.path.ecs.drive.value])

theorem Ordered.all {state : State R} {history : List (Event P)}
    (holds : Ordered state history) :
    (drives (accepted (onPath history))).Sublist (.rest P :: orders history) := by
  rcases holds.told with ⟨front, split, told⟩
  rw [split]
  split at told
  case isTrue => exact told.trans (List.sublist_append_left front _)
  case isFalse => exact told

theorem Ordered.perform {state : State R} {history : List (Event P)} {leaf : Option Leaf}
    {action : Transport.Action P} {path : Transport.State P}
    {events : List (Transport.Event P)} (holds : Ordered state history)
    (acted : (transport P).step state.path action = some (path, events)) :
    Ordered { state with path } (history ++ shown leaf action events) := by
  rcases Transport.step_cases acted with
    ⟨ecsAction, rfl, ecs, -, rfl, -⟩ | ⟨driverAction, rfl, ecs, shape⟩
  · cases order : Transport.driveOrder ecsAction with
    | some drive =>
        rcases Transport.drive_written state.path.ecs order with ⟨written, silent⟩
        refine ⟨.rest P :: orders history, ?_, ?_⟩
        · simp [ecs, written, Tracked.write, orderOf, order]
        · simpa [ecs, written, silent, Tracked.write, Transport.sendEach, accepted] using
            holds.all
    | none =>
        rcases holds.told with ⟨front, split, told⟩
        have same : orders (history ++ shown leaf (.ecs ecsAction)
            (Transport.sendEach state.path.alvikOut
              (state.path.ecs.perform ecsAction).2).2) = orders history := by
          simp [orderOf, order]
        have part := Transport.drives_accepted_sublist state.path.alvikOut
          (state.path.ecs.perform ecsAction).2
        rcases Transport.drives_of_unordered state.path.ecs order with
          ⟨kept, silent⟩ | ⟨changed, flushed, sent⟩
        · rw [silent, List.sublist_nil] at part
          refine ⟨front, ?_, ?_⟩
          · rw [same, ecs, kept, split]
          · simp only [ecs, kept, onPath_append, onPath_shown, Transport.accepted_append,
              Transport.drives_append, part, List.append_nil]
            exact told
        · rw [if_pos changed] at told
          rw [sent] at part
          refine ⟨front, ?_, ?_⟩
          · rw [same, ecs, flushed, split]
            rfl
          · simp only [ecs, flushed, Tracked.seen, onPath_append, onPath_shown,
              Transport.accepted_append, Transport.drives_append]
            exact told.append part
  · rcases holds.told with ⟨front, split, told⟩
    refine ⟨front, ?_, ?_⟩
    · simpa [orderOf, ecs] using split
    · simpa [ecs, Transport.accepted_of_driverStep shape] using told

theorem ordered {state : State R} {history : List (Event P)}
    (reached : (sensorLoop white robot wheels).Reached state history) :
    Ordered state history := by
  refine reached.induction Ordered ?start ?preserved
  case start => exact ⟨[], rfl, List.Sublist.refl _⟩
  case preserved =>
    intro state history action next events _ holds stepped
    cases step_shape stepped with
    | sensed =>
        rcases holds.told with ⟨front, split, told⟩
        exact ⟨front, by simpa using split, by simpa using told⟩
    | performed _ acted => exact holds.perform acted

/-- Something else was ordered, or `ALVIK_OUT` had no room for a velocity. -/
def Superseded (after : List (Event P)) : Prop :=
  orders after ≠ [] ∨
    ∃ command, .path (.rejected command) ∈ after ∧ command.driveOf ≠ none

theorem Superseded.append {after : List (Event P)} (superseded : Superseded after)
    (events : List (Event P)) : Superseded (after ++ events) := by
  rcases superseded with other | ⟨command, rejected, velocity⟩
  · exact .inl (by simp [other])
  · exact .inr ⟨command, List.mem_append_left _ rejected, velocity⟩

def Obeying (drive : DifferentialDrive P) (state : State R) (after : List (Event P)) : Prop :=
  Superseded after ∨
    Told Command.driveOf drive True state.path.ecs.drive (accepted (onPath after))

theorem Obeying.perform {drive : DifferentialDrive P} {state : State R}
    {after : List (Event P)} {leaf : Option Leaf} {action : Transport.Action P}
    {path : Transport.State P} {events : List (Transport.Event P)}
    (holds : Obeying drive state after)
    (acted : (transport P).step state.path action = some (path, events)) :
    Obeying drive { state with path } (after ++ shown leaf action events) := by
  rcases holds with superseded | told
  · exact .inl (superseded.append _)
  by_cases superseded : Superseded (after ++ shown leaf action events)
  · exact .inl superseded
  rw [Superseded, not_or, not_not, not_exists, orders_append, orders_shown] at superseded
  rcases superseded with ⟨unordered, taken⟩
  have unordered : orderOf action = none := by
    simpa using (List.append_eq_nil_iff.mp unordered).2
  have fits (command : Command P) (rejected : .rejected command ∈ events) :
      command.driveOf = none := by
    have member : .path (.rejected command) ∈ after ++ shown leaf action events := by
      simp [shown, rejected]
    exact not_not.mp fun velocity => taken command ⟨member, velocity⟩
  refine .inr ?_
  rw [onPath_append, onPath_shown, Transport.accepted_append]
  rcases Transport.step_cases acted with
    ⟨ecsAction, rfl, ecs, -, rfl, -⟩ | ⟨driverAction, rfl, ecs, shape⟩
  · simp only [ecs]
    refine told.flush (Transport.flush_drive state.path.ecs ecsAction) ?_
      (Transport.drive_lowered state.path.ecs) (fun _ _ => trivial)
      (Transport.filterMap_accepted fits)
    have none : Transport.driveOrder ecsAction = none := unordered
    rw [Transport.drive_value, none, Option.getD_none]
    exact told.holds
  · simp only [ecs, Transport.accepted_of_driverStep shape, List.append_nil]
    exact told

end BeetEsp.Alvik.Actions
