import BeetEsp.Alvik.MotionConvergence

/-! # What the robot was told last

A component holds a value, and the last command of its kind in `ALVIK_OUT` carries it once
the component has been flushed.
-/

namespace BeetEsp.Alvik.Transport

open Foundation

variable {P : Quantities}

/-- If none of a kind is rejected, all of the kind are accepted. -/
theorem filterMap_accepted {Value : Type} {carried : Command P → Option Value}
    {out : AlvikOut P} {commands : List (Command P)}
    (taken : ∀ command, .rejected command ∈ (sendEach out commands).2 →
      carried command = none) :
    (accepted (sendEach out commands).2).filterMap carried = commands.filterMap carried := by
  induction commands generalizing out with
  | nil => rfl
  | cons command commands induction =>
      rw [sendEach] at taken ⊢
      cases tried : out.trySend command with
      | ok next =>
          simp only [tried, List.mem_cons, reduceCtorEq, false_or] at taken
          have rest := induction taken
          simp only [accepted, List.filterMap_cons, Event.acceptedOf] at rest ⊢
          rw [rest]
      | error returned =>
          rcases BoundedQueue.trySend_eq_error tried with ⟨-, rfl⟩
          simp only [tried, List.mem_cons] at taken
          have nothing := taken returned (.inl rfl)
          have rest := induction fun other member => taken other (.inr member)
          simp only [accepted, List.filterMap_cons, Event.acceptedOf, nothing]
            at rest ⊢
          exact rest

/-- What is accepted is a part of what was sent, in the same order. -/
theorem accepted_sendEach_sublist (out : AlvikOut P) (commands : List (Command P)) :
    (accepted (sendEach out commands).2).Sublist commands := by
  induction commands generalizing out with
  | nil => exact List.Sublist.refl _
  | cons command commands induction =>
      rw [sendEach]
      cases out.trySend command with
      | ok next => exact (induction next).cons_cons command
      | error returned => exact (induction out).cons command

/-- A component holds `value`, and the last accepted command of its kind carries it unless
its flush is still to come. -/
structure Told {Value : Type} (carried : Command P → Option Value) (value : Value)
    (pending : Prop) (component : Tracked Value) (queued : List (Command P)) : Prop where
  holds : component.value = value
  told : (pending ∧ component.changed = true) ∨ latest carried queued = some value

section

variable {Value : Type} {carried : Command P → Option Value} {value : Value}
  {own pending pending' : Prop} {component next : Tracked Value}
  {queued commands taken : List (Command P)}

theorem Told.mono (told : Told carried value pending component queued)
    (still : pending → pending') : Told carried value pending' component queued :=
  ⟨told.holds, told.told.imp_left fun waits => ⟨still waits.1, waits.2⟩⟩

theorem Told.flush (told : Told carried value pending component queued)
    (flush : Flush own carried component commands next)
    (keeps : next.value = value) (lowered : own → next.changed = false)
    (still : pending → ¬own → pending')
    (same : taken.filterMap carried = commands.filterMap carried) :
    Told carried value pending' next (queued ++ taken) := by
  refine ⟨keeps, ?_⟩
  cases flush with
  | flushed _ _ last =>
      rw [told.holds, latest, ← same] at last
      exact .inr (latest_append_of_some last)
  | untouched others =>
      have none : taken.filterMap carried = [] := by
        rw [same]
        exact List.filterMap_eq_nil_iff.mpr others
      rw [latest_append_of_none (List.filterMap_eq_nil_iff.mp none)]
      refine told.told.imp_left fun waits => ⟨still waits.1 fun ran => ?_, waits.2⟩
      rw [lowered ran] at waits
      cases waits.2
  | written others =>
      have none : taken.filterMap carried = [] := by
        rw [same]
        exact List.filterMap_eq_nil_iff.mpr others
      rw [latest_append_of_none (List.filterMap_eq_nil_iff.mp none)]
      refine told.told.imp_left fun waits => ⟨still waits.1 fun ran => ?_, rfl⟩
      cases lowered ran

end

/-! ## The commanded velocity -/

/-- The velocity an action writes into the component. -/
def driveOrder : EcsAction P → Option (DifferentialDrive P)
  | .setDrive drive => some drive
  | .resetScene => some (.rest P)
  | _ => none

/-- The velocities among these commands. -/
def drives (commands : List (Command P)) : List (DifferentialDrive P) :=
  commands.filterMap Command.driveOf

@[simp] theorem drives_append (front back : List (Command P)) :
    drives (front ++ back) = drives front ++ drives back :=
  List.filterMap_append

/-- What `ALVIK_OUT` accepts of some commands is a part of them. -/
theorem drives_accepted_sublist (out : AlvikOut P) (commands : List (Command P)) :
    (drives (accepted (sendEach out commands).2)).Sublist (drives commands) :=
  (accepted_sendEach_sublist out commands).filterMap _

theorem drive_value (ecs : Ecs P) (action : EcsAction P) :
    (ecs.perform action).1.drive.value = (driveOrder action).getD ecs.drive.value := by
  cases action with
  | setDrive | setWheel | setServos | setLights | resetScene | flushWheels | oneShot => rfl
  | flushDrive =>
      simp only [Ecs.perform, Ecs.flushDrive]
      split <;> rfl
  | flushServos => exact congrArg Tracked.value (flushServos_leaves ecs).drive
  | flushAlvikLeds => exact congrArg Tracked.value (flushAlvikLeds_leaves ecs).drive

theorem drive_written (ecs : Ecs P) {action : EcsAction P} {drive : DifferentialDrive P}
    (order : driveOrder action = some drive) :
    (ecs.perform action).1.drive = .write drive ∧ (ecs.perform action).2 = [] := by
  cases action with
  | setDrive | resetScene =>
      cases order
      exact ⟨rfl, rfl⟩
  | setWheel | setServos | setLights | flushWheels | flushDrive | flushServos | flushAlvikLeds
  | oneShot => cases order

/-- Without an order the component is left alone, or flushed by the one command that
carries it. -/
theorem drives_of_unordered (ecs : Ecs P) {action : EcsAction P}
    (unordered : driveOrder action = none) :
    ((ecs.perform action).1.drive = ecs.drive ∧
      drives (ecs.perform action).2 = []) ∨
    (ecs.drive.changed = true ∧ (ecs.perform action).1.drive = ecs.drive.seen ∧
      drives (ecs.perform action).2 = [ecs.drive.value]) := by
  have leaves {result : Ecs P × List (Command P)} (leaves : LeavesMotion ecs result) :
      result.1.drive = ecs.drive ∧ drives result.2 = [] :=
    ⟨leaves.drive, List.filterMap_eq_nil_iff.mpr fun command member =>
      (leaves.commands command member).1⟩
  cases action with
  | setDrive | resetScene => cases unordered
  | setWheel | setServos | setLights => exact .inl ⟨rfl, rfl⟩
  | flushWheels =>
      refine .inl ⟨rfl, List.filterMap_eq_nil_iff.mpr ?_⟩
      intro command member
      rcases List.mem_map.mp member with ⟨side, -, rfl⟩
      cases (ecs.wheel side).value <;> rfl
  | flushDrive =>
      simp only [Ecs.perform, Ecs.flushDrive]
      split
      case isTrue changed => exact .inr ⟨changed, rfl, rfl⟩
      case isFalse => exact .inl ⟨rfl, rfl⟩
  | flushServos => exact .inl (leaves (flushServos_leaves ecs))
  | flushAlvikLeds => exact .inl (leaves (flushAlvikLeds_leaves ecs))
  | oneShot command allowed => exact .inl (leaves (oneShot_leaves ecs allowed))

theorem drive_lowered (ecs : Ecs P) {action : EcsAction P} (own : action = .flushDrive) :
    (ecs.perform action).1.drive.changed = false := by
  subst own
  simp only [Ecs.perform, Ecs.flushDrive]
  split
  case isTrue => rfl
  case isFalse unchanged => exact Bool.eq_false_iff.mpr unchanged

end BeetEsp.Alvik.Transport
