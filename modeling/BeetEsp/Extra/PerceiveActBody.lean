import BeetEsp.Foundation.Machine
import BeetEsp.Foundation.Timer
import BeetEsp.Alvik.Quantities

/-! # The body of the perceive-act loop

The `drive` route of `extra/perceive_act_body.rs` and the system that ends its
steps. A handler accesses the world twice, and each access is served in a window
of its own: other handlers, frames and a `ResetScene` may come between them.
-/

namespace BeetEsp.Extra

open Foundation
open Alvik (Quantities DifferentialDrive)

structure DriveForDuration (P : Quantities) where
  drive : DifferentialDrive P
  duration : Nat

/-- How long the agent waits before its next photo. -/
inductive SettleTime
  | none
  | new (duration : Nat)
  deriving DecidableEq

namespace PerceiveActBody

variable {P : Quantities}

/-- The `AlvikRobot` root. -/
structure Robot (P : Quantities) where
  drive : DifferentialDrive P
  /-- The timer of the `DriveStep`, while the robot has one. -/
  driveStep : Option Timer

namespace Robot

def spawned (P : Quantities) : Robot P where
  drive := .rest P
  driveStep := none

/-- The first access of `DriveForDurationAction`. -/
def write (request : DriveForDuration P) (robot : Robot P) : Robot P :=
  { robot with drive := request.drive }

/-- The second access; an insert replaces the component. -/
def insertDriveStep (request : DriveForDuration P) (robot : Robot P) : Robot P :=
  { robot with driveStep := some (.once request.duration) }

/-- `expire_drive_step`, with the removal its commands defer. -/
def expireDriveStep (delta : Nat) (robot : Robot P) : Robot P :=
  match robot.driveStep with
  | none => robot
  | some timer =>
      if (timer.tick delta).finished then { drive := .rest P, driveStep := none }
      else { robot with driveStep := some (timer.tick delta) }

/-- `reset_robot` knows nothing of the `DriveStep`. -/
def reset (robot : Robot P) : Robot P :=
  { robot with drive := .rest P }

end Robot

structure World (P : Quantities) where
  robot : Option (Robot P)
  /-- The handlers between their two accesses, by the order of the first. -/
  handlers : List (DriveForDuration P)

inductive Action (P : Quantities)
  /-- The boot tree with the robot at its root. -/
  | spawnAlvik
  /-- A handler's first access. -/
  | drive (request : DriveForDuration P)
  /-- The second access of the handler at this index, and its reply. -/
  | insertDriveStep (index : Nat)
  /-- A frame that took this long. -/
  | frame (delta : Nat)
  | resetScene

inductive Event (P : Quantities)
  | wrote (request : DriveForDuration P)
  | replied (request : DriveForDuration P) (settle : SettleTime)
  | ticked (delta : Nat)
  | wasReset

def World.step (world : World P) : Action P → Option (World P × List (Event P))
  | .spawnAlvik =>
      match world.robot with
      | none => some ({ world with robot := some (.spawned P) }, [])
      | some _ => none
  | .drive request =>
      match world.robot with
      | some robot => some ({
          robot := some (robot.write request)
          handlers := world.handlers ++ [request] }, [.wrote request])
      -- no robot up: nothing will move, so nothing to settle
      | none => some (world, [.replied request .none])
  | .insertDriveStep index =>
      match world.handlers[index]? with
      | some request => some ({
          robot := world.robot.map (Robot.insertDriveStep request)
          handlers := world.handlers.eraseIdx index },
          [.replied request (.new request.duration)])
      | none => none
  | .frame delta =>
      some ({ world with robot := world.robot.map (Robot.expireDriveStep delta) },
        [.ticked delta])
  | .resetScene =>
      some ({ world with robot := world.robot.map Robot.reset }, [.wasReset])

end PerceiveActBody

open PerceiveActBody in
/-- The robot, its `drive` handlers and the frames, from boot on. -/
def perceiveActBody (P : Quantities) : Machine (World P) (Action P) (Event P) where
  initial := ⟨none, []⟩
  step := World.step

namespace PerceiveActBody

variable {P : Quantities}

/-! ## Steps -/

inductive Step : World P → Action P → World P → List (Event P) → Prop
  | spawned {handlers} :
      Step ⟨none, handlers⟩ .spawnAlvik ⟨some (.spawned P), handlers⟩ []
  | unavailable {handlers request} :
      Step ⟨none, handlers⟩ (.drive request) ⟨none, handlers⟩
        [.replied request .none]
  | wrote {robot handlers request} :
      Step ⟨some robot, handlers⟩ (.drive request)
        ⟨some (robot.write request), handlers ++ [request]⟩ [.wrote request]
  | inserted {robot handlers index request}
      (pending : handlers[index]? = some request) :
      Step ⟨robot, handlers⟩ (.insertDriveStep index)
        ⟨robot.map (Robot.insertDriveStep request), handlers.eraseIdx index⟩
        [.replied request (.new request.duration)]
  | frame {robot handlers delta} :
      Step ⟨robot, handlers⟩ (.frame delta)
        ⟨robot.map (Robot.expireDriveStep delta), handlers⟩ [.ticked delta]
  | reset {robot handlers} :
      Step ⟨robot, handlers⟩ .resetScene ⟨robot.map Robot.reset, handlers⟩
        [.wasReset]

theorem step_shape {world next : World P} {action : Action P}
    {events : List (Event P)}
    (stepped : (perceiveActBody P).step world action = some (next, events)) :
    Step world action next events := by
  rcases world with ⟨robot, handlers⟩
  simp only [perceiveActBody] at stepped
  cases action with
  | spawnAlvik =>
      cases robot with
      | none =>
          cases stepped
          exact .spawned
      | some robot => cases stepped
  | drive request =>
      cases robot with
      | none =>
          cases stepped
          exact .unavailable
      | some robot =>
          cases stepped
          exact .wrote
  | insertDriveStep index =>
      simp only [World.step] at stepped
      split at stepped
      case h_1 request pending =>
        cases stepped
        exact .inserted pending
      case h_2 => cases stepped
  | frame delta =>
      cases stepped
      exact .frame
  | resetScene =>
      cases stepped
      exact .reset

/-- What a frame does to the robot. -/
inductive Expiry (robot : Robot P) (delta : Nat) : Robot P → Prop
  | idle (none : robot.driveStep = none) : Expiry robot delta robot
  | ended {timer} (running : robot.driveStep = some timer)
      (finished : (timer.tick delta).finished = true) :
      Expiry robot delta ⟨.rest P, none⟩
  | ticked {timer} (running : robot.driveStep = some timer)
      (unfinished : (timer.tick delta).finished = false) :
      Expiry robot delta { robot with driveStep := some (timer.tick delta) }

theorem Robot.expireDriveStep_of_finished {robot : Robot P} {timer : Timer} {delta : Nat}
    (running : robot.driveStep = some timer)
    (finished : (timer.tick delta).finished = true) :
    robot.expireDriveStep delta = ⟨.rest P, none⟩ := by
  simp only [Robot.expireDriveStep, running, if_pos finished]

theorem expiry (robot : Robot P) (delta : Nat) :
    Expiry robot delta (robot.expireDriveStep delta) := by
  rw [Robot.expireDriveStep]
  cases step : robot.driveStep with
  | none => exact .idle step
  | some timer =>
      simp only
      split
      case isTrue finished => exact .ended step finished
      case isFalse unfinished => exact .ticked step (Bool.eq_false_iff.mpr unfinished)

/-! ## Histories -/

/-- The frames in a stretch of history. -/
def frames (history : List (Event P)) : List Nat :=
  history.filterMap fun
    | .ticked delta => some delta
    | _ => none

theorem frames_append (front back : List (Event P)) :
    frames (front ++ back) = frames front ++ frames back :=
  List.filterMap_append

@[simp] theorem frames_nil : frames ([] : List (Event P)) = [] := rfl

@[simp] theorem frames_ticked (delta : Nat) :
    frames [Event.ticked (P := P) delta] = [delta] := rfl

end PerceiveActBody

end BeetEsp.Extra
