import BeetEsp.Alvik.Components
import BeetEsp.Alvik.Protocol

/-! # The flush systems

Each system reads the components and returns the commands it sends, in order.
Whether the queue takes them does not come back: the result of every send is
discarded.
-/

namespace BeetEsp.Alvik

open Foundation

variable {P : Quantities}

def WheelTarget.command (wheel : Side) : WheelTarget P → Command P
  | .speed target => .wheelSpeed wheel target
  | .position target => .wheelPosition wheel target

namespace Ecs

/-- Send a per-wheel command for each changed target. -/
def flushWheels (ecs : Ecs P) : Ecs P × List (Command P) :=
  let changed := [Side.left, Side.right].filter fun side => (ecs.wheel side).changed
  ({ ecs with wheel := fun side => (ecs.wheel side).seen },
    changed.map fun side => (ecs.wheel side).value.command side)

/-- Send a drive command when the commanded velocity changed. -/
def flushDrive (ecs : Ecs P) : Ecs P × List (Command P) :=
  if ecs.drive.changed then
    ({ ecs with drive := ecs.drive.seen },
      [.drive ecs.drive.value.linear ecs.drive.value.angular])
  else
    (ecs, [])

/-- Both positions in degrees, when both servos are there. -/
def servoPositions (servos : List (Servo P)) : Option (UInt8 × UInt8) :=
  let positions := servos.foldl place (none, none)
  match positions with
  | (some a, some b) => some (a, b)
  | _ => none
where
  place (positions : Option UInt8 × Option UInt8) (servo : Servo P) :
      Option UInt8 × Option UInt8 :=
    match servo.id with
    | .a => (some servo.degrees, positions.2)
    | .b => (positions.1, some servo.degrees)

/-- Compose both servo positions into one command when either differs from what
was sent last. -/
def flushServos (ecs : Ecs P) : Ecs P × List (Command P) :=
  let seen := { ecs with servos := ecs.servos.seen }
  match servoPositions ecs.servos.value with
  | some (a, b) =>
      if ecs.servosLast ≠ some (a, b) then
        ({ seen with servosLast := some (a, b) }, [.setServo a b])
      else
        (seen, [])
  | none => (seen, [])

/-- The aggregated state byte, or `none` when the app drives no Alvik LED. -/
def ledByte (lights : Lights P) : Option UInt8 :=
  if lights.leds.isEmpty && lights.illuminator.isNone && lights.builtin.isNone then
    none
  else
    let byte : UInt8 := if lights.builtin.getD false then 0b00000001 else 0
    let byte := if lights.illuminator.getD false then byte ||| 0b00000010 else byte
    some (lights.leds.foldl light byte)
where
  light (byte : UInt8) (led : Side × P.Color) : UInt8 :=
    let srgb := P.toSrgba led.2
    let (red, green, blue) : UInt8 × UInt8 × UInt8 :=
      match led.1 with
      | .left => (0b00000100, 0b00001000, 0b00010000)
      | .right => (0b00100000, 0b01000000, 0b10000000)
    -- 0x3F000000 is 0.5
    let byte := if F32.lt 0x3F000000 srgb.red then byte ||| red else byte
    let byte := if F32.lt 0x3F000000 srgb.green then byte ||| green else byte
    if F32.lt 0x3F000000 srgb.blue then byte ||| blue else byte

/-- Send the LED state byte when it differs from what was sent last. -/
def flushAlvikLeds (ecs : Ecs P) : Ecs P × List (Command P) :=
  let seen := { ecs with lights := ecs.lights.seen }
  match ledByte ecs.lights.value with
  | some byte =>
      if ecs.ledsLast ≠ some byte then
        ({ seen with ledsLast := some byte }, [.setLeds byte])
      else
        (seen, [])
  | none => (seen, [])

theorem flushServos_cases (ecs : Ecs P) :
    (∃ a b, servoPositions ecs.servos.value = some (a, b) ∧
      ecs.servosLast ≠ some (a, b) ∧
      ecs.flushServos = ({ ecs with
        servos := ecs.servos.seen
        servosLast := some (a, b) }, [.setServo a b])) ∨
    ((∀ pair, servoPositions ecs.servos.value = some pair →
        ecs.servosLast = some pair) ∧
      ecs.flushServos = ({ ecs with servos := ecs.servos.seen }, [])) := by
  cases positions : servoPositions ecs.servos.value with
  | none => exact .inr ⟨nofun, by simp only [flushServos, positions]⟩
  | some pair =>
      rcases pair with ⟨a, b⟩
      by_cases same : ecs.servosLast = some (a, b)
      · refine .inr ⟨?_, by simp only [flushServos, positions, same, ne_eq,
          not_true_eq_false, ↓reduceIte]⟩
        rintro pair ⟨⟩
        exact same
      · exact .inl ⟨a, b, rfl, same, by simp only [flushServos, positions, ne_eq,
          same, not_false_eq_true, ↓reduceIte]⟩

theorem flushAlvikLeds_cases (ecs : Ecs P) :
    (∃ byte, ledByte ecs.lights.value = some byte ∧ ecs.ledsLast ≠ some byte ∧
      ecs.flushAlvikLeds = ({ ecs with
        lights := ecs.lights.seen
        ledsLast := some byte }, [.setLeds byte])) ∨
    ((∀ byte, ledByte ecs.lights.value = some byte → ecs.ledsLast = some byte) ∧
      ecs.flushAlvikLeds = ({ ecs with lights := ecs.lights.seen }, [])) := by
  cases state : ledByte ecs.lights.value with
  | none => exact .inr ⟨nofun, by simp only [flushAlvikLeds, state]⟩
  | some byte =>
      by_cases same : ecs.ledsLast = some byte
      · refine .inr ⟨?_, by simp only [flushAlvikLeds, state, same, ne_eq,
          not_true_eq_false, ↓reduceIte]⟩
        rintro other ⟨⟩
        exact same
      · exact .inl ⟨byte, rfl, same, by simp only [flushAlvikLeds, state, ne_eq,
          same, not_false_eq_true, ↓reduceIte]⟩

end Ecs

/-- What a command of one of the flushed kinds tells the robot. -/
def Command.driveOf : Command P → Option (DifferentialDrive P)
  | .drive linear angular => some { linear, angular }
  | _ => none

def Command.targetOf (side : Side) : Command P → Option (WheelTarget P)
  | .wheelSpeed wheel speed => if wheel = side then some (.speed speed) else none
  | .wheelPosition wheel position =>
      if wheel = side then some (.position position) else none
  | _ => none

def Command.servosOf : Command P → Option (UInt8 × UInt8)
  | .setServo a b => some (a, b)
  | _ => none

def Command.ledsOf : Command P → Option UInt8
  | .setLeds state => some state
  | _ => none

@[simp] theorem WheelTarget.targetOf_command (target : WheelTarget P)
    (wheel side : Side) :
    (target.command wheel).targetOf side = if wheel = side then some target else none := by
  cases target <;> rfl

/-- Commands an app may queue besides the flush systems: those that carry none
of the flushed components. -/
def Command.oneShot : Command P → Bool
  | .drive _ _ | .wheelSpeed _ _ | .wheelPosition _ _ | .setServo _ _
  | .setLeds _ => false
  | _ => true

theorem Command.kinds_of_oneShot {command : Command P}
    (allowed : command.oneShot = true) :
    command.driveOf = none ∧ (∀ side, command.targetOf side = none) ∧
      command.servosOf = none ∧ command.ledsOf = none := by
  cases command <;> simp_all [oneShot, driveOf, targetOf, servosOf, ledsOf]

/-- What can happen on the ECS side between two visits of the driver. -/
inductive EcsAction (P : Quantities)
  | setDrive (drive : DifferentialDrive P)
  | setWheel (side : Side) (target : WheelTarget P)
  | setServos (servos : List (Servo P))
  | setLights (lights : Lights P)
  | resetScene
  | flushWheels
  | flushDrive
  | flushServos
  | flushAlvikLeds
  | oneShot (command : Command P) (allowed : command.oneShot = true)

/-- Perform an action; the commands are those it sends. -/
def Ecs.perform (ecs : Ecs P) : EcsAction P → Ecs P × List (Command P)
  | .setDrive drive => ({ ecs with drive := .write drive }, [])
  | .setWheel side target =>
      ({ ecs with wheel := Function.update ecs.wheel side (.write target) }, [])
  | .setServos servos => ({ ecs with servos := .write servos }, [])
  | .setLights lights => ({ ecs with lights := .write lights }, [])
  | .resetScene => (ecs.resetRobot.resetLeds, [])
  | .flushWheels => ecs.flushWheels
  | .flushDrive => ecs.flushDrive
  | .flushServos => ecs.flushServos
  | .flushAlvikLeds => ecs.flushAlvikLeds
  | .oneShot command _ => (ecs, [command])

end BeetEsp.Alvik
