import Mathlib.Logic.Function.Basic
import BeetEsp.Alvik.Quantities

/-! # Command components

The components of the robot that the transport systems read, from
`alvik/components.rs`, and what the `<Alvik>` element spawns.
-/

namespace BeetEsp.Alvik

open Foundation

/-- A component together with its change flag for the system that flushes it:
raised by every write, also by one of the same value, and lowered when that
system has run. -/
structure Tracked (Value : Type u) where
  value : Value
  changed : Bool

/-- A write, or the insertion of the component. -/
def Tracked.write (value : Value) : Tracked Value where
  value
  changed := true

def Tracked.seen (component : Tracked Value) : Tracked Value where
  value := component.value
  changed := false

/-- Commanded wheel intent. -/
inductive WheelTarget (P : Quantities)
  | speed (speed : P.AngularVelocity)
  | position (position : P.Angle)

inductive ServoId
  | a
  | b
  deriving DecidableEq

structure Servo (P : Quantities) where
  id : ServoId
  position : P.Angle

/-- Position in whole degrees, clamped to the servo's 0..=180° range. -/
def Servo.degrees {P : Quantities} (servo : Servo P) : UInt8 :=
  F32.toU8 (F32.clamp (P.asDegrees servo.position) 0 0x43340000)

/-- The optional lights of the robot root and the colours of its UI LEDs. -/
structure Lights (P : Quantities) where
  illuminator : Option Bool
  builtin : Option Bool
  leds : List (Side × P.Color)

/-- Everything the flush systems read, and what they remember between frames. -/
structure Ecs (P : Quantities) where
  drive : Tracked (DifferentialDrive P)
  wheel : Side → Tracked (WheelTarget P)
  servos : Tracked (List (Servo P))
  lights : Tracked (Lights P)
  /-- `last` of `flush_servos`. -/
  servosLast : Option (UInt8 × UInt8)
  /-- `last` of `flush_alvik_leds`. -/
  ledsLast : Option UInt8

/-- The robot as the `<Alvik>` element spawns it: at rest, both servos at 90°,
illuminator on and LEDs dark. -/
def Ecs.spawned (P : Quantities) : Ecs P where
  drive := .write (DifferentialDrive.rest P)
  wheel := fun _ => .write (.speed P.defaultAngularVelocity)
  servos := .write [⟨.a, P.fromDegrees 0x42B40000⟩, ⟨.b, P.fromDegrees 0x42B40000⟩]
  lights := .write {
    illuminator := some true
    builtin := some false
    leds := [(.left, P.black), (.right, P.black)] }
  servosLast := none
  ledsLast := none

/-- `reset_robot`: motors and wheels to rest. Both loops write through the
component, so the flags are raised even for a robot that is already at rest. -/
def Ecs.resetRobot {P : Quantities} (ecs : Ecs P) : Ecs P :=
  { ecs with
    drive := .write (DifferentialDrive.rest P)
    wheel := fun _ => .write (.speed (P.fromRpm 0)) }

/-- `reset_leds`: every LED colour to black. -/
def Ecs.resetLeds {P : Quantities} (ecs : Ecs P) : Ecs P :=
  { ecs with
    lights := .write { ecs.lights.value with
      leds := ecs.lights.value.leds.map fun led => (led.1, P.black) } }

end BeetEsp.Alvik
