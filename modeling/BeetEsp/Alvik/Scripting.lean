import BeetEsp.Alvik.Sensors
import BeetEsp.Scripting.ScriptState

/-! # The Alvik script step

`AlvikScriptStep` of `alvik/scripting.rs`: the sensor snapshot it gathers and the
drive and LED output it applies, both through global queries.
-/

namespace BeetEsp.Alvik

open Foundation
open Scripting (Engine StateMap DomainStep)

/-- The sensor components a snapshot is taken of. -/
structure Sensors (P : Quantities) where
  /-- `Tof::center`. -/
  tofCenter : P.Distance
  line : LineSensors
  /-- The yaw of the `Orientation` in degrees, as the pattern of an `f64`. -/
  yawDeg : UInt64
  touch : UInt8

structure RobotRoot (P : Quantities) where
  drive : DifferentialDrive P
  sensors : Sensors P

/-- An `AlvikLed` with its `LedColor`. -/
structure AlvikLed (P : Quantities) where
  side : Side
  color : P.Color

/-- What the step and `ResetScene` see of the robot. -/
structure AlvikDomain (P : Quantities) where
  /-- `Time` in whole milliseconds since boot. -/
  elapsedMs : Int
  robots : List (RobotRoot P)
  leds : List (AlvikLed P)

structure AlvikInput (E : Engine) where
  elapsedMs : Int
  depthMm : Int
  lineLeft : Int
  lineCenter : Int
  lineRight : Int
  yawDeg : UInt64
  touch : Int
  state : StateMap E

structure AlvikOutput (E : Engine) where
  linear : F32
  angular : F32
  ledLeft : UInt32
  ledRight : UInt32
  state : StateMap E

section

variable (P : Quantities) {E : Engine}

/-- Unpack a `0xRRGGBB` integer into a colour. -/
def unpackColor (packed : UInt32) : P.Color :=
  P.srgbU8 (packed >>> 16).toUInt8 (packed >>> 8).toUInt8 packed.toUInt8

def AlvikOutput.drive (output : AlvikOutput E) : DifferentialDrive P where
  linear := P.fromMmPerSec output.linear
  angular := P.fromDegPerSec output.angular

def AlvikOutput.color (output : AlvikOutput E) (side : Side) : P.Color :=
  match side with
  | .left => unpackColor P output.ledLeft
  | .right => unpackColor P output.ledRight

end

variable {P : Quantities} {E : Engine}

namespace AlvikDomain

/-- `None` unless exactly one robot is up. -/
def gather (domain : AlvikDomain P) (state : StateMap E) : Option (AlvikInput E) :=
  match domain.robots with
  | [{ sensors, .. }] => some {
      elapsedMs := domain.elapsedMs
      depthMm := (P.asMillimeters sensors.tofCenter).toI64
      lineLeft := sensors.line.left.toInt
      lineCenter := sensors.line.center.toInt
      lineRight := sensors.line.right.toInt
      yawDeg := sensors.yawDeg
      touch := sensors.touch.toNat
      state }
  | _ => none

/-- Every robot and every UI LED, whatever they are set to. -/
def apply (domain : AlvikDomain P) (output : AlvikOutput E) : AlvikDomain P :=
  { domain with
    robots := domain.robots.map fun robot => { robot with drive := output.drive P }
    leds := domain.leds.map fun led => { led with color := output.color P led.side } }

/-- `reset_robot` and `reset_leds`. -/
def reset (domain : AlvikDomain P) : AlvikDomain P :=
  { domain with
    robots := domain.robots.map fun robot => { robot with drive := .rest P }
    leds := domain.leds.map fun led => { led with color := P.black } }

end AlvikDomain

/-- `AlvikScriptStep`. -/
def alvikScriptStep (P : Quantities) (E : Engine) :
    DomainStep E (AlvikDomain P) (AlvikInput E) (AlvikOutput E) where
  gather := fun world state => world.domain.gather state
  apply := fun world output =>
    ({ world with domain := world.domain.apply output }, output.state)

/-- Interleaved ticks of `AlvikScriptStep`, from a world at boot. -/
abbrev alvikScriptSteps (boot : Scripting.World E (AlvikDomain P)) :=
  Scripting.scriptSteps (alvikScriptStep P E) AlvikDomain.reset boot

end BeetEsp.Alvik
