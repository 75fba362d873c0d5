import BeetEsp.Foundation.Binary32

/-! # Quantities and shared value types

The typed quantities of `beet::prelude` are not part of the firmware. It uses
them only through their conversions, so these are a parameter.
-/

namespace BeetEsp.Alvik

open Foundation

structure Srgba where
  red : F32
  green : F32
  blue : F32
  alpha : F32

structure Quantities where
  Angle : Type
  Distance : Type
  AngularVelocity : Type
  LinearVelocity : Type
  Color : Type
  asDegrees : Angle → F32
  fromDegrees : F32 → Angle
  asMillimeters : Distance → F32
  fromMillimeters : F32 → Distance
  asRpm : AngularVelocity → F32
  fromRpm : F32 → AngularVelocity
  asDegPerSec : AngularVelocity → F32
  fromDegPerSec : F32 → AngularVelocity
  asMmPerSec : LinearVelocity → F32
  fromMmPerSec : F32 → LinearVelocity
  /-- `AngularVelocity::default()`. -/
  defaultAngularVelocity : AngularVelocity
  /-- `LinearVelocity::default()`. -/
  defaultLinearVelocity : LinearVelocity
  /-- `Color::BLACK`. -/
  black : Color
  /-- `Color::srgb_u8`. -/
  srgbU8 : UInt8 → UInt8 → UInt8 → Color
  toSrgba : Color → Srgba

/-- Quantities that are nothing but their wire values. A colour keeps its three
channel bytes, and a channel counts as lit from half its range on. -/
@[reducible] def Quantities.wire : Quantities where
  Angle := F32
  Distance := F32
  AngularVelocity := F32
  LinearVelocity := F32
  Color := UInt8 × UInt8 × UInt8
  asDegrees := id
  fromDegrees := id
  asMillimeters := id
  fromMillimeters := id
  asRpm := id
  fromRpm := id
  asDegPerSec := id
  fromDegPerSec := id
  asMmPerSec := id
  fromMmPerSec := id
  defaultAngularVelocity := 0
  defaultLinearVelocity := 0
  black := (0, 0, 0)
  srgbU8 := fun red green blue => (red, green, blue)
  toSrgba := fun (red, green, blue) =>
    { red := channel red, green := channel green, blue := channel blue
      alpha := 0x3F800000 }
where
  /-- `0.0` or `1.0`. -/
  channel (value : UInt8) : F32 := if 128 ≤ value then 0x3F800000 else 0

/-- Which wheel a per-wheel command addresses. -/
inductive Side
  | left
  | right
  deriving DecidableEq, Repr

/-- The ucPack label byte (`'L'` / `'R'`). -/
def Side.label : Side → UInt8
  | .left => 'L'.toUInt8
  | .right => 'R'.toUInt8

theorem Side.label_injective : Function.Injective Side.label := by
  intro side other equal
  cases side <;> cases other
  case left.left => rfl
  case right.right => rfl
  all_goals exact absurd equal (by decide)

@[simp] theorem Side.label_inj {side other : Side} :
    side.label = other.label ↔ side = other :=
  label_injective.eq_iff

/-- The commanded velocity of the robot. -/
structure DifferentialDrive (P : Quantities) where
  linear : P.LinearVelocity
  angular : P.AngularVelocity

/-- `DifferentialDrive::default()`: the robot at rest. -/
def DifferentialDrive.rest (P : Quantities) : DifferentialDrive P where
  linear := P.defaultLinearVelocity
  angular := P.defaultAngularVelocity

end BeetEsp.Alvik
