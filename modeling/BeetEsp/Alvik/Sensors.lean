import BeetEsp.Alvik.Status

/-! # Sensor and state components

The components of the robot that `apply_status` writes, from
`alvik/components.rs`, and `apply_status` itself, from `alvik/systems.rs`.
-/

namespace BeetEsp.Alvik

open Foundation

/-- The upstream values the sensor components hold, and the arithmetic they are
built with. -/
structure Readouts (P : Quantities) extends Defaults P where
  Isometry2d : Type
  Quat : Type
  asRadians : P.Angle → F32
  /-- `Isometry2d::new(Vec2::new(x, y), Rot2::radians(theta))`. -/
  isometry2d : F32 → F32 → F32 → Isometry2d
  /-- `Quat::from_euler(EulerRot::XYZ, roll, pitch, yaw)`. -/
  fromEulerXyz : F32 → F32 → F32 → Quat
  /-- `as f32`. -/
  ofI16 : Int16 → F32
  sub : F32 → F32 → F32
  div : F32 → F32 → F32
  /-- `Color::srgb`. -/
  srgb : F32 → F32 → F32 → P.Color

/-- Readouts of a robot without a colour sensor at heading zero: no colour
arithmetic is done, and no angle converted. -/
@[reducible] def Readouts.wire : Readouts Quantities.wire where
  angle := 0
  distance := 0
  Isometry2d := F32 × F32 × F32
  Quat := F32 × F32 × F32
  asRadians := id
  isometry2d := fun x y theta => (x, y, theta)
  fromEulerXyz := fun roll pitch yaw => (roll, pitch, yaw)
  ofI16 := fun _ => 0
  sub := fun _ _ => 0
  div := fun _ _ => 0
  srgb := fun _ _ _ => (0, 0, 0)

structure Vec3 where
  x : F32
  y : F32
  z : F32

structure FirmwareVersion where
  major : UInt8
  minor : UInt8
  patch : UInt8

structure BatterState where
  percent : F32
  charging : Bool

structure WheelState (P : Quantities) where
  speed : P.AngularVelocity
  position : P.Angle

/-- Raw counts of the line-following reflectance sensors. -/
structure LineSensors where
  left : Int16
  center : Int16
  right : Int16

/-- The raw counts plus the calibrated reading. -/
structure ColorSensor (P : Quantities) where
  raw : Int16 × Int16 × Int16
  color : P.Color

structure Tof (P : Quantities) where
  left : P.Distance
  centerLeft : P.Distance
  center : P.Distance
  centerRight : P.Distance
  right : P.Distance
  top : P.Distance
  bottom : P.Distance

structure Imu where
  accel : Vec3
  gyro : Vec3

variable {P : Quantities}

namespace ColorSensor

/-- One channel between its black and its white reference. -/
def channel (R : Readouts P) (value : Int16) (black white : F32) : F32 :=
  let value := F32.clamp (R.ofI16 value) black white
  R.div (R.sub value black) (R.sub white black)

/-- `normalize_color`, with `BLACK_CAL` (160, 200, 190) and `WHITE_CAL`
(450, 500, 510) as bit patterns. -/
def normalizeColor (R : Readouts P) (red green blue : Int16) : P.Color :=
  R.srgb (channel R red 0x43200000 0x43E10000)
    (channel R green 0x43480000 0x43FA0000)
    (channel R blue 0x433E0000 0x43FF0000)

def update (R : Readouts P) (red green blue : Int16) : ColorSensor P where
  raw := (red, green, blue)
  color := normalizeColor R red green blue

end ColorSensor

/-- The robot-root components `apply_status` writes, each optional so an app
spawns only what it uses. -/
structure AlvikComponents (R : Readouts P) where
  pose : Option R.Isometry2d
  imu : Option Imu
  orientation : Option R.Quat
  line : Option LineSensors
  color : Option (ColorSensor P)
  tof : Option (Tof P)
  battery : Option BatterState
  touch : Option UInt8
  motion : Option UInt8
  behavior : Option UInt8
  connected : Option Bool
  firmware : Option FirmwareVersion

abbrev Wheels (P : Quantities) := List (Side × WheelState P)

/-- A robot with every component but the colour sensor, as they are spawned. -/
def AlvikComponents.zero : AlvikComponents Readouts.wire where
  pose := some (0, 0, 0)
  imu := some ⟨⟨0, 0, 0⟩, ⟨0, 0, 0⟩⟩
  orientation := some (0, 0, 0)
  line := some ⟨0, 0, 0⟩
  color := none
  tof := some ⟨0, 0, 0, 0, 0, 0, 0⟩
  battery := some ⟨0, false⟩
  touch := some 0
  motion := some 0
  behavior := some 0
  connected := some false
  firmware := some ⟨0, 0, 0⟩

def Wheels.zero : Wheels Quantities.wire := [(.left, ⟨0, 0⟩), (.right, ⟨0, 0⟩)]

namespace AlvikComponents

variable {R : Readouts P}

/-- The snapshot half of `apply_status`. A received snapshot also proves that the
link is live; the measured velocity is deliberately not written back. -/
def receive (robot : AlvikComponents R) (snapshot : StatusSnapshot P) :
    AlvikComponents R :=
  { robot with
    connected := robot.connected.map fun _ => true
    pose := robot.pose.map fun _ =>
      R.isometry2d (P.asMillimeters snapshot.pose.1) (P.asMillimeters snapshot.pose.2.1)
        (R.asRadians snapshot.pose.2.2)
    imu := robot.imu.map fun imu =>
      { imu with
        accel := ⟨snapshot.imu[0], snapshot.imu[1], snapshot.imu[2]⟩
        gyro := ⟨snapshot.imu[3], snapshot.imu[4], snapshot.imu[5]⟩ }
    orientation := robot.orientation.map fun _ =>
      let (roll, pitch, yaw) := snapshot.orientation
      R.fromEulerXyz (R.asRadians roll) (R.asRadians pitch) (R.asRadians yaw)
    line := robot.line.map fun line =>
      { line with
        left := snapshot.line.1
        center := snapshot.line.2.1
        right := snapshot.line.2.2 }
    color := robot.color.map fun _ =>
      .update R snapshot.color.1 snapshot.color.2.1 snapshot.color.2.2
    tof := robot.tof.map fun tof =>
      { tof with
        left := snapshot.tofLeft
        centerLeft := snapshot.tofCenterLeft
        center := snapshot.tofCenter
        centerRight := snapshot.tofCenterRight
        right := snapshot.tofRight
        top := snapshot.tofTop
        bottom := snapshot.tofBottom }
    battery := robot.battery.map fun battery =>
      { battery with
        percent := snapshot.battery.1
        charging := snapshot.battery.2 } }

/-- One turn of the loop that drains the event queue. -/
def handle (robot : AlvikComponents R) : Status P → AlvikComponents R
  | .touch bits => { robot with touch := robot.touch.map fun _ => bits }
  | .motion bits => { robot with motion := robot.motion.map fun _ => bits }
  | .behavior code => { robot with behavior := robot.behavior.map fun _ => code }
  | .fwVersion major minor patch =>
      { robot with
        firmware := robot.firmware.map fun version => { version with major, minor, patch }
        connected := robot.connected.map fun _ => true }
  | _ => robot

end AlvikComponents

/-- The wheels' share of the snapshot. -/
def Wheels.receive (wheels : Wheels P) (snapshot : StatusSnapshot P) : Wheels P :=
  wheels.map fun (side, state) =>
    match side with
    | .left =>
        (side, { state with
          speed := snapshot.wheelLeftSpeed
          position := snapshot.wheelLeftPosition })
    | .right =>
        (side, { state with
          speed := snapshot.wheelRightSpeed
          position := snapshot.wheelRightPosition })

/-! ## What the sensors show -/

/-- Every sensor component that was spawned shows the given readings. `spawned`
says which components there are. -/
structure Shows {R : Readouts P} (shown : (field : Field) → field.Value P)
    (spawned : AlvikComponents R) (spawnedWheels : Wheels P)
    (robot : AlvikComponents R) (wheels : Wheels P) : Prop where
  pose : robot.pose = spawned.pose.map fun _ =>
    R.isometry2d (P.asMillimeters (shown .pose).1)
      (P.asMillimeters (shown .pose).2.1) (R.asRadians (shown .pose).2.2)
  imu : robot.imu = spawned.imu.map fun _ =>
    { accel := ⟨(shown .imu)[0], (shown .imu)[1], (shown .imu)[2]⟩
      gyro := ⟨(shown .imu)[3], (shown .imu)[4], (shown .imu)[5]⟩ }
  orientation : robot.orientation = spawned.orientation.map fun _ =>
    R.fromEulerXyz (R.asRadians (shown .orientation).1)
      (R.asRadians (shown .orientation).2.1)
      (R.asRadians (shown .orientation).2.2)
  line : robot.line = spawned.line.map fun _ =>
    ⟨(shown .line).1, (shown .line).2.1, (shown .line).2.2⟩
  color : robot.color.map ColorSensor.raw = spawned.color.map fun _ => shown .color
  tof : robot.tof = spawned.tof.map fun _ =>
    { left := shown .tofLeft
      centerLeft := shown .tofCenterLeft
      center := shown .tofCenter
      centerRight := shown .tofCenterRight
      right := shown .tofRight
      top := shown .tofTop
      bottom := shown .tofBottom }
  battery : robot.battery = spawned.battery.map fun _ =>
    ⟨(shown .battery).1, (shown .battery).2⟩
  wheels : wheels = spawnedWheels.map fun (side, _) =>
    match side with
    | .left => (side, ⟨shown .wheelLeftSpeed, shown .wheelLeftPosition⟩)
    | .right => (side, ⟨shown .wheelRightSpeed, shown .wheelRightPosition⟩)

/-- The sensor components that were spawned are still there. -/
structure Present {R : Readouts P} (spawned : AlvikComponents R)
    (spawnedWheels : Wheels P) (robot : AlvikComponents R) (wheels : Wheels P) :
    Prop where
  pose : robot.pose.isSome = spawned.pose.isSome
  imu : robot.imu.isSome = spawned.imu.isSome
  orientation : robot.orientation.isSome = spawned.orientation.isSome
  line : robot.line.isSome = spawned.line.isSome
  color : robot.color.isSome = spawned.color.isSome
  tof : robot.tof.isSome = spawned.tof.isSome
  battery : robot.battery.isSome = spawned.battery.isSome
  wheels : wheels.map Prod.fst = spawnedWheels.map Prod.fst

/-- What overwrites a component depends only on its presence. -/
private theorem overwrite_eq {Before After Value : Type} {before : Option Before}
    {after : Option After} (same : after.isSome = before.isSome) (value : Value) :
    (after.map fun _ => value) = before.map fun _ => value := by
  cases before <;> cases after <;> first | rfl | cases same

theorem shows_receive {R : Readouts P} {spawned robot : AlvikComponents R}
    {spawnedWheels wheels : Wheels P}
    (present : Present spawned spawnedWheels robot wheels)
    (snapshot : StatusSnapshot P) :
    Shows snapshot.read spawned spawnedWheels (robot.receive snapshot)
      (wheels.receive snapshot) where
  pose := overwrite_eq present.pose _
  imu := overwrite_eq present.imu _
  orientation := overwrite_eq present.orientation _
  line := overwrite_eq present.line _
  color := by
    rw [AlvikComponents.receive, Option.map_map]
    exact overwrite_eq present.color _
  tof := overwrite_eq present.tof _
  battery := overwrite_eq present.battery _
  wheels := by
    have sides := congrArg (List.map fun side => match side with
      | .left => (Side.left, WheelState.mk snapshot.wheelLeftSpeed
          snapshot.wheelLeftPosition)
      | .right => (Side.right, WheelState.mk snapshot.wheelRightSpeed
          snapshot.wheelRightPosition)) present.wheels
    rw [List.map_map, List.map_map] at sides
    rw [Wheels.receive]
    convert sides using 2
    all_goals
      funext wheel
      rcases wheel with ⟨side, state⟩
      cases side <;> rfl

end BeetEsp.Alvik
