import BeetEsp.Alvik.Quantities
import BeetEsp.Foundation.Latest

/-! # Status messages and the snapshot

The `Status` half of `alvik/protocol.rs` and the `StatusSnapshot` the driver
folds the continuous messages into. The fields of the snapshot are also named by
`Field`, so that what a message carries can be said field by field.
-/

namespace BeetEsp.Alvik

open Foundation

/-- The defaults of the quantities a snapshot starts from. -/
structure Defaults (P : Quantities) where
  /-- `Angle::default()`. -/
  angle : P.Angle
  /-- `Distance::default()`. -/
  distance : P.Distance

/-- A status message received from the STM32 carrier. -/
inductive Status (P : Quantities)
  | wheelSpeeds (left right : P.AngularVelocity)
  | wheelPositions (left right : P.Angle)
  | line (left center right : Int16)
  | color (red green blue : Int16)
  | imu (imu : Vector F32 6)
  | orientation (roll pitch yaw : P.Angle)
  | battery (percent : F32) (charging : Bool)
  | tof (left center right : P.Distance)
  | tofMatrix (left centerLeft center centerRight right top bottom : P.Distance)
  | touch (bits : UInt8)
  | motion (bits : UInt8)
  | behavior (code : UInt8)
  | velocity (linear : P.LinearVelocity) (angular : P.AngularVelocity)
  | pose (x y : P.Distance) (theta : P.Angle)
  | ack (byte : UInt8)
  | fwVersion (major minor patch : UInt8)

/-- Coalesced snapshot of the continuous sensor state. -/
structure StatusSnapshot (P : Quantities) where
  wheelLeftSpeed : P.AngularVelocity
  wheelRightSpeed : P.AngularVelocity
  wheelLeftPosition : P.Angle
  wheelRightPosition : P.Angle
  line : Int16 × Int16 × Int16
  color : Int16 × Int16 × Int16
  imu : Vector F32 6
  orientation : P.Angle × P.Angle × P.Angle
  battery : F32 × Bool
  tofLeft : P.Distance
  tofCenterLeft : P.Distance
  tofCenter : P.Distance
  tofCenterRight : P.Distance
  tofRight : P.Distance
  tofTop : P.Distance
  tofBottom : P.Distance
  velocity : P.LinearVelocity × P.AngularVelocity
  pose : P.Distance × P.Distance × P.Angle

variable {P : Quantities}

/-- `StatusSnapshot::default()`. -/
def StatusSnapshot.default (D : Defaults P) : StatusSnapshot P where
  wheelLeftSpeed := P.defaultAngularVelocity
  wheelRightSpeed := P.defaultAngularVelocity
  wheelLeftPosition := D.angle
  wheelRightPosition := D.angle
  line := (0, 0, 0)
  color := (0, 0, 0)
  imu := .replicate 6 0
  orientation := (D.angle, D.angle, D.angle)
  battery := (0, false)
  tofLeft := D.distance
  tofCenterLeft := D.distance
  tofCenter := D.distance
  tofCenterRight := D.distance
  tofRight := D.distance
  tofTop := D.distance
  tofBottom := D.distance
  velocity := (P.defaultLinearVelocity, P.defaultAngularVelocity)
  pose := (D.distance, D.distance, D.angle)

/-- Fold a continuous status into the snapshot; a discrete message comes back
for the event queue. -/
def StatusSnapshot.apply (snapshot : StatusSnapshot P) :
    Status P → StatusSnapshot P × Option (Status P)
  | .wheelSpeeds left right =>
      ({ snapshot with wheelLeftSpeed := left, wheelRightSpeed := right }, none)
  | .wheelPositions left right =>
      ({ snapshot with wheelLeftPosition := left, wheelRightPosition := right }, none)
  | .line left center right => ({ snapshot with line := (left, center, right) }, none)
  | .color red green blue => ({ snapshot with color := (red, green, blue) }, none)
  | .imu imu => ({ snapshot with imu }, none)
  | .orientation roll pitch yaw =>
      ({ snapshot with orientation := (roll, pitch, yaw) }, none)
  | .battery percent charging =>
      ({ snapshot with battery := (percent, charging) }, none)
  | .tof left center right =>
      ({ snapshot with tofLeft := left, tofCenter := center, tofRight := right }, none)
  | .tofMatrix left centerLeft center centerRight right top bottom =>
      ({ snapshot with
        tofLeft := left
        tofCenterLeft := centerLeft
        tofCenter := center
        tofCenterRight := centerRight
        tofRight := right
        tofTop := top
        tofBottom := bottom }, none)
  | .velocity linear angular => ({ snapshot with velocity := (linear, angular) }, none)
  | .pose x y theta => ({ snapshot with pose := (x, y, theta) }, none)
  | discrete => (snapshot, some discrete)

/-! ## Field by field -/

/-- The fields of a snapshot. -/
inductive Field
  | wheelLeftSpeed
  | wheelRightSpeed
  | wheelLeftPosition
  | wheelRightPosition
  | line
  | color
  | imu
  | orientation
  | battery
  | tofLeft
  | tofCenterLeft
  | tofCenter
  | tofCenterRight
  | tofRight
  | tofTop
  | tofBottom
  | velocity
  | pose

@[reducible] def Field.Value (P : Quantities) : Field → Type
  | wheelLeftSpeed | wheelRightSpeed => P.AngularVelocity
  | wheelLeftPosition | wheelRightPosition => P.Angle
  | line | color => Int16 × Int16 × Int16
  | imu => Vector F32 6
  | orientation => P.Angle × P.Angle × P.Angle
  | battery => F32 × Bool
  | tofLeft | tofCenterLeft | tofCenter | tofCenterRight | tofRight | tofTop
  | tofBottom => P.Distance
  | velocity => P.LinearVelocity × P.AngularVelocity
  | pose => P.Distance × P.Distance × P.Angle

def StatusSnapshot.read (snapshot : StatusSnapshot P) :
    (field : Field) → field.Value P
  | .wheelLeftSpeed => snapshot.wheelLeftSpeed
  | .wheelRightSpeed => snapshot.wheelRightSpeed
  | .wheelLeftPosition => snapshot.wheelLeftPosition
  | .wheelRightPosition => snapshot.wheelRightPosition
  | .line => snapshot.line
  | .color => snapshot.color
  | .imu => snapshot.imu
  | .orientation => snapshot.orientation
  | .battery => snapshot.battery
  | .tofLeft => snapshot.tofLeft
  | .tofCenterLeft => snapshot.tofCenterLeft
  | .tofCenter => snapshot.tofCenter
  | .tofCenterRight => snapshot.tofCenterRight
  | .tofRight => snapshot.tofRight
  | .tofTop => snapshot.tofTop
  | .tofBottom => snapshot.tofBottom
  | .velocity => snapshot.velocity
  | .pose => snapshot.pose

/-- What a message says about a field, from the message table of the protocol.
The short ToF read and the ToF matrix overlap in three fields. -/
def Status.carried : (field : Field) → Status P → Option (field.Value P)
  | .wheelLeftSpeed, .wheelSpeeds left _ => some left
  | .wheelRightSpeed, .wheelSpeeds _ right => some right
  | .wheelLeftPosition, .wheelPositions left _ => some left
  | .wheelRightPosition, .wheelPositions _ right => some right
  | .line, .line left center right => some (left, center, right)
  | .color, .color red green blue => some (red, green, blue)
  | .imu, .imu readings => some readings
  | .orientation, .orientation roll pitch yaw => some (roll, pitch, yaw)
  | .battery, .battery percent charging => some (percent, charging)
  | .tofLeft, .tof left _ _ => some left
  | .tofCenter, .tof _ center _ => some center
  | .tofRight, .tof _ _ right => some right
  | .tofLeft, .tofMatrix left _ _ _ _ _ _ => some left
  | .tofCenterLeft, .tofMatrix _ centerLeft _ _ _ _ _ => some centerLeft
  | .tofCenter, .tofMatrix _ _ center _ _ _ _ => some center
  | .tofCenterRight, .tofMatrix _ _ _ centerRight _ _ _ => some centerRight
  | .tofRight, .tofMatrix _ _ _ _ right _ _ => some right
  | .tofTop, .tofMatrix _ _ _ _ _ top _ => some top
  | .tofBottom, .tofMatrix _ _ _ _ _ _ bottom => some bottom
  | .velocity, .velocity linear angular => some (linear, angular)
  | .pose, .pose x y theta => some (x, y, theta)
  | _, _ => none

/-- Whether a message rides the snapshot rather than the event queue. -/
def Status.continuous : Status P → Bool
  | .touch _ | .motion _ | .behavior _ | .ack _ | .fwVersion _ _ _ => false
  | _ => true

/-- A message sets the fields it carries and leaves every other one alone. -/
theorem StatusSnapshot.read_apply (field : Field) (snapshot : StatusSnapshot P)
    (status : Status P) :
    (snapshot.apply status).1.read field =
      (status.carried field).getD (snapshot.read field) := by
  cases status <;> cases field <;> rfl

theorem Status.carried_of_discrete {status : Status P}
    (discrete : status.continuous = false) (field : Field) :
    status.carried field = none := by
  cases status <;> cases discrete <;> cases field <;> rfl

/-- Exactly the discrete messages come back, and they change nothing. -/
theorem StatusSnapshot.apply_of_discrete {status : Status P}
    (discrete : status.continuous = false) (snapshot : StatusSnapshot P) :
    snapshot.apply status = (snapshot, some status) := by
  cases status <;> cases discrete <;> rfl

theorem StatusSnapshot.apply_of_continuous {status : Status P}
    (continuous : status.continuous = true) (snapshot : StatusSnapshot P) :
    (snapshot.apply status).2 = none := by
  cases status <;> cases continuous <;> rfl

/-- The messages applied one at a time and in order to the default snapshot. -/
def StatusSnapshot.folded (D : Defaults P) (messages : List (Status P)) :
    StatusSnapshot P :=
  messages.foldl (fun snapshot status => (snapshot.apply status).1) (.default D)

/-- Each field of the fold shows the last message that carries it. -/
theorem StatusSnapshot.read_folded (D : Defaults P) (messages : List (Status P))
    (field : Field) :
    (folded D messages).read field =
      (latest (Status.carried field) messages).getD ((default D).read field) := by
  exact @read_foldl _ _ _ _ (fun snapshot => snapshot.read field) _
    (read_apply field) (default D) messages

end BeetEsp.Alvik
