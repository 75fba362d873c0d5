import BeetEsp.Alvik.Quantities
import BeetEsp.Alvik.Ucpack

/-! # Commands and their frames

The `Command` half of `alvik/protocol.rs`: quantities are converted to the fixed
units of the wire in `encode` and nowhere else.
-/

namespace BeetEsp.Alvik

open Foundation

/-- A command sent to the STM32 carrier. -/
inductive Command (P : Quantities)
  | setBehavior (code : UInt8)
  | rotate (angle : P.Angle)
  | move (distance : P.Distance)
  | setWheelSpeeds (left right : P.AngularVelocity)
  | setWheelAngles (left right : P.Angle)
  | drive (linear : P.LinearVelocity) (angular : P.AngularVelocity)
  | setServo (a b : UInt8)
  | setLeds (state : UInt8)
  | resetPose (x y : P.Distance) (theta : P.Angle)
  | wheelReset (wheel : Side) (position : P.Angle)
  | wheelSpeed (wheel : Side) (speed : P.AngularVelocity)
  | wheelPosition (wheel : Side) (position : P.Angle)
  | setPidGains (wheel : Side) (kp ki kd : F32)
  | ack (byte : UInt8)

namespace Command

variable {P : Quantities}

/-- Frame this command into the encoder's scratch, ready for the UART. -/
def encode (command : Command P) (enc : Encoder) : Encoder × List UInt8 :=
  match command with
  | setBehavior code => enc.c1b 'B'.toUInt8 code
  | rotate angle => enc.c1f 'R'.toUInt8 (P.asDegrees angle)
  | move distance => enc.c1f 'G'.toUInt8 (P.asMillimeters distance)
  | setWheelSpeeds left right =>
      enc.c2f 'J'.toUInt8 (P.asRpm left) (P.asRpm right)
  | setWheelAngles left right =>
      enc.c2f 'A'.toUInt8 (P.asDegrees left) (P.asDegrees right)
  | drive linear angular =>
      enc.c2f 'V'.toUInt8 (P.asMmPerSec linear) (P.asDegPerSec angular)
  | setServo a b => enc.c2b 'S'.toUInt8 a b
  | setLeds state => enc.c1b 'L'.toUInt8 state
  | resetPose x y theta =>
      enc.c3f 'Z'.toUInt8 (P.asMillimeters x) (P.asMillimeters y)
        (P.asDegrees theta)
  | wheelReset wheel position =>
      enc.c2b1f 'W'.toUInt8 wheel.label 'Z'.toUInt8 (P.asDegrees position)
  | wheelSpeed wheel speed =>
      enc.c2b1f 'W'.toUInt8 wheel.label 'V'.toUInt8 (P.asRpm speed)
  | wheelPosition wheel position =>
      enc.c2b1f 'W'.toUInt8 wheel.label 'P'.toUInt8 (P.asDegrees position)
  | setPidGains wheel kp ki kd => enc.c1b3f 'P'.toUInt8 wheel.label kp ki kd
  | ack byte => enc.c1b 'X'.toUInt8 byte

/-- Encode commands one after another with the same encoder. -/
def encodeAll (enc : Encoder) : List (Command P) → Encoder × List UInt8
  | [] => (enc, [])
  | command :: commands =>
      let (enc, bytes) := command.encode enc
      let (enc, rest) := encodeAll enc commands
      (enc, bytes ++ rest)

/-! ## What a frame says

The code and payload of each command, written out from the message table of the
protocol rather than from the writes into the scratch. -/

def code : Command P → UInt8
  | setBehavior _ => 0x42
  | rotate _ => 0x52
  | move _ => 0x47
  | setWheelSpeeds _ _ => 0x4A
  | setWheelAngles _ _ => 0x41
  | drive _ _ => 0x56
  | setServo _ _ => 0x53
  | setLeds _ => 0x4C
  | resetPose _ _ _ => 0x5A
  | wheelReset _ _ | wheelSpeed _ _ | wheelPosition _ _ => 0x57
  | setPidGains _ _ _ _ => 0x50
  | ack _ => 0x58

def payload : Command P → List UInt8
  | setBehavior byte | setLeds byte | ack byte => [byte]
  | rotate angle => F32.toLeBytes (P.asDegrees angle)
  | move distance => F32.toLeBytes (P.asMillimeters distance)
  | setWheelSpeeds left right =>
      F32.toLeBytes (P.asRpm left) ++ F32.toLeBytes (P.asRpm right)
  | setWheelAngles left right =>
      F32.toLeBytes (P.asDegrees left) ++ F32.toLeBytes (P.asDegrees right)
  | drive linear angular =>
      F32.toLeBytes (P.asMmPerSec linear) ++ F32.toLeBytes (P.asDegPerSec angular)
  | setServo a b => [a, b]
  | resetPose x y theta =>
      F32.toLeBytes (P.asMillimeters x) ++ F32.toLeBytes (P.asMillimeters y) ++
        F32.toLeBytes (P.asDegrees theta)
  | wheelReset wheel position =>
      wheel.label :: 0x5A :: F32.toLeBytes (P.asDegrees position)
  | wheelSpeed wheel speed =>
      wheel.label :: 0x56 :: F32.toLeBytes (P.asRpm speed)
  | wheelPosition wheel position =>
      wheel.label :: 0x50 :: F32.toLeBytes (P.asDegrees position)
  | setPidGains wheel kp ki kd =>
      wheel.label :: (F32.toLeBytes kp ++ F32.toLeBytes ki ++ F32.toLeBytes kd)

def message (command : Command P) : UInt8 × List UInt8 :=
  (command.code, command.payload)

/-- The frame of this command, whatever encoder builds it. -/
def bytes (command : Command P) : List UInt8 :=
  frameBytes command.code command.payload

theorem length_payload_le (command : Command P) :
    command.payload.length ≤ PAYLOAD_MAX := by
  cases command <;> simp [payload, PAYLOAD_MAX]

/-- The writes at fixed offsets lay the fields out one after another, and
nothing an earlier frame left in the scratch shows. -/
theorem encode_bytes (command : Command P) (enc : Encoder) :
    (command.encode enc).2 = command.bytes := by
  have fits := command.length_payload_le
  cases command <;> exact enc.frame_bytes _ _ fits

theorem encodeAll_bytes (enc : Encoder) (commands : List (Command P)) :
    (encodeAll enc commands).2 = commands.flatMap bytes := by
  induction commands generalizing enc with
  | nil => rfl
  | cons command commands induction =>
      simp only [encodeAll, List.flatMap_cons, encode_bytes, induction]

/-! ## Wire fields -/

/-- The command with each quantity replaced by its value on the wire. -/
def toWire : Command P → Command Quantities.wire
  | setBehavior code => setBehavior code
  | rotate angle => rotate (P.asDegrees angle)
  | move distance => move (P.asMillimeters distance)
  | setWheelSpeeds left right => setWheelSpeeds (P.asRpm left) (P.asRpm right)
  | setWheelAngles left right =>
      setWheelAngles (P.asDegrees left) (P.asDegrees right)
  | drive linear angular => drive (P.asMmPerSec linear) (P.asDegPerSec angular)
  | setServo a b => setServo a b
  | setLeds state => setLeds state
  | resetPose x y theta =>
      resetPose (P.asMillimeters x) (P.asMillimeters y) (P.asDegrees theta)
  | wheelReset wheel position => wheelReset wheel (P.asDegrees position)
  | wheelSpeed wheel speed => wheelSpeed wheel (P.asRpm speed)
  | wheelPosition wheel position => wheelPosition wheel (P.asDegrees position)
  | setPidGains wheel kp ki kd => setPidGains wheel kp ki kd
  | ack byte => ack byte

end Command

end BeetEsp.Alvik
