import Mathlib.Data.List.Nodup
import BeetEsp.Alvik.Quantities

/-! # Touch and motion edge events

`alvik/events.rs`: the bitmasks of this frame against those of the last frame.
-/

namespace BeetEsp.Alvik

open Foundation

/-- A touch button, as decoded from the `t` bitmask. -/
inductive TouchButton
  | ok
  | cancel
  | center
  | up
  | left
  | down
  | right
  deriving DecidableEq

/-- A tilt axis, as decoded from the `m` bitmask. -/
inductive TiltAxis
  | x
  | negX
  | y
  | negY
  | z
  | negZ
  deriving DecidableEq

def TOUCH_OK : UInt8 := 0b00000010
def TOUCH_CANCEL : UInt8 := 0b00000100
def TOUCH_CENTER : UInt8 := 0b00001000
def TOUCH_UP : UInt8 := 0b00010000
def TOUCH_LEFT : UInt8 := 0b00100000
def TOUCH_DOWN : UInt8 := 0b01000000
def TOUCH_RIGHT : UInt8 := 0b10000000

def MOTION_SHAKE : UInt8 := 0b00000001
def MOTION_LIFT : UInt8 := 0b00000010
def MOTION_TILT_X : UInt8 := 0b00000100
def MOTION_TILT_NEG_X : UInt8 := 0b00001000
def MOTION_TILT_Y : UInt8 := 0b00010000
def MOTION_TILT_NEG_Y : UInt8 := 0b00100000
def MOTION_TILT_Z : UInt8 := 0b01000000
def MOTION_TILT_NEG_Z : UInt8 := 0b10000000

/-- Previous-frame bitmasks for edge detection. -/
structure EdgeState where
  touch : UInt8
  motion : UInt8

/-- `EdgeState::default()`: upright. -/
def EdgeState.default : EdgeState where
  touch := 0
  motion := MOTION_TILT_NEG_Z

/-- The observer events. -/
inductive EdgeEvent
  | touchPressed (button : TouchButton)
  | shaken
  | lifted
  | dropped
  | tilted (axis : TiltAxis)
  deriving DecidableEq

/-- True if `mask` is newly set going from `prev` to `next`. -/
def rising (prev next mask : UInt8) : Bool :=
  prev &&& mask == 0 && next &&& mask != 0

/-- True if `mask` was set in `prev` and cleared in `next`. -/
def falling (prev next mask : UInt8) : Bool :=
  prev &&& mask != 0 && next &&& mask == 0

/-- The checks of `detect_events` in their order, each with the event it triggers. -/
def edgeChecks (prev : EdgeState) (touch motion : UInt8) : List (Bool × EdgeEvent) :=
  [(rising prev.touch touch TOUCH_OK, .touchPressed .ok),
    (rising prev.touch touch TOUCH_CANCEL, .touchPressed .cancel),
    (rising prev.touch touch TOUCH_CENTER, .touchPressed .center),
    (rising prev.touch touch TOUCH_UP, .touchPressed .up),
    (rising prev.touch touch TOUCH_LEFT, .touchPressed .left),
    (rising prev.touch touch TOUCH_DOWN, .touchPressed .down),
    (rising prev.touch touch TOUCH_RIGHT, .touchPressed .right),
    (rising prev.motion motion MOTION_SHAKE, .shaken),
    (rising prev.motion motion MOTION_LIFT, .lifted),
    (falling prev.motion motion MOTION_LIFT, .dropped),
    (rising prev.motion motion MOTION_TILT_X, .tilted .x),
    (rising prev.motion motion MOTION_TILT_NEG_X, .tilted .negX),
    (rising prev.motion motion MOTION_TILT_Y, .tilted .y),
    (rising prev.motion motion MOTION_TILT_NEG_Y, .tilted .negY),
    (rising prev.motion motion MOTION_TILT_Z, .tilted .z),
    (rising prev.motion motion MOTION_TILT_NEG_Z, .tilted .negZ)]

/-- Compare this frame's bitmasks against last frame's and trigger the matching
events. -/
def detectEvents (prev : EdgeState) (touch motion : UInt8) :
    EdgeState × List EdgeEvent :=
  ({ touch, motion },
    ((edgeChecks prev touch motion).filter Prod.fst).map Prod.snd)

/-! ## The edge an event stands for -/

/-- The status bit the event is about. -/
def EdgeEvent.mask : EdgeEvent → UInt8
  | touchPressed .ok => 0x02
  | touchPressed .cancel => 0x04
  | touchPressed .center => 0x08
  | touchPressed .up => 0x10
  | touchPressed .left => 0x20
  | touchPressed .down => 0x40
  | touchPressed .right => 0x80
  | shaken => 0x01
  | lifted | dropped => 0x02
  | tilted .x => 0x04
  | tilted .negX => 0x08
  | tilted .y => 0x10
  | tilted .negY => 0x20
  | tilted .z => 0x40
  | tilted .negZ => 0x80

/-- The level the bit goes over to: a drop is a falling edge. -/
def EdgeEvent.level : EdgeEvent → Bool
  | dropped => false
  | _ => true

/-- Whether the bit of the event is set, in a touch byte for a touch event and in
a motion byte for every other. -/
def EdgeEvent.bit (event : EdgeEvent) (byte : UInt8) : Bool :=
  byte &&& event.mask != 0

def EdgeEvent.ofTouch : EdgeEvent → Bool
  | touchPressed _ => true
  | _ => false

/-- The byte of the event out of a touch byte and a motion byte. -/
def EdgeEvent.select (event : EdgeEvent) (touch motion : UInt8) : UInt8 :=
  if event.ofTouch then touch else motion

/-- Checks for different events: each event is triggered as its check says. -/
private theorem count_checks {checks : List (Bool × EdgeEvent)}
    (different : (checks.map Prod.snd).Nodup) {holds : Bool} {event : EdgeEvent}
    (member : (holds, event) ∈ checks) :
    ((checks.filter Prod.fst).map Prod.snd).count event = if holds then 1 else 0 := by
  have nodup : ((checks.filter Prod.fst).map Prod.snd).Nodup :=
    different.sublist (List.filter_sublist.map Prod.snd)
  cases holds with
  | true =>
      have triggered : event ∈ (checks.filter Prod.fst).map Prod.snd :=
        List.mem_map.mpr ⟨_, List.mem_filter.mpr ⟨member, rfl⟩, rfl⟩
      exact List.count_eq_one_of_mem nodup triggered
  | false =>
      apply List.count_eq_zero_of_not_mem
      intro triggered
      rcases List.mem_map.mp triggered with ⟨⟨holds, other⟩, found, rfl⟩
      rcases List.mem_filter.mp found with ⟨inChecks, fires⟩
      have same := List.inj_on_of_nodup_map different member inChecks rfl
      cases same
      cases fires

theorem different_edgeChecks (prev : EdgeState) (touch motion : UInt8) :
    ((edgeChecks prev touch motion).map Prod.snd).Nodup := by
  simp only [edgeChecks, List.map_cons, List.map_nil]
  decide

/-- The check of an event, from the table of its bits. -/
def EdgeEvent.check (event : EdgeEvent) (prev : EdgeState) (touch motion : UInt8) : Bool :=
  if event.level then
    rising (event.select prev.touch prev.motion) (event.select touch motion) event.mask
  else
    falling (event.select prev.touch prev.motion) (event.select touch motion) event.mask

theorem EdgeEvent.check_mem (event : EdgeEvent) (prev : EdgeState)
    (touch motion : UInt8) :
    (event.check prev touch motion, event) ∈ edgeChecks prev touch motion := by
  cases event with
  | touchPressed button =>
      cases button <;> simp only [edgeChecks, List.mem_cons, List.not_mem_nil,
        Prod.mk.injEq, touchPressed.injEq, reduceCtorEq, and_false, and_true, false_or,
        or_false] <;> rfl
  | shaken | lifted | dropped =>
      simp only [edgeChecks, List.mem_cons, List.not_mem_nil, Prod.mk.injEq,
        reduceCtorEq, and_false, and_true, false_or, or_false]
      rfl
  | tilted axis =>
      cases axis <;> simp only [edgeChecks, List.mem_cons, List.not_mem_nil,
        Prod.mk.injEq, tilted.injEq, reduceCtorEq, and_false, and_true, false_or,
        or_false] <;> rfl

/-- The check is true exactly on the edge. -/
theorem EdgeEvent.check_iff (event : EdgeEvent) (prev : EdgeState)
    (touch motion : UInt8) :
    event.check prev touch motion = true ↔
      event.bit (event.select prev.touch prev.motion) ≠ event.level ∧
        event.bit (event.select touch motion) = event.level := by
  rw [check, bit, bit]
  cases event.level <;> simp [rising, falling]

/-- In a frame each event is triggered once if its bit goes over to its level, and
otherwise not at all. -/
theorem count_detectEvents (prev : EdgeState) (touch motion : UInt8)
    (event : EdgeEvent) :
    (detectEvents prev touch motion).2.count event =
      if event.bit (event.select prev.touch prev.motion) ≠ event.level ∧
          event.bit (event.select touch motion) = event.level then 1 else 0 := by
  rw [detectEvents, count_checks (different_edgeChecks prev touch motion)
    (event.check_mem prev touch motion)]
  simp only [event.check_iff]

end BeetEsp.Alvik
