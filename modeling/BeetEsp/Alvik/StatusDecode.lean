import Mathlib.Algebra.GroupWithZero.Nat
import BeetEsp.Alvik.Status
import BeetEsp.Alvik.Ucpack

/-! # Status messages off the wire

`Status::decode` looks at a frame through its code and its scalar accessors only, so
it is written over any accessors: those of a frame, which read its zero-padded array;
those of the bytes that were received; and those that note which calls are made.
-/

namespace BeetEsp.Alvik

open Foundation

/-- The scalar accessors of a frame, in a monad that accounts for what a call does. -/
structure Accessors (m : Type → Type) where
  u8 : Nat → m UInt8
  i16 : Nat → m Int16
  f32 : Nat → m F32

variable {P : Quantities} {m : Type → Type} [Monad m]

/-- `decode` of a frame with this code and these accessors. -/
def Status.decodeWith (code : UInt8) (frame : Accessors m) : m (Option (Status P)) := do
  match Char.ofUInt8 code with
  | 'j' => return some (.wheelSpeeds (P.fromRpm (← frame.f32 0)) (P.fromRpm (← frame.f32 4)))
  | 'w' => return some (.wheelPositions
      (P.fromDegrees (← frame.f32 0)) (P.fromDegrees (← frame.f32 4)))
  | 'l' => return some (.line (← frame.i16 0) (← frame.i16 2) (← frame.i16 4))
  | 'c' => return some (.color (← frame.i16 0) (← frame.i16 2) (← frame.i16 4))
  | 'i' => return some (.imu #v[← frame.f32 0, ← frame.f32 4, ← frame.f32 8,
      ← frame.f32 12, ← frame.f32 16, ← frame.f32 20])
  | 'q' => return some (.orientation (P.fromDegrees (← frame.f32 0))
      (P.fromDegrees (← frame.f32 4)) (P.fromDegrees (← frame.f32 8)))
  | 'p' =>
      let raw ← frame.f32 0
      return some (.battery (if raw.lt 0 then raw.neg else raw) (F32.lt 0 raw))
  | 'd' => return some (.tof (P.fromMillimeters (F32.ofI16 (← frame.i16 0)))
      (P.fromMillimeters (F32.ofI16 (← frame.i16 2)))
      (P.fromMillimeters (F32.ofI16 (← frame.i16 4))))
  | 'f' => return some (.tofMatrix (P.fromMillimeters (F32.ofI16 (← frame.i16 0)))
      (P.fromMillimeters (F32.ofI16 (← frame.i16 2)))
      (P.fromMillimeters (F32.ofI16 (← frame.i16 4)))
      (P.fromMillimeters (F32.ofI16 (← frame.i16 6)))
      (P.fromMillimeters (F32.ofI16 (← frame.i16 8)))
      (P.fromMillimeters (F32.ofI16 (← frame.i16 10)))
      (P.fromMillimeters (F32.ofI16 (← frame.i16 12))))
  | 't' => return some (.touch (← frame.u8 0))
  | 'm' => return some (.motion (← frame.u8 0))
  | 'b' => return some (.behavior (← frame.u8 0))
  | 'v' => return some (.velocity
      (P.fromMmPerSec (← frame.f32 0)) (P.fromDegPerSec (← frame.f32 4)))
  | 'z' => return some (.pose (P.fromMillimeters (← frame.f32 0))
      (P.fromMillimeters (← frame.f32 4)) (P.fromDegrees (← frame.f32 8)))
  | 'x' => return some (.ack (← frame.u8 0))
  | '\x7e' => return some (.fwVersion (← frame.u8 0) (← frame.u8 1) (← frame.u8 2))
  | _ => return none

/-- The accessors of a frame. -/
def Frame.accessors (frame : Frame) : Accessors Option where
  u8 := frame.u8
  i16 := frame.i16
  f32 := frame.f32

/-- Decode a validated frame, or `None` for an unrecognised code. The outer option is
`none` when an accessor is out of the array's range. -/
def Status.decode (frame : Frame) : Option (Option (Status P)) :=
  decodeWith frame.code frame.accessors

/-! ## The layout of the messages -/

inductive Scalar
  | u8
  | i16
  | f32

def Scalar.width : Scalar → Nat
  | u8 => 1
  | i16 => 2
  | f32 => 4

/-- A scalar at a byte offset of the payload. -/
structure WireField where
  offset : Nat
  scalar : Scalar

/-- The bytes a field stands on. -/
def WireField.span (field : WireField) : List Nat :=
  List.range' field.offset field.scalar.width

/-- Bytes of a payload with these fields. -/
def layoutSize (fields : List WireField) : Nat :=
  (fields.map fun field => field.scalar.width).sum

/-- Scalars of one kind, one after the other. -/
def evenly (scalar : Scalar) (count : Nat) : List WireField :=
  (List.range count).map fun index => ⟨index * scalar.width, scalar⟩

/-- The payload of each message, from the message table of the protocol. -/
def wireLayout (code : UInt8) : Option (List WireField) :=
  match Char.ofUInt8 code with
  | 'j' | 'w' | 'v' => some (evenly .f32 2)
  | 'l' | 'c' | 'd' => some (evenly .i16 3)
  | 'i' => some (evenly .f32 6)
  | 'q' | 'z' => some (evenly .f32 3)
  | 'p' => some (evenly .f32 1)
  | 'f' => some (evenly .i16 7)
  | 't' | 'm' | 'b' | 'x' => some (evenly .u8 1)
  | '\x7e' => some (evenly .u8 3)
  | _ => none

/-- The fields stand side by side: each byte of the payload is in one of them, and in
no other. -/
def Tiles (fields : List WireField) : Prop :=
  fields.flatMap WireField.span = List.range (layoutSize fields)

instance (fields : List WireField) : Decidable (Tiles fields) :=
  inferInstanceAs (Decidable (_ = _))

theorem wireLayout_tiles {code : UInt8} {fields : List WireField}
    (known : wireLayout code = some fields) : Tiles fields ∧ layoutSize fields ≤ PAYLOAD_MAX := by
  unfold wireLayout at known
  split at known <;> cases known <;> decide

theorem Scalar.width_pos (scalar : Scalar) : 0 < scalar.width := by
  cases scalar <;> decide

theorem Tiles.inside {fields : List WireField} (tiles : Tiles fields) {field : WireField}
    (member : field ∈ fields) : field.offset + field.scalar.width ≤ layoutSize fields := by
  have positive := field.scalar.width_pos
  have last : field.offset + (field.scalar.width - 1) ∈ fields.flatMap WireField.span := by
    apply List.mem_flatMap.mpr
    refine ⟨field, member, ?_⟩
    rw [WireField.span, List.mem_range'_1]
    omega
  rw [tiles, List.mem_range] at last
  omega

/-! ## What decode reads -/

/-- A code without a layout is not recognised. -/
theorem decodeWith_of_unknown {code : UInt8} (unknown : wireLayout code = none)
    (frame : Accessors m) :
    (Status.decodeWith code frame : m (Option (Status P))) = pure none := by
  unfold wireLayout at unknown
  unfold Status.decodeWith
  generalize Char.ofUInt8 code = char at unknown
  split at unknown
  case h_17 => split <;> first | rfl | contradiction
  all_goals cases unknown

/-- The accessors give the same for a field. -/
def WireField.Agrees (field : WireField) (left right : Accessors m) : Prop :=
  match field.scalar with
  | .u8 => left.u8 field.offset = right.u8 field.offset
  | .i16 => left.i16 field.offset = right.i16 field.offset
  | .f32 => left.f32 field.offset = right.f32 field.offset

/-- What is decoded depends on the fields of the layout only. -/
theorem decodeWith_congr {code : UInt8} {fields : List WireField}
    (known : wireLayout code = some fields) {left right : Accessors m}
    (agree : ∀ field ∈ fields, field.Agrees left right) :
    (Status.decodeWith code left : m (Option (Status P))) = Status.decodeWith code right := by
  unfold wireLayout at known
  unfold Status.decodeWith
  generalize Char.ofUInt8 code = char at known
  split at known <;> cases known <;>
    simp_all [evenly, List.range_succ, WireField.Agrees, Scalar.width]

/-- The accessors of a byte string: `none` out of its range. -/
def Accessors.over (bytes : List UInt8) : Accessors Option where
  u8 := fun offset => bytes[offset]?
  i16 := readI16 bytes
  f32 := readF32 bytes

/-- Accessors that note each call, with zeros for values. -/
def Accessors.noting : Accessors (StateM (List WireField)) where
  u8 := fun offset => modifyGet fun calls => (0, calls ++ [⟨offset, .u8⟩])
  i16 := fun offset => modifyGet fun calls => (0, calls ++ [⟨offset, .i16⟩])
  f32 := fun offset => modifyGet fun calls => (0, calls ++ [⟨offset, .f32⟩])

/-- The calls `decode` makes on a frame with this code, in order. -/
def Status.calls (P : Quantities) (code : UInt8) : List WireField :=
  ((decodeWith code Accessors.noting : StateM _ (Option (Status P))).run []).2

theorem calls_of_known (P : Quantities) {code : UInt8} {fields : List WireField}
    (known : wireLayout code = some fields) : Status.calls P code = fields := by
  unfold wireLayout at known
  unfold Status.calls Status.decodeWith
  generalize Char.ofUInt8 code = char at known
  split at known <;> cases known <;> rfl

/-- Bytes that agree up to the end of a field have the same field. -/
theorem agrees_take {field : WireField} {bytes : List UInt8} {len : Nat}
    (inside : field.offset + field.scalar.width ≤ len) :
    field.Agrees (Accessors.over (bytes.take len)) (Accessors.over bytes) := by
  have same : ∀ index, index < len → (bytes.take len)[index]? = bytes[index]? :=
    fun index below => List.getElem?_take_of_lt below
  rcases field with ⟨offset, scalar⟩
  cases scalar with
  | u8 => exact same offset inside
  | i16 =>
      simp only [Scalar.width] at inside
      simp only [WireField.Agrees, Accessors.over, readI16]
      rw [same offset (by omega), same (offset + 1) (by omega)]
  | f32 =>
      simp only [Scalar.width] at inside
      simp only [WireField.Agrees, Accessors.over, readF32]
      rw [same offset (by omega), same (offset + 1) (by omega), same (offset + 2) (by omega),
        same (offset + 3) (by omega)]

/-- Accessors that always have a value. -/
def Accessors.always (u8 : Nat → UInt8) (i16 : Nat → Int16) (f32 : Nat → F32) :
    Accessors Option where
  u8 := fun offset => some (u8 offset)
  i16 := fun offset => some (i16 offset)
  f32 := fun offset => some (f32 offset)

theorem decodeWith_always {code : UInt8} {fields : List WireField}
    (known : wireLayout code = some fields) (u8 : Nat → UInt8) (i16 : Nat → Int16)
    (f32 : Nat → F32) :
    ∃ status : Status P,
      Status.decodeWith code (Accessors.always u8 i16 f32) = some (some status) := by
  unfold wireLayout at known
  unfold Status.decodeWith
  generalize Char.ofUInt8 code = char at known
  split at known <;> cases known <;> exact ⟨_, rfl⟩

/-- In range, a field has a value. -/
theorem agrees_always {field : WireField} {bytes : List UInt8}
    (inside : field.offset + field.scalar.width ≤ bytes.length) :
    field.Agrees (Accessors.over bytes) (Accessors.always (fun offset => bytes.getD offset 0)
      (fun offset => (readI16 bytes offset).getD 0)
      (fun offset => (readF32 bytes offset).getD 0)) := by
  have found : ∀ index, index < bytes.length → bytes[index]? = some (bytes.getD index 0) := by
    intro index below
    rw [List.getD_eq_getElem?_getD, List.getElem?_eq_getElem below, Option.getD_some]
  rcases field with ⟨offset, scalar⟩
  cases scalar with
  | u8 => exact found offset inside
  | i16 =>
      simp only [Scalar.width] at inside
      simp only [WireField.Agrees, Accessors.over, Accessors.always, readI16]
      rw [found offset (by omega), found (offset + 1) (by omega)]
      rfl
  | f32 =>
      simp only [Scalar.width] at inside
      simp only [WireField.Agrees, Accessors.over, Accessors.always, readF32]
      rw [found offset (by omega), found (offset + 1) (by omega), found (offset + 2) (by omega),
        found (offset + 3) (by omega)]
      rfl

/-- A payload of the size of its layout is decoded. -/
theorem decodeWith_over {code : UInt8} {fields : List WireField}
    (known : wireLayout code = some fields) {bytes : List UInt8}
    (whole : layoutSize fields ≤ bytes.length) :
    ∃ status : Status P, Status.decodeWith code (Accessors.over bytes) = some (some status) := by
  rcases decodeWith_always known _ _ _ with ⟨status, decodes⟩
  refine ⟨status, (decodeWith_congr known ?_).trans decodes⟩
  intro field member
  exact agrees_always (Nat.le_trans ((wireLayout_tiles known).1.inside member) whole)

/-- `decode` never leaves the array of a frame, and recognises the codes of the
message table. -/
theorem decode_inRange (frame : Frame) :
    ∃ status : Option (Status P), Status.decode frame = some status ∧
      status.isSome = (wireLayout frame.code).isSome := by
  cases known : wireLayout frame.code with
  | none => exact ⟨none, decodeWith_of_unknown known _, rfl⟩
  | some fields =>
      have whole : layoutSize fields ≤ frame.bytes.length := by
        rw [frame.bytes_length]
        exact (wireLayout_tiles known).2
      rcases decodeWith_over known whole with ⟨status, decodes⟩
      exact ⟨some status, decodes, rfl⟩

/-! ## What the frame carried -/

/-- Whatever is decoded from the frame was read from bytes the frame carried: the calls
`decode` makes are the fields of the layout, these tile a payload no longer than what
was received, and the accessors of the received bytes give the same status. -/
def Frame.Carries (P : Quantities) (frame : Frame) : Prop :=
  ∀ status : Status P, Status.decode frame = some (some status) →
    ∃ fields, wireLayout frame.code = some fields ∧ Status.calls P frame.code = fields ∧
      Tiles fields ∧ layoutSize fields ≤ frame.payload.length ∧
      Status.decodeWith frame.code (Accessors.over frame.payload) = some (some status)

/-- Nothing is invented exactly when the payload is as long as the layout of its code. -/
theorem carries_iff (P : Quantities) (frame : Frame) :
    frame.Carries P ↔
      ∀ fields, wireLayout frame.code = some fields →
        layoutSize fields ≤ frame.payload.length := by
  constructor
  · intro carries fields known
    rcases decode_inRange (P := P) frame with ⟨status, decodes, recognised⟩
    rw [known, Option.isSome_some, Option.isSome_iff_exists] at recognised
    rcases recognised with ⟨status, rfl⟩
    rcases carries status decodes with ⟨others, same, -, -, whole, -⟩
    cases known.symm.trans same
    exact whole
  · intro whole status decodes
    cases known : wireLayout frame.code with
    | none =>
        rw [Status.decode, decodeWith_of_unknown known] at decodes
        cases decodes
    | some fields =>
        have tiles := (wireLayout_tiles known).1
        have enough := whole fields known
        refine ⟨fields, rfl, calls_of_known P known, tiles, enough, ?_⟩
        rw [← decodes]
        apply decodeWith_congr known
        intro field member
        rw [frame.length_payload] at enough
        exact agrees_take (Nat.le_trans (tiles.inside member) enough)

/-- A frame of `d` without any payload, and with a sound checksum. -/
def emptyTof : List UInt8 := [0x41, 0x01, 0x64, 0x23, 0x04]

/-- The decoder pops it, and `decode` finds a wall right in front of the robot. -/
theorem empty_frame_is_decoded :
    ∃ frame decoder, Decoder.new.feed [emptyTof] = some ([frame], decoder) ∧
      frame.payload = [] ∧
      (Status.decode frame : Option (Option (Status Quantities.wire))) =
        some (some (.tof 0 0 0)) ∧
      ¬ frame.Carries Quantities.wire := by
  have shown : (Decoder.new.feed [emptyTof]).map (fun popped =>
      popped.1.map fun frame => (frame.code, frame.payload, frame.bytes)) =
        some [(0x64, [], List.replicate 24 0)] := by
    decide +kernel
  rcases Option.map_eq_some_iff.mp shown with ⟨⟨frames, decoder⟩, feeds, same⟩
  rcases List.map_eq_singleton_iff.mp same with ⟨frame, rfl, parts⟩
  rcases Prod.mk.inj parts with ⟨code, parts⟩
  rcases Prod.mk.inj parts with ⟨empty, zeros⟩
  have decodes : (Status.decode frame : Option (Option (Status Quantities.wire))) =
      some (some (.tof 0 0 0)) := by
    change Status.decodeWith frame.code (Accessors.over frame.bytes) = _
    rw [code, zeros]
    rfl
  refine ⟨frame, decoder, feeds, empty, decodes, ?_⟩
  intro carries
  rcases carries _ decodes with ⟨fields, known, -, -, whole, -⟩
  rw [code] at known
  cases known
  rw [empty] at whole
  exact absurd whole (by decide)

end BeetEsp.Alvik
