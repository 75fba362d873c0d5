import BeetEsp.Foundation.Binary32
import BeetEsp.Foundation.ByteBuffer

/-! # The ucPack wire codec

The frame encoder, the streaming decoder and CRC8 of `alvik/ucpack.rs`. Buffers
are lists of their fixed length; an array index, a slice or a subtraction that
would panic in the source makes the operation `none`.
-/

namespace BeetEsp.Alvik

open Foundation

def START : UInt8 := 0x41
def END : UInt8 := 0x23

/-- Largest payload sent or received. -/
def PAYLOAD_MAX : Nat := 24
/-- Largest full frame: `START LEN CODE …payload… END CRC`. -/
def FRAME_MAX : Nat := PAYLOAD_MAX + 5

/-! ## CRC8 -/

/-- One turn of the inner loop: the remainder and the bits of the byte still to
be mixed in. -/
def crc8Bit (state : UInt8 × UInt8) : UInt8 × UInt8 :=
  let (crc, bits) := state
  let mix := (crc ^^^ bits) &&& 1
  let crc := crc >>> 1
  let crc := if mix ≠ 0 then crc ^^^ 0x8C else crc
  (crc, bits >>> 1)

def crc8Byte (crc byte : UInt8) : UInt8 :=
  (Nat.repeat crc8Bit 8 (crc, byte)).1

/-- CRC8-MAXIM over `CODE` plus payload. -/
def crc8 (data : List UInt8) : UInt8 :=
  data.foldl crc8Byte 0

/-! ## Frames -/

/-- A decoded frame. The payload array is zero-padded to its full width; `len`
counts the bytes that were received. -/
structure Frame where
  code : UInt8
  bytes : List UInt8
  len : Nat
  bytes_length : bytes.length = PAYLOAD_MAX
  len_le : len ≤ PAYLOAD_MAX

/-- The raw payload bytes after `code`. -/
def Frame.payload (frame : Frame) : List UInt8 := frame.bytes.take frame.len

/-- `i16::from_le_bytes`. -/
def leI16 (low high : UInt8) : Int16 :=
  (UInt16.ofNat (high.toNat * 256 + low.toNat)).toInt16

/-- The little-endian `i16` at a byte offset. -/
def readI16 (bytes : List UInt8) (offset : Nat) : Option Int16 := do
  let low ← bytes[offset]?
  let high ← bytes[offset + 1]?
  return leI16 low high

/-- The little-endian `f32` at a byte offset. -/
def readF32 (bytes : List UInt8) (offset : Nat) : Option F32 := do
  let byte0 ← bytes[offset]?
  let byte1 ← bytes[offset + 1]?
  let byte2 ← bytes[offset + 2]?
  let byte3 ← bytes[offset + 3]?
  return F32.ofLeBytes byte0 byte1 byte2 byte3

/-! The scalar accessors read the zero-padded array. -/

def Frame.u8 (frame : Frame) (offset : Nat) : Option UInt8 := frame.bytes[offset]?

def Frame.i16 (frame : Frame) (offset : Nat) : Option Int16 := readI16 frame.bytes offset

def Frame.f32 (frame : Frame) (offset : Nat) : Option F32 := readF32 frame.bytes offset

theorem Frame.length_payload (frame : Frame) : frame.payload.length = frame.len := by
  have bound := frame.len_le
  rw [payload, List.length_take, frame.bytes_length, Nat.min_eq_left bound]

/-- What a frame says on the wire: its code and payload bytes. -/
def Frame.message (frame : Frame) : UInt8 × List UInt8 :=
  (frame.code, frame.payload)

/-- Copy received bytes into the front of a zeroed payload array. -/
def Frame.received (code : UInt8) (payload : List UInt8) : Option Frame :=
  if fits : payload.length ≤ PAYLOAD_MAX then
    some {
      code
      bytes := overwrite (List.replicate PAYLOAD_MAX 0) 0 payload
      len := payload.length
      bytes_length := by
        rw [length_overwrite] <;> simp [fits]
      len_le := fits }
  else
    none

theorem Frame.received_eq_some (code : UInt8) (payload : List UInt8)
    (fits : payload.length ≤ PAYLOAD_MAX) :
    ∃ frame, Frame.received code payload = some frame ∧
      frame.message = (code, payload) := by
  refine ⟨_, dif_pos fits, ?_⟩
  have written := take_overwrite (List.replicate PAYLOAD_MAX (0 : UInt8)) payload 0
    (by simpa using fits)
  simpa [Frame.message, Frame.payload] using written

/-! ## Encoder -/

structure Encoder where
  buf : List UInt8
  buf_length : buf.length = FRAME_MAX

namespace Encoder

def new : Encoder where
  buf := List.replicate FRAME_MAX 0
  buf_length := by simp

/-- The scratch after framing `code` and `payload` into it. -/
def fill (buf : List UInt8) (code : UInt8) (payload : List UInt8) : List UInt8 :=
  let len := 1 + payload.length
  let header := ((buf.set 0 START).set 1 (UInt8.ofNat len)).set 2 code
  let body := (overwrite header 3 payload).set (2 + len) END
  body.set (3 + len) (crc8 (body.extract 2 (2 + len)))

theorem length_fill {buf : List UInt8} (code : UInt8) {payload : List UInt8}
    (fits : 3 + payload.length ≤ buf.length) :
    (fill buf code payload).length = buf.length := by
  simp only [fill, List.length_set]
  rw [length_overwrite] <;> simp [fits]

/-- Frame `code` and `payload` into the scratch and return the full frame. -/
def frame (enc : Encoder) (code : UInt8) (payload : List UInt8)
    (fits : payload.length ≤ PAYLOAD_MAX) : Encoder × List UInt8 :=
  let buf := fill enc.buf code payload
  ({
    buf
    buf_length := by
      rw [length_fill _ (by simp only [enc.buf_length, FRAME_MAX]; omega),
        enc.buf_length] },
    buf.take (1 + payload.length + 4))

/-- 1 × `u8`. -/
def c1b (enc : Encoder) (code a : UInt8) : Encoder × List UInt8 :=
  enc.frame code [a] (by simp [PAYLOAD_MAX])

/-- 2 × `u8`. -/
def c2b (enc : Encoder) (code a b : UInt8) : Encoder × List UInt8 :=
  enc.frame code [a, b] (by simp [PAYLOAD_MAX])

/-- 3 × `u8`. -/
def c3b (enc : Encoder) (code a b c : UInt8) : Encoder × List UInt8 :=
  enc.frame code [a, b, c] (by simp [PAYLOAD_MAX])

/-- 1 × `f32`. -/
def c1f (enc : Encoder) (code : UInt8) (a : F32) : Encoder × List UInt8 :=
  enc.frame code (F32.toLeBytes a) (by simp [PAYLOAD_MAX])

/-- 2 × `f32`. -/
def c2f (enc : Encoder) (code : UInt8) (a b : F32) : Encoder × List UInt8 :=
  let payload := List.replicate 8 0
  let payload := overwrite payload 0 (F32.toLeBytes a)
  let payload := overwrite payload 4 (F32.toLeBytes b)
  enc.frame code payload (by change 8 ≤ 24; omega)

/-- 3 × `f32`. -/
def c3f (enc : Encoder) (code : UInt8) (a b c : F32) : Encoder × List UInt8 :=
  let payload := List.replicate 12 0
  let payload := overwrite payload 0 (F32.toLeBytes a)
  let payload := overwrite payload 4 (F32.toLeBytes b)
  let payload := overwrite payload 8 (F32.toLeBytes c)
  enc.frame code payload (by change 12 ≤ 24; omega)

/-- `u8` + 3 × `f32`. -/
def c1b3f (enc : Encoder) (code a : UInt8) (x y z : F32) : Encoder × List UInt8 :=
  let payload := List.replicate 13 0
  let payload := payload.set 0 a
  let payload := overwrite payload 1 (F32.toLeBytes x)
  let payload := overwrite payload 5 (F32.toLeBytes y)
  let payload := overwrite payload 9 (F32.toLeBytes z)
  enc.frame code payload (by change 13 ≤ 24; omega)

/-- 2 × `u8` + `f32`. -/
def c2b1f (enc : Encoder) (code a b : UInt8) (x : F32) : Encoder × List UInt8 :=
  let payload := List.replicate 6 0
  let payload := payload.set 0 a
  let payload := payload.set 1 b
  let payload := overwrite payload 2 (F32.toLeBytes x)
  enc.frame code payload (by change 6 ≤ 24; omega)

end Encoder

/-- The bytes of a frame on the wire. -/
def frameBytes (code : UInt8) (payload : List UInt8) : List UInt8 :=
  START :: UInt8.ofNat (1 + payload.length) :: code ::
    (payload ++ [END, crc8 (code :: payload)])

/-- The writes are contiguous, so each extends the initialized front of the
scratch, whatever was behind it. -/
theorem Encoder.take_fill (buf : List UInt8) (code : UInt8) {payload : List UInt8}
    (fits : payload.length + 5 ≤ buf.length) :
    (fill buf code payload).take (payload.length + 5) =
      frameBytes code payload := by
  have header : (((buf.set 0 START).set 1 (UInt8.ofNat (1 + payload.length))).set
      2 code).take 3 = [START, UInt8.ofNat (1 + payload.length), code] := by
    rw [take_set_succ _ (by simp; omega), take_set_succ _ (by simp; omega),
      take_set_succ _ (by omega)]
    rfl
  simp only [fill]
  obtain ⟨front, headerBuf⟩ : ∃ front, front = ((buf.set 0 START).set 1
    (UInt8.ofNat (1 + payload.length))).set 2 code := ⟨_, rfl⟩
  rw [← headerBuf] at header ⊢
  have frontLength : front.length = buf.length := by simp [headerBuf]
  have filled : (overwrite front 3 payload).take (3 + payload.length) =
      [START, UInt8.ofNat (1 + payload.length), code] ++ payload := by
    rw [take_overwrite _ _ _ (by omega), header]
  have filledLength : (overwrite front 3 payload).length = buf.length := by
    rw [length_overwrite (by omega), frontLength]
  have ended : ((overwrite front 3 payload).set (3 + payload.length) END).take
      (3 + payload.length + 1) =
      [START, UInt8.ofNat (1 + payload.length), code] ++ payload ++ [END] := by
    rw [take_set_succ _ (by omega), filled]
  have covered : ((overwrite front 3 payload).set (3 + payload.length) END).extract
      2 (3 + payload.length) = code :: payload := by
    rw [← extract_take _ (3 + payload.length + 1) (by omega), ended]
    simp [List.extract_eq_take_drop, Nat.add_comm]
  have ending : 2 + (1 + payload.length) = 3 + payload.length := by omega
  have checksum : 3 + (1 + payload.length) = 3 + payload.length + 1 := by omega
  rw [ending, checksum, covered,
    show payload.length + 5 = 3 + payload.length + 1 + 1 by omega,
    take_set_succ _ (by simp; omega), ended]
  simp [frameBytes]

/-- Whatever an earlier frame left in the scratch, the returned slice is exactly
the frame of this code and payload. -/
theorem Encoder.frame_bytes (enc : Encoder) (code : UInt8) (payload : List UInt8)
    (fits : payload.length ≤ PAYLOAD_MAX) :
    (enc.frame code payload fits).2 = frameBytes code payload := by
  rw [← take_fill enc.buf code
    (by simp only [enc.buf_length, FRAME_MAX]; omega)]
  simp only [frame]
  congr 1
  omega

/-! ## Decoder -/

/-- Bytes the decoder can hold. -/
def CAP : Nat := 256

structure Decoder where
  buf : List UInt8
  len : Nat
  buf_length : buf.length = CAP
  len_le : len ≤ CAP

namespace Decoder

def new : Decoder where
  buf := List.replicate CAP 0
  len := 0
  buf_length := by simp
  len_le := by simp

/-- The bytes received and not yet consumed. -/
def contents (decoder : Decoder) : List UInt8 := decoder.buf.take decoder.len

/-- Shift the remaining bytes to the front (`copy_within`). -/
def dropFront (decoder : Decoder) (n : Nat) : Option Decoder :=
  if inRange : n ≤ decoder.len then
    some {
      buf := overwrite decoder.buf 0 (decoder.buf.extract n decoder.len)
      len := decoder.len - n
      buf_length := by
        rw [length_overwrite, decoder.buf_length]
        simp only [List.extract_eq_take_drop, List.length_take, List.length_drop]
        omega
      len_le := Nat.le_trans (Nat.sub_le _ _) decoder.len_le }
  else
    none

/-- Append one received byte, dropping the oldest if the buffer is full. -/
def push (decoder : Decoder) (byte : UInt8) : Option Decoder :=
  (if decoder.len = CAP then decoder.dropFront 1 else some decoder).bind
    fun decoder =>
      if room : decoder.len < CAP then
        some {
          buf := decoder.buf.set decoder.len byte
          len := decoder.len + 1
          buf_length := by rw [List.length_set, decoder.buf_length]
          len_le := room }
      else
        none

/-- Append a slice of received bytes. -/
def extend (decoder : Decoder) : List UInt8 → Option Decoder
  | [] => some decoder
  | byte :: bytes => (decoder.push byte).bind fun decoder => decoder.extend bytes

/-- How one turn of the loop in `pop` ends: `return None`, `continue`, or
`return Some(frame)`. -/
inductive PopStep
  | pending
  | resync (decoder : Decoder)
  | popped (frame : Frame) (decoder : Decoder)

/-- `usize::wrapping_sub` on the 32-bit target. -/
def wrappingSub (left right : Nat) : Nat :=
  if right ≤ left then left - right else left + 0x100000000 - right

/-- One turn of the loop in `pop`. -/
def popStep (decoder : Decoder) : Option PopStep := do
  if decoder.len = 0 then
    return .pending
  let first ← decoder.buf[0]?
  if first ≠ START then
    return .resync (← decoder.dropFront 1)
  if decoder.len < 2 then
    return .pending
  let lenByte ← decoder.buf[1]?
  let payloadLen := wrappingSub lenByte.toNat 1
  if lenByte = 0 ∨ PAYLOAD_MAX < payloadLen then
    return .resync (← decoder.dropFront 1)
  let total := lenByte.toNat + 4
  if decoder.len < total then
    return .pending
  let lenField := lenByte.toNat
  let endByte ← decoder.buf[lenField + 2]?
  let crcByte ← decoder.buf[lenField + 3]?
  let covered ← slice? decoder.buf 2 (2 + lenField)
  if endByte ≠ END ∨ crcByte ≠ crc8 covered then
    return .resync (← decoder.dropFront 1)
  let code ← decoder.buf[2]?
  let payload ← slice? decoder.buf 3 (3 + payloadLen)
  let frame ← Frame.received code payload
  return .popped frame (← decoder.dropFront total)

/-- The loop of `pop`, for at most `fuel` turns. -/
def popLoop : Nat → Decoder → Option (Option Frame × Decoder)
  | 0, _ => none
  | fuel + 1, decoder =>
      decoder.popStep.bind fun
        | .pending => some (none, decoder)
        | .resync decoder => popLoop fuel decoder
        | .popped frame decoder => some (some frame, decoder)

/-- Pop the next complete frame. Every turn but the last drops a byte, so one
turn more than there are bytes is enough. -/
def pop (decoder : Decoder) : Option (Option Frame × Decoder) :=
  popLoop (decoder.len + 1) decoder

/-- `while let Some(frame) = decoder.pop()`, for at most `fuel` calls. -/
def popAllLoop : Nat → Decoder → Option (List Frame × Decoder)
  | 0, _ => none
  | fuel + 1, decoder =>
      decoder.pop.bind fun
        | (none, decoder) => some ([], decoder)
        | (some frame, decoder) =>
            (popAllLoop fuel decoder).map fun rest => (frame :: rest.1, rest.2)

def popAll (decoder : Decoder) : Option (List Frame × Decoder) :=
  popAllLoop (decoder.len + 1) decoder

/-- The receive path of the driver: extend the decoder by each read and pop
until nothing is left to pop. -/
def feed (decoder : Decoder) : List (List UInt8) → Option (List Frame × Decoder)
  | [] => some ([], decoder)
  | chunk :: chunks =>
      (decoder.extend chunk).bind fun decoder =>
        decoder.popAll.bind fun first =>
          (first.2.feed chunks).map fun rest => (first.1 ++ rest.1, rest.2)

end Decoder

end BeetEsp.Alvik
