import Mathlib.Data.List.Basic

/-! # Cursors over byte buffers

A reader is a function of the cursor that stops at its first failing read, with
the cursor left where the read failed. A writer fills a fixed buffer from the
front and fails when it is full. `Reads` and `Writes` say what a reader consumes
and what a writer lays out, and follow the sequencing of readers and writers.
-/

namespace Foundation

/-- `usize::MAX` of a 32-bit target. -/
def USIZE_MAX : Nat := 4294967295

/-- `u16::from_be_bytes`. -/
def beU16 (high low : UInt8) : UInt16 := UInt16.ofNat (high.toNat * 256 + low.toNat)

/-- `u32::from_be_bytes`. -/
def beU32 (first second third fourth : UInt8) : UInt32 :=
  UInt32.ofNat
    (((first.toNat * 256 + second.toNat) * 256 + third.toNat) * 256 + fourth.toNat)

theorem beU32_bytes (value : UInt32) :
    beU32 (value >>> 24).toUInt8 (value >>> 16).toUInt8 (value >>> 8).toUInt8
      value.toUInt8 = value := by
  have bound := value.toNat_lt
  apply UInt32.toNat_inj.mp
  simp only [beU32, UInt32.toNat_ofNat', UInt32.toNat_toUInt8, UInt32.toNat_shiftRight,
    UInt32.reduceToNat, Nat.reducePow, Nat.reduceMod, Nat.shiftRight_eq_div_pow]
  omega

/-- `u16::to_be_bytes`. -/
def u16Bytes (value : UInt16) : List UInt8 := [(value >>> 8).toUInt8, value.toUInt8]

/-- `u32::to_be_bytes`. -/
def u32Bytes (value : UInt32) : List UInt8 :=
  [(value >>> 24).toUInt8, (value >>> 16).toUInt8, (value >>> 8).toUInt8, value.toUInt8]

theorem beU16_bytes (value : UInt16) :
    beU16 (value >>> 8).toUInt8 value.toUInt8 = value := by
  have bound := value.toNat_lt
  apply UInt16.toNat_inj.mp
  simp only [beU16, UInt16.toNat_ofNat', UInt16.toNat_toUInt8, UInt16.toNat_shiftRight,
    UInt16.reduceToNat, Nat.reducePow, Nat.reduceMod, Nat.shiftRight_eq_div_pow]
  omega

structure Cursor where
  buf : List UInt8
  pos : Nat

/-- A read either has a value or fails, and moves the cursor in both cases. -/
def Read (Value : Type) := Cursor → Option Value × Cursor

namespace Read

instance : Monad Read where
  pure value := fun cursor => (some value, cursor)
  bind read next := fun cursor =>
    match read cursor with
    | (some value, cursor) => next value cursor
    | (none, cursor) => (none, cursor)

def fail {Value : Type} : Read Value := fun cursor => (none, cursor)

def u8 : Read UInt8 := fun cursor =>
  match cursor.buf[cursor.pos]? with
  | some value => (some value, { cursor with pos := cursor.pos + 1 })
  | none => (none, cursor)

def u16 : Read UInt16 := do
  let high ← u8
  let low ← u8
  return beU16 high low

def u32 : Read UInt32 := do
  let first ← u8
  let second ← u8
  let third ← u8
  let fourth ← u8
  return beU32 first second third fourth

/-- Skip `count` bytes. Past the end the cursor has moved all the same. -/
def skip (count : Nat) : Read Unit := fun cursor =>
  if USIZE_MAX < cursor.pos + count then (none, cursor)
  else
    let moved := { cursor with pos := cursor.pos + count }
    if cursor.buf.length < moved.pos then (none, moved) else (some (), moved)

theorem u8_at {buf : List UInt8} {pos : Nat} {byte : UInt8} (found : buf[pos]? = some byte) :
    u8 ⟨buf, pos⟩ = (some byte, ⟨buf, pos + 1⟩) := by
  simp only [u8, found]

theorem at_of_u8 {cursor after : Cursor} {byte : UInt8}
    (read : u8 cursor = (some byte, after)) :
    cursor.buf[cursor.pos]? = some byte ∧ after = { cursor with pos := cursor.pos + 1 } := by
  unfold u8 at read
  cases found : cursor.buf[cursor.pos]? with
  | none => simp [found] at read
  | some value =>
      simp only [found, Prod.mk.injEq, Option.some.injEq] at read
      exact ⟨congrArg some read.1, read.2.symm⟩

theorem u8_some {cursor after : Cursor} {byte : UInt8}
    (read : u8 cursor = (some byte, after)) :
    cursor.pos < cursor.buf.length ∧ after = { cursor with pos := cursor.pos + 1 } := by
  rcases at_of_u8 read with ⟨found, moved⟩
  exact ⟨(List.getElem?_eq_some_iff.mp found).1, moved⟩

theorem skip_some {cursor after : Cursor} {count : Nat}
    (skipped : skip count cursor = (some (), after)) :
    cursor.pos + count ≤ cursor.buf.length ∧
      after = { cursor with pos := cursor.pos + count } := by
  unfold skip at skipped
  split at skipped
  · simp at skipped
  · simp only at skipped
    split at skipped
    · simp at skipped
    · rename_i inside
      exact ⟨Nat.le_of_not_lt inside, (Prod.mk.inj skipped).2.symm⟩

/-- A length byte and what it skips leave less of the buffer. -/
theorem remaining_lt {cursor afterLen after : Cursor} {len : UInt8} {count : Nat}
    (read : u8 cursor = (some len, afterLen))
    (skipped : skip count afterLen = (some (), after)) :
    after.buf.length - after.pos < cursor.buf.length - cursor.pos := by
  rcases u8_some read with ⟨inside, rfl⟩
  rcases skip_some skipped with ⟨-, rfl⟩
  change cursor.buf.length - (cursor.pos + 1 + count) < cursor.buf.length - cursor.pos
  omega

end Read

/-- The reader takes exactly these bytes for this value, whatever stands before
and after them. -/
def Reads {Value : Type} (read : Read Value) (value : Value) (bytes : List UInt8) : Prop :=
  ∀ before after : List UInt8, (before ++ (bytes ++ after)).length ≤ USIZE_MAX →
    read ⟨before ++ (bytes ++ after), before.length⟩ =
      (some value, ⟨before ++ (bytes ++ after), before.length + bytes.length⟩)

namespace Reads

variable {Value Result : Type}

theorem run {read : Read Value} {value : Value} {bytes whole : List UInt8} {pos : Nat}
    (reads : Reads read value bytes) (before after : List UInt8)
    (split : whole = before ++ (bytes ++ after)) (start : before.length = pos)
    (fits : whole.length ≤ USIZE_MAX) :
    read ⟨whole, pos⟩ = (some value, ⟨whole, pos + bytes.length⟩) := by
  subst split start
  exact reads before after fits

theorem pure (value : Value) : Reads (pure value) value [] :=
  fun _ _ _ => rfl

theorem bind {read : Read Value} {next : Value → Read Result} {value : Value}
    {result : Result} {front back : List UInt8} (first : Reads read value front)
    (second : Reads (next value) result back) :
    Reads (read >>= next) result (front ++ back) := by
  intro before after fits
  have whole : before ++ (front ++ back ++ after) = before ++ (front ++ (back ++ after)) := by
    rw [List.append_assoc]
  rw [whole] at fits ⊢
  have read_front := first before (back ++ after) fits
  have read_back := second (before ++ front) after (by rwa [List.append_assoc])
  rw [List.append_assoc, List.length_append] at read_back
  change (match read ⟨before ++ (front ++ (back ++ after)), before.length⟩ with
    | (some value, cursor) => next value cursor
    | (none, cursor) => (none, cursor)) = _
  rw [read_front]
  change next value ⟨before ++ (front ++ (back ++ after)), before.length + front.length⟩ = _
  rw [read_back, List.length_append, Nat.add_assoc]

theorem u8 (byte : UInt8) : Reads Read.u8 byte [byte] := by
  intro before after _
  rw [Read.u8]
  simp

theorem u16 (high low : UInt8) : Reads Read.u16 (beU16 high low) [high, low] :=
  (u8 high).bind ((u8 low).bind (pure _))

theorem u32 (first second third fourth : UInt8) :
    Reads Read.u32 (beU32 first second third fourth) [first, second, third, fourth] :=
  (u8 first).bind ((u8 second).bind ((u8 third).bind ((u8 fourth).bind (pure _))))

theorem u16_bytes (value : UInt16) : Reads Read.u16 value (u16Bytes value) := by
  have reads := u16 (value >>> 8).toUInt8 value.toUInt8
  rwa [beU16_bytes] at reads

theorem u32_bytes (value : UInt32) : Reads Read.u32 value (u32Bytes value) := by
  have reads := u32 (value >>> 24).toUInt8 (value >>> 16).toUInt8 (value >>> 8).toUInt8
    value.toUInt8
  rwa [beU32_bytes] at reads

theorem skip (bytes : List UInt8) : Reads (Read.skip bytes.length) () bytes := by
  intro before after fits
  simp only [List.length_append] at fits
  simp only [Read.skip, List.length_append]
  rw [if_neg (by omega), if_neg (by omega)]

end Reads

/-- The reader fails on these bytes, whatever stands before and after them. -/
def Refuses {Value : Type} (read : Read Value) (bytes : List UInt8) : Prop :=
  ∀ before after : List UInt8, (before ++ (bytes ++ after)).length ≤ USIZE_MAX →
    (read ⟨before ++ (bytes ++ after), before.length⟩).1 = none

namespace Refuses

variable {Value Result : Type}

theorem fail : Refuses (Read.fail : Read Value) [] :=
  fun _ _ _ => rfl

theorem bind {read : Read Value} {next : Value → Read Result} {value : Value}
    {front back : List UInt8} (first : Reads read value front)
    (second : Refuses (next value) back) :
    Refuses (read >>= next) (front ++ back) := by
  intro before after fits
  have whole : before ++ (front ++ back ++ after) = before ++ (front ++ (back ++ after)) := by
    rw [List.append_assoc]
  rw [whole] at fits ⊢
  have read_front := first before (back ++ after) fits
  have read_back := second (before ++ front) after (by rwa [List.append_assoc])
  rw [List.append_assoc, List.length_append] at read_back
  change (match read ⟨before ++ (front ++ (back ++ after)), before.length⟩ with
    | (some value, cursor) => next value cursor
    | (none, cursor) => (none, cursor)).1 = none
  rw [read_front]
  exact read_back

end Refuses

/-! ## Writers -/

structure Writer where
  buf : List UInt8
  pos : Nat

/-- `None` on overflow. -/
abbrev Write := StateT Writer Option Unit

namespace Write

def fail : Write := fun _ => none

def u8 (value : UInt8) : Write := fun writer =>
  if writer.pos < writer.buf.length then
    some ((), { buf := writer.buf.set writer.pos value, pos := writer.pos + 1 })
  else
    none

def u16 (value : UInt16) : Write := do
  u8 (value >>> 8).toUInt8
  u8 value.toUInt8

def u32 (value : UInt32) : Write := do
  u16 (value >>> 16).toUInt16
  u16 value.toUInt16

def bytes : List UInt8 → Write
  | [] => pure ()
  | byte :: rest => do
      u8 byte
      bytes rest

end Write

/-- The writer lays out exactly these bytes when they fit in the rest of the
buffer, and fails otherwise. -/
def Writes (write : Write) (bytes : List UInt8) : Prop :=
  ∀ front room : List UInt8, write ⟨front ++ room, front.length⟩ =
    if bytes.length ≤ room.length then
      some ((), ⟨front ++ bytes ++ room.drop bytes.length, (front ++ bytes).length⟩)
    else
      none

namespace Writes

theorem pure : Writes (pure ()) [] := by
  intro front room
  rw [List.length_nil, if_pos (Nat.zero_le _), List.append_nil]
  rfl

theorem bind {write next : Write} {front back : List UInt8}
    (first : Writes write front) (second : Writes next back) :
    Writes (write >>= fun _ => next) (front ++ back) := by
  intro laid room
  change ((write ⟨laid ++ room, laid.length⟩).bind fun step => next step.2) = _
  rw [first laid room]
  by_cases frontFits : front.length ≤ room.length
  · rw [if_pos frontFits]
    change next ⟨laid ++ front ++ room.drop front.length, (laid ++ front).length⟩ = _
    rw [second (laid ++ front) (room.drop front.length)]
    have enough : back.length ≤ (room.drop front.length).length ↔
        (front ++ back).length ≤ room.length := by
      rw [List.length_drop, List.length_append]
      omega
    rw [List.drop_drop, ← List.length_append, List.append_assoc laid front back]
    exact if_congr enough rfl rfl
  · rw [if_neg frontFits, if_neg]
    · rfl
    · rw [List.length_append]
      omega

theorem u8 (value : UInt8) : Writes (Write.u8 value) [value] := by
  intro front room
  rw [Write.u8]
  cases room with
  | nil => simp
  | cons byte room => simp

theorem u16 (value : UInt16) :
    Writes (Write.u16 value) [(value >>> 8).toUInt8, value.toUInt8] :=
  (u8 _).bind (u8 _)

theorem u32 (value : UInt32) :
    Writes (Write.u32 value)
      [((value >>> 16).toUInt16 >>> 8).toUInt8, (value >>> 16).toUInt16.toUInt8,
        (value.toUInt16 >>> 8).toUInt8, value.toUInt16.toUInt8] :=
  (u16 _).bind (u16 _)

theorem bytes : (values : List UInt8) → Writes (Write.bytes values) values
  | [] => pure
  | value :: values => (u8 value).bind (bytes values)

/-- From the front of a buffer. -/
theorem at_start {write : Write} {bytes : List UInt8} (lays : Writes write bytes)
    (buf : List UInt8) :
    write ⟨buf, 0⟩ = if bytes.length ≤ buf.length then
      some ((), ⟨bytes ++ buf.drop bytes.length, bytes.length⟩) else none :=
  lays [] buf

end Writes

/-- The writer fails on every buffer. -/
def Fails (write : Write) : Prop := ∀ writer : Writer, write writer = none

namespace Fails

theorem fail : Fails Write.fail := fun _ => rfl

theorem bind_left {write : Write} {next : Unit → Write} (fails : Fails write) :
    Fails (write >>= next) := by
  intro writer
  change (write writer).bind _ = none
  rw [fails writer]
  rfl

theorem bind_right {write next : Write} (fails : Fails next) :
    Fails (write >>= fun _ => next) := by
  intro writer
  change (write writer).bind (fun step => next step.2) = none
  cases write writer with
  | none => rfl
  | some step => exact fails step.2

end Fails

end Foundation
