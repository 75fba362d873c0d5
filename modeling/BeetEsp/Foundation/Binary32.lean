import Mathlib.Data.List.Basic

/-! # Single-precision values as bit patterns

An `f32` is its 32-bit pattern. Comparison and conversion follow the sign,
exponent and fraction fields, so equal values of different sign (the two zeros)
compare equal and a NaN compares with nothing.
-/

namespace Foundation

/-- The `f32` of the source as its 32-bit pattern. -/
abbrev F32 := UInt32

namespace F32

/-- `f32::to_le_bytes`. -/
def toLeBytes (value : F32) : List UInt8 :=
  [value.toUInt8, (value >>> 8).toUInt8, (value >>> 16).toUInt8,
    (value >>> 24).toUInt8]

@[simp] theorem length_toLeBytes (value : F32) :
    (toLeBytes value).length = 4 := rfl

/-- The four bytes determine the pattern. -/
theorem toLeBytes_injective : Function.Injective toLeBytes := by
  intro left right equal
  simp only [toLeBytes, List.cons.injEq, and_true] at equal
  rcases equal with ⟨byte0, byte1, byte2, byte3⟩
  apply UInt32.toNat_inj.mp
  have leftBound := left.toNat_lt
  have rightBound := right.toNat_lt
  simp only [← UInt8.toNat_inj, UInt32.toNat_toUInt8, UInt32.toNat_shiftRight,
    UInt32.reduceToNat, Nat.reduceMod, Nat.shiftRight_eq_div_pow,
    Nat.reducePow] at byte0 byte1 byte2 byte3
  omega

@[simp] theorem toLeBytes_inj {left right : F32} :
    toLeBytes left = toLeBytes right ↔ left = right :=
  toLeBytes_injective.eq_iff

/-- Four bytes at a time, a concatenation of patterns can be read back. -/
@[simp] theorem toLeBytes_append_inj {left right : F32} {front back : List UInt8} :
    toLeBytes left ++ front = toLeBytes right ++ back ↔
      left = right ∧ front = back := by
  constructor
  · intro equal
    have parts := List.append_inj equal rfl
    exact ⟨toLeBytes_injective parts.1, parts.2⟩
  · intro holds
    rcases holds with ⟨rfl, rfl⟩
    rfl

/-- `f32::from_le_bytes`. -/
def ofLeBytes (byte0 byte1 byte2 byte3 : UInt8) : F32 :=
  UInt32.ofNat
    (((byte3.toNat * 256 + byte2.toNat) * 256 + byte1.toNat) * 256 + byte0.toNat)

def negative (value : F32) : Bool := 0x80000000 ≤ value.toNat

/-- Exponent and fraction fields together; they order values of one sign. -/
def magnitude (value : F32) : Nat := value.toNat % 0x80000000

def isNaN (value : F32) : Bool := 0x7F800000 < magnitude value

/-- `<` on `f32`. -/
def lt (left right : F32) : Bool :=
  !isNaN left && !isNaN right &&
    decide (order left < order right)
where
  order (value : F32) : Int :=
    if negative value then -(magnitude value : Int) else magnitude value

/-- `<=` on `f32`. -/
def le (left right : F32) : Bool :=
  !isNaN left && !isNaN right && decide (lt.order left ≤ lt.order right)

/-- `-value`, which flips the sign of a NaN as well. -/
def neg (value : F32) : F32 := value ^^^ 0x80000000

/-- `f32::clamp`; a NaN stays a NaN. -/
def clamp (value low high : F32) : F32 :=
  let value := if lt value low then low else value
  if lt high value then high else value

/-- The exponent field and the significand with its leading one. -/
def exponent (value : F32) : Nat := magnitude value / 0x800000

def significand (value : F32) : Nat := 0x800000 + magnitude value % 0x800000

/-- `as u8`: towards zero, saturating, and zero for a NaN. -/
def toU8 (value : F32) : UInt8 :=
  if isNaN value || negative value || exponent value < 127 then 0
  else if 135 ≤ exponent value then 255
  else UInt8.ofNat (significand value >>> (150 - exponent value))

/-- `as i64`: towards zero, saturating, and zero for a NaN. -/
def toI64 (value : F32) : Int :=
  let size := if exponent value < 150 then significand value >>> (150 - exponent value)
    else significand value <<< (exponent value - 150)
  if isNaN value then 0
  else if negative value then -(min size 0x8000000000000000 : Nat)
  else (min size 0x7FFFFFFFFFFFFFFF : Nat)

/-- `as f32` of an `i16`, which no value of it is too long for. -/
def ofI16 (value : Int16) : F32 :=
  let size := value.toInt.natAbs
  if size = 0 then 0
  else
    let sign := if value < 0 then 0x80000000 else 0
    UInt32.ofNat (sign + (126 + size.log2) * 0x800000 + size <<< (23 - size.log2))

example : ofI16 (-32768) = 0xC7000000 ∧ ofI16 1 = 0x3F800000 ∧ ofI16 300 = 0x43960000 := by
  decide

end F32

end Foundation
