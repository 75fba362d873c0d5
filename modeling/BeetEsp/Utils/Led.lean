import BeetEsp.Foundation.Bits

/-! # The pixels of an addressable LED

`Grb` packs a colour, and encodes it as the pulses from which a WS2812 reads one bit each.
-/

namespace BeetEsp.Utils

open Foundation

structure SrgbaU8 where
  red : UInt8
  green : UInt8
  blue : UInt8
  alpha : UInt8

/-- The `Color` of bevy, as far as the firmware uses it for an LED. -/
structure Colors where
  Color : Type
  /-- `Color::BLACK`. -/
  black : Color
  /-- `Color::srgb_u8`. -/
  srgbU8 : UInt8 → UInt8 → UInt8 → Color
  toSrgbaU8 : Color → SrgbaU8

/-- Colours that are nothing but their bytes. -/
@[reducible] def Colors.bytes : Colors where
  Color := UInt8 × UInt8 × UInt8
  black := (0, 0, 0)
  srgbU8 := fun red green blue => (red, green, blue)
  toSrgbaU8 := fun (red, green, blue) => { red, green, blue, alpha := 255 }

variable {C : Colors}

namespace Led

inductive Level
  | low
  | high
  deriving DecidableEq

/-- A level for a number of ticks, and then another. -/
structure PulseCode where
  level1 : Level
  length1 : UInt16
  level2 : Level
  length2 : UInt16
  deriving DecidableEq

def PulseCode.endMarker : PulseCode := ⟨.low, 0, .low, 0⟩

def T0H : UInt16 := 32
def T0L : UInt16 := 68
def T1H : UInt16 := 68
def T1L : UInt16 := 32

/-- 24 data bits and the end marker. -/
def PIXEL_CODES : Nat := 24 + 1

end Led

open Led

/-- A pixel packed in wire order. -/
structure Grb where
  value : UInt32

namespace Grb

def scale (brightness v : UInt8) : UInt32 :=
  (v.toUInt16 * brightness.toUInt16 / 255).toUInt32

def fromColor (color : C.Color) (brightness : UInt8) : Grb :=
  let srgb := C.toSrgbaU8 color
  ⟨(scale brightness srgb.green <<< 16) ||| (scale brightness srgb.red <<< 8) |||
    scale brightness srgb.blue⟩

/-- The contents of the buffer, all of which is written. -/
def encode (grb : Grb) : List PulseCode :=
  let zero : PulseCode := ⟨.high, T0H, .low, T0L⟩
  let one : PulseCode := ⟨.high, T1H, .low, T1L⟩
  ((List.range 24).map fun i =>
    if (grb.value >>> (23 - i).toUInt32) &&& 1 = 1 then one else zero) ++ [.endMarker]

end Grb

/-- Three bytes that are joined do not overlap. -/
theorem toNat_join {first second third : UInt32} (one : first.toNat < 2 ^ 8)
    (two : second.toNat < 2 ^ 8) (three : third.toNat < 2 ^ 8) :
    ((first <<< 16) ||| (second <<< 8) ||| third).toNat =
      first.toNat * 2 ^ 16 + second.toNat * 2 ^ 8 + third.toNat := by
  simp only [UInt32.toNat_or, UInt32.toNat_shiftLeft]
  generalize first.toNat = g at *
  generalize second.toNat = r at *
  generalize third.toNat = b at *
  have high : g <<< 16 % 2 ^ 32 = g <<< 16 := by
    rw [Nat.shiftLeft_eq]
    omega
  have middle : r <<< 8 % 2 ^ 32 = r <<< 8 := by
    rw [Nat.shiftLeft_eq]
    omega
  have low : r <<< 8 + b < 2 ^ 16 := by
    rw [Nat.shiftLeft_eq]
    omega
  calc (g <<< 16 % 2 ^ 32 ||| r <<< 8 % 2 ^ 32) ||| b
    _ = g <<< 16 ||| (r <<< 8 ||| b) := by rw [high, middle, Nat.lor_assoc]
    _ = g <<< 16 + (r <<< 8 + b) := by
      rw [← Nat.shiftLeft_add_eq_or_of_lt three, ← Nat.shiftLeft_add_eq_or_of_lt low]
    _ = g * 2 ^ 16 + r * 2 ^ 8 + b := by
      rw [Nat.shiftLeft_eq, Nat.shiftLeft_eq, Nat.add_assoc]

/-! ## What the LED reads -/

/-- What an LED shows. -/
structure Pixel where
  green : Nat
  red : Nat
  blue : Nat
  deriving DecidableEq

namespace Led

/-- The longer of the two pulses tells the bit. -/
def PulseCode.bit (code : PulseCode) : Option Bool :=
  if code.level1 = .high ∧ code.level2 = .low ∧ code.length1 ≠ code.length2 then
    some (code.length2 < code.length1)
  else none

/-- Three bytes, and then the line is idle. -/
def shown (codes : List PulseCode) : Option Pixel :=
  if codes.getLast? = some .endMarker then
    (codes.dropLast.mapM PulseCode.bit).bind fun bits =>
      if bits.length = 24 then
        some {
          green := ofMsbFirst (bits.take 8)
          red := ofMsbFirst ((bits.drop 8).take 8)
          blue := ofMsbFirst (bits.drop 16) }
      else none
  else none

end Led

namespace Grb

theorem bit_iff (grb : Grb) {i : Nat} (less : i < 24) :
    (grb.value >>> (23 - i).toUInt32) &&& 1 = 1 ↔ grb.value.toNat.testBit (23 - i) = true := by
  have small : (23 - i) % 2 ^ 32 % 32 = 23 - i := by omega
  rw [← UInt32.toNat_inj, UInt32.toNat_and, UInt32.toNat_shiftRight]
  simp only [Nat.toUInt32, UInt32.toNat_ofNat', small, UInt32.toNat_one, Nat.and_one_is_mod,
    Nat.testBit_eq_decide_div_mod_eq, Nat.shiftRight_eq_div_pow, decide_eq_true_eq]

theorem mapM_eq_some_map {Item : Type u} {Result : Type v} {read : Item → Option Result}
    {value : Item → Result} {items : List Item}
    (reads : ∀ item ∈ items, read item = some (value item)) :
    items.mapM read = some (items.map value) := by
  induction items with
  | nil => rfl
  | cons item items induction =>
      have rest := induction fun other member => reads other (List.mem_cons_of_mem _ member)
      rw [List.mapM_cons, reads item List.mem_cons_self, rest]
      rfl

/-- What is sent are the low 24 bits, the most significant one first. -/
theorem encode_bits (grb : Grb) :
    ∃ codes, grb.encode = codes ++ [.endMarker] ∧
      codes.mapM PulseCode.bit = some (msbFirst 24 grb.value.toNat) := by
  refine ⟨_, rfl, ?_⟩
  rw [List.mapM_map]
  apply mapM_eq_some_map
  intro i member
  have less := List.mem_range.mp member
  by_cases bit : grb.value.toNat.testBit (23 - i) = true
  · rw [Function.comp_apply, if_pos ((grb.bit_iff less).mpr bit), bit]
    rfl
  · rw [Function.comp_apply, if_neg ((grb.bit_iff less).not.mpr bit),
      Bool.eq_false_iff.mpr bit]
    rfl

theorem shown_encode (grb : Grb) :
    shown grb.encode = some {
      green := grb.value.toNat / 2 ^ 16 % 2 ^ 8
      red := grb.value.toNat / 2 ^ 8 % 2 ^ 8
      blue := grb.value.toNat % 2 ^ 8 } := by
  rcases grb.encode_bits with ⟨codes, encoded, bits⟩
  have parts : msbFirst 24 grb.value.toNat = msbFirst 8 (grb.value.toNat >>> 16) ++
      (msbFirst 8 (grb.value.toNat >>> 8) ++ msbFirst 8 grb.value.toNat) := by
    rw [← msbFirst_add]
    exact msbFirst_add 8 16 grb.value.toNat
  have short (value : Nat) : (msbFirst 8 value).drop 16 = [] :=
    List.drop_of_length_le (by simp)
  rw [shown, encoded, List.getLast?_concat, if_pos rfl, List.dropLast_concat, bits, parts]
  simp [List.drop_append, short, ofMsbFirst_msbFirst, Nat.shiftRight_eq_div_pow]

/-! ## The channels -/

theorem toNat_scale (brightness v : UInt8) :
    (scale brightness v).toNat = v.toNat * brightness.toNat / 255 := by
  have bound := Nat.mul_le_mul (Nat.le_of_lt_succ v.toNat_lt)
    (Nat.le_of_lt_succ brightness.toNat_lt)
  simp only [scale, UInt16.toNat_toUInt32, UInt16.toNat_div, UInt16.toNat_mul,
    UInt8.toNat_toUInt16]
  rw [Nat.mod_eq_of_lt (by omega)]
  rfl

theorem scale_le_brightness (brightness v : UInt8) :
    (scale brightness v).toNat ≤ brightness.toNat := by
  rw [toNat_scale]
  have small := Nat.le_of_lt_succ v.toNat_lt
  calc v.toNat * brightness.toNat / 255
    _ ≤ 255 * brightness.toNat / 255 := Nat.div_le_div_right (Nat.mul_le_mul_right _ small)
    _ = brightness.toNat := Nat.mul_div_cancel_left _ (by decide)

theorem toNat_fromColor (color : C.Color) (brightness : UInt8) :
    (fromColor color brightness).value.toNat =
      (scale brightness (C.toSrgbaU8 color).green).toNat * 2 ^ 16 +
      (scale brightness (C.toSrgbaU8 color).red).toNat * 2 ^ 8 +
      (scale brightness (C.toSrgbaU8 color).blue).toNat := by
  have channel (v : UInt8) : (scale brightness v).toNat < 2 ^ 8 :=
    Nat.lt_of_le_of_lt (scale_le_brightness brightness v) brightness.toNat_lt
  exact toNat_join (channel _) (channel _) (channel _)

/-- The LED shows the colour, scaled. -/
theorem shown_fromColor (color : C.Color) (brightness : UInt8) :
    shown (fromColor color brightness).encode = some {
      green := (C.toSrgbaU8 color).green.toNat * brightness.toNat / 255
      red := (C.toSrgbaU8 color).red.toNat * brightness.toNat / 255
      blue := (C.toSrgbaU8 color).blue.toNat * brightness.toNat / 255 } := by
  have channel (v : UInt8) : v.toNat * brightness.toNat / 255 < 2 ^ 8 := by
    rw [← toNat_scale]
    exact Nat.lt_of_le_of_lt (scale_le_brightness brightness v) brightness.toNat_lt
  have green := channel (C.toSrgbaU8 color).green
  have red := channel (C.toSrgbaU8 color).red
  have blue := channel (C.toSrgbaU8 color).blue
  rw [shown_encode, toNat_fromColor, toNat_scale, toNat_scale, toNat_scale,
    Option.some.injEq, Pixel.mk.injEq]
  omega

end Grb

end BeetEsp.Utils
