import Mathlib.Algebra.Group.Nat.Defs
import Mathlib.Data.List.Basic
import Mathlib.Data.Nat.Bitwise

/-! # Numbers as lists of bits

The most significant bit comes first, as on a serial line.
-/

namespace Foundation

/-- The `count` low bits of a number. -/
def msbFirst (count value : Nat) : List Bool :=
  (List.range count).map fun index => value.testBit (count - 1 - index)

def ofMsbFirst (bits : List Bool) : Nat :=
  bits.foldl (fun value bit => 2 * value + bit.toNat) 0

@[simp] theorem length_msbFirst (count value : Nat) : (msbFirst count value).length = count := by
  simp [msbFirst]

/-- A number is sent high bits first. -/
theorem msbFirst_add (front back value : Nat) :
    msbFirst (front + back) value = msbFirst front (value >>> back) ++ msbFirst back value := by
  rw [msbFirst, List.range_add, List.map_append, List.map_map, msbFirst, msbFirst]
  congr 1
  · apply List.map_congr_left
    intro index member
    rw [Nat.testBit_shiftRight]
    congr 1
    have less := List.mem_range.mp member
    omega
  · apply List.map_congr_left
    intro index member
    simp only [Function.comp_apply]
    congr 1
    have less := List.mem_range.mp member
    omega

theorem ofMsbFirst_concat (bits : List Bool) (bit : Bool) :
    ofMsbFirst (bits ++ [bit]) = 2 * ofMsbFirst bits + bit.toNat := by
  rw [ofMsbFirst, List.foldl_append]
  rfl

theorem ofMsbFirst_msbFirst (count value : Nat) :
    ofMsbFirst (msbFirst count value) = value % 2 ^ count := by
  induction count generalizing value with
  | zero => simp [msbFirst, ofMsbFirst, Nat.mod_one]
  | succ count induction =>
      have last : msbFirst 1 value = [value.testBit 0] := rfl
      have bit : (value.testBit 0).toNat = value % 2 := by
        rw [Nat.testBit_zero]
        rcases Nat.mod_two_eq_zero_or_one value with even | odd
        · simp [even]
        · simp [odd]
      rw [msbFirst_add, last, ofMsbFirst_concat, induction, bit, Nat.shiftRight_one,
        Nat.pow_succ']
      exact (Nat.mod_mul.trans (Nat.add_comm _ _)).symm

end Foundation
