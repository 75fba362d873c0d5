import Mathlib.Data.List.Basic
import Mathlib.Data.Nat.Init

/-! # Shift registers

A register of some width takes one bit at a time. It moves down one place, and when
the bit it loses differs from the bit it takes, its taps are flipped. All of this is
linear in exclusive or. What a register detects depends on its taps only: a set top
tap makes it forget nothing, and an odd number of taps makes it keep the parity.
-/

namespace Foundation

/-! ## Parity -/

def parity (bits : List Bool) : Bool :=
  bits.foldr (· ^^ ·) false

@[simp] theorem parity_nil : parity [] = false := rfl

@[simp] theorem parity_cons (bit : Bool) (bits : List Bool) :
    parity (bit :: bits) = (bit ^^ parity bits) := rfl

@[simp] theorem parity_append (front back : List Bool) :
    parity (front ++ back) = (parity front ^^ parity back) := by
  induction front with
  | nil => simp
  | cons bit front induction => simp [induction]

/-- The parity says whether the number of set bits is odd. -/
theorem parity_eq_count (bits : List Bool) :
    parity bits = decide (bits.count true % 2 = 1) := by
  induction bits with
  | nil => rfl
  | cons bit bits induction =>
      rw [parity_cons, induction]
      cases bit with
      | false => simp
      | true =>
          rw [List.count_cons_self, Bool.true_xor, ← decide_not, decide_eq_decide]
          omega

theorem parity_zipWith : ∀ {left right : List Bool}, left.length = right.length →
    parity (List.zipWith (· ^^ ·) left right) = (parity left ^^ parity right)
  | [], [], _ => rfl
  | first :: left, second :: right, same => by
      have rest := parity_zipWith (Nat.succ.inj same)
      rw [List.zipWith_cons_cons, parity_cons, parity_cons, parity_cons, rest]
      cases first <;> cases second <;> simp

namespace ShiftRegister

variable {width : Nat}

/-- The taps, if they are flipped. -/
def flip (taps : BitVec width) (mixed : Bool) : BitVec width :=
  if mixed then taps else 0#(width)

/-- Take one bit. -/
def shift (taps state : BitVec width) (bit : Bool) : BitVec width :=
  state >>> 1 ^^^ flip taps (state.getLsbD 0 ^^ bit)

def run (taps state : BitVec width) (bits : List Bool) : BitVec width :=
  bits.foldl (shift taps) state

/-- The bits of a state, the lowest first. -/
def bits (state : BitVec width) : List Bool :=
  (List.range width).map state.getLsbD

@[simp] theorem length_bits (state : BitVec width) : (bits state).length = width := by
  simp [bits]

theorem bits_xor (left right : BitVec width) :
    bits (left ^^^ right) = List.zipWith (· ^^ ·) (bits left) (bits right) := by
  rw [bits, bits, bits, List.zipWith_map, List.zipWith_self]
  exact List.map_congr_left fun index _ => BitVec.getLsbD_xor

variable (taps : BitVec width)

@[simp] theorem run_nil (state : BitVec width) : run taps state [] = state := rfl

@[simp] theorem run_cons (state : BitVec width) (bit : Bool) (rest : List Bool) :
    run taps state (bit :: rest) = run taps (shift taps state bit) rest := rfl

theorem run_append (state : BitVec width) (front back : List Bool) :
    run taps state (front ++ back) = run taps (run taps state front) back :=
  List.foldl_append

/-! ## Linearity -/

theorem flip_xor (left right : Bool) :
    flip taps (left ^^ right) = flip taps left ^^^ flip taps right := by
  cases left <;> cases right <;> simp [flip]

theorem shift_xor (left right : BitVec width) (first second : Bool) :
    shift taps (left ^^^ right) (first ^^ second) =
      shift taps left first ^^^ shift taps right second := by
  simp only [shift, BitVec.getLsbD_xor, BitVec.ushiftRight_xor_distrib, flip_xor]
  ac_rfl

/-- A register that takes two streams in exclusive or holds the exclusive or of what
they leave in it. -/
theorem run_xor : ∀ (left right : BitVec width) {first second : List Bool},
    first.length = second.length →
    run taps (left ^^^ right) (List.zipWith (· ^^ ·) first second) =
      run taps left first ^^^ run taps right second
  | _, _, [], [], _ => rfl
  | left, right, bit :: first, other :: second, same => by
      rw [List.zipWith_cons_cons, run_cons, shift_xor]
      exact run_xor _ _ (Nat.succ.inj same)

theorem shift_zero : shift taps 0#(width) false = 0#(width) := by
  simp [shift, flip]

@[simp] theorem run_zero_replicate (count : Nat) :
    run taps 0#(width) (List.replicate count false) = 0#(width) := by
  induction count with
  | zero => rfl
  | succ count induction => rw [List.replicate_succ, run_cons, shift_zero, induction]

/-! ## A set top tap -/

/-- Only an empty register is emptied: what the lowest bit flips sets the top bit,
which nothing else can. -/
theorem shift_eq_zero {taps state : BitVec width} (top : taps.msb = true)
    (emptied : shift taps state false = 0#(width)) : state = 0#(width) := by
  have positive : 0 < width := by
    rcases Nat.eq_zero_or_pos width with rfl | positive
    · rw [BitVec.of_length_zero (x := taps)] at top
      cases top
    · exact positive
  have lowest : state.getLsbD 0 = false := by
    have topBit := congrArg BitVec.msb emptied
    rw [shift, BitVec.msb_xor, BitVec.msb_ushiftRight, Bool.xor_false] at topBit
    cases low : state.getLsbD 0 with
    | false => rfl
    | true => simp [low, flip, top] at topBit
  rw [shift, lowest, Bool.xor_false] at emptied
  apply BitVec.eq_of_getLsbD_eq
  intro index inside
  rw [BitVec.getLsbD_zero]
  cases index with
  | zero => exact lowest
  | succ index =>
      have moved := congrArg (fun vector => vector.getLsbD index) emptied
      simpa [flip, Nat.add_comm] using moved

theorem run_replicate_eq_zero {taps state : BitVec width} (top : taps.msb = true)
    (count : Nat) (emptied : run taps state (List.replicate count false) = 0#(width)) :
    state = 0#(width) := by
  induction count generalizing state with
  | zero => exact emptied
  | succ count induction => exact shift_eq_zero top (induction emptied)

/-! ## Bursts -/

/-- A state whose lowest bits are these. -/
def pack (width : Nat) : List Bool → BitVec width
  | [] => 0#(width)
  | bit :: rest => pack width rest <<< 1 ^^^ flip 1#(width) bit

theorem getLsbD_pack (index : Nat) : ∀ packed : List Bool,
    (pack width packed).getLsbD index = (decide (index < width) && packed[index]?.getD false)
  | [] => by simp [pack]
  | bit :: rest => by
      rw [pack, BitVec.getLsbD_xor, BitVec.getLsbD_shiftLeft, getLsbD_pack (index - 1) rest]
      cases index with
      | zero => cases bit <;> simp [flip, BitVec.getLsbD_one]
      | succ index =>
          have none : (flip 1#(width) bit).getLsbD (index + 1) = false := by
            cases bit <;> simp [flip, BitVec.getLsbD_one]
          rw [none]
          by_cases inside : index + 1 < width
          · simp [inside, Nat.lt_of_succ_lt inside]
          · simp [inside]

/-- Taking a bit is taking a clear one with the bit already in the lowest place. -/
theorem shift_flip (state : BitVec width) (bit : Bool) :
    shift taps (state ^^^ flip 1#(width) bit) false = shift taps state bit := by
  rcases Nat.eq_zero_or_pos width with rfl | positive
  · rw [BitVec.of_length_zero (x := shift taps state bit), BitVec.of_length_zero (x := shift _ _ _)]
  · have single : shift taps (flip 1#(width) bit) false = flip taps bit := by
      have dropped : 1#(width) >>> 1 = 0#(width) := by
        apply BitVec.eq_of_getLsbD_eq
        intro index inside
        simp [BitVec.getLsbD_one]
      cases bit <;> simp [shift, flip, positive, dropped]
    have split := shift_xor taps state (flip 1#(width) bit) false false
    rw [Bool.xor_false, single] at split
    rw [split, shift, shift, Bool.xor_false, BitVec.xor_assoc, ← flip_xor]

theorem shift_shiftLeft {state : BitVec width} (clear : state.msb = false) :
    shift taps (state <<< 1) false = state := by
  have lowest : (state <<< 1).getLsbD 0 = false := by simp
  rw [shift, lowest, Bool.xor_false]
  apply BitVec.eq_of_getLsbD_eq
  intro index inside
  rw [BitVec.msb_eq_getLsbD_last] at clear
  by_cases next : index + 1 < width
  · rw [BitVec.getLsbD_xor, BitVec.getLsbD_ushiftRight, BitVec.getLsbD_shiftLeft]
    simp [flip, Nat.add_comm 1 index, next]
  · have last : index = width - 1 := by omega
    simp [flip, Nat.add_comm 1 index, next, last ▸ clear]

/-- Bits no more than the register is wide might as well have been in it. -/
theorem run_eq_run_replicate (state : BitVec width) (taken : List Bool)
    (short : taken.length ≤ width) :
    run taps state taken =
      run taps (state ^^^ pack width taken) (List.replicate taken.length false) := by
  induction taken generalizing state with
  | nil => simp [pack]
  | cons bit rest induction =>
      have clear : (pack width rest).msb = false := by
        rw [List.length_cons] at short
        rw [BitVec.msb_eq_getLsbD_last, getLsbD_pack, List.getElem?_eq_none (by omega),
          Option.getD_none, Bool.and_false]
      have mixed : shift taps (state ^^^ pack width (bit :: rest)) false =
          shift taps state bit ^^^ pack width rest := by
        have split := shift_xor taps (state ^^^ flip 1#(width) bit) (pack width rest <<< 1)
          false false
        rw [Bool.xor_false, shift_flip, shift_shiftLeft taps clear] at split
        rw [← split, pack]
        congr 1
        ac_rfl
      rw [run_cons, induction _ (Nat.le_of_succ_le short), List.length_cons,
        List.replicate_succ, run_cons, mixed]

/-- A burst no longer than the register is wide does not leave an empty register
empty. -/
theorem run_zero_ne_zero {taps : BitVec width} (top : taps.msb = true) {burst : List Bool}
    (short : burst.length ≤ width) (set : true ∈ burst) : run taps 0#(width) burst ≠ 0#(width) := by
  intro emptied
  rw [run_eq_run_replicate taps 0#(width) burst short, BitVec.zero_xor] at emptied
  have packed := run_replicate_eq_zero top _ emptied
  rcases List.mem_iff_getElem.mp set with ⟨index, inside, found⟩
  have bit : (pack width burst).getLsbD index = _ := getLsbD_pack index burst
  rw [packed, BitVec.getLsbD_zero, List.getElem?_eq_getElem inside, found, Option.getD_some,
    Bool.and_true] at bit
  exact of_decide_eq_false bit.symm (Nat.lt_of_lt_of_le inside short)

private theorem eq_replicate_of_clear {clear : List Bool} (none : true ∉ clear) :
    clear = List.replicate clear.length false := by
  rw [List.eq_replicate_iff]
  exact ⟨rfl, fun bit member => Bool.eq_false_iff.mpr fun set => none (set ▸ member)⟩

/-- Nor does a longer stream whose set bits all lie in a window of that length. -/
theorem run_zero_ne_zero_of_window {taps : BitVec width} (top : taps.msb = true)
    {stream : List Bool} (set : true ∈ stream) (start : Nat)
    (confined : ∀ index, stream[index]? = some true →
      start ≤ index ∧ index < start + width) :
    run taps 0#(width) stream ≠ 0#(width) := by
  have before : true ∉ stream.take start := by
    intro member
    rcases List.mem_iff_getElem?.mp member with ⟨index, found⟩
    rcases List.getElem?_eq_some_iff.mp found with ⟨inside, -⟩
    rw [List.length_take] at inside
    rw [List.getElem?_take_of_lt (by omega)] at found
    have := (confined index found).1
    omega
  have after : true ∉ (stream.drop start).drop width := by
    intro member
    rcases List.mem_iff_getElem?.mp member with ⟨index, found⟩
    rw [List.getElem?_drop, List.getElem?_drop] at found
    have := (confined _ found).2
    omega
  have split : stream = List.replicate (stream.take start).length false ++
      ((stream.drop start).take width ++
        List.replicate ((stream.drop start).drop width).length false) := by
    rw [← eq_replicate_of_clear before, ← eq_replicate_of_clear after,
      List.take_append_drop, List.take_append_drop]
  have inside : true ∈ (stream.drop start).take width := by
    rw [split] at set
    simpa [List.mem_replicate] using set
  rw [split, run_append, run_zero_replicate, run_append]
  intro emptied
  exact run_zero_ne_zero top (List.length_take_le _ _) inside
    (run_replicate_eq_zero top _ emptied)

/-! ## An odd number of taps -/

theorem parity_bits_zero : parity (bits 0#(width)) = false := by
  have clear : bits 0#(width) = List.replicate width false := by
    rw [List.eq_replicate_iff]
    simp [bits]
  rw [clear, parity_eq_count, List.count_replicate]
  rfl

theorem parity_bits_xor (left right : BitVec width) :
    parity (bits (left ^^^ right)) = (parity (bits left) ^^ parity (bits right)) := by
  rw [bits_xor, parity_zipWith (by rw [length_bits, length_bits])]

/-- What a state loses when it moves down is its lowest bit. -/
theorem parity_bits_drop (state : BitVec width) :
    (parity (bits (state >>> 1)) ^^ state.getLsbD 0) = parity (bits state) := by
  cases width with
  | zero => rw [BitVec.of_length_zero (x := state)]; rfl
  | succ width =>
      have kept : bits (state >>> 1) =
          (List.range width).map (fun index => state.getLsbD (index + 1)) ++ [false] := by
        rw [bits, List.range_succ, List.map_append, List.map_singleton]
        simp [Nat.add_comm]
      have whole : bits state =
          state.getLsbD 0 :: (List.range width).map (fun index => state.getLsbD (index + 1)) := by
        rw [bits, List.range_succ_eq_map, List.map_cons, List.map_map]
        rfl
      rw [kept, whole, parity_append, parity_cons, parity_cons, parity_nil, Bool.xor_false,
        Bool.xor_false, Bool.xor_comm]

theorem parity_shift {taps : BitVec width} (odd : parity (bits taps) = true)
    (state : BitVec width) (bit : Bool) :
    parity (bits (shift taps state bit)) = (parity (bits state) ^^ bit) := by
  have flipped : parity (bits (flip taps (state.getLsbD 0 ^^ bit))) =
      (state.getLsbD 0 ^^ bit) := by
    cases state.getLsbD 0 ^^ bit with
    | false => rw [flip, if_neg Bool.false_ne_true, parity_bits_zero]
    | true => rw [flip, if_pos rfl, odd]
  rw [shift, parity_bits_xor, flipped, ← Bool.xor_assoc, parity_bits_drop]

theorem parity_run {taps : BitVec width} (odd : parity (bits taps) = true)
    (state : BitVec width) (taken : List Bool) :
    parity (bits (run taps state taken)) = (parity (bits state) ^^ parity taken) := by
  induction taken generalizing state with
  | nil => simp
  | cons bit rest induction =>
      rw [run_cons, induction, parity_shift odd, parity_cons, Bool.xor_assoc]

end ShiftRegister

end Foundation
