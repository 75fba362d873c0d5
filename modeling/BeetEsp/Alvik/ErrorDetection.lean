import BeetEsp.Alvik.DecoderRefinement
import BeetEsp.Foundation.ShiftRegister

/-! # What CRC8 detects

`crc8` is a shift register with the taps `0x8C`, fed with the bits of the covered
bytes in the order they have on the wire. The top tap is set, and the number of taps
is odd.
-/

namespace BeetEsp.Alvik

open Foundation

/-- The bits of bytes in the order they are sent, each byte's lowest bit first. -/
def wireBits (bytes : List UInt8) : List Bool :=
  bytes.flatMap fun byte => ShiftRegister.bits byte.toBitVec

@[simp] theorem wireBits_nil : wireBits [] = [] := rfl

@[simp] theorem wireBits_cons (byte : UInt8) (bytes : List UInt8) :
    wireBits (byte :: bytes) = ShiftRegister.bits byte.toBitVec ++ wireBits bytes := rfl

@[simp] theorem wireBits_append (front back : List UInt8) :
    wireBits (front ++ back) = wireBits front ++ wireBits back :=
  List.flatMap_append

@[simp] theorem length_wireBits (bytes : List UInt8) :
    (wireBits bytes).length = 8 * bytes.length := by
  induction bytes with
  | nil => rfl
  | cons byte bytes induction => simp [induction]; omega

/-- The polynomial of `crc8`. -/
abbrev TAPS : BitVec 8 := 0x8C#8

/-! ## The register -/

theorem and_one_ne_zero (byte : UInt8) : byte &&& 1 ≠ 0 ↔ byte.toBitVec.getLsbD 0 = true := by
  rw [Ne, ← UInt8.toBitVec_inj, UInt8.toBitVec_and]
  change ¬ byte.toBitVec &&& 1#8 = 0#8 ↔ _
  rw [BitVec.and_one_eq_setWidth_ofBool_getLsbD]
  cases byte.toBitVec.getLsbD 0 <;> decide

theorem crc8Bit_fst (crc bits : UInt8) : (crc8Bit (crc, bits)).1.toBitVec =
    ShiftRegister.shift TAPS crc.toBitVec (bits.toBitVec.getLsbD 0) := by
  have mixed : (crc ^^^ bits) &&& 1 ≠ 0 ↔
      (crc.toBitVec.getLsbD 0 ^^ bits.toBitVec.getLsbD 0) = true := by
    rw [and_one_ne_zero, UInt8.toBitVec_xor, BitVec.getLsbD_xor]
  simp only [crc8Bit, ShiftRegister.shift, ShiftRegister.flip]
  by_cases flips : (crc.toBitVec.getLsbD 0 ^^ bits.toBitVec.getLsbD 0) = true
  · rw [if_pos (mixed.mpr flips), if_pos flips]
    rfl
  · rw [if_neg (mt mixed.mp flips), if_neg flips, BitVec.xor_zero]
    rfl

/-- The turns of the inner loop of `crc8` take the bits of the byte. -/
theorem repeat_crc8Bit (crc byte : UInt8) (count : Nat) :
    (Nat.repeat crc8Bit count (crc, byte)).1.toBitVec =
        ShiftRegister.run TAPS crc.toBitVec
          ((List.range count).map byte.toBitVec.getLsbD) ∧
      (Nat.repeat crc8Bit count (crc, byte)).2.toBitVec = byte.toBitVec >>> count := by
  induction count with
  | zero => simp [Nat.repeat]
  | succ count induction =>
      rcases induction with ⟨state, left⟩
      rw [Nat.repeat]
      generalize Nat.repeat crc8Bit count (crc, byte) = turned at state left
      rcases turned with ⟨remainder, rest⟩
      constructor
      · rw [crc8Bit_fst, state, left, List.range_succ, List.map_append, List.map_singleton,
          ShiftRegister.run_append, ShiftRegister.run_cons, ShiftRegister.run_nil,
          BitVec.getLsbD_ushiftRight, Nat.add_zero]
      · change (rest >>> 1).toBitVec = _
        rw [UInt8.toBitVec_shiftRight, left, BitVec.shiftRight_add]
        rfl

theorem crc8Byte_eq_run (crc byte : UInt8) : (crc8Byte crc byte).toBitVec =
    ShiftRegister.run TAPS crc.toBitVec (ShiftRegister.bits byte.toBitVec) :=
  (repeat_crc8Bit crc byte 8).1

theorem foldl_crc8Byte (data : List UInt8) (crc : UInt8) :
    (data.foldl crc8Byte crc).toBitVec =
      ShiftRegister.run TAPS crc.toBitVec (wireBits data) := by
  induction data generalizing crc with
  | nil => rfl
  | cons byte data induction =>
      rw [List.foldl_cons, induction, crc8Byte_eq_run, wireBits_cons,
        ShiftRegister.run_append]

theorem crc8_eq_run (data : List UInt8) :
    (crc8 data).toBitVec = ShiftRegister.run TAPS 0#8 (wireBits data) :=
  foldl_crc8Byte data 0

/-! ## Errors on the wire -/

/-- The bytes with an error pattern on them. -/
def corrupt (bytes error : List UInt8) : List UInt8 :=
  List.zipWith (· ^^^ ·) bytes error

theorem wireBits_corrupt : ∀ {bytes error : List UInt8}, bytes.length = error.length →
    wireBits (corrupt bytes error) =
      List.zipWith (· ^^ ·) (wireBits bytes) (wireBits error)
  | [], [], _ => rfl
  | byte :: bytes, flips :: error, same => by
      have rest := wireBits_corrupt (Nat.succ.inj same)
      have first : ShiftRegister.bits (byte ^^^ flips).toBitVec =
          List.zipWith (· ^^ ·) (ShiftRegister.bits byte.toBitVec)
            (ShiftRegister.bits flips.toBitVec) := by
        rw [UInt8.toBitVec_xor, ShiftRegister.bits_xor]
      rw [wireBits_cons, wireBits_cons, List.zipWith_append (by simp), ← rest, ← first]
      rfl

theorem crc8_corrupt {left right : List UInt8} (same : left.length = right.length) :
    crc8 (corrupt left right) = crc8 left ^^^ crc8 right := by
  apply UInt8.toBitVec_inj.mp
  have lengths : (wireBits left).length = (wireBits right).length := by simp [same]
  have linear := ShiftRegister.run_xor TAPS 0#8 0#8 lengths
  rw [BitVec.xor_self] at linear
  rw [crc8_eq_run, wireBits_corrupt same, linear, UInt8.toBitVec_xor, crc8_eq_run, crc8_eq_run]

/-- An error pattern on a frame: on the bytes the checksum covers, on `END` and on the
checksum. `START` and `LEN` are sound. -/
structure FrameError where
  covered : List UInt8
  ending : UInt8
  checksum : UInt8

def FrameError.bytes (error : FrameError) : List UInt8 :=
  error.covered ++ [error.ending, error.checksum]

/-- The frame of this code and payload as it arrives. -/
def corruptFrame (code : UInt8) (payload : List UInt8) (error : FrameError) : List UInt8 :=
  corrupt (frameBytes code payload) (0 :: 0 :: error.bytes)

/-- The set bits of the pattern lie within eight consecutive bits on the wire. -/
def FrameError.Burst (error : FrameError) : Prop :=
  true ∈ wireBits error.bytes ∧
    ∃ start, ∀ index, (wireBits error.bytes)[index]? = some true →
      start ≤ index ∧ index < start + 8

/-- The pattern has an odd number of set bits, none of them in `END`. -/
def FrameError.Odd (error : FrameError) : Prop :=
  error.ending = 0 ∧
    (wireBits (error.covered ++ [error.checksum])).count true % 2 = 1

theorem length_corrupt {bytes error : List UInt8} (same : bytes.length = error.length) :
    (corrupt bytes error).length = bytes.length := by
  simp [corrupt, same]

theorem corruptFrame_eq {code : UInt8} {payload : List UInt8} {error : FrameError}
    (covers : error.covered.length = payload.length + 1) :
    corruptFrame code payload error =
      START :: UInt8.ofNat (1 + payload.length) ::
        (corrupt (code :: payload) error.covered ++
          [END ^^^ error.ending, crc8 (code :: payload) ^^^ error.checksum]) := by
  have body : corrupt (code :: (payload ++ [END, crc8 (code :: payload)])) error.bytes =
      corrupt (code :: payload) error.covered ++
        [END ^^^ error.ending, crc8 (code :: payload) ^^^ error.checksum] := by
    rw [corrupt, FrameError.bytes, ← List.cons_append, List.zipWith_append]
    · rfl
    · rw [List.length_cons, covers]
  rw [corruptFrame, frameBytes, corrupt, List.zipWith_cons_cons, List.zipWith_cons_cons,
    UInt8.xor_zero, UInt8.xor_zero, ← corrupt, body]

/-- A frame that arrives with an error is rejected, unless `END` is sound and the
checksum has the very error that the other errors make of it. -/
theorem judgeFrame_corruptFrame {code : UInt8} {payload : List UInt8} {error : FrameError}
    (fits : payload.length ≤ PAYLOAD_MAX) (covers : error.covered.length = payload.length + 1)
    (seen : ¬(error.ending = 0 ∧ error.checksum = crc8 error.covered)) (more : List UInt8) :
    judgeFrame (corruptFrame code payload error ++ more) = .reject := by
  have same : (code :: payload).length = error.covered.length := by
    rw [List.length_cons, covers]
  have length : (corrupt (code :: payload) error.covered).length = 1 + payload.length := by
    rw [length_corrupt same, List.length_cons, Nat.add_comm]
  have nonempty : corrupt (code :: payload) error.covered ≠ [] := by
    intro empty
    rw [empty, List.length_nil] at length
    omega
  have whole := judgeFrame_whole nonempty (by rw [length]; omega)
    (END ^^^ error.ending) (crc8 (code :: payload) ^^^ error.checksum) more
  rw [length, crc8_corrupt same, if_neg] at whole
  · rw [corruptFrame_eq covers]
    simpa using whole
  · intro passed
    rcases passed with ⟨ended, checked⟩
    have intact : END ^^^ error.ending = END ^^^ 0 := by rw [ended, UInt8.xor_zero]
    exact seen ⟨(UInt8.xor_right_inj END).mp intact, (UInt8.xor_right_inj _).mp checked⟩

/-! ## What is seen -/

theorem crc8_eq_zero_of_clear {data : List UInt8} (clear : true ∉ wireBits data) :
    crc8 data = 0 := by
  have zeros : wireBits data = List.replicate (wireBits data).length false := by
    rw [List.eq_replicate_iff]
    exact ⟨rfl, fun bit member => Bool.eq_false_iff.mpr fun set => clear (set ▸ member)⟩
  apply UInt8.toBitVec_inj.mp
  rw [crc8_eq_run, zeros, ShiftRegister.run_zero_replicate]
  rfl

theorem eq_zero_of_clear {byte : UInt8} (clear : true ∉ ShiftRegister.bits byte.toBitVec) :
    byte = 0 := by
  apply UInt8.toBitVec_inj.mp
  apply BitVec.eq_of_getLsbD_eq
  intro index inside
  change byte.toBitVec.getLsbD index = (0#8).getLsbD index
  rw [BitVec.getLsbD_zero, Bool.eq_false_iff]
  intro set
  exact clear (List.mem_map.mpr ⟨index, List.mem_range.mpr inside, set⟩)

/-- A burst that spares `END` is in the covered bytes or in the checksum: `END` is as
wide as the burst. -/
theorem FrameError.Burst.seen {error : FrameError} (burst : error.Burst) :
    ¬(error.ending = 0 ∧ error.checksum = crc8 error.covered) := by
  intro missed
  rcases missed with ⟨intact, fooled⟩
  rcases burst with ⟨set, start, confined⟩
  have spared : ShiftRegister.bits error.ending.toBitVec = List.replicate 8 false := by
    rw [intact]
    decide
  rw [FrameError.bytes, wireBits_append, wireBits_cons, wireBits_cons, wireBits_nil,
    List.append_nil, spared] at set confined
  by_cases checked : true ∈ ShiftRegister.bits error.checksum.toBitVec
  · rcases List.mem_iff_getElem?.mp checked with ⟨late, found⟩
    have last := confined ((wireBits error.covered).length + (8 + late)) (by
      rw [List.getElem?_append_right (Nat.le_add_right _ _), Nat.add_sub_cancel_left,
        List.getElem?_append_right (by rw [List.length_replicate]; omega),
        List.length_replicate, Nat.add_sub_cancel_left, found])
    have clear : true ∉ wireBits error.covered := by
      intro member
      rcases List.mem_iff_getElem?.mp member with ⟨index, early⟩
      rcases List.getElem?_eq_some_iff.mp early with ⟨inside, -⟩
      have := confined index (by rw [List.getElem?_append_left inside, early])
      omega
    rw [fooled, crc8_eq_zero_of_clear clear] at checked
    revert checked
    decide
  · have covered : true ∈ wireBits error.covered := by
      simpa [checked, List.mem_replicate] using set
    have top : TAPS.msb = true := by decide
    have seen := ShiftRegister.run_zero_ne_zero_of_window top covered start (by
      intro index found
      rcases List.getElem?_eq_some_iff.mp found with ⟨inside, -⟩
      exact confined index (by rw [List.getElem?_append_left inside, found]))
    rw [← crc8_eq_run, ← fooled, eq_zero_of_clear checked] at seen
    exact seen rfl

/-- An odd number of errors changes the parity, which the checksum keeps. -/
theorem FrameError.Odd.seen {error : FrameError} (flipped : error.Odd) :
    ¬(error.ending = 0 ∧ error.checksum = crc8 error.covered) := by
  intro missed
  have kept : parity (ShiftRegister.bits error.checksum.toBitVec) =
      parity (wireBits error.covered) := by
    rw [missed.2, crc8_eq_run, ShiftRegister.parity_run (by decide),
      ShiftRegister.parity_bits_zero, Bool.false_xor]
  have total := parity_eq_count (wireBits (error.covered ++ [error.checksum]))
  rw [flipped.2, wireBits_append, wireBits_cons, wireBits_nil, List.append_nil, parity_append,
    kept, Bool.xor_self] at total
  exact absurd total (by decide)

/-- `crc8` is linear in exclusive or, and the decoder drops a frame that arrives with a
burst of at most eight bits, or with an odd number of errors that spare `END`. -/
theorem errors_detected :
    (∀ left right : List UInt8, left.length = right.length →
      crc8 (List.zipWith (· ^^^ ·) left right) = crc8 left ^^^ crc8 right) ∧
    ∀ (code : UInt8) (payload : List UInt8) (error : FrameError),
      payload.length ≤ PAYLOAD_MAX → error.covered.length = payload.length + 1 →
      error.Burst ∨ error.Odd →
      ∀ (decoder : Decoder) (more : List UInt8),
        decoder.contents = corruptFrame code payload error ++ more →
        ∃ next, decoder.popStep = some (.resync next) ∧
          next.contents = decoder.contents.drop 1 := by
  constructor
  · exact fun left right same => crc8_corrupt same
  · intro code payload error fits covers detectable decoder more arrived
    have seen : ¬(error.ending = 0 ∧ error.checksum = crc8 error.covered) := by
      rcases detectable with burst | flipped
      · exact burst.seen
      · exact flipped.seen
    rcases decoder.popStep_follows with ⟨turn, steps, follows⟩
    rw [arrived, judgeFrame_corruptFrame fits covers seen] at follows
    cases turn with
    | pending => exact follows.elim
    | resync next => exact ⟨next, steps, follows⟩
    | popped frame next => exact follows.elim

/-- One bit of the payload. -/
def flippedBit : FrameError := ⟨[0, 1], 0, 0⟩

/-- The frame of `b 7` arrives as that of `b 6`, with the checksum of `b 7`. -/
theorem errors_detected_flippedBit :
    ∃ decoder next, Decoder.new.extend [0x41, 0x02, 0x62, 0x06, 0x23, 0x48] = some decoder ∧
      decoder.popStep = some (.resync next) ∧
      next.contents = [0x02, 0x62, 0x06, 0x23, 0x48] := by
  rcases Decoder.extend_spec Decoder.new [0x41, 0x02, 0x62, 0x06, 0x23, 0x48]
    (by decide) with ⟨decoder, extends_, contents⟩
  have arrived : decoder.contents = corruptFrame 0x62 [0x07] flippedBit ++ [] := by
    rw [contents]
    decide +kernel
  rcases errors_detected.2 0x62 [0x07] flippedBit (by decide) rfl
    (.inr ⟨rfl, by decide⟩) decoder [] arrived with ⟨next, steps, left⟩
  exact ⟨decoder, next, extends_, steps, by rw [left, contents]; rfl⟩

end BeetEsp.Alvik
