import BeetEsp.Alvik.Ucpack
import BeetEsp.Foundation.Resync

/-! # The streaming decoder against the whole stream

`frameRecognizer` says, from the ucPack layout alone, what stands at the front
of a byte string. Scanning a stream with it is the reference parser; the decoder
with its shifting buffer finds the same frames from any sequence of reads.
-/

namespace BeetEsp.Alvik

open Foundation

/-- What stands at the front of a byte string `START LEN CODE … END CRC`. The
body is everything after `LEN`, and `LEN` counts `CODE` with the payload. -/
def judgeFrame : List UInt8 → Verdict (UInt8 × List UInt8)
  | [] => .starved
  | [start] => if start = START then .starved else .reject
  | start :: len :: body =>
      if start ≠ START ∨ len = 0 ∨ PAYLOAD_MAX + 1 < len.toNat then .reject
      else if body.length < len.toNat + 2 then .starved
      else if body[len.toNat]? = some END ∧
          body[len.toNat + 1]? = some (crc8 (body.take len.toNat)) then
        .accept (body.headD 0, (body.take len.toNat).tail) (len.toNat + 4)
      else .reject

private theorem judgeFrame_accepted_size {input : List UInt8}
    {message : UInt8 × List UInt8} {size : Nat}
    (accepted : judgeFrame input = .accept message size) :
    0 < size ∧ size ≤ input.length := by
  match input with
  | [] => simp [judgeFrame] at accepted
  | [start] =>
      simp only [judgeFrame] at accepted
      split at accepted <;> simp at accepted
  | start :: len :: body =>
      simp only [judgeFrame] at accepted
      split at accepted
      · simp at accepted
      · split at accepted
        · simp at accepted
        · split at accepted
          · simp only [Verdict.accept.injEq] at accepted
            simp only [List.length_cons]
            omega
          · simp at accepted

private theorem judgeFrame_settled {input : List UInt8}
    (decided : judgeFrame input ≠ .starved) (more : List UInt8) :
    judgeFrame (input ++ more) = judgeFrame input := by
  match input with
  | [] => exact absurd rfl decided
  | [start] =>
      have notStart : start ≠ START := by
        intro equal
        simp [judgeFrame, equal] at decided
      cases more <;> simp [judgeFrame, notStart]
  | start :: len :: body =>
      simp only [List.cons_append, judgeFrame] at decided ⊢
      split
      · rfl
      · rename_i goodLen
        rw [if_neg goodLen] at decided
        have arrived : ¬body.length < len.toNat + 2 := by
          intro short
          simp [short] at decided
        have arrivedMore : ¬(body ++ more).length < len.toNat + 2 := by
          simp only [List.length_append]
          omega
        rw [if_neg arrived, if_neg arrivedMore,
          List.getElem?_append_left (by omega),
          List.getElem?_append_left (by omega),
          List.take_append_of_le_length (by omega)]
        cases body with
        | nil => simp at arrived
        | cons code payload => rfl

theorem judgeFrame_size {input : List UInt8} {message : UInt8 × List UInt8}
    {size : Nat} (accepted : judgeFrame input = .accept message size) :
    size = message.2.length + 5 := by
  match input with
  | [] => simp [judgeFrame] at accepted
  | [start] =>
      simp only [judgeFrame] at accepted
      split at accepted <;> simp at accepted
  | start :: len :: body =>
      simp only [judgeFrame] at accepted
      split at accepted
      · simp at accepted
      · rename_i goodLen
        split at accepted
        · simp at accepted
        · split at accepted
          · simp only [Verdict.accept.injEq] at accepted
            rcases accepted with ⟨rfl, rfl⟩
            have positive : len.toNat ≠ 0 := by
              intro zero
              exact goodLen (.inr (.inl (UInt8.toNat_inj.mp zero)))
            simp only [List.length_tail, List.length_take]
            omega
          · simp at accepted

/-- With all its bytes there, a frame is judged by `END` and the checksum. -/
theorem judgeFrame_whole {covered : List UInt8} (nonempty : covered ≠ [])
    (fits : covered.length ≤ PAYLOAD_MAX + 1) (endByte crcByte : UInt8) (more : List UInt8) :
    judgeFrame (START :: UInt8.ofNat covered.length :: (covered ++ endByte :: crcByte :: more)) =
      if endByte = END ∧ crcByte = crc8 covered then
        .accept (covered.headD 0, covered.tail) (covered.length + 4)
      else .reject := by
  have positive : 0 < covered.length := List.length_pos_of_ne_nil nonempty
  have len : (UInt8.ofNat covered.length).toNat = covered.length := by
    rw [UInt8.toNat_ofNat']
    simp only [PAYLOAD_MAX] at fits
    omega
  have nonzero : UInt8.ofNat covered.length ≠ 0 := by
    intro zero
    rw [zero] at len
    exact absurd len.symm (Nat.ne_of_gt positive)
  have inRange : ¬(START ≠ START ∨ UInt8.ofNat covered.length = 0 ∨
      PAYLOAD_MAX + 1 < covered.length) := by
    simp only [nonzero, ne_eq, not_true, false_or]
    omega
  have complete : ¬(covered ++ endByte :: crcByte :: more).length < covered.length + 2 := by
    simp only [List.length_append, List.length_cons]
    omega
  have atEnd : (covered ++ endByte :: crcByte :: more)[covered.length]? = some endByte := by
    rw [List.getElem?_append_right (Nat.le_refl _), Nat.sub_self]
    rfl
  have atCrc : (covered ++ endByte :: crcByte :: more)[covered.length + 1]? =
      some crcByte := by
    rw [List.getElem?_append_right (Nat.le_add_right _ _), Nat.add_sub_cancel_left]
    rfl
  have head : (covered ++ endByte :: crcByte :: more).headD 0 = covered.headD 0 := by
    cases covered with
    | nil => exact absurd rfl nonempty
    | cons code payload => rfl
  rw [judgeFrame, len, if_neg inRange, if_neg complete, List.take_left, atEnd, atCrc, head]
  simp only [Option.some.injEq]

/-- A frame is recognized at the front of any byte string it starts. -/
theorem judgeFrame_frameBytes {code : UInt8} {payload : List UInt8}
    (fits : payload.length ≤ PAYLOAD_MAX) (more : List UInt8) :
    judgeFrame (frameBytes code payload ++ more) =
      .accept (code, payload) (frameBytes code payload).length := by
  have whole := judgeFrame_whole (List.cons_ne_nil code payload) (Nat.succ_le_succ fits)
    END (crc8 (code :: payload)) more
  rw [if_pos ⟨rfl, rfl⟩] at whole
  rw [frameBytes, Nat.add_comm]
  simpa using whole

/-- What is accepted stands at the front. -/
theorem frameBytes_prefix {input : List UInt8} {message : UInt8 × List UInt8} {size : Nat}
    (accepted : judgeFrame input = .accept message size) :
    frameBytes message.1 message.2 <+: input := by
  match input with
  | [] => simp [judgeFrame] at accepted
  | [start] =>
      simp only [judgeFrame] at accepted
      split at accepted <;> simp at accepted
  | start :: len :: body =>
      simp only [judgeFrame] at accepted
      split at accepted
      · simp at accepted
      · rename_i goodLen
        split at accepted
        · simp at accepted
        · rename_i arrived
          split at accepted
          · rename_i valid
            simp only [Verdict.accept.injEq] at accepted
            rcases accepted with ⟨rfl, -⟩
            have starts : start = START := by
              by_contra other
              exact goodLen (.inl other)
            have split : body = body.take len.toNat ++
                END :: crc8 (body.take len.toNat) :: body.drop (len.toNat + 2) := by
              rcases List.getElem?_eq_some_iff.mp valid.1 with ⟨endInside, atEnd⟩
              rcases List.getElem?_eq_some_iff.mp valid.2 with ⟨crcInside, atCrc⟩
              rw [← atCrc, ← List.drop_eq_getElem_cons crcInside, ← atEnd,
                ← List.drop_eq_getElem_cons endInside, List.take_append_drop]
            have length : (body.take len.toNat).length = len.toNat := by
              rw [List.length_take]
              omega
            cases covered : body.take len.toNat with
            | nil =>
                rw [covered, List.length_nil] at length
                exact absurd (UInt8.toNat_inj.mp length.symm) fun zero =>
                  goodLen (.inr (.inl zero))
            | cons code payload =>
                rw [covered, List.length_cons] at length
                have lenByte : UInt8.ofNat (1 + payload.length) = len := by
                  rw [Nat.add_comm, length, UInt8.ofNat_toNat]
                rw [covered] at split
                rw [split, starts, frameBytes, List.tail_cons, lenByte]
                refine ⟨body.drop (len.toNat + 2), ?_⟩
                simp
          · simp at accepted

/-- The recognizer of ucPack frames. -/
def frameRecognizer : Recognizer UInt8 (UInt8 × List UInt8) where
  judge := judgeFrame
  judge_nil := rfl
  accepted_size := judgeFrame_accepted_size
  settled := judgeFrame_settled

/-- The reference parser: scan a whole byte string greedily from a position. At
each position it stops, moves one byte on, or emits a frame and moves past it. -/
def referenceScan (stream : List UInt8) (position : Nat) :
    List (Nat × UInt8 × List UInt8) × Nat :=
  frameRecognizer.scanFrom stream position

/-- A starved decoder holds less than one maximum frame. -/
theorem length_lt_of_starved {input : List UInt8}
    (starved : judgeFrame input = .starved) : input.length < FRAME_MAX := by
  match input with
  | [] => decide
  | [start] => simp [FRAME_MAX, PAYLOAD_MAX]
  | start :: len :: body =>
      simp only [judgeFrame] at starved
      split at starved
      · simp at starved
      · split at starved
        · simp only [PAYLOAD_MAX, FRAME_MAX, List.length_cons] at *
          omega
        · split at starved <;> simp at starved

namespace Decoder

@[simp] theorem contents_new : new.contents = [] := rfl

theorem length_contents (decoder : Decoder) :
    decoder.contents.length = decoder.len := by
  have := decoder.len_le
  simp only [contents, List.length_take, decoder.buf_length]
  omega

/-- Below `len` the array and the contents agree. -/
theorem getElem?_buf {decoder : Decoder} {index : Nat}
    (inside : index < decoder.len) :
    decoder.buf[index]? = decoder.contents[index]? := by
  rw [contents, List.getElem?_take_of_lt inside]

theorem slice?_buf {decoder : Decoder} {start stop : Nat}
    (ordered : start ≤ stop) (inside : stop ≤ decoder.len) :
    slice? decoder.buf start stop = some (decoder.contents.extract start stop) := by
  have := decoder.len_le
  rw [slice?_eq_some ordered (by rw [decoder.buf_length]; omega), contents,
    extract_take _ _ inside]

theorem dropFront_spec (decoder : Decoder) (n : Nat) (inside : n ≤ decoder.len) :
    ∃ next, decoder.dropFront n = some next ∧
      next.contents = decoder.contents.drop n := by
  refine ⟨_, dif_pos inside, ?_⟩
  have bound := decoder.len_le
  have kept : (decoder.buf.extract n decoder.len).length = decoder.len - n := by
    simp only [List.extract_eq_take_drop, List.length_take, List.length_drop,
      decoder.buf_length]
    omega
  have shifted := take_overwrite decoder.buf (decoder.buf.extract n decoder.len) 0
    (by rw [kept, decoder.buf_length]; omega)
  rw [kept] at shifted
  simp only [Nat.zero_add, List.take_zero, List.nil_append] at shifted
  simp only [contents, shifted, List.extract_eq_take_drop, List.drop_take]

theorem push_spec (decoder : Decoder) (byte : UInt8) (room : decoder.len < CAP) :
    ∃ next, decoder.push byte = some next ∧
      next.contents = decoder.contents ++ [byte] := by
  refine ⟨_, by rw [push, if_neg (Nat.ne_of_lt room), Option.bind_some,
    dif_pos room], ?_⟩
  exact take_set_succ byte (by rw [decoder.buf_length]; exact room)

theorem extend_spec (decoder : Decoder) (bytes : List UInt8)
    (room : decoder.len + bytes.length ≤ CAP) :
    ∃ next, decoder.extend bytes = some next ∧
      next.contents = decoder.contents ++ bytes := by
  induction bytes generalizing decoder with
  | nil => exact ⟨decoder, rfl, by simp⟩
  | cons byte bytes induction =>
      simp only [List.length_cons] at room
      rcases push_spec decoder byte (by omega) with ⟨pushed, pushes, pushedContents⟩
      have pushedLen : pushed.len = decoder.len + 1 := by
        rw [← length_contents, pushedContents, List.length_append,
          length_contents, List.length_singleton]
      rcases induction pushed (by omega) with ⟨next, extends_, nextContents⟩
      exact ⟨next, by rw [extend, pushes, Option.bind_some, extends_],
        by simp [nextContents, pushedContents]⟩

/-- A turn of `pop` carries out a verdict about the bytes it has. -/
def PopStep.Follows (decoder : Decoder) :
    PopStep → Verdict (UInt8 × List UInt8) → Prop
  | .pending, .starved => True
  | .resync next, .reject => next.contents = decoder.contents.drop 1
  | .popped frame next, .accept message size =>
      frame.message = message ∧ next.contents = decoder.contents.drop size
  | _, _ => False

private theorem resync_follows (decoder : Decoder) (nonempty : 0 < decoder.len) :
    ∃ turn, (decoder.dropFront 1).bind (fun next => some (.resync next)) =
        some turn ∧ PopStep.Follows decoder turn .reject := by
  rcases dropFront_spec decoder 1 nonempty with ⟨next, drops, contents⟩
  exact ⟨.resync next, by rw [drops, Option.bind_some], contents⟩

/-- The wrapped payload length exceeds the maximum exactly when `LEN` does. -/
private theorem badLen_iff (len : UInt8) :
    (len = 0 ∨ PAYLOAD_MAX < wrappingSub len.toNat 1) ↔
      (len = 0 ∨ PAYLOAD_MAX + 1 < len.toNat) := by
  have zero : len = 0 ↔ len.toNat = 0 := by
    rw [← UInt8.toNat_inj]
    rfl
  simp only [PAYLOAD_MAX, wrappingSub, zero]
  split <;> omega

/-- No byte, or a first byte that is not `START`, or a `START` alone. -/
private theorem popStep_of_no_len (decoder : Decoder)
    (few : decoder.contents.length < 2 ∨ ∃ start rest,
      decoder.contents = start :: rest ∧ start ≠ START) :
    ∃ turn, decoder.popStep = some turn ∧
      turn.Follows decoder (judgeFrame decoder.contents) := by
  have lengthContents := decoder.length_contents
  match shape : decoder.contents with
  | [] =>
      rw [shape, List.length_nil] at lengthContents
      exact ⟨.pending, by simp [popStep, ← lengthContents], trivial⟩
  | start :: rest =>
      rw [shape, List.length_cons] at lengthContents
      have nonempty : decoder.len ≠ 0 := by omega
      have first : decoder.buf[0]? = some start := by
        rw [getElem?_buf (by omega), shape]
        rfl
      by_cases starts : start = START
      · have alone : rest = [] := by
          rcases few with short | ⟨_, _, equal, notStart⟩
          · rw [shape, List.length_cons] at short
            exact List.eq_nil_of_length_eq_zero (by omega)
          · rw [shape, List.cons.injEq] at equal
            exact absurd (equal.1.symm.trans starts) notStart
        rw [alone, List.length_nil] at lengthContents
        exact ⟨.pending, by simp [popStep, ← lengthContents, first, starts],
          by simp [judgeFrame, alone, starts, PopStep.Follows]⟩
      · rcases resync_follows decoder (by omega) with ⟨turn, drops, follows⟩
        refine ⟨turn, ?_, ?_⟩
        · rw [← drops]
          simp [popStep, nonempty, first, starts]
        · cases rest <;> simpa [judgeFrame, starts] using follows

/-- `START` and `LEN` are there, but `LEN` is out of range or the frame is not
all there. -/
private theorem popStep_of_no_frame {decoder : Decoder} {len : UInt8}
    {body : List UInt8} (shape : decoder.contents = START :: len :: body)
    (incomplete : (len = 0 ∨ PAYLOAD_MAX + 1 < len.toNat) ∨
      body.length < len.toNat + 2) :
    ∃ turn, decoder.popStep = some turn ∧
      turn.Follows decoder (judgeFrame (START :: len :: body)) := by
  have lengthContents := decoder.length_contents
  simp only [shape, List.length_cons] at lengthContents
  have nonempty : decoder.len ≠ 0 := by omega
  have hasLen : ¬decoder.len < 2 := by omega
  have first : decoder.buf[0]? = some START := by
    rw [getElem?_buf (by omega), shape]
    rfl
  have second : decoder.buf[1]? = some len := by
    rw [getElem?_buf (by omega), shape]
    rfl
  by_cases badLen : len = 0 ∨ PAYLOAD_MAX + 1 < len.toNat
  · rcases resync_follows decoder (by omega) with ⟨turn, drops, follows⟩
    refine ⟨turn, ?_, by simpa [judgeFrame, badLen] using follows⟩
    rw [← drops]
    simp [popStep, nonempty, first, hasLen, second,
      (badLen_iff len).mpr badLen]
  · have short := incomplete.resolve_left badLen
    have notArrived : decoder.len < len.toNat + 4 := by omega
    refine ⟨.pending, ?_, by
      simp [judgeFrame, badLen, short, PopStep.Follows]⟩
    simp [popStep, nonempty, first, hasLen, second,
      mt (badLen_iff len).mp badLen, notArrived]

/-- All bytes of a frame are there: `END` and the checksum decide. -/
private theorem popStep_of_arrived {decoder : Decoder} {len : UInt8}
    {body : List UInt8} (shape : decoder.contents = START :: len :: body)
    (goodLen : ¬(len = 0 ∨ PAYLOAD_MAX + 1 < len.toNat))
    (arrived : ¬body.length < len.toNat + 2) :
    ∃ turn, decoder.popStep = some turn ∧
      turn.Follows decoder (judgeFrame (START :: len :: body)) := by
  have lengthContents := decoder.length_contents
  simp only [shape, List.length_cons] at lengthContents
  have nonempty : decoder.len ≠ 0 := by omega
  have hasLen : ¬decoder.len < 2 := by omega
  have complete : ¬decoder.len < len.toNat + 4 := by omega
  have positive : 0 < len.toNat := by
    rcases Nat.eq_zero_or_pos len.toNat with zero | positive
    · exact absurd (Or.inl (UInt8.toNat_inj.mp zero)) goodLen
    · exact positive
  have payloadLen : wrappingSub len.toNat 1 = len.toNat - 1 := if_pos positive
  have goodLen' := mt (badLen_iff len).mp goodLen
  rw [payloadLen] at goodLen'
  have first : decoder.buf[0]? = some START := by
    rw [getElem?_buf (by omega), shape]
    rfl
  have second : decoder.buf[1]? = some len := by
    rw [getElem?_buf (by omega), shape]
    rfl
  obtain ⟨endByte, atEnd⟩ : ∃ byte, body[len.toNat]? = some byte :=
    ⟨_, List.getElem?_eq_getElem (by omega)⟩
  obtain ⟨crcByte, atCrc⟩ : ∃ byte, body[len.toNat + 1]? = some byte :=
    ⟨_, List.getElem?_eq_getElem (by omega)⟩
  have readEnd : decoder.buf[len.toNat + 2]? = some endByte := by
    rw [getElem?_buf (by omega), shape, List.getElem?_cons_succ,
      List.getElem?_cons_succ, atEnd]
  have readCrc : decoder.buf[len.toNat + 3]? = some crcByte := by
    rw [getElem?_buf (by omega), shape, List.getElem?_cons_succ,
      List.getElem?_cons_succ, atCrc]
  have covered : slice? decoder.buf 2 (2 + len.toNat) =
      some (body.take len.toNat) := by
    rw [slice?_buf (by omega) (by omega), shape]
    simp [List.extract_eq_take_drop]
  by_cases valid : endByte = END ∧ crcByte = crc8 (body.take len.toNat)
  case neg =>
    rcases resync_follows decoder (by omega) with ⟨turn, drops, follows⟩
    refine ⟨turn, ?_, ?_⟩
    · rw [← drops]
      simp [popStep, nonempty, first, hasLen, second, goodLen', payloadLen,
        complete, readEnd, readCrc, covered, not_and_or.mp valid]
    · simpa [judgeFrame, goodLen, arrived, atEnd, atCrc, valid] using follows
  obtain ⟨code, payload, bodyShape⟩ : ∃ code payload, body = code :: payload := by
    cases body with
    | nil => simp at arrived
    | cons code payload => exact ⟨code, payload, rfl⟩
  have readCode : decoder.buf[2]? = some code := by
    rw [getElem?_buf (by omega), shape, bodyShape]
    rfl
  have readPayload : slice? decoder.buf 3 (3 + (len.toNat - 1)) =
      some (body.take len.toNat).tail := by
    rw [slice?_buf (by omega) (by omega), shape, ← List.drop_one,
      List.drop_take, List.extract_eq_take_drop, Nat.add_sub_cancel_left]
    rfl
  rcases Frame.received_eq_some code (body.take len.toNat).tail
      (by simp only [List.length_tail, List.length_take]; omega) with
    ⟨frame, receives, message⟩
  rcases dropFront_spec decoder (len.toNat + 4) (by omega) with
    ⟨next, consumes, contents⟩
  have verdict : judgeFrame (START :: len :: body) =
      .accept (code, (body.take len.toNat).tail) (len.toNat + 4) := by
    simp only [judgeFrame, goodLen, arrived, atEnd, atCrc, valid]
    simp [bodyShape]
  refine ⟨.popped frame next, ?_, ?_⟩
  · simp [popStep, nonempty, first, hasLen, second, goodLen', complete,
      readEnd, readCrc, covered, valid, readCode, payloadLen, readPayload,
      receives, consumes]
  · rw [verdict]
    exact ⟨message, contents⟩

/-- One turn of `pop` never panics and decides as the recognizer does. -/
theorem popStep_follows (decoder : Decoder) :
    ∃ turn, decoder.popStep = some turn ∧
      turn.Follows decoder (judgeFrame decoder.contents) := by
  match shape : decoder.contents with
  | [] => simpa [shape] using popStep_of_no_len decoder (by simp [shape])
  | [start] =>
      simpa [shape] using popStep_of_no_len decoder (by simp [shape])
  | start :: len :: body =>
      by_cases starts : start = START
      case neg =>
        simpa [shape] using popStep_of_no_len decoder
          (.inr ⟨start, len :: body, shape, starts⟩)
      subst starts
      by_cases goodLen : len = 0 ∨ PAYLOAD_MAX + 1 < len.toNat
      · exact popStep_of_no_frame shape (.inl goodLen)
      · by_cases arrived : body.length < len.toNat + 2
        · exact popStep_of_no_frame shape (.inr arrived)
        · exact popStep_of_arrived shape goodLen arrived

/-- A call of `pop` takes the next step of the greedy drain of what is
buffered: either nothing can be popped, or the first frame is. -/
def Pops (decoder : Decoder) : Option Frame → Decoder → Prop
  | none, next => frameRecognizer.drain decoder.contents = ([], next.contents)
  | some frame, next =>
      next.len < decoder.len ∧
        frameRecognizer.drain decoder.contents =
          (frame.message :: (frameRecognizer.drain next.contents).1,
            (frameRecognizer.drain next.contents).2)

/-- The same by positions, when the decoder holds what stands in a stream from a
position on: where the frame starts, and where it ends. -/
def PopsAt (stream : List UInt8) (position : Nat) : Option Frame → Decoder → Prop
  | none, next => ∃ stop, frameRecognizer.scanFrom stream position = ([], stop) ∧
      next.contents = stream.drop stop
  | some frame, next => ∃ start,
      judgeFrame (stream.drop start) = .accept frame.message (frame.len + 5) ∧
      frameRecognizer.scanFrom stream position =
        ((start, frame.message) ::
            (frameRecognizer.scanFrom stream (start + (frame.len + 5))).1,
          (frameRecognizer.scanFrom stream (start + (frame.len + 5))).2) ∧
      next.contents = stream.drop (start + (frame.len + 5))

private theorem popLoop_popsAt (stream : List UInt8) (fuel position : Nat)
    (decoder : Decoder) (held : decoder.contents = stream.drop position)
    (enough : decoder.len < fuel) :
    ∃ result next, popLoop fuel decoder = some (result, next) ∧
      PopsAt stream position result next := by
  induction fuel generalizing decoder position with
  | zero => omega
  | succ fuel induction =>
      rcases decoder.popStep_follows with ⟨turn, steps, follows⟩
      simp only [popLoop, steps, Option.bind_some]
      have lengthContents := decoder.length_contents
      cases verdict : judgeFrame decoder.contents with
      | starved =>
          rw [verdict] at follows
          rw [held] at verdict
          cases turn with
          | pending =>
              exact ⟨none, decoder, rfl, position,
                frameRecognizer.scanFrom_of_starved verdict, held⟩
          | resync next => exact follows.elim
          | popped frame next => exact follows.elim
      | reject =>
          rw [verdict] at follows
          cases turn with
          | pending => exact follows.elim
          | resync next =>
              have positive := frameRecognizer.pos_of_reject verdict
              have shrinks : next.len = decoder.len - 1 := by
                rw [← length_contents, follows, List.length_drop, lengthContents]
              have heldNext : next.contents = stream.drop (position + 1) := by
                rw [follows, held, List.drop_drop]
              rcases induction (position + 1) next heldNext (by omega) with
                ⟨result, final, pops, spec⟩
              rw [held] at verdict
              have scans := frameRecognizer.scanFrom_of_reject verdict
              refine ⟨result, final, pops, ?_⟩
              cases result with
              | none =>
                  rcases spec with ⟨stop, starves, left⟩
                  exact ⟨stop, scans.trans starves, left⟩
              | some frame =>
                  rcases spec with ⟨start, accepts, finds, left⟩
                  exact ⟨start, accepts, scans.trans finds, left⟩
          | popped frame next => exact follows.elim
      | accept message size =>
          rw [verdict] at follows
          cases turn with
          | pending => exact follows.elim
          | resync next => exact follows.elim
          | popped frame next =>
              have same : size = frame.len + 5 := by
                rw [judgeFrame_size verdict, ← follows.1]
                exact congrArg (· + 5) frame.length_payload
              have heldNext : next.contents = stream.drop (position + size) := by
                rw [follows.2, held, List.drop_drop]
              rw [held, ← follows.1] at verdict
              rw [same] at verdict heldNext
              exact ⟨some frame, next, rfl, position, verdict,
                frameRecognizer.scanFrom_of_accept verdict, heldNext⟩

/-- `pop` always returns. -/
theorem pop_popsAt {decoder : Decoder} {stream : List UInt8} {position : Nat}
    (held : decoder.contents = stream.drop position) :
    ∃ result next, decoder.pop = some (result, next) ∧ PopsAt stream position result next :=
  popLoop_popsAt stream _ position decoder held (Nat.lt_succ_self _)

theorem pop_pops (decoder : Decoder) :
    ∃ result next, decoder.pop = some (result, next) ∧ decoder.Pops result next := by
  have whole : decoder.contents = decoder.contents.drop 0 := List.drop_zero.symm
  rcases pop_popsAt whole with ⟨result, next, pops, spec⟩
  refine ⟨result, next, pops, ?_⟩
  have drains := frameRecognizer.drain_drop_eq_scanFrom decoder.contents 0
  rw [List.drop_zero] at drains
  cases result with
  | none =>
      rcases spec with ⟨stop, starves, left⟩
      rw [Pops, drains, starves, left]
      rfl
  | some frame =>
      rcases spec with ⟨start, accepts, finds, left⟩
      have consumed := frameRecognizer.accepted_size accepts
      have shorter := congrArg List.length left
      rw [List.length_drop, length_contents, length_contents] at shorter
      rw [List.length_drop, length_contents] at consumed
      constructor
      · omega
      · rw [drains, finds, left, frameRecognizer.drain_drop_eq_scanFrom]
        rfl

private theorem popAllLoop_drains (fuel : Nat) (decoder : Decoder)
    (enough : decoder.len < fuel) :
    ∃ frames next, popAllLoop fuel decoder = some (frames, next) ∧
      frameRecognizer.drain decoder.contents =
        (frames.map Frame.message, next.contents) := by
  induction fuel generalizing decoder with
  | zero => omega
  | succ fuel induction =>
      rcases decoder.pop_pops with ⟨result, next, pops, spec⟩
      simp only [popAllLoop, pops, Option.bind_some]
      cases result with
      | none => exact ⟨[], next, rfl, spec⟩
      | some frame =>
          rcases induction next (by have := spec.1; omega) with
            ⟨frames, final, popsRest, drains⟩
          refine ⟨frame :: frames, final, by simp [popsRest], ?_⟩
          rw [spec.2, drains, List.map_cons]

/-- Popping until nothing is left drains the buffered bytes greedily. -/
theorem popAll_drains (decoder : Decoder) :
    ∃ frames next, decoder.popAll = some (frames, next) ∧
      frameRecognizer.drain decoder.contents =
        (frames.map Frame.message, next.contents) :=
  popAllLoop_drains _ decoder (Nat.lt_succ_self _)

/-- Bytes the driver's receive buffer takes in one read. -/
def READ_MAX : Nat := 128

/-- From a drained decoder, reads of at most `READ_MAX` bytes never overflow the
buffer, and the decoder is the chunked scanner of the frame recognizer. -/
theorem feed_eq_recognizer_feed (decoder : Decoder) (chunks : List (List UInt8))
    (drained : judgeFrame decoder.contents = .starved)
    (bounded : ∀ chunk ∈ chunks, chunk.length ≤ READ_MAX) :
    ∃ frames next, decoder.feed chunks = some (frames, next) ∧
      frameRecognizer.feed decoder.contents chunks =
        (frames.map Frame.message, next.contents) := by
  induction chunks generalizing decoder with
  | nil => exact ⟨[], decoder, rfl, rfl⟩
  | cons chunk chunks induction =>
      have held := length_lt_of_starved drained
      have arriving := bounded chunk (List.mem_cons_self ..)
      rw [length_contents] at held
      simp only [FRAME_MAX, PAYLOAD_MAX, READ_MAX] at held arriving
      rcases extend_spec decoder chunk (by simp only [CAP]; omega) with
        ⟨filled, extends_, filledContents⟩
      rcases filled.popAll_drains with ⟨first, emptied, pops, drains⟩
      rw [filledContents] at drains
      have starved : judgeFrame emptied.contents = .starved := by
        have starves := frameRecognizer.judge_drain (decoder.contents ++ chunk)
        rw [drains] at starves
        exact starves
      rcases induction emptied starved
          (fun other member => bounded other (List.mem_cons_of_mem _ member)) with
        ⟨rest, final, feeds, spec⟩
      refine ⟨first ++ rest, final, ?_, ?_⟩
      · simp only [Decoder.feed, extends_, pops, feeds, Option.bind_some,
          Option.map_some]
      · rw [Recognizer.feed, drains, spec, List.map_append]

/-- A fresh decoder fed any byte stream in reads
of at most 128 bytes, and popped until it returns `None` after each, yields
exactly the frames of the reference scan of the whole stream, in order, and
keeps exactly the bytes from the position where that scan stops. -/
theorem feed_refines_referenceScan (stream : List UInt8)
    (chunks : List (List UInt8)) (split : chunks.flatten = stream)
    (bounded : ∀ chunk ∈ chunks, chunk.length ≤ READ_MAX) :
    ∃ frames decoder, Decoder.new.feed chunks = some (frames, decoder) ∧
      frames.map Frame.message = (referenceScan stream 0).1.map Prod.snd ∧
      decoder.contents = stream.drop (referenceScan stream 0).2 := by
  rcases feed_eq_recognizer_feed Decoder.new chunks rfl bounded with
    ⟨frames, decoder, feeds, spec⟩
  have scanned := frameRecognizer.drain_drop_eq_scanFrom stream 0
  rw [contents_new, frameRecognizer.feed_eq_drain [] chunks rfl,
    List.nil_append, split] at spec
  rw [List.drop_zero, spec, Prod.mk.injEq] at scanned
  exact ⟨frames, decoder, feeds, scanned⟩

/-- Garbage with a false `START`, then the frame of `b 7` cut after its `LEN`. -/
theorem feed_refines_referenceScan_resync :
    ∃ frames decoder,
      Decoder.new.feed [[0x00, 0x41, 0xFF, 0x12, 0x41, 0x02],
          [0x62, 0x07, 0x23, 0x48]] = some (frames, decoder) ∧
        frames.map Frame.message = (referenceScan [0x00, 0x41, 0xFF, 0x12, 0x41,
          0x02, 0x62, 0x07, 0x23, 0x48] 0).1.map Prod.snd ∧
        decoder.contents = [0x00, 0x41, 0xFF, 0x12, 0x41, 0x02, 0x62, 0x07, 0x23,
          0x48].drop (referenceScan [0x00, 0x41, 0xFF, 0x12, 0x41, 0x02, 0x62,
            0x07, 0x23, 0x48] 0).2 :=
  feed_refines_referenceScan _ _ rfl (by decide)

end Decoder

end BeetEsp.Alvik
