import BeetEsp.Alvik.DecoderRefinement

/-! # Where frames are found

The decoder with the position of each frame it pops in the stream it was fed: what
had arrived, less what is still buffered after the pop, is where the frame ends.
-/

namespace BeetEsp.Alvik

open Foundation

/-- Bytes of the whole frame. -/
def Frame.size (frame : Frame) : Nat := frame.len + 5

namespace Decoder

/-- `popAllLoop` with positions, when `arrived` bytes have been received. -/
def popAllAtLoop (arrived : Nat) : Nat → Decoder → Option (List (Nat × Frame) × Decoder)
  | 0, _ => none
  | fuel + 1, decoder =>
      decoder.pop.bind fun
        | (none, decoder) => some ([], decoder)
        | (some frame, decoder) =>
            (popAllAtLoop arrived fuel decoder).map fun rest =>
              ((arrived - decoder.len - frame.size, frame) :: rest.1, rest.2)

def popAllAt (arrived : Nat) (decoder : Decoder) : Option (List (Nat × Frame) × Decoder) :=
  popAllAtLoop arrived (decoder.len + 1) decoder

/-- `feed` with positions, when `arrived` bytes have been received before. -/
def feedAt (arrived : Nat) (decoder : Decoder) :
    List (List UInt8) → Option (List (Nat × Frame) × Decoder)
  | [] => some ([], decoder)
  | chunk :: chunks =>
      (decoder.extend chunk).bind fun decoder =>
        (decoder.popAllAt (arrived + chunk.length)).bind fun first =>
          (first.2.feedAt (arrived + chunk.length) chunks).map fun rest =>
            (first.1 ++ rest.1, rest.2)

/-! ## The positions change nothing -/

theorem popAllAtLoop_frames (arrived fuel : Nat) (decoder : Decoder) :
    (popAllAtLoop arrived fuel decoder).map (fun found => (found.1.map Prod.snd, found.2)) =
      popAllLoop fuel decoder := by
  induction fuel generalizing decoder with
  | zero => rfl
  | succ fuel induction =>
      rw [popAllAtLoop, popAllLoop]
      cases decoder.pop with
      | none => rfl
      | some popped =>
          rcases popped with ⟨result, next⟩
          cases result with
          | none => rfl
          | some frame =>
              have rest := induction next
              simp only [Option.bind_some]
              rw [← rest, Option.map_map, Option.map_map]
              rfl

theorem feedAt_frames (arrived : Nat) (decoder : Decoder) (chunks : List (List UInt8)) :
    (decoder.feedAt arrived chunks).map (fun found => (found.1.map Prod.snd, found.2)) =
      decoder.feed chunks := by
  induction chunks generalizing arrived decoder with
  | nil => rfl
  | cons chunk chunks induction =>
      rw [feedAt, feed]
      cases decoder.extend chunk with
      | none => rfl
      | some filled =>
          simp only [Option.bind_some]
          rw [popAll, ← popAllAtLoop_frames (arrived + chunk.length), popAllAt]
          cases popAllAtLoop (arrived + chunk.length) (filled.len + 1) filled with
          | none => rfl
          | some first =>
              simp only [Option.bind_some, Option.map_some]
              rw [← induction (arrived + chunk.length), Option.map_map, Option.map_map]
              congr 1
              funext rest
              simp

/-! ## The positions are those of the scan -/

/-- An entry of the reference scan. -/
def entry (found : Nat × Frame) : Nat × UInt8 × List UInt8 :=
  (found.1, found.2.message)

private theorem popAllAtLoop_scans (stream : List UInt8) (fuel position : Nat)
    (decoder : Decoder) (held : decoder.contents = stream.drop position)
    (enough : decoder.len < fuel) :
    ∃ located next, popAllAtLoop stream.length fuel decoder = some (located, next) ∧
      located.map entry = (frameRecognizer.scanFrom stream position).1 ∧
      next.contents = stream.drop (frameRecognizer.scanFrom stream position).2 := by
  induction fuel generalizing decoder position with
  | zero => omega
  | succ fuel induction =>
      rcases pop_popsAt held with ⟨result, next, pops, spec⟩
      simp only [popAllAtLoop, pops, Option.bind_some]
      cases result with
      | none =>
          rcases spec with ⟨stop, starves, left⟩
          exact ⟨[], next, rfl, by rw [starves]; rfl, by rw [starves, left]⟩
      | some frame =>
          rcases spec with ⟨start, accepts, finds, left⟩
          have consumed := frameRecognizer.accepted_size accepts
          have remaining := congrArg List.length left
          rw [List.length_drop] at consumed
          rw [List.length_drop, length_contents] at remaining
          have shrinks : next.len < decoder.len := by
            rcases decoder.pop_pops with ⟨result', next', pops', spec'⟩
            cases pops.symm.trans pops'
            exact spec'.1
          have here : stream.length - next.len - frame.size = start := by
            rw [remaining, Frame.size]
            omega
          rcases induction _ next left (by omega) with
            ⟨located, final, popsRest, scans, leftOver⟩
          refine ⟨(start, frame) :: located, final, by simp [popsRest, here], ?_, ?_⟩
          · rw [finds, List.map_cons, scans]
            rfl
          · rw [finds, leftOver]

theorem popAllAt_scans {stream : List UInt8} {position : Nat} {decoder : Decoder}
    (held : decoder.contents = stream.drop position) :
    ∃ located next, decoder.popAllAt stream.length = some (located, next) ∧
      located.map entry = (frameRecognizer.scanFrom stream position).1 ∧
      next.contents = stream.drop (frameRecognizer.scanFrom stream position).2 :=
  popAllAtLoop_scans stream _ position decoder held (Nat.lt_succ_self _)

/-- From a drained decoder, reads of at most `READ_MAX` bytes find the frames of the
scan of everything received, where the scan finds them. -/
theorem feedAt_scans (past : List UInt8) (position : Nat) (decoder : Decoder)
    (chunks : List (List UInt8)) (held : decoder.contents = past.drop position)
    (inside : position ≤ past.length) (drained : judgeFrame decoder.contents = .starved)
    (bounded : ∀ chunk ∈ chunks, chunk.length ≤ READ_MAX) :
    ∃ located next, decoder.feedAt past.length chunks = some (located, next) ∧
      located.map entry =
        (frameRecognizer.scanFrom (past ++ chunks.flatten) position).1 := by
  induction chunks generalizing past position decoder with
  | nil =>
      rw [held] at drained
      refine ⟨[], decoder, rfl, ?_⟩
      rw [List.flatten_nil, List.append_nil, frameRecognizer.scanFrom_of_starved drained]
      rfl
  | cons chunk chunks induction =>
      have waiting := length_lt_of_starved drained
      have arriving := bounded chunk List.mem_cons_self
      rw [length_contents] at waiting
      simp only [FRAME_MAX, PAYLOAD_MAX, READ_MAX] at waiting arriving
      rcases extend_spec decoder chunk (by simp only [CAP]; omega) with
        ⟨filled, extends_, filledContents⟩
      have filledHeld : filled.contents = (past ++ chunk).drop position := by
        rw [filledContents, held, List.drop_append_of_le_length inside]
      rcases popAllAt_scans filledHeld with ⟨first, emptied, pops, scans, left⟩
      have stops : (frameRecognizer.scanFrom (past ++ chunk) position).2 ≤
          (past ++ chunk).length :=
        frameRecognizer.scanFrom_stop_le (by rw [List.length_append]; omega)
      have starved : judgeFrame emptied.contents = .starved := by
        rw [left]
        exact frameRecognizer.judge_scanFrom (past ++ chunk) position
      rcases induction (past ++ chunk) _ emptied left stops starved
          (fun other member => bounded other (List.mem_cons_of_mem _ member)) with
        ⟨rest, final, feeds, restScans⟩
      rw [List.length_append] at pops feeds
      refine ⟨first ++ rest, final, ?_, ?_⟩
      · simp only [feedAt, extends_, pops, feeds, Option.bind_some, Option.map_some]
      · rw [List.flatten_cons, ← List.append_assoc, frameRecognizer.scanFrom_append,
          List.map_append, scans, restScans]

/-- A frame that stands in the stream is popped where it stands, or lies under a frame
popped before it, once as many bytes have arrived from there on as it has, and no
fewer than 28. -/
theorem popped_or_overlapped (chunks : List (List UInt8)) (rest : List UInt8)
    (bounded : ∀ chunk ∈ chunks, chunk.length ≤ READ_MAX) :
    ∃ located decoder, Decoder.new.feedAt 0 chunks = some (located, decoder) ∧
      Decoder.new.feed chunks = some (located.map Prod.snd, decoder) ∧
      ∀ (position : Nat) (code : UInt8) (payload : List UInt8),
        payload.length ≤ PAYLOAD_MAX →
        frameBytes code payload <+: (chunks.flatten ++ rest).drop position →
        position + max (frameBytes code payload).length 28 ≤ chunks.flatten.length →
        (∃ frame, (position, frame) ∈ located ∧ frame.message = (code, payload)) ∨
          ∃ start frame, (start, frame) ∈ located ∧
            frameBytes frame.code frame.payload <+: (chunks.flatten ++ rest).drop start ∧
            start < position ∧ position < start + frame.size := by
  rcases feedAt_scans [] 0 Decoder.new chunks rfl (Nat.le_refl 0) rfl bounded with
    ⟨located, decoder, feeds, scans⟩
  have same := feedAt_frames 0 Decoder.new chunks
  rw [List.length_nil] at feeds
  rw [feeds, Option.map_some] at same
  refine ⟨located, decoder, feeds, same.symm, ?_⟩
  intro position code payload fits stands enough
  rw [List.nil_append] at scans
  have inside : position ≤ chunks.flatten.length := by omega
  have whole : frameBytes code payload <+: chunks.flatten.drop position := by
    rw [List.drop_append_of_le_length inside] at stands
    refine List.prefix_of_prefix_length_le stands (List.prefix_append _ _) ?_
    rw [List.length_drop]
    omega
  rcases whole with ⟨more, split⟩
  have accepted : judgeFrame (chunks.flatten.drop position) =
      .accept (code, payload) (frameBytes code payload).length := by
    rw [← split]
    exact judgeFrame_frameBytes fits more
  have arrived : position + FRAME_MAX ≤ chunks.flatten.length + 1 := by
    simp only [FRAME_MAX, PAYLOAD_MAX]
    omega
  rcases frameRecognizer.scanFrom_covers length_lt_of_starved accepted arrived
    (Nat.zero_le position) with found | ⟨start, message, width, found, judged, before, after⟩
  · rw [← scans] at found
    rcases List.mem_map.mp found with ⟨⟨start, frame⟩, member, same⟩
    rcases Prod.mk.inj same with ⟨here, message⟩
    dsimp only at here message
    subst here
    exact .inl ⟨frame, member, message⟩
  · rw [← scans] at found
    rcases List.mem_map.mp found with ⟨⟨start', frame⟩, member, same⟩
    rcases Prod.mk.inj same with ⟨here, told⟩
    dsimp only at here told
    subst here told
    refine .inr ⟨start', frame, member, ?_, before, ?_⟩
    · have reaches := frameBytes_prefix judged
      rw [List.drop_append_of_le_length (by omega)]
      exact reaches.trans (List.prefix_append _ _)
    · rw [judgeFrame_size judged] at after
      have length : frame.message.2.length = frame.len := frame.length_payload
      rwa [length] at after

/-- A false `START` that promises the longest frame, then the frame of `b 7` and no more
than the decoder waits for. -/
def falseStart : List (List UInt8) :=
  [[0x00, 0x41, 0x19], [0x41, 0x02, 0x62, 0x07, 0x23, 0x48] ++ List.replicate 22 0x00]

theorem popped_or_overlapped_falseStart :
    ∃ located decoder, Decoder.new.feedAt 0 falseStart = some (located, decoder) ∧
      located.map entry = [(3, 0x62, [0x07])] ∧
      ((∃ frame, (3, frame) ∈ located ∧ frame.message = (0x62, [0x07])) ∨
        ∃ start frame, (start, frame) ∈ located ∧
          frameBytes frame.code frame.payload <+: (falseStart.flatten ++ []).drop start ∧
          start < 3 ∧ 3 < start + frame.size) := by
  have shown : (Decoder.new.feedAt 0 falseStart).map (fun found => found.1.map entry) =
      some [(3, 0x62, [0x07])] := by
    decide +kernel
  rcases popped_or_overlapped falseStart [] (by decide) with ⟨located, decoder, feeds, -, covers⟩
  rw [feeds, Option.map_some, Option.some.injEq] at shown
  refine ⟨located, decoder, feeds, shown, covers 3 0x62 [0x07] (by decide) ?_ (by decide)⟩
  exact ⟨List.replicate 22 0x00, by decide +kernel⟩

end Decoder

end BeetEsp.Alvik
