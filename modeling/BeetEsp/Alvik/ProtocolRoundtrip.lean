import BeetEsp.Alvik.DecoderRefinement
import BeetEsp.Alvik.Protocol

/-! # Command streams through the decoder

A stream of encoded commands decodes to one frame for each command, and a frame
tells the command apart from every other one with different wire fields.
-/

namespace BeetEsp.Alvik

open Foundation

namespace Command

variable {P : Quantities}

/-- Commands survive the trip: any reads of their concatenated frames pop
exactly one frame for each command, in order, and leave nothing behind. -/
theorem feed_bytes (commands : List (Command P)) (chunks : List (List UInt8))
    (split : chunks.flatten = commands.flatMap bytes)
    (bounded : ∀ chunk ∈ chunks, chunk.length ≤ Decoder.READ_MAX) :
    ∃ frames decoder, Decoder.new.feed chunks = some (frames, decoder) ∧
      frames.map Frame.message = commands.map message ∧
      decoder.contents = [] := by
  rcases Decoder.new.feed_eq_recognizer_feed chunks rfl bounded with
    ⟨frames, decoder, feeds, spec⟩
  have drains := frameRecognizer.drain_flatten_map bytes message
    (fun command more => judgeFrame_frameBytes command.length_payload_le more)
    commands []
  rw [Decoder.contents_new, frameRecognizer.feed_eq_drain [] chunks rfl,
    List.nil_append, split, List.flatMap_def] at spec
  rw [List.append_nil, spec, frameRecognizer.drain_nil, Prod.mk.injEq,
    List.append_nil] at drains
  exact ⟨frames, decoder, feeds, drains⟩

theorem message_toWire (command : Command P) :
    command.toWire.message = command.message := by
  cases command <;> rfl

/-- A frame's code and payload determine the variant, the wheel and every wire
field. -/
theorem message_eq_iff {command other : Command P} :
    command.message = other.message ↔ command.toWire = other.toWire := by
  constructor
  · intro equal
    cases command <;> cases other <;>
      simp_all [message, code, payload, toWire]
  · intro equal
    rw [← message_toWire, equal, message_toWire]

/-- The bytes of a frame give back its code and payload. -/
theorem message_eq_of_bytes {command other : Command P}
    (equal : command.bytes = other.bytes) : command.message = other.message := by
  simp only [bytes, frameBytes, List.cons.injEq, true_and] at equal
  have lengths := congrArg List.length equal.2.2
  simp only [List.length_append, List.length_cons, List.length_nil] at lengths
  have payloads := (List.append_inj equal.2.2 (by omega)).1
  rw [message, message, equal.2.1, payloads]

/-- Commands encoded one after another with one encoder, whatever its scratch
holds, and read in any chunks by a fresh decoder pop as exactly one frame each,
in order. The frame's code and payload, and so its bytes, tell two commands with
different wire fields apart. -/
theorem encodeAll_roundtrip (enc : Encoder) (commands : List (Command P))
    (chunks : List (List UInt8))
    (split : chunks.flatten = (encodeAll enc commands).2)
    (bounded : ∀ chunk ∈ chunks, chunk.length ≤ Decoder.READ_MAX) :
    (∃ frames decoder, Decoder.new.feed chunks = some (frames, decoder) ∧
      frames.map Frame.message = commands.map message ∧
      decoder.contents = []) ∧
    ∀ command other : Command P,
      (command.message = other.message ↔ command.toWire = other.toWire) ∧
      ∀ encA encB, (command.encode encA).2 = (other.encode encB).2 ↔
        command.toWire = other.toWire := by
  rw [encodeAll_bytes] at split
  refine ⟨feed_bytes commands chunks split bounded, ?_⟩
  intro command other
  refine ⟨message_eq_iff, ?_⟩
  intro encA encB
  rw [encode_bytes, encode_bytes]
  constructor
  · exact fun equal => message_eq_iff.mp (message_eq_of_bytes equal)
  · intro equal
    have messages := message_eq_iff.mpr equal
    rw [message, message, Prod.mk.injEq] at messages
    rw [bytes, bytes, messages.1, messages.2]

/-- A stop after a full-length frame, cut inside its first float. -/
theorem encodeAll_roundtrip_stop :
    let commands : List (Command Quantities.wire) :=
      [.resetPose 0x41414141 0x23232323 0, .drive 0 0]
    let chunks := [(encodeAll Encoder.new commands).2.take 4,
      (encodeAll Encoder.new commands).2.drop 4]
    (∃ frames decoder, Decoder.new.feed chunks = some (frames, decoder) ∧
      frames.map Frame.message = commands.map message ∧
      decoder.contents = []) ∧
    ∀ command other : Command Quantities.wire,
      (command.message = other.message ↔ command.toWire = other.toWire) ∧
      ∀ encA encB, (command.encode encA).2 = (other.encode encB).2 ↔
        command.toWire = other.toWire := by
  intro commands chunks
  exact encodeAll_roundtrip Encoder.new commands chunks (by
    simp only [chunks, List.flatten_cons, List.flatten_nil, List.append_nil,
      List.take_append_drop]) (by decide +kernel)

end Command

end BeetEsp.Alvik
