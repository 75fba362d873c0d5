import BeetEsp.Alvik.ProtocolRoundtrip
import BeetEsp.Alvik.Transport

/-! # Frames on the wire

The driver awaits one write for each frame and does not look at the count it
returns. The wire carries the frames whole exactly as long as no write is short.
-/

namespace BeetEsp.Alvik.Transport

open Foundation

variable {P : Quantities}

/-- The wire carries the concatenation of the encoded frames, and any reads of it
pop exactly the frames of the transmitted commands. -/
structure WireWhole (_ : State P) (history : List (Event P)) : Prop where
  carried : wire history = frames history
  decoded : ∀ chunks : List (List UInt8), chunks.flatten = wire history →
    (∀ chunk ∈ chunks, chunk.length ≤ Decoder.READ_MAX) →
    ∃ popped decoder, Decoder.new.feed chunks = some (popped, decoder) ∧
      popped.map Frame.message = (transmitted history).map Command.message

/-- A write takes the whole frame that is being sent. -/
def WriteWhole (state : State P) : Action P → Prop
  | .driver (.written count) => ∀ command rest,
      state.driver.phase = .sending command rest →
      count = (command.encode state.driver.encoder).2.length
  | _ => True

/-- Sends into the queue put nothing on the wire. -/
theorem wire_sendEach (out : AlvikOut P) (commands : List (Command P)) :
    wire (sendEach out commands).2 = [] ∧ frames (sendEach out commands).2 = [] := by
  induction commands generalizing out with
  | nil => exact ⟨rfl, rfl⟩
  | cons command commands induction =>
      rw [sendEach]
      cases out.trySend command with
      | ok next => exact induction next
      | error returned => exact induction out

/-- A step leaves the wire alone, or is the end of a write. -/
theorem wire_step {state next : State P} {action : Action P} {events : List (Event P)}
    (stepped : (transport P).step state action = some (next, events)) :
    (wire events = [] ∧ frames events = [] ∧ transmitted events = [] ∧
      WriteWhole state action) ∨
    (∃ command rest count, action = .driver (.written count) ∧
      state.driver.phase = .sending command rest ∧ count ≤ command.bytes.length ∧
      events = [.transmitted command command.bytes (command.bytes.take count)]) := by
  rcases step_cases stepped with
    ⟨ecsAction, rfl, -, -, rfl, -⟩ | ⟨driverAction, rfl, -, shape⟩
  · have silent := wire_sendEach state.alvikOut (state.ecs.perform ecsAction).2
    exact .inl ⟨silent.1, silent.2, transmitted_sendEach _ _, trivial⟩
  · rcases state with ⟨ecs, out, driver⟩
    rcases next with ⟨ecs', out', driver'⟩
    cases shape with
    | handshake => exact .inl ⟨rfl, rfl, rfl, trivial⟩
    | receive => exact .inl ⟨rfl, rfl, rfl, trivial⟩
    | written positive within => exact .inr ⟨_, _, _, rfl, rfl, within, rfl⟩

/-- What the driver encodes are the frames of the transmitted commands. -/
theorem frames_eq {state : State P} {history : List (Event P)}
    (reached : (transport P).Reached state history) :
    frames history = (transmitted history).flatMap Command.bytes := by
  refine Machine.Reached.induction
    (fun _ history => frames history = (transmitted history).flatMap Command.bytes)
    ?start ?preserved reached
  case start => rfl
  case preserved =>
    intro state history action next events _ holds stepped
    rw [frames_append, transmitted_append, List.flatMap_append, holds]
    rcases wire_step stepped with
      ⟨-, nothing, unsent, -⟩ | ⟨command, rest, count, -, -, -, rfl⟩
    · rw [nothing, unsent]
      rfl
    · simp [frames, transmitted, Event.frame, Event.transmittedOf]

theorem wireWhole_of_wire {state : State P} {history : List (Event P)}
    (reached : (transport P).Reached state history)
    (whole : wire history = frames history) : WireWhole state history := by
  refine ⟨whole, ?_⟩
  intro chunks split bounded
  rw [whole, frames_eq reached] at split
  rcases Command.feed_bytes _ chunks split bounded with
    ⟨popped, decoder, feeds, messages, -⟩
  exact ⟨popped, decoder, feeds, messages⟩

/-- One step keeps the wire whole exactly when its write is not short. -/
theorem WireWhole.step_iff {state next : State P} {history events : List (Event P)}
    {action : Action P} (reached : (transport P).Reached state history)
    (whole : WireWhole state history)
    (stepped : (transport P).step state action = some (next, events)) :
    WireWhole next (history ++ events) ↔ WriteWhole state action := by
  have extended := reached.step stepped
  rcases wire_step stepped with
    ⟨silent, nothing, -, full⟩ | ⟨command, rest, count, rfl, sending, within, rfl⟩
  · refine ⟨fun _ => full, fun _ => wireWhole_of_wire extended ?_⟩
    rw [wire_append, frames_append, silent, nothing, whole.carried]
  · have written : wire (history ++ [Event.transmitted command command.bytes
        (command.bytes.take count)]) = frames history ++ command.bytes.take count := by
      rw [wire_append, whole.carried]
      simp [wire, Event.written]
    have encoded : frames (history ++ [Event.transmitted command command.bytes
        (command.bytes.take count)]) = frames history ++ command.bytes := by
      rw [frames_append]
      simp [frames, Event.frame]
    constructor
    · intro next command' rest' sending'
      rw [sending] at sending'
      cases sending'
      have equal := next.carried
      rw [written, encoded, List.append_cancel_left_eq] at equal
      have lengths := congrArg List.length equal
      rw [List.length_take] at lengths
      rw [Command.encode_bytes]
      omega
    · intro full
      apply wireWhole_of_wire extended
      have complete := full command rest sending
      rw [Command.encode_bytes] at complete
      rw [written, encoded, complete, List.take_length]

/-- The wire carries whole frames, and a decoder pops exactly those of the
transmitted commands, all along a run if and only if every write takes its whole
frame. -/
theorem wire_whole_iff (actions : List (Action P)) {final : State P}
    {history : List (Event P)}
    (ran : (transport P).run actions = some (final, history)) :
    (transport P).AlwaysAlong WireWhole actions ↔
      (transport P).Meets WriteWhole actions := by
  have start : WireWhole (transport P).initial [] :=
    wireWhole_of_wire (transport P).reached_initial rfl
  exact (transport P).always_iff_meets start
    (fun reached whole stepped => whole.step_iff reached stepped) ran

theorem wire_whole_iff_init :
    let actions : List (Action Quantities.wire) :=
      [.driver .handshake, .driver (.written 6), .driver (.written 6)]
    (transport Quantities.wire).AlwaysAlong WireWhole actions ↔
      (transport Quantities.wire).Meets WriteWhole actions :=
  wire_whole_iff _ rfl

/-- A pose reset of which only `START` and `LEN` are written, and then a stop. -/
def shortWrite : List (Action Quantities.wire) :=
  [.driver .handshake, .driver (.written 6), .driver (.written 6),
    .driver (.written 6), .driver (.written 7),
    .ecs (.oneShot (.resetPose 0 0 0) rfl), .ecs .flushDrive,
    .driver .receive, .driver (.written 2),
    .driver .receive, .driver (.written 13)]

/-- The stop is on the wire in full, and the receiver takes it for the body of
the frame before it. -/
theorem stop_is_swallowed :
    (∃ state history popped decoder,
      (transport Quantities.wire).run shortWrite = some (state, history) ∧
      transmitted history = initSequence ++ [.resetPose 0 0 0, .drive 0 0] ∧
      Decoder.new.feed [wire history] = some (popped, decoder) ∧
      popped.map Frame.message =
        (initSequence (P := Quantities.wire)).map Command.message) ∧
    ¬(transport Quantities.wire).AlwaysAlong WireWhole shortWrite := by
  have runs : ∃ state history,
      (transport Quantities.wire).run shortWrite = some (state, history) ∧
      transmitted history = initSequence ++ [.resetPose 0 0 0, .drive 0 0] ∧
      (Decoder.new.feed [wire history]).map (fun fed => fed.1.map Frame.message) =
        some ((initSequence (P := Quantities.wire)).map Command.message) ∧
      (wire history).length ≤ Decoder.READ_MAX := by
    refine ⟨_, _, rfl, rfl, ?_, ?_⟩
    · decide +kernel
    · decide +kernel
  rcases runs with ⟨state, history, ran, told, pops, short⟩
  rw [Option.map_eq_some_iff] at pops
  rcases pops with ⟨⟨popped, decoder⟩, feeds, messages⟩
  refine ⟨⟨state, history, popped, decoder, ran, told, feeds, messages⟩, ?_⟩
  intro always
  have whole := always shortWrite [] (by simp) state history ran
  rcases whole.decoded [wire history] (by simp) (by simpa using short) with
    ⟨popped', decoder', feeds', messages'⟩
  rw [feeds] at feeds'
  cases feeds'
  rw [messages, told] at messages'
  have lengths := congrArg List.length messages'
  simp at lengths

end BeetEsp.Alvik.Transport
