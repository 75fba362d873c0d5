import BeetEsp.Alvik.DecoderRefinement
import BeetEsp.Alvik.StatusDecode
import BeetEsp.Alvik.StatusPath

/-! # The receive path from the UART to the components

The driver feeds its decoder with what it reads from the UART, at first while it
awaits the answer of the robot in `bring_up` and then in its main loop, whose statuses
go down the status path. A step that would panic is not enabled.
-/

namespace BeetEsp.Alvik

open Foundation

/-! ## The decoder under any calls -/

namespace Decoder

/-- A call of one of the decoder's methods. -/
inductive Call
  | push (byte : UInt8)
  | extend (bytes : List UInt8)
  | pop

/-- A decoder and its callers; what is seen is what `pop` returns. -/
def called : Machine Decoder Call (Option Frame) where
  initial := .new
  step decoder
    | .push byte => (decoder.push byte).map fun next => (next, [])
    | .extend bytes => (decoder.extend bytes).map fun next => (next, [])
    | .pop => decoder.pop.map fun popped => (popped.2, [popped.1])

/-- A full decoder has room again once it has dropped its oldest byte. -/
theorem push_returns (decoder : Decoder) (byte : UInt8) :
    ∃ next, decoder.push byte = some next := by
  by_cases full : decoder.len = CAP
  · rcases dropFront_spec decoder 1 (by rw [full]; decide) with ⟨dropped, drops, contents⟩
    have room : dropped.len < CAP := by
      rw [← length_contents, contents, List.length_drop, length_contents, full]
      decide
    rcases push_spec dropped byte room with ⟨next, pushes, -⟩
    rw [push, if_neg (Nat.ne_of_lt room), Option.bind_some] at pushes
    exact ⟨next, by rw [push, if_pos full, drops, Option.bind_some, pushes]⟩
  · rcases push_spec decoder byte (Nat.lt_of_le_of_ne decoder.len_le full) with
      ⟨next, pushes, -⟩
    exact ⟨next, pushes⟩

theorem extend_returns (decoder : Decoder) (bytes : List UInt8) :
    ∃ next, decoder.extend bytes = some next := by
  induction bytes generalizing decoder with
  | nil => exact ⟨decoder, rfl⟩
  | cons byte bytes induction =>
      rcases decoder.push_returns byte with ⟨pushed, pushes⟩
      rcases induction pushed with ⟨next, extends_⟩
      exact ⟨next, by rw [extend, pushes, Option.bind_some, extends_]⟩

/-- No call panics, whatever the bytes. -/
theorem called_returns (decoder : Decoder) (call : Call) :
    ∃ next results, called.step decoder call = some (next, results) := by
  cases call with
  | push byte =>
      rcases decoder.push_returns byte with ⟨next, pushes⟩
      exact ⟨next, [], by simp [called, pushes]⟩
  | extend bytes =>
      rcases decoder.extend_returns bytes with ⟨next, extends_⟩
      exact ⟨next, [], by simp [called, extends_]⟩
  | pop =>
      rcases decoder.pop_pops with ⟨result, next, pops, -⟩
      exact ⟨next, [result], by simp [called, pops]⟩

theorem run_returns (calls : List Call) :
    ∃ decoder results, called.run calls = some (decoder, results) :=
  Machine.run_of_enabled (fun _ => True) (fun _ _ => called_returns _ _) calls
    fun _ _ => trivial

/-- When `pop` has nothing to return, less than one maximum frame is left. -/
theorem len_lt_of_pop {decoder next : Decoder} (pops : decoder.pop = some (none, next)) :
    next.len < FRAME_MAX := by
  rcases decoder.pop_pops with ⟨result, left, returns, drains⟩
  cases pops.symm.trans returns
  have starved := frameRecognizer.judge_drain decoder.contents
  rw [Pops] at drains
  rw [drains] at starved
  rw [← length_contents]
  exact length_lt_of_starved starved

/-- How many pushes of an `extend` find the decoder full and drop its oldest byte. -/
def drops (decoder : Decoder) : List UInt8 → Nat
  | [] => 0
  | byte :: bytes =>
      (if decoder.len = CAP then 1 else 0) +
        match decoder.push byte with
        | some next => next.drops bytes
        | none => 0

theorem drops_eq_zero {decoder : Decoder} {bytes : List UInt8}
    (room : decoder.len + bytes.length ≤ CAP) : decoder.drops bytes = 0 := by
  induction bytes generalizing decoder with
  | nil => rfl
  | cons byte bytes induction =>
      rw [List.length_cons] at room
      rcases push_spec decoder byte (by omega) with ⟨next, pushes, contents⟩
      have len : next.len = decoder.len + 1 := by
        rw [← length_contents, contents, List.length_append, length_contents]
        rfl
      rw [drops, if_neg (by omega), pushes, Nat.zero_add]
      exact induction (by omega)

end Decoder

/-! ## The driver -/

variable {P : Quantities} {R : Readouts P}

namespace ReceivePath

/-- Where `AlvikDriver::run` is. -/
inductive Phase
  /-- `bring_up` waits for power and resets the STM32. -/
  | resetting
  /-- `bring_up` awaits `got_ack` and `firmware`. -/
  | awaiting (gotAck : Bool) (firmware : Option FirmwareVersion)
  | running

structure State (R : Readouts P) where
  phase : Phase
  decoder : Decoder
  path : StatusPath.State R

inductive Action
  /-- `flush_uart`. -/
  | flush
  /-- `read_async` returns with these bytes in front of the buffer. -/
  | read (bytes : List UInt8)
  /-- `read_async` fails, or a wait for it in `bring_up` times out. -/
  | failed
  /-- The wait for ack and firmware is over, and the init sequence is sent. -/
  | connected
  /-- A frame of the application. -/
  | frame

inductive Event (P : Quantities)
  /-- A read was put into the decoder, which dropped this many old bytes for it. -/
  | extended (dropped : Nat)
  | path (event : StatusPath.Event P)

def Event.pathOf : Event P → Option (StatusPath.Event P)
  | path event => some event
  | extended _ => none

/-- What `bring_up` makes of a status. -/
def awaited : Bool × Option FirmwareVersion → Option (Status P) →
    Bool × Option FirmwareVersion
  | (_, firmware), some (.ack 0) => (true, firmware)
  | (gotAck, _), some (.fwVersion major minor patch) => (gotAck, some ⟨major, minor, patch⟩)
  | found, _ => found

/-- Extend the decoder, and decode each frame it pops until it returns `None`. -/
def receive (decoder : Decoder) (bytes : List UInt8) :
    Option (List (Option (Status P)) × Decoder) := do
  let decoder ← decoder.extend bytes
  let (frames, decoder) ← decoder.popAll
  return (← frames.mapM Status.decode, decoder)

def step (statuses : Machine (StatusPath.State R) (StatusPath.Action P) (StatusPath.Event P))
    (state : State R) : Action → Option (State R × List (Event P))
  | .flush => match state.phase with
      | .resetting =>
          some ({ state with phase := .awaiting false none, decoder := .new }, [])
      | _ => none
  | .read bytes =>
      if Decoder.READ_MAX < bytes.length then none
      else match state.phase with
        | .resetting => none
        | .awaiting gotAck firmware =>
            if gotAck ∧ firmware.isSome then none
            else (receive state.decoder bytes).map fun (found, decoder) =>
              let (gotAck, firmware) := found.foldl (awaited (P := P)) (gotAck, firmware)
              ({ state with phase := .awaiting gotAck firmware, decoder },
                [.extended (state.decoder.drops bytes)])
        | .running =>
            (receive state.decoder bytes).bind fun (found, decoder) =>
              (statuses.runFrom state.path (found.reduceOption.map .status)).map
                fun (path, events) => ({ state with decoder, path },
                  .extended (state.decoder.drops bytes) :: events.map .path)
  | .failed => match state.phase with
      | .resetting => none
      | _ => some (state, [])
  | .connected => match state.phase with
      | .awaiting _ firmware =>
          (statuses.step state.path (.bringUp firmware)).map fun (path, events) =>
            ({ state with phase := .running, path }, events.map .path)
      | _ => none
  | .frame => (statuses.step state.path .frame).map fun (path, events) =>
      ({ state with path }, events.map .path)

end ReceivePath

open ReceivePath in
/-- The driver task has just started, on a robot spawned with the given components. -/
def receivePath (spawned : AlvikComponents R) (spawnedWheels : Wheels P) :
    Machine (State R) Action (Event P) where
  initial := {
    phase := .resetting
    decoder := .new
    path := (statusPath spawned spawnedWheels).initial }
  step := step (statusPath spawned spawnedWheels)

namespace ReceivePath

/-! ## One step -/

theorem decodes_all (frames : List Frame) :
    ∃ statuses : List (Option (Status P)), frames.mapM Status.decode = some statuses := by
  induction frames with
  | nil => exact ⟨[], rfl⟩
  | cons frame frames induction =>
      rcases decode_inRange (P := P) frame with ⟨status, decodes, -⟩
      rcases induction with ⟨statuses, rest⟩
      exact ⟨status :: statuses, by rw [List.mapM_cons, decodes, rest]; rfl⟩

/-- From a drained decoder, a read is put into it, popped and decoded without panic, and
leaves it drained. -/
theorem receive_returns {decoder : Decoder} {bytes : List UInt8}
    (drained : decoder.len < FRAME_MAX) (short : bytes.length ≤ Decoder.READ_MAX) :
    decoder.drops bytes = 0 ∧
      ∃ statuses : List (Option (Status P)), ∃ next,
        receive decoder bytes = some (statuses, next) ∧ next.len < FRAME_MAX := by
  have room : decoder.len + bytes.length ≤ CAP := by
    simp only [FRAME_MAX, PAYLOAD_MAX, Decoder.READ_MAX, CAP] at *
    omega
  rcases Decoder.extend_spec decoder bytes room with ⟨filled, extends_, -⟩
  rcases filled.popAll_drains with ⟨frames, next, pops, drains⟩
  rcases decodes_all (P := P) frames with ⟨statuses, decodes⟩
  refine ⟨Decoder.drops_eq_zero room, statuses, next, ?_, ?_⟩
  · simp only [receive, extends_, pops, decodes, Option.bind_eq_bind, Option.bind_some]
    rfl
  · have starved := frameRecognizer.judge_drain filled.contents
    rw [drains] at starved
    rw [← Decoder.length_contents]
    exact length_lt_of_starved starved

/-- What a step can do. -/
inductive Step
    (statuses : Machine (StatusPath.State R) (StatusPath.Action P) (StatusPath.Event P))
    (state : State R) : Action → State R → List (Event P) → Prop
  | flushed (phase : state.phase = .resetting) :
      Step statuses state .flush
        { state with phase := .awaiting false none, decoder := .new } []
  | answered {gotAck firmware bytes found decoder} (phase : state.phase = .awaiting gotAck firmware)
      (short : bytes.length ≤ Decoder.READ_MAX)
      (received : receive (P := P) state.decoder bytes = some (found, decoder)) :
      Step statuses state (.read bytes)
        { state with
          phase := .awaiting (found.foldl awaited (gotAck, firmware)).1
            (found.foldl awaited (gotAck, firmware)).2
          decoder } [.extended (state.decoder.drops bytes)]
  | received {bytes found decoder path events} (phase : state.phase = .running)
      (short : bytes.length ≤ Decoder.READ_MAX)
      (received : receive state.decoder bytes = some (found, decoder))
      (ran : statuses.runFrom state.path (found.reduceOption.map .status) =
        some (path, events)) :
      Step statuses state (.read bytes) { state with decoder, path }
        (.extended (state.decoder.drops bytes) :: events.map .path)
  | idle (reading : state.phase ≠ .resetting) : Step statuses state .failed state []
  | connected {gotAck firmware path events} (phase : state.phase = .awaiting gotAck firmware)
      (stepped : statuses.step state.path (.bringUp firmware) = some (path, events)) :
      Step statuses state .connected { state with phase := .running, path }
        (events.map .path)
  | framed {path events} (stepped : statuses.step state.path .frame = some (path, events)) :
      Step statuses state .frame { state with path } (events.map .path)

variable {spawned : AlvikComponents R} {spawnedWheels : Wheels P}

theorem step_shape {state next : State R} {action : Action} {events : List (Event P)}
    (stepped : (receivePath spawned spawnedWheels).step state action = some (next, events)) :
    Step (statusPath spawned spawnedWheels) state action next events := by
  change step (statusPath spawned spawnedWheels) state action = some (next, events) at stepped
  cases action with
  | flush =>
      simp only [step] at stepped
      split at stepped
      case h_1 phase =>
        cases stepped
        exact .flushed phase
      case h_2 => cases stepped
  | read bytes =>
      simp only [step] at stepped
      split at stepped
      case isTrue => cases stepped
      case isFalse short =>
        rw [Nat.not_lt] at short
        split at stepped
        case h_1 => cases stepped
        case h_2 gotAck firmware phase =>
          split at stepped
          case isTrue => cases stepped
          case isFalse =>
            rcases Option.map_eq_some_iff.mp stepped with ⟨⟨found, decoder⟩, received, same⟩
            cases same
            exact .answered phase short received
        case h_3 phase =>
          rcases Option.bind_eq_some_iff.mp stepped with ⟨⟨found, decoder⟩, received, told⟩
          rcases Option.map_eq_some_iff.mp told with ⟨⟨path, seen⟩, ran, same⟩
          cases same
          exact .received phase short received ran
  | failed =>
      simp only [step] at stepped
      split at stepped
      case h_1 => cases stepped
      case h_2 reading =>
        cases stepped
        exact .idle reading
  | connected =>
      simp only [step] at stepped
      split at stepped
      case h_1 gotAck firmware phase =>
        rcases Option.map_eq_some_iff.mp stepped with ⟨⟨path, seen⟩, one, same⟩
        cases same
        exact .connected phase one
      case h_2 => cases stepped
  | frame =>
      simp only [step] at stepped
      rcases Option.map_eq_some_iff.mp stepped with ⟨⟨path, seen⟩, one, same⟩
      cases same
      exact .framed one

/-! ## The status path within -/

theorem pathOf_map (events : List (StatusPath.Event P)) :
    (events.map Event.path).filterMap Event.pathOf = events := by
  rw [List.filterMap_map]
  exact List.filterMap_some

/-- What the application sees of the statuses are runs of the status path. -/
theorem path_reached {state : State R} {history : List (Event P)}
    (reached : (receivePath spawned spawnedWheels).Reached state history) :
    (statusPath spawned spawnedWheels).Reached state.path (history.filterMap Event.pathOf) := by
  apply Machine.Reached.project_runs State.path Event.pathOf
    (statusPath spawned spawnedWheels).reached_initial ?follows reached
  case follows =>
    intro state action next events stepped
    have one : ∀ {state next : StatusPath.State R} {action events},
        (statusPath spawned spawnedWheels).step state action = some (next, events) →
        ∃ actions, (statusPath spawned spawnedWheels).runFrom state actions =
          some (next, events) := by
      intro state next action events stepped
      have last : (statusPath spawned spawnedWheels).runFrom next [] = some (next, []) := rfl
      exact ⟨[action], by rw [Machine.runFrom_cons_of_step stepped last, List.append_nil]⟩
    cases step_shape stepped with
    | flushed | answered | idle => exact ⟨[], rfl⟩
    | received phase short received ran =>
        rw [List.filterMap_cons]
        simp only [Event.pathOf, pathOf_map]
        exact ⟨_, ran⟩
    | connected phase told =>
        rw [pathOf_map]
        exact one told
    | framed told =>
        rw [pathOf_map]
        exact one told

/-! ## Safety -/

/-- Less than one frame is left in the decoder between reads, and nothing that arrived
was dropped for want of room. -/
structure Drained (state : State R) (history : List (Event P)) : Prop where
  left : state.decoder.len < FRAME_MAX
  kept : ∀ dropped, .extended dropped ∈ history → dropped = 0

theorem drained {state : State R} {history : List (Event P)}
    (reached : (receivePath spawned spawnedWheels).Reached state history) :
    Drained state history := by
  apply Machine.Reached.induction Drained ?start ?preserved reached
  case start => exact ⟨Nat.zero_lt_succ _, fun _ member => by cases member⟩
  case preserved =>
    intro state history action next events _ holds stepped
    have unextended : ∀ events : List (StatusPath.Event P), ∀ dropped,
        .extended dropped ∈ history ++ events.map .path → dropped = 0 := by
      intro events dropped member
      rcases List.mem_append.mp member with earlier | added
      · exact holds.kept dropped earlier
      · rcases List.mem_map.mp added with ⟨event, -, same⟩
        cases same
    cases step_shape stepped with
    | flushed phase => exact ⟨Nat.zero_lt_succ _, by simpa using holds.kept⟩
    | answered phase short received =>
        rcases receive_returns (P := P) holds.left short with ⟨none, found, decoder, returns, left⟩
        cases received.symm.trans returns
        refine ⟨left, ?_⟩
        intro dropped member
        rcases List.mem_append.mp member with earlier | added
        · exact holds.kept dropped earlier
        · cases List.mem_singleton.mp added
          exact none
    | received phase short received ran =>
        rcases receive_returns (P := P) holds.left short with ⟨none, found, decoder, returns, left⟩
        cases received.symm.trans returns
        refine ⟨left, ?_⟩
        intro dropped member
        rw [List.append_cons] at member
        rcases List.mem_append.mp member with before | added
        · rcases List.mem_append.mp before with earlier | own
          · exact holds.kept dropped earlier
          · cases List.mem_singleton.mp own
            exact none
        · rcases List.mem_map.mp added with ⟨event, -, same⟩
          cases same
    | idle reading => exact ⟨holds.left, by simpa using holds.kept⟩
    | connected phase told => exact ⟨holds.left, unextended _⟩
    | framed told => exact ⟨holds.left, unextended _⟩

/-- Whatever is called, the decoder holds at most 256 bytes, nothing panics, what it pops
can be decoded, and it pops nothing only when less than one maximum frame is left. In the
driver it never drops a byte that was not looked at. -/
theorem decoder_safe :
    (∀ calls, ∃ decoder results, Decoder.called.run calls = some (decoder, results) ∧
      decoder.len ≤ CAP ∧
      (∀ frame, some frame ∈ results → frame.payload.length ≤ PAYLOAD_MAX ∧
        ∃ status : Option (Status P), Status.decode frame = some status) ∧
      ∀ next, decoder.pop = some (none, next) → next.len < FRAME_MAX) ∧
    ∀ (spawned : AlvikComponents R) (spawnedWheels : Wheels P) (state : State R)
      (history : List (Event P)),
      (receivePath spawned spawnedWheels).Reached state history →
      (∀ dropped, .extended dropped ∈ history → dropped = 0) ∧
      ∀ bytes, bytes.length ≤ Decoder.READ_MAX →
        state.decoder.drops bytes = 0 ∧
        ∃ statuses : List (Option (Status P)), ∃ next,
          receive state.decoder bytes = some (statuses, next) := by
  constructor
  · intro calls
    rcases Decoder.run_returns calls with ⟨decoder, results, ran⟩
    refine ⟨decoder, results, ran, decoder.len_le, ?_, ?_⟩
    · intro frame _
      rcases decode_inRange (P := P) frame with ⟨status, decodes, -⟩
      exact ⟨by rw [frame.length_payload]; exact frame.len_le, status, decodes⟩
    · exact fun next pops => Decoder.len_lt_of_pop pops
  · intro spawned spawnedWheels state history reached
    have holds := drained reached
    refine ⟨holds.kept, ?_⟩
    intro bytes short
    rcases receive_returns (P := P) holds.left short with ⟨none, found, next, returns, -⟩
    exact ⟨none, found, next, returns⟩

/-- The robot answers, and then the line is noisy. -/
def answering : List Action :=
  [.flush, .read ([0x00] ++ frameBytes 0x78 [0x00] ++ frameBytes 0x7E [1, 1, 1]), .connected,
    .read (List.replicate 128 START)]

theorem decoder_safe_answering :
    (∃ decoder results, Decoder.called.run [.extend (List.replicate 300 START), .pop] =
      some (decoder, results) ∧ decoder.len ≤ CAP) ∧
    ∃ state history, (receivePath AlvikComponents.zero Wheels.zero).run answering =
        some (state, history) ∧
      (∀ dropped, .extended dropped ∈ history → dropped = 0) ∧
      state.decoder.drops (List.replicate 128 END) = 0 := by
  have safe := decoder_safe (R := Readouts.wire)
  rcases safe.1 [.extend (List.replicate 300 START), .pop] with
    ⟨decoder, results, ran, bounded, -⟩
  refine ⟨⟨decoder, results, ran, bounded⟩, ?_⟩
  have runs : ((receivePath AlvikComponents.zero Wheels.zero).run answering).isSome = true := by
    decide +kernel
  rcases Option.isSome_iff_exists.mp runs with ⟨⟨state, history⟩, ran⟩
  have holds := safe.2 _ _ state history ⟨answering, ran⟩
  have short : (List.replicate 128 END).length ≤ Decoder.READ_MAX :=
    Nat.le_of_eq List.length_replicate
  exact ⟨state, history, ran, holds.1, (holds.2 _ short).1⟩

end ReceivePath

end BeetEsp.Alvik
