import BeetEsp.Alvik.ReceivePath
import BeetEsp.Alvik.Transport

/-! # Bringing the robot up

`AlvikDriver::bring_up` waits until the robot has power, resets its STM32 and awaits an ack
and a firmware version, for five seconds at most. Whatever it heard, it sends the init
commands, and the main loop goes on with the same decoder. Times are in microseconds.
-/

namespace BeetEsp.Alvik

open Foundation
open ReceivePath (awaited receive)
open Transport (initSequence)

variable {P : Quantities}

namespace BringUp

/-- What `bring_up` does when a `Timer::after` is over. -/
inductive Stage
  | checkPower
  | releaseReset
  | flushUart
  deriving DecidableEq

inductive Phase (P : Quantities)
  /-- At `check_stm32.is_low()`. -/
  | checking
  | sleeping (wake : Nat) (stage : Stage)
  /-- In `with_timeout` of the handshake. -/
  | awaiting (gotAck : Bool) (firmware : Option FirmwareVersion) (deadline timeout : Nat)
  /-- In `send` with the first of these commands. -/
  | sending (commands : List (Command P)) (firmware : Option FirmwareVersion)
  /-- In the main loop. -/
  | running

structure State (P : Quantities) where
  now : Nat
  phase : Phase P
  decoder : Decoder

inductive Action
  | elapse (micros : Nat)
  /-- `CHECK_STM32` is read. -/
  | power (high : Bool)
  /-- A `Timer::after` is over. -/
  | wake
  | read (bytes : List UInt8)
  /-- `read_async` fails. -/
  | failed
  | timedOut
  /-- `write_async` returns, whatever it returns. -/
  | written

inductive Event (P : Quantities)
  | reset (high : Bool) (time : Nat)
  /-- The decoder starts on what is read from now on. -/
  | flushed (time : Nat)
  | arrived (bytes : List UInt8)
  /-- What `bring_up` decoded. -/
  | heard (statuses : List (Option (Status P)))
  /-- What the main loop decoded. -/
  | pumped (statuses : List (Option (Status P)))
  /-- The handshake is over. -/
  | concluded (gotAck : Bool) (firmware : Option FirmwareVersion) (time : Nat)
  | sent (command : Command P)
  /-- The firmware version is put into `ALVIK_EVENTS`. -/
  | reported (firmware : FirmwareVersion)

@[simp] def Event.arrivedOf : Event P → Option (List UInt8)
  | arrived bytes => some bytes
  | _ => none

@[simp] def Event.heardOf : Event P → Option (List (Option (Status P)))
  | heard statuses => some statuses
  | _ => none

@[simp] def Event.pumpedOf : Event P → Option (List (Option (Status P)))
  | pumped statuses => some statuses
  | _ => none

@[simp] def Event.concludedOf : Event P → Option (Bool × Option FirmwareVersion)
  | concluded gotAck firmware _ => some (gotAck, firmware)
  | _ => none

@[simp] def Event.sentOf : Event P → Option (Command P)
  | sent command => some command
  | _ => none

@[simp] def Event.reportedOf : Event P → Option FirmwareVersion
  | reported firmware => some firmware
  | _ => none

def POLL : Nat := 100000

def READ_TIMEOUT : Nat := 500000

def HANDSHAKE : Nat := 5000000

/-- The condition of the handshake loop, and what follows the loop. -/
def handshake (now : Nat) (gotAck : Bool) (firmware : Option FirmwareVersion)
    (deadline : Nat) : Phase P × List (Event P) :=
  if !(gotAck && firmware.isSome) && now < deadline then
    (.awaiting gotAck firmware deadline (now + READ_TIMEOUT), [])
  else
    (.sending initSequence firmware, [.concluded gotAck firmware now])

def step (state : State P) : Action → Option (State P × List (Event P))
  | .elapse micros => some ({ state with now := state.now + micros }, [])
  | .power high =>
      match state.phase with
      | .checking =>
          if high then
            some ({ state with phase := .sleeping (state.now + POLL) .releaseReset },
              [.reset false state.now])
          else
            some ({ state with phase := .sleeping (state.now + POLL) .checkPower }, [])
      | _ => none
  | .wake =>
      match state.phase with
      | .sleeping wake stage =>
          if state.now < wake then none
          else
            match stage with
            | .checkPower => some ({ state with phase := .checking }, [])
            | .releaseReset =>
                some ({ state with phase := .sleeping (state.now + POLL) .flushUart },
                  [.reset true state.now])
            | .flushUart =>
                let after := handshake state.now false none (state.now + HANDSHAKE)
                some ({ state with phase := after.1, decoder := .new },
                  .flushed state.now :: after.2)
      | _ => none
  | .read bytes =>
      if Decoder.READ_MAX < bytes.length then none
      else
        match state.phase with
        | .awaiting gotAck firmware deadline _ =>
            (receive state.decoder bytes).map fun (statuses, decoder) =>
              let found := statuses.foldl awaited (gotAck, firmware)
              let after := handshake state.now found.1 found.2 deadline
              ({ state with phase := after.1, decoder },
                .arrived bytes :: .heard statuses :: after.2)
        | .running =>
            (receive state.decoder bytes).map fun (statuses, decoder) =>
              ({ state with decoder }, [.arrived bytes, .pumped statuses])
        | _ => none
  | .failed =>
      match state.phase with
      | .awaiting gotAck firmware deadline _ =>
          let after := handshake state.now gotAck firmware deadline
          some ({ state with phase := after.1 }, after.2)
      | .running => some (state, [])
      | _ => none
  | .timedOut =>
      match state.phase with
      | .awaiting gotAck firmware deadline timeout =>
          if state.now < timeout then none
          else
            let after := handshake state.now gotAck firmware deadline
            some ({ state with phase := after.1 }, after.2)
      | _ => none
  | .written =>
      match state.phase with
      | .sending [command] firmware =>
          some ({ state with phase := .running },
            .sent command :: (firmware.map .reported).toList)
      | .sending (command :: next :: rest) firmware =>
          some ({ state with phase := .sending (next :: rest) firmware }, [.sent command])
      | _ => none

end BringUp

open BringUp in
/-- The driver task has just been spawned. -/
def bringUp (P : Quantities) : Machine (State P) Action (Event P) where
  initial := { now := 0, phase := .checking, decoder := .new }
  step := step

namespace BringUp

/-- What a step can do. -/
inductive Step (state : State P) : Action → State P → List (Event P) → Prop
  | elapsed {micros} :
      Step state (.elapse micros) { state with now := state.now + micros } []
  | low (phase : state.phase = .checking) :
      Step state (.power false)
        { state with phase := .sleeping (state.now + POLL) .checkPower } []
  | high (phase : state.phase = .checking) :
      Step state (.power true)
        { state with phase := .sleeping (state.now + POLL) .releaseReset }
        [.reset false state.now]
  | polled {wake} (phase : state.phase = .sleeping wake .checkPower) :
      Step state .wake { state with phase := .checking } []
  | released {wake} (phase : state.phase = .sleeping wake .releaseReset)
      (due : wake ≤ state.now) :
      Step state .wake { state with phase := .sleeping (state.now + POLL) .flushUart }
        [.reset true state.now]
  | flushed {wake deadline} (phase : state.phase = .sleeping wake .flushUart)
      (due : wake ≤ state.now) (sum : deadline = state.now + HANDSHAKE) :
      Step state .wake
        { state with phase := (handshake state.now false none deadline).1, decoder := .new }
        (.flushed state.now :: (handshake state.now false none deadline).2)
  | heard {bytes gotAck firmware deadline timeout statuses decoder found}
      (phase : state.phase = .awaiting gotAck firmware deadline timeout)
      (short : bytes.length ≤ Decoder.READ_MAX)
      (received : receive state.decoder bytes = some (statuses, decoder))
      (folds : found = statuses.foldl awaited (gotAck, firmware)) :
      Step state (.read bytes)
        { state with phase := (handshake state.now found.1 found.2 deadline).1, decoder }
        (.arrived bytes :: .heard statuses ::
          (handshake state.now found.1 found.2 deadline).2)
  | retried {action gotAck firmware deadline timeout}
      (phase : state.phase = .awaiting gotAck firmware deadline timeout) :
      Step state action
        { state with phase := (handshake state.now gotAck firmware deadline).1 }
        (handshake state.now gotAck firmware deadline).2
  | sent {command next rest firmware}
      (phase : state.phase = .sending (command :: next :: rest) firmware) :
      Step state .written { state with phase := .sending (next :: rest) firmware }
        [.sent command]
  | finished {command firmware} (phase : state.phase = .sending [command] firmware) :
      Step state .written { state with phase := .running }
        (.sent command :: (firmware.map .reported).toList)
  | pumped {bytes statuses decoder} (phase : state.phase = .running)
      (short : bytes.length ≤ Decoder.READ_MAX)
      (received : receive state.decoder bytes = some (statuses, decoder)) :
      Step state (.read bytes) { state with decoder } [.arrived bytes, .pumped statuses]
  | idle (phase : state.phase = .running) : Step state .failed state []

theorem step_shape {state next : State P} {action : Action} {events : List (Event P)}
    (stepped : (bringUp P).step state action = some (next, events)) :
    Step state action next events := by
  change step state action = some (next, events) at stepped
  cases action with
  | elapse micros =>
      cases stepped
      exact .elapsed
  | power high =>
      simp only [step] at stepped
      split at stepped
      case h_1 phase =>
        cases high <;> cases stepped
        · exact .low phase
        · exact .high phase
      case h_2 => cases stepped
  | wake =>
      simp only [step] at stepped
      split at stepped
      case h_1 wake stage phase =>
        split at stepped
        case isTrue => cases stepped
        case isFalse due =>
          rw [Nat.not_lt] at due
          cases stage <;> cases stepped
          · exact .polled phase
          · exact .released phase due
          · exact .flushed phase due rfl
      case h_2 => cases stepped
  | read bytes =>
      simp only [step] at stepped
      split at stepped
      case isTrue => cases stepped
      case isFalse short =>
        rw [Nat.not_lt] at short
        split at stepped
        case h_1 gotAck firmware deadline timeout phase =>
          rcases Option.map_eq_some_iff.mp stepped with ⟨⟨statuses, decoder⟩, received, same⟩
          cases same
          exact .heard phase short received rfl
        case h_2 phase =>
          rcases Option.map_eq_some_iff.mp stepped with ⟨⟨statuses, decoder⟩, received, same⟩
          cases same
          exact .pumped phase short received
        case h_3 => cases stepped
  | failed =>
      simp only [step] at stepped
      split at stepped
      case h_1 gotAck firmware deadline timeout phase =>
        cases stepped
        exact .retried phase
      case h_2 phase =>
        cases stepped
        exact .idle phase
      case h_3 => cases stepped
  | timedOut =>
      simp only [step] at stepped
      split at stepped
      case h_1 gotAck firmware deadline timeout phase =>
        split at stepped <;> cases stepped
        exact .retried phase
      case h_2 => cases stepped
  | written =>
      simp only [step] at stepped
      split at stepped
      case h_1 command firmware phase =>
        cases stepped
        exact .finished phase
      case h_2 command next rest firmware phase =>
        cases stepped
        exact .sent phase
      case h_3 => cases stepped

/-! ## What the handshake hears -/

/-- The ack that `bring_up` awaits. -/
def isAck : Option (Status P) → Bool
  | some (.ack 0) => true
  | _ => false

def versionOf : Option (Status P) → Option FirmwareVersion
  | some (.fwVersion major minor patch) => some ⟨major, minor, patch⟩
  | _ => none

theorem awaited_eq (found : Bool × Option FirmwareVersion) (status : Option (Status P)) :
    awaited found status = (found.1 || isAck status, (versionOf status).or found.2) := by
  rcases found with ⟨gotAck, firmware⟩
  cases status with
  | none => simp [awaited, isAck, versionOf]
  | some status =>
      cases status with
      | ack code =>
          by_cases zero : code = 0
          · simp [awaited, isAck, versionOf, zero]
          · simp [awaited, isAck, versionOf, zero]
      | _ => simp [awaited, isAck, versionOf]

/-- Whether there was an ack, and the last version. -/
theorem foldl_awaited (statuses : List (Option (Status P))) :
    statuses.foldl awaited (false, none) =
      (statuses.any isAck, latest versionOf statuses) := by
  induction statuses using List.reverseRecOn with
  | nil => rfl
  | append_singleton statuses status induction =>
      rw [List.foldl_append, List.foldl_cons, List.foldl_nil, induction, awaited_eq,
        latest_snoc, List.any_append]
      simp

/-- The bytes that were read since the flush. -/
def bytesRead (history : List (Event P)) : List UInt8 :=
  (observed Event.arrivedOf history).flatten

def heard (history : List (Event P)) : List (Option (Status P)) :=
  (observed Event.heardOf history).flatten

def pumped (history : List (Event P)) : List (Option (Status P)) :=
  (observed Event.pumpedOf history).flatten

section

variable (event : Event P) (front back history : List (Event P))

@[simp] theorem bytesRead_append :
    bytesRead (front ++ back) = bytesRead front ++ bytesRead back := by
  rw [bytesRead, observed_append, List.flatten_append, bytesRead, bytesRead]

@[simp] theorem bytesRead_cons :
    bytesRead (event :: history) = event.arrivedOf.toList.flatten ++ bytesRead history := by
  rw [bytesRead, observed_cons, List.flatten_append, bytesRead]

@[simp] theorem bytesRead_nil : bytesRead ([] : List (Event P)) = [] := rfl

@[simp] theorem heard_append : heard (front ++ back) = heard front ++ heard back := by
  rw [heard, observed_append, List.flatten_append, heard, heard]

@[simp] theorem heard_cons :
    heard (event :: history) = event.heardOf.toList.flatten ++ heard history := by
  rw [heard, observed_cons, List.flatten_append, heard]

@[simp] theorem heard_nil : heard ([] : List (Event P)) = [] := rfl

@[simp] theorem pumped_append : pumped (front ++ back) = pumped front ++ pumped back := by
  rw [pumped, observed_append, List.flatten_append, pumped, pumped]

@[simp] theorem pumped_cons :
    pumped (event :: history) = event.pumpedOf.toList.flatten ++ pumped history := by
  rw [pumped, observed_cons, List.flatten_append, pumped]

@[simp] theorem pumped_nil : pumped ([] : List (Event P)) = [] := rfl

end

/-- What the handshake has found so far. -/
def found (history : List (Event P)) : Bool × Option FirmwareVersion :=
  (heard history).foldl awaited (false, none)

/-- What has happened where the driver is in this phase. -/
def Phase.Fits (history : List (Event P)) : Phase P → Prop
  | checking | sleeping .. =>
      bytesRead history = [] ∧ heard history = [] ∧ pumped history = [] ∧
        observed Event.concludedOf history = [] ∧ observed Event.sentOf history = [] ∧
        observed Event.reportedOf history = []
  | awaiting gotAck firmware _ _ =>
      (gotAck, firmware) = found history ∧ pumped history = [] ∧
        observed Event.concludedOf history = [] ∧ observed Event.sentOf history = [] ∧
        observed Event.reportedOf history = []
  | sending commands firmware =>
      firmware = (found history).2 ∧ pumped history = [] ∧
        observed Event.concludedOf history = [found history] ∧
        observed Event.sentOf history ++ commands = initSequence ∧ commands ≠ [] ∧
        observed Event.reportedOf history = []
  | running =>
      observed Event.concludedOf history = [found history] ∧
        observed Event.sentOf history = initSequence ∧
        observed Event.reportedOf history = (found history).2.toList

structure Hearing (state : State P) (history : List (Event P)) : Prop where
  scanned : ∃ frames : List Frame,
    frames.mapM Status.decode = some (heard history ++ pumped history) ∧
      frameRecognizer.drain (bytesRead history) =
        (frames.map Frame.message, state.decoder.contents)
  fits : state.phase.Fits history

theorem handshake_cases (now : Nat) (gotAck : Bool) (firmware : Option FirmwareVersion)
    (deadline : Nat) :
    ((handshake now gotAck firmware deadline : Phase P × List (Event P)) =
        (.awaiting gotAck firmware deadline (now + READ_TIMEOUT), []) ∧ now < deadline) ∨
      ((handshake now gotAck firmware deadline : Phase P × List (Event P)) =
        (.sending initSequence firmware, [.concluded gotAck firmware now]) ∧
          ((gotAck = true ∧ firmware.isSome = true) ∨ deadline ≤ now)) := by
  rw [handshake]
  split
  case isTrue waits =>
    simp only [Bool.and_eq_true, decide_eq_true_eq] at waits
    exact .inl ⟨rfl, waits.2⟩
  case isFalse stops =>
    refine .inr ⟨rfl, ?_⟩
    simp only [Bool.and_eq_true, Bool.not_eq_true', Bool.and_eq_false_iff,
      decide_eq_true_eq, not_and, Nat.not_lt] at stops
    cases gotAck with
    | false => exact .inr (stops (.inl rfl))
    | true =>
        cases firmware with
        | none => exact .inr (stops (.inr rfl))
        | some version => exact .inl ⟨rfl, rfl⟩

/-- A read goes on with the scan of what was read before. -/
theorem receive_scans {decoder next : Decoder} {bytes stream : List UInt8}
    {statuses : List (Option (Status P))} {messages : List (UInt8 × List UInt8)}
    (scanned : frameRecognizer.drain stream = (messages, decoder.contents))
    (short : bytes.length ≤ Decoder.READ_MAX)
    (received : receive decoder bytes = some (statuses, next)) :
    ∃ frames : List Frame, frames.mapM Status.decode = some statuses ∧
      frameRecognizer.drain (stream ++ bytes) =
        (messages ++ frames.map Frame.message, next.contents) := by
  have left := frameRecognizer.judge_drain stream
  rw [scanned] at left
  have room : decoder.len + bytes.length ≤ CAP := by
    have held := length_lt_of_starved left
    rw [Decoder.length_contents] at held
    simp only [FRAME_MAX, PAYLOAD_MAX, Decoder.READ_MAX, CAP] at *
    omega
  rcases Decoder.extend_spec decoder bytes room with ⟨filled, extends_, contents⟩
  rcases filled.popAll_drains with ⟨frames, emptied, pops, drains⟩
  simp only [receive, extends_, pops, Option.bind_eq_bind, Option.bind_some] at received
  rcases Option.bind_eq_some_iff.mp received with ⟨decoded, decodes, same⟩
  cases same
  refine ⟨frames, decodes, ?_⟩
  rw [frameRecognizer.drain_append, scanned, ← contents, drains]

section

variable {now deadline : Nat} {gotAck : Bool} {firmware : Option FirmwareVersion}

@[simp] theorem bytesRead_handshake :
    bytesRead (handshake now gotAck firmware deadline : Phase P × List (Event P)).2 = [] := by
  rcases handshake_cases (P := P) now gotAck firmware deadline with ⟨same, -⟩ | ⟨same, -⟩ <;>
    simp [same]

@[simp] theorem heard_handshake :
    heard (handshake now gotAck firmware deadline : Phase P × List (Event P)).2 = [] := by
  rcases handshake_cases (P := P) now gotAck firmware deadline with ⟨same, -⟩ | ⟨same, -⟩ <;>
    simp [same]

@[simp] theorem pumped_handshake :
    pumped (handshake now gotAck firmware deadline : Phase P × List (Event P)).2 = [] := by
  rcases handshake_cases (P := P) now gotAck firmware deadline with ⟨same, -⟩ | ⟨same, -⟩ <;>
    simp [same]

/-- The history after a loop of the handshake fits its next phase. -/
theorem handshake_hears {history : List (Event P)}
    (finds : (gotAck, firmware) = found history) (notPumped : pumped history = [])
    (unconcluded : observed Event.concludedOf history = [])
    (unsent : observed Event.sentOf history = [])
    (unreported : observed Event.reportedOf history = []) :
    (handshake now gotAck firmware deadline : Phase P × List (Event P)).1.Fits
      (history ++ (handshake now gotAck firmware deadline).2) := by
  rcases handshake_cases (P := P) now gotAck firmware deadline with ⟨same, -⟩ | ⟨same, -⟩
  · rw [same, List.append_nil]
    exact ⟨finds, notPumped, unconcluded, unsent, unreported⟩
  · have still : found (history ++ [.concluded gotAck firmware now]) = (gotAck, firmware) := by
      simp [finds, found]
    rw [same]
    refine ⟨by rw [still], ?_, ?_, ?_, nofun, ?_⟩
    · simpa using notPumped
    · simp [unconcluded, still]
    · simp [unsent]
    · simpa using unreported

end

theorem hearing {state : State P} {history : List (Event P)}
    (reached : (bringUp P).Reached state history) : Hearing state history := by
  apply Machine.Reached.induction Hearing ?start ?preserved reached
  case start =>
    exact ⟨⟨[], rfl, frameRecognizer.drain_nil⟩, rfl, rfl, rfl, rfl, rfl, rfl⟩
  case preserved =>
    intro state history action next events _ holds stepped
    rcases holds with ⟨⟨frames, decodes, scanned⟩, fits⟩
    cases step_shape stepped with
    | elapsed =>
        rw [List.append_nil]
        exact ⟨⟨frames, decodes, scanned⟩, fits⟩
    | low phase | polled phase =>
        rw [phase] at fits
        rw [List.append_nil]
        exact ⟨⟨frames, decodes, scanned⟩, fits⟩
    | high phase | released phase =>
        rw [phase] at fits
        refine ⟨⟨frames, by simpa using decodes, by simpa using scanned⟩, ?_⟩
        simpa [Phase.Fits] using fits
    | @flushed wake deadline phase due sum =>
        rw [phase] at fits
        rcases fits with ⟨read, unheard, notPumped, unconcluded, unsent, unreported⟩
        refine ⟨⟨[], by simp [unheard, notPumped], by simp [read]⟩, ?_⟩
        rw [List.append_cons]
        apply handshake_hears
        · simp [found, unheard]
        · simpa using notPumped
        · simpa using unconcluded
        · simpa using unsent
        · simpa using unreported
    | @heard bytes gotAck firmware deadline timeout statuses decoder next phase short received
        folds =>
        rw [phase] at fits
        rcases fits with ⟨finds, notPumped, unconcluded, unsent, unreported⟩
        rcases receive_scans scanned short received with ⟨more, decodesMore, scans⟩
        rw [notPumped, List.append_nil] at decodes
        refine ⟨⟨frames ++ more, ?_, ?_⟩, ?_⟩
        · simp [notPumped, decodes, decodesMore]
        · simpa using scans
        · rw [List.append_cons, List.append_cons]
          apply handshake_hears
          · rw [folds, finds]
            simp [found]
          · simpa using notPumped
          · simpa using unconcluded
          · simpa using unsent
          · simpa using unreported
    | @retried action gotAck firmware deadline timeout phase =>
        rw [phase] at fits
        rcases fits with ⟨finds, notPumped, unconcluded, unsent, unreported⟩
        refine ⟨⟨frames, by simpa using decodes, by simpa using scanned⟩, ?_⟩
        exact handshake_hears finds notPumped unconcluded unsent unreported
    | sent phase =>
        rw [phase] at fits
        rcases fits with ⟨version, notPumped, concluded, sent, -, unreported⟩
        refine ⟨⟨frames, by simpa using decodes, by simpa using scanned⟩, ?_⟩
        refine ⟨?_, ?_, ?_, ?_, nofun, ?_⟩
        · simpa [found] using version
        · simpa using notPumped
        · simpa [found] using concluded
        · simpa using sent
        · simpa using unreported
    | @finished command firmware phase =>
        rw [phase] at fits
        rcases fits with ⟨version, notPumped, concluded, sent, -, unreported⟩
        have same : found (history ++ .sent command :: (firmware.map .reported).toList) =
            found history := by
          cases firmware <;> simp [found]
        refine ⟨⟨frames, ?_, ?_⟩, ?_, ?_, ?_⟩
        · cases firmware <;> simpa using decodes
        · cases firmware <;> simpa using scanned
        · rw [same, ← concluded]
          cases firmware <;> simp
        · rw [← sent]
          cases firmware <;> simp
        · rw [same, ← version]
          cases firmware <;> simp [unreported]
    | @pumped bytes statuses decoder phase short received =>
        rcases receive_scans scanned short received with ⟨more, decodesMore, scans⟩
        refine ⟨⟨frames ++ more, ?_, by simpa using scans⟩, ?_⟩
        · simp [decodes, decodesMore]
        · rw [phase] at fits ⊢
          simpa [Phase.Fits, found] using fits
    | idle phase =>
        rw [List.append_nil]
        exact ⟨⟨frames, decodes, scanned⟩, fits⟩

/-- The main loop decodes only after the init commands. -/
theorem pumped_emitted {state next : State P} {action : Action} {front back : List (Event P)}
    {statuses : List (Option (Status P))}
    (shape : Step state action next (front ++ .pumped statuses :: back)) :
    state.phase = .running ∧ ∃ bytes, front = [.arrived bytes] := by
  generalize produced : front ++ Event.pumped statuses :: back = events at shape
  have member : .pumped statuses ∈ events := by simp [← produced]
  have unpumped : ∀ {now gotAck firmware deadline}, .pumped statuses ∉
      (handshake now gotAck firmware deadline : Phase P × List (Event P)).2 := by
    intro now gotAck firmware deadline
    rcases handshake_cases (P := P) now gotAck firmware deadline with ⟨same, -⟩ | ⟨same, -⟩ <;>
      simp [same]
  cases shape with
  | @pumped bytes _ _ phase =>
      refine ⟨phase, bytes, ?_⟩
      match front with
      | [] => simp at produced
      | [first] => simp_all
      | first :: second :: rest => simp at produced
  | flushed => simp [unpumped] at member
  | heard => simp [unpumped] at member
  | retried => exact (unpumped member).elim
  | finished => simp at member
  | elapsed | low | polled | idle => cases member
  | high | released | sent => simp at member

/-- The init commands that are still to be sent, and what comes with the last of them. -/
theorem Phase.Fits.sends {phase : Phase P} {history : List (Event P)}
    (fits : phase.Fits history) :
    ∃ rest, observed Event.sentOf history ++ rest = initSequence ∧
      observed Event.reportedOf history =
        if rest = [] then (found history).2.toList else [] := by
  cases phase with
  | checking | sleeping =>
      rcases fits with ⟨-, -, -, -, sent, reported⟩
      exact ⟨initSequence, by rw [sent, List.nil_append], reported⟩
  | awaiting =>
      rcases fits with ⟨-, -, -, sent, reported⟩
      exact ⟨initSequence, by rw [sent, List.nil_append], reported⟩
  | sending commands firmware =>
      rcases fits with ⟨-, -, -, sent, unfinished, reported⟩
      exact ⟨commands, sent, by rw [if_neg unfinished, reported]⟩
  | running =>
      rcases fits with ⟨-, sent, reported⟩
      exact ⟨[], by rw [sent, List.append_nil], reported⟩

theorem Phase.Fits.concludes {phase : Phase P} {history : List (Event P)}
    (fits : phase.Fits history) :
    ∀ pair ∈ observed Event.concludedOf history, pair = found history := by
  have none : observed Event.concludedOf history = [] →
      ∀ pair ∈ observed Event.concludedOf history, pair = found history := by
    intro empty pair member
    rw [empty] at member
    cases member
  have one : observed Event.concludedOf history = [found history] →
      ∀ pair ∈ observed Event.concludedOf history, pair = found history := by
    intro single pair member
    rw [single] at member
    exact List.mem_singleton.mp member
  cases phase with
  | checking | sleeping => exact none fits.2.2.2.1
  | awaiting => exact none fits.2.2.1
  | sending => exact one fits.2.2.1
  | running => exact one fits.1

/-- What `bring_up` and the main loop decode is what the line says, and what `bring_up`
concludes, sends and reports is what it heard. -/
structure BroughtUp (history : List (Event P)) : Prop where
  scanned : ∃ frames : List Frame,
    frames.map Frame.message = (referenceScan (bytesRead history) 0).1.map Prod.snd ∧
      frames.mapM Status.decode = some (heard history ++ pumped history)
  concluded : ∀ gotAck firmware time, .concluded gotAck firmware time ∈ history →
    gotAck = (heard history).any isAck ∧ firmware = latest versionOf (heard history)
  sent : observed Event.sentOf history <+: initSequence
  reported : observed Event.sentOf history = initSequence →
    observed Event.reportedOf history = (latest versionOf (heard history)).toList
  unreported : observed Event.sentOf history ≠ initSequence →
    observed Event.reportedOf history = []
  pumps : ∀ before statuses after, history = before ++ .pumped statuses :: after →
    observed Event.sentOf before = initSequence

theorem brought_up {state : State P} {history : List (Event P)}
    (reached : (bringUp P).Reached state history) : BroughtUp history := by
  have holds := hearing reached
  have fits := holds.fits
  rcases fits.sends with ⟨rest, sends, reports⟩
  have finds : found history =
      ((heard history).any isAck, latest versionOf (heard history)) :=
    foldl_awaited _
  constructor
  · rcases holds.scanned with ⟨frames, decodes, drains⟩
    have scanned := frameRecognizer.drain_drop_eq_scanFrom (bytesRead history) 0
    rw [List.drop_zero, drains, Prod.mk.injEq] at scanned
    exact ⟨frames, scanned.1, decodes⟩
  · intro gotAck firmware time member
    have same := fits.concludes _ ((mem_observed _).mpr ⟨_, member, rfl⟩)
    rw [finds, Prod.mk.injEq] at same
    exact same
  · exact ⟨rest, sends⟩
  · intro complete
    rw [complete] at sends
    rw [reports, if_pos (List.append_right_eq_self.mp sends), finds]
  · intro incomplete
    rw [reports, if_neg]
    rintro rfl
    exact incomplete (by rw [← sends, List.append_nil])
  · intro before statuses after split
    rcases reached.emitted split with
      ⟨source, prior, action, next, front, back, reachedSource, stepped, rfl⟩
    rcases pumped_emitted (step_shape stepped) with ⟨running, bytes, rfl⟩
    have fitsSource := (hearing reachedSource).fits
    rw [running] at fitsSource
    simpa using fitsSource.2.1

/-- The robot answers with a version twice, and its last frame comes in two parts. -/
def answering : List Action :=
  [.power true, .elapse POLL, .wake, .elapse POLL, .wake,
    .read (frameBytes 0x7E [1, 0, 0] ++ (frameBytes 0x78 [0]).take 2), .failed,
    .read ((frameBytes 0x78 [0]).drop 2 ++ frameBytes 0x7E [1, 1, 1] ++ [START, 2]),
    .written, .written, .written, .written, .read ((frameBytes 0x74 [3]).drop 2)]

theorem brought_up_answering :
    ∃ (state : State Quantities.wire) (history : List (Event Quantities.wire)),
      (bringUp Quantities.wire).run answering = some (state, history) ∧ BroughtUp history ∧
      (pumped history).length = 1 ∧
      (observed Event.reportedOf history).map (fun version =>
        [version.major, version.minor, version.patch]) = [[1, 1, 1]] := by
  have shown : ((bringUp Quantities.wire).run answering).map (fun last =>
      decide ((pumped last.2).length = 1 ∧
        (observed Event.reportedOf last.2).map (fun version =>
          [version.major, version.minor, version.patch]) = [[1, 1, 1]])) = some true := by
    decide +kernel
  rcases Option.map_eq_some_iff.mp shown with ⟨⟨state, history⟩, ran, seen⟩
  exact ⟨state, history, ran, brought_up ⟨answering, ran⟩, of_decide_eq_true seen⟩

/-! ## How long it takes -/

/-- The reset line was pulled or released at least a tenth of a second before. -/
def Settled (history : List (Event P)) (high : Bool) (time : Nat) : Prop :=
  ∃ before, .reset high before ∈ history ∧ before + POLL ≤ time

/-- The handshake of this deadline began with the flush. -/
def Began (history : List (Event P)) (deadline : Nat) : Prop :=
  ∃ time, .flushed time ∈ history ∧ deadline = time + HANDSHAKE

/-- What the timers of a phase were set by. -/
def Phase.Timed (history : List (Event P)) : Phase P → Prop
  | sleeping wake .releaseReset => Settled history false wake
  | sleeping wake .flushUart => Settled history true wake
  | awaiting _ _ deadline timeout =>
      Began history deadline ∧ timeout < deadline + READ_TIMEOUT
  | _ => True

/-- The reset pulse and the time after it are long enough, and the handshake is given up
only once its time is over. -/
structure Paced (history : List (Event P)) : Prop where
  released : ∀ time, .reset true time ∈ history → Settled history false time
  flushed : ∀ time, .flushed time ∈ history → Settled history true time
  patient : ∀ gotAck firmware time, .concluded gotAck firmware time ∈ history →
    (gotAck = true ∧ firmware.isSome = true) ∨
      ∃ deadline, Began history deadline ∧ deadline ≤ time

theorem Settled.later {history : List (Event P)} {high : Bool} {time after : Nat}
    (settled : Settled history high time) (later : time ≤ after) (events : List (Event P)) :
    Settled (history ++ events) high after := by
  rcases settled with ⟨before, member, passed⟩
  exact ⟨before, List.mem_append_left _ member, Nat.le_trans passed later⟩

theorem Began.later {history : List (Event P)} {deadline : Nat}
    (began : Began history deadline) (events : List (Event P)) :
    Began (history ++ events) deadline := by
  rcases began with ⟨time, member, sum⟩
  exact ⟨time, List.mem_append_left _ member, sum⟩

theorem Paced.append {history events : List (Event P)} (paced : Paced history)
    (released : ∀ time, .reset true time ∈ events → Settled (history ++ events) false time)
    (flushed : ∀ time, .flushed time ∈ events → Settled (history ++ events) true time)
    (patient : ∀ gotAck firmware time, .concluded gotAck firmware time ∈ events →
      (gotAck = true ∧ firmware.isSome = true) ∨
        ∃ deadline, Began (history ++ events) deadline ∧ deadline ≤ time) :
    Paced (history ++ events) := by
  constructor
  · intro time member
    rcases List.mem_append.mp member with earlier | now
    · exact (paced.released time earlier).later (Nat.le_refl _) _
    · exact released time now
  · intro time member
    rcases List.mem_append.mp member with earlier | now
    · exact (paced.flushed time earlier).later (Nat.le_refl _) _
    · exact flushed time now
  · intro gotAck firmware time member
    rcases List.mem_append.mp member with earlier | now
    · rcases paced.patient _ _ time earlier with both | ⟨deadline, began, passed⟩
      · exact .inl both
      · exact .inr ⟨deadline, began.later _, passed⟩
    · exact patient _ _ time now

theorem handshake_paced {history : List (Event P)} {deadline : Nat}
    (paced : Paced history) (began : Began history deadline) (now : Nat) (gotAck : Bool)
    (firmware : Option FirmwareVersion) :
    Paced (history ++ (handshake now gotAck firmware deadline).2) ∧
      (handshake now gotAck firmware deadline : Phase P × List (Event P)).1.Timed
        (history ++ (handshake now gotAck firmware deadline).2) := by
  rcases handshake_cases (P := P) now gotAck firmware deadline with
    ⟨same, early⟩ | ⟨same, ends⟩
  · rw [same, List.append_nil]
    exact ⟨paced, began, Nat.add_lt_add_right early _⟩
  · rw [same]
    refine ⟨paced.append (by simp) (by simp) ?_, trivial⟩
    intro gotAck' firmware' time member
    cases List.mem_singleton.mp member
    exact ends.imp_right fun late => ⟨deadline, began.later _, late⟩

theorem paced {state : State P} {history : List (Event P)}
    (reached : (bringUp P).Reached state history) :
    Paced history ∧ state.phase.Timed history := by
  apply Machine.Reached.induction
    (fun state history => Paced history ∧ state.phase.Timed history) ?start ?preserved reached
  case start => exact ⟨⟨nofun, nofun, nofun⟩, trivial⟩
  case preserved =>
    intro state history action next events _ holds stepped
    rcases holds with ⟨paced, timed⟩
    cases step_shape stepped with
    | elapsed | idle =>
        rw [List.append_nil]
        exact ⟨paced, timed⟩
    | low | polled =>
        rw [List.append_nil]
        exact ⟨paced, trivial⟩
    | high phase =>
        exact ⟨paced.append (by simp) (by simp) (by simp), state.now,
          List.mem_append_right _ List.mem_cons_self, Nat.le_refl _⟩
    | released phase due =>
        rw [phase] at timed
        refine ⟨paced.append ?_ (by simp) (by simp), state.now,
          List.mem_append_right _ List.mem_cons_self, Nat.le_refl _⟩
        intro time member
        cases List.mem_singleton.mp member
        exact timed.later due _
    | @flushed wake deadline phase due sum =>
        rw [phase] at timed
        rw [List.append_cons]
        apply handshake_paced
        · apply paced.append (by simp) ?_ (by simp)
          intro time member
          cases List.mem_singleton.mp member
          exact timed.later due _
        · exact ⟨state.now, List.mem_append_right _ List.mem_cons_self, sum⟩
    | @heard bytes gotAck firmware deadline timeout statuses decoder found phase =>
        rw [phase] at timed
        rw [List.append_cons, List.append_cons]
        have silent : Paced (history ++ [.arrived bytes] ++ [.heard statuses]) :=
          (paced.append (by simp) (by simp) (by simp)).append (by simp) (by simp) (by simp)
        exact handshake_paced silent ((timed.1.later _).later _) _ _ _
    | retried phase =>
        rw [phase] at timed
        exact handshake_paced paced timed.1 _ _ _
    | sent => exact ⟨paced.append (by simp) (by simp) (by simp), trivial⟩
    | finished => exact ⟨paced.append (by simp) (by simp) (by simp), trivial⟩
    | pumped phase =>
        refine ⟨paced.append (by simp) (by simp) (by simp), ?_⟩
        rw [phase]
        trivial

/-- No time passes beyond the timeout of a read that has not come. -/
def Prompt (state : State P) : Action → Prop
  | .elapse micros =>
      match state.phase with
      | .awaiting _ _ _ timeout => state.now + micros ≤ timeout
      | _ => True
  | _ => True

instance (state : State P) : ∀ action, Decidable (Prompt state action)
  | .elapse micros =>
      match phase : state.phase with
      | .awaiting _ _ _ timeout =>
          decidable_of_iff (state.now + micros ≤ timeout) (by simp [Prompt, phase])
      | .checking | .sleeping .. | .sending .. | .running =>
          .isTrue (by simp [Prompt, phase])
  | .power _ | .wake | .read _ | .failed | .timedOut | .written => .isTrue trivial

/-- The handshake is over at most one timeout after its deadline. -/
def Brief (history : List (Event P)) : Prop :=
  ∀ gotAck firmware time, .concluded gotAck firmware time ∈ history →
    ∃ deadline, Began history deadline ∧ time < deadline + READ_TIMEOUT

theorem Brief.append {history events : List (Event P)} (brief : Brief history)
    (now : ∀ gotAck firmware time, .concluded gotAck firmware time ∈ events →
      ∃ deadline, Began (history ++ events) deadline ∧ time < deadline + READ_TIMEOUT) :
    Brief (history ++ events) := by
  intro gotAck firmware time member
  rcases List.mem_append.mp member with earlier | added
  · rcases brief _ _ time earlier with ⟨deadline, began, passed⟩
    exact ⟨deadline, began.later _, passed⟩
  · exact now _ _ time added

/-- The robot has power but says nothing. -/
def silent : List Action :=
  [.power true, .elapse POLL, .wake, .elapse POLL, .wake] ++
    (List.replicate 10 [.elapse READ_TIMEOUT, .timedOut]).flatten

end BringUp

end BeetEsp.Alvik
