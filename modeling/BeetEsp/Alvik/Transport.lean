import BeetEsp.Alvik.Systems
import BeetEsp.Foundation.BoundedQueue
import BeetEsp.Foundation.Machine

/-! # The command path from the components to the wire

The ECS sends commands into the bounded queue `ALVIK_OUT`; the driver task takes
them out one at a time and writes their frames to the UART. ECS actions and
driver actions interleave in any order.
-/

namespace BeetEsp.Alvik

open Foundation

variable {P : Quantities}

/-- `ALVIK_OUT`. -/
abbrev AlvikOut (P : Quantities) := BoundedQueue (Command P) 16

namespace Transport

inductive Event (P : Quantities)
  | accepted (command : Command P)
  | rejected (command : Command P)
  /-- `frame` was handed to the UART, which put `written` on the wire. -/
  | transmitted (command : Command P) (frame written : List UInt8)

def Event.acceptedOf : Event P → Option (Command P)
  | accepted command => some command
  | _ => none

def Event.transmittedOf : Event P → Option (Command P)
  | transmitted command _ _ => some command
  | _ => none

def Event.frame : Event P → List UInt8
  | transmitted _ frame _ => frame
  | _ => []

def Event.written : Event P → List UInt8
  | transmitted _ _ written => written
  | _ => []

/-- The commands `ALVIK_OUT` accepted, in order. -/
def accepted (history : List (Event P)) : List (Command P) :=
  history.filterMap Event.acceptedOf

/-- The commands the driver transmitted, in order. -/
def transmitted (history : List (Event P)) : List (Command P) :=
  history.filterMap Event.transmittedOf

/-- The concatenated frames the driver encoded. -/
def frames (history : List (Event P)) : List UInt8 :=
  history.flatMap Event.frame

/-- The bytes on the wire. -/
def wire (history : List (Event P)) : List UInt8 :=
  history.flatMap Event.written

@[simp] theorem accepted_append (front back : List (Event P)) :
    accepted (front ++ back) = accepted front ++ accepted back :=
  List.filterMap_append

@[simp] theorem transmitted_append (front back : List (Event P)) :
    transmitted (front ++ back) = transmitted front ++ transmitted back :=
  List.filterMap_append

@[simp] theorem frames_append (front back : List (Event P)) :
    frames (front ++ back) = frames front ++ frames back :=
  List.flatMap_append

@[simp] theorem wire_append (front back : List (Event P)) :
    wire (front ++ back) = wire front ++ wire back :=
  List.flatMap_append

/-- Send commands one after another; a full queue drops each one it rejects. -/
def sendEach (out : AlvikOut P) : List (Command P) → AlvikOut P × List (Event P)
  | [] => (out, [])
  | command :: commands =>
      match out.trySend command with
      | .ok next =>
          let (final, events) := sendEach next commands
          (final, .accepted command :: events)
      | .error returned =>
          let (final, events) := sendEach out commands
          (final, .rejected returned :: events)

/-! ## The driver task -/

inductive Phase (P : Quantities)
  /-- `bring_up` before its init commands. -/
  | bringUp
  /-- In `send`, with the init commands `bring_up` sends after this one. -/
  | sending (command : Command P) (rest : List (Command P))
  /-- At the `select` of the main loop. -/
  | idle

structure AlvikDriver (P : Quantities) where
  phase : Phase P
  encoder : Encoder

/-- Illuminator on, behaviors 1 & 2, servos centred. -/
def initSequence : List (Command P) :=
  [.setLeds 0b00000010, .setBehavior 1, .setBehavior 2, .setServo 90 90]

/-- Start sending the first of the commands, or go to the main loop. -/
def Phase.next : List (Command P) → Phase P
  | [] => .idle
  | command :: rest => .sending command rest

inductive DriverAction
  /-- The robot has power and the handshake is over. -/
  | handshake
  /-- `ALVIK_OUT.recv()` wins the `select`. -/
  | receive
  /-- The `write_async` in `send` returned `Ok(count)`. -/
  | written (count : Nat)

/-- The driver's side. A write of a frame puts between one byte and all of it
on the wire, and the driver goes on whatever the count is. -/
def AlvikDriver.step (driver : AlvikDriver P) (out : AlvikOut P) :
    DriverAction → Option ((AlvikDriver P × AlvikOut P) × List (Event P))
  | .handshake =>
      match driver.phase with
      | .bringUp => some (({ driver with phase := .next initSequence }, out), [])
      | _ => none
  | .receive =>
      match driver.phase with
      | .idle =>
          out.tryReceive.map fun (command, rest) =>
            (({ driver with phase := .sending command [] }, rest), [])
      | _ => none
  | .written count =>
      match driver.phase with
      | .sending command rest =>
          let (encoder, frame) := command.encode driver.encoder
          if 1 ≤ count ∧ count ≤ frame.length then
            some ((({ phase := .next rest, encoder }, out)),
              [.transmitted command frame (frame.take count)])
          else
            none
      | _ => none

/-! ## The whole path -/

structure State (P : Quantities) where
  ecs : Ecs P
  alvikOut : AlvikOut P
  driver : AlvikDriver P

inductive Action (P : Quantities)
  | ecs (action : EcsAction P)
  | driver (action : DriverAction)

end Transport

open Transport in
/-- The robot has just been spawned and the driver task has just started. -/
def transport (P : Quantities) : Machine (State P) (Action P) (Event P) where
  initial := {
    ecs := .spawned P
    alvikOut := .empty
    driver := { phase := .bringUp, encoder := .new } }
  step state
    | .ecs action =>
        let (ecs, commands) := state.ecs.perform action
        let (alvikOut, events) := sendEach state.alvikOut commands
        some ({ state with ecs, alvikOut }, events)
    | .driver action =>
        (state.driver.step state.alvikOut action).map
          fun ((driver, alvikOut), events) => ({ state with driver, alvikOut }, events)

namespace Transport

/-! ## Sends -/

theorem transmitted_sendEach (out : AlvikOut P) (commands : List (Command P)) :
    transmitted (sendEach out commands).2 = [] := by
  induction commands generalizing out with
  | nil => rfl
  | cons command commands induction =>
      rw [sendEach]
      cases out.trySend command with
      | ok next => exact induction next
      | error returned => exact induction out

/-- The queue grows by exactly what it accepts, in order. -/
theorem items_sendEach (out : AlvikOut P) (commands : List (Command P)) :
    (sendEach out commands).1.items = out.items ++ accepted (sendEach out commands).2 := by
  induction commands generalizing out with
  | nil => exact (List.append_nil _).symm
  | cons command commands induction =>
      rw [sendEach]
      cases sent : out.trySend command with
      | ok next =>
          change (sendEach next commands).1.items =
            out.items ++ command :: accepted (sendEach next commands).2
          rw [induction next, (BoundedQueue.trySend_eq_ok sent).2, List.append_assoc,
            List.singleton_append]
      | error returned => exact induction out

/-- With room for all of them, all are accepted. -/
theorem accepted_sendEach_of_room {out : AlvikOut P} {commands : List (Command P)}
    (room : out.items.length + commands.length ≤ 16) :
    accepted (sendEach out commands).2 = commands := by
  induction commands generalizing out with
  | nil => rfl
  | cons command commands induction =>
      rw [List.length_cons] at room
      rcases BoundedQueue.trySend_of_room
        (show out.items.length < 16 by omega) command with ⟨next, sent, items⟩
      have roomNext : next.items.length + commands.length ≤ 16 := by
        rw [items, List.length_append, List.length_singleton]
        omega
      rw [sendEach, sent]
      exact congrArg (command :: ·) (induction roomNext)

/-- What is accepted is among what was sent. -/
theorem mem_of_mem_accepted_sendEach {out : AlvikOut P}
    {commands : List (Command P)} {command : Command P}
    (member : command ∈ accepted (sendEach out commands).2) : command ∈ commands := by
  induction commands generalizing out with
  | nil => exact member
  | cons first commands induction =>
      rw [sendEach] at member
      cases sent : out.trySend first with
      | ok next =>
          simp only [sent] at member
          rcases List.mem_cons.mp member with rfl | later
          · exact List.mem_cons_self ..
          · exact List.mem_cons_of_mem _ (induction later)
      | error returned =>
          simp only [sent] at member
          exact List.mem_cons_of_mem _ (induction member)

/-! ## Driver steps -/

/-- What a driver step can do, one constructor for each action. -/
inductive DriverStep : AlvikDriver P → AlvikOut P → DriverAction →
    AlvikDriver P → AlvikOut P → List (Event P) → Prop
  | handshake {encoder out} :
      DriverStep ⟨.bringUp, encoder⟩ out .handshake
        ⟨.next initSequence, encoder⟩ out []
  | receive {encoder out rest command} (taken : out.items = command :: rest.items) :
      DriverStep ⟨.idle, encoder⟩ out .receive ⟨.sending command [], encoder⟩ rest []
  | written {encoder out command rest count} (positive : 1 ≤ count)
      (within : count ≤ command.bytes.length) :
      DriverStep ⟨.sending command rest, encoder⟩ out (.written count)
        ⟨.next rest, (command.encode encoder).1⟩ out
        [.transmitted command command.bytes (command.bytes.take count)]

theorem AlvikDriver.step_shape {driver next : AlvikDriver P} {out rest : AlvikOut P}
    {action : DriverAction} {events : List (Event P)}
    (stepped : driver.step out action = some ((next, rest), events)) :
    DriverStep driver out action next rest events := by
  rcases driver with ⟨phase, encoder⟩
  cases action with
  | handshake =>
      cases phase with
      | bringUp =>
          cases stepped
          exact .handshake
      | sending command commands => cases stepped
      | idle => cases stepped
  | receive =>
      cases phase with
      | bringUp => cases stepped
      | sending command commands => cases stepped
      | idle =>
          simp only [AlvikDriver.step, Option.map_eq_some_iff] at stepped
          rcases stepped with ⟨⟨command, remaining⟩, taken, equal⟩
          cases equal
          exact .receive (BoundedQueue.tryReceive_eq_some taken)
  | written count =>
      cases phase with
      | bringUp => cases stepped
      | idle => cases stepped
      | sending command commands =>
          simp only [AlvikDriver.step, Command.encode_bytes] at stepped
          split at stepped
          case isTrue contract =>
            cases stepped
            exact .written contract.1 contract.2
          case isFalse => cases stepped

theorem accepted_of_driverStep {driver next : AlvikDriver P} {out rest : AlvikOut P}
    {action : DriverAction} {events : List (Event P)}
    (shape : DriverStep driver out action next rest events) : accepted events = [] := by
  cases shape <;> rfl

/-- A step of the whole path is one on either side. -/
theorem step_cases {state next : State P} {action : Action P}
    {events : List (Event P)}
    (stepped : (transport P).step state action = some (next, events)) :
    (∃ ecsAction, action = .ecs ecsAction ∧
      next.ecs = (state.ecs.perform ecsAction).1 ∧
      next.alvikOut = (sendEach state.alvikOut (state.ecs.perform ecsAction).2).1 ∧
      events = (sendEach state.alvikOut (state.ecs.perform ecsAction).2).2 ∧
      next.driver = state.driver) ∨
    (∃ driverAction, action = .driver driverAction ∧ next.ecs = state.ecs ∧
      DriverStep state.driver state.alvikOut driverAction next.driver next.alvikOut
        events) := by
  cases action with
  | ecs action =>
      cases stepped
      exact .inl ⟨action, rfl, rfl, rfl, rfl, rfl⟩
  | driver action =>
      simp only [transport, Option.map_eq_some_iff] at stepped
      rcases stepped with ⟨⟨⟨driver, out⟩, produced⟩, driverStepped, equal⟩
      cases equal
      exact .inr ⟨action, rfl, rfl, AlvikDriver.step_shape driverStepped⟩

/-! ## The pipeline

Between the queue and the wire nothing is lost, duplicated or reordered. -/

def Phase.inFlight : Phase P → List (Command P)
  | .bringUp => []
  | .sending command rest => command :: rest
  | .idle => []

/-- The commands the driver sends on its own account. -/
def Phase.ownCommands : Phase P → List (Command P)
  | .bringUp => []
  | .sending _ _ => initSequence
  | .idle => initSequence

@[simp] theorem Phase.inFlight_next (commands : List (Command P)) :
    (Phase.next commands).inFlight = commands := by
  cases commands <;> rfl

@[simp] theorem Phase.ownCommands_next (commands : List (Command P)) :
    (Phase.next commands).ownCommands = initSequence := by
  cases commands <;> rfl

theorem Phase.next_ne_bringUp (commands : List (Command P)) :
    Phase.next commands ≠ .bringUp := by
  cases commands <;> exact nofun

/-- Everything transmitted, in flight and queued, in this order, is what the
driver sends on its own account and what the queue accepted. -/
structure Conserved (state : State P) (history : List (Event P)) : Prop where
  silent : state.driver.phase = .bringUp → transmitted history = []
  pipeline : transmitted history ++ state.driver.phase.inFlight ++
    state.alvikOut.items = state.driver.phase.ownCommands ++ accepted history

private theorem conserved_driver {ecs : Ecs P} {out rest : AlvikOut P}
    {driver next : AlvikDriver P} {action : DriverAction}
    {history events : List (Event P)}
    (shape : DriverStep driver out action next rest events)
    (holds : Conserved ⟨ecs, out, driver⟩ history) :
    Conserved ⟨ecs, rest, next⟩ (history ++ events) := by
  rcases holds with ⟨silent, pipeline⟩
  cases shape with
  | handshake =>
      have nothing := silent rfl
      constructor
      · exact fun atStart => nomatch atStart
      · rw [nothing] at pipeline
        rw [List.append_nil, nothing, Phase.inFlight_next, Phase.ownCommands_next]
        exact congrArg (initSequence ++ ·) pipeline
  | receive taken =>
      constructor
      · exact nofun
      · simpa [taken, Phase.inFlight, Phase.ownCommands] using pipeline
  | @written encoder out command commands count positive within =>
      constructor
      · exact fun atStart => absurd atStart (Phase.next_ne_bringUp commands)
      · have sent : transmitted [Event.transmitted command command.bytes
            (command.bytes.take count)] = [command] := rfl
        have queued : accepted [Event.transmitted command command.bytes
            (command.bytes.take count)] = [] := rfl
        rw [transmitted_append, accepted_append, sent, queued,
          Phase.inFlight_next, Phase.ownCommands_next, List.append_nil]
        simpa [Phase.inFlight, Phase.ownCommands] using pipeline

private theorem conserved_ecs {state : State P} {history : List (Event P)}
    (commands : List (Command P)) (ecs : Ecs P) (holds : Conserved state history) :
    Conserved ⟨ecs, (sendEach state.alvikOut commands).1, state.driver⟩
      (history ++ (sendEach state.alvikOut commands).2) := by
  have nothing := transmitted_sendEach state.alvikOut commands
  constructor
  · intro atStart
    rw [transmitted_append, holds.silent atStart, nothing, List.append_nil]
  · rw [items_sendEach, transmitted_append, accepted_append, nothing,
      List.append_nil, ← List.append_assoc, holds.pipeline, List.append_assoc]

theorem conserved {state : State P} {history : List (Event P)}
    (reached : (transport P).Reached state history) : Conserved state history := by
  apply Machine.Reached.induction _ ?start ?preserved reached
  case start => exact ⟨fun _ => rfl, rfl⟩
  case preserved =>
    intro state history action next events _ holds stepped
    rcases next with ⟨ecs, out, driver⟩
    rcases step_cases stepped with
      ⟨ecsAction, -, rfl, rfl, rfl, rfl⟩ | ⟨driverAction, -, rfl, shape⟩
    · exact conserved_ecs _ _ holds
    · exact conserved_driver shape holds

/-- Once the queue is empty and the driver is back at its main loop, the wire
has carried bring-up's own commands and then every accepted one. -/
theorem transmitted_of_drained {state : State P} {history : List (Event P)}
    (reached : (transport P).Reached state history)
    (empty : state.alvikOut.items = []) (idle : state.driver.phase = .idle) :
    transmitted history = initSequence ++ accepted history := by
  have pipeline := (conserved reached).pipeline
  rw [empty, idle] at pipeline
  simpa [Phase.inFlight, Phase.ownCommands] using pipeline

end Transport

end BeetEsp.Alvik
