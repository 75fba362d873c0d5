import BeetEsp.Alvik.Events
import BeetEsp.Alvik.Sensors
import BeetEsp.Foundation.BoundedQueue
import BeetEsp.Foundation.Machine

/-! # The status path from the decoder to the components

The driver task folds continuous messages into its snapshot and publishes it on
`ALVIK_STATE`, and puts discrete messages into the bounded queue `ALVIK_EVENTS`.
Every frame `apply_status` takes the snapshot, drains the queue onto the
components, and `detect_events` compares them with the last frame. Messages and
frames interleave in any order.
-/

namespace BeetEsp.Alvik

open Foundation

variable {P : Quantities} {R : Readouts P}

namespace StatusPath

/-- `ALVIK_EVENTS`. -/
abbrev AlvikEvents (P : Quantities) := BoundedQueue (Status P) 32

structure State (R : Readouts P) where
  /-- `snapshot` of the driver, from the end of its `bring_up` on. -/
  snapshot : Option (StatusSnapshot P)
  /-- `ALVIK_STATE`, a slot that a newer snapshot overwrites. -/
  alvikState : Option (StatusSnapshot P)
  alvikEvents : AlvikEvents P
  robot : AlvikComponents R
  wheels : Wheels P
  /-- `prev` of `detect_events`. -/
  prev : EdgeState

inductive Action (P : Quantities)
  /-- `bring_up` is over, with the firmware version it got. -/
  | bringUp (firmware : Option FirmwareVersion)
  /-- The main loop decoded a status from a frame. -/
  | status (status : Status P)
  /-- `apply_status` and then `detect_events`, which are chained. -/
  | frame

inductive Event (P : Quantities)
  | processed (status : Status P)
  | accepted (status : Status P)
  | rejected (status : Status P)
  | framed (drained : List (Status P)) (triggered : List EdgeEvent)

def Event.processedOf : Event P → Option (Status P)
  | processed status => some status
  | _ => none

def Event.acceptedOf : Event P → Option (Status P)
  | accepted status => some status
  | _ => none

def Event.drainedOf : Event P → Option (List (Status P))
  | framed drained _ => some drained
  | _ => none

def Event.triggeredOf : Event P → List EdgeEvent
  | framed _ triggered => triggered
  | _ => []

/-- The messages the main loop of the driver processed, in order. -/
def processed (history : List (Event P)) : List (Status P) :=
  history.filterMap Event.processedOf

/-- The messages `ALVIK_EVENTS` accepted, in order. -/
def accepted (history : List (Event P)) : List (Status P) :=
  history.filterMap Event.acceptedOf

/-- What each frame drained from `ALVIK_EVENTS`. -/
def frames (history : List (Event P)) : List (List (Status P)) :=
  history.filterMap Event.drainedOf

/-- The observer events triggered so far. -/
def triggered (history : List (Event P)) : List EdgeEvent :=
  history.flatMap Event.triggeredOf

@[simp] theorem processed_append (front back : List (Event P)) :
    processed (front ++ back) = processed front ++ processed back :=
  List.filterMap_append

@[simp] theorem accepted_append (front back : List (Event P)) :
    accepted (front ++ back) = accepted front ++ accepted back :=
  List.filterMap_append

@[simp] theorem frames_append (front back : List (Event P)) :
    frames (front ++ back) = frames front ++ frames back :=
  List.filterMap_append

@[simp] theorem triggered_append (front back : List (Event P)) :
    triggered (front ++ back) = triggered front ++ triggered back :=
  List.flatMap_append

/-- `ALVIK_EVENTS.send`, its result discarded. -/
def send (alvikEvents : AlvikEvents P) (status : Status P) :
    AlvikEvents P × List (Event P) :=
  match alvikEvents.trySend status with
  | .ok next => (next, [.accepted status])
  | .error returned => (alvikEvents, [.rejected returned])

/-- `apply_status`: nothing runs between the turns of its loop, so it handles what
is queued when it starts. -/
def State.applyStatus (state : State R) : State R :=
  let received := match state.alvikState with
    | some snapshot => { state with
        alvikState := none
        robot := state.robot.receive snapshot
        wheels := state.wheels.receive snapshot }
    | none => state
  { received with
    robot := state.alvikEvents.items.foldl .handle received.robot
    alvikEvents := .empty }

/-- `detect_events`, skipped for a robot without the two components. -/
def State.detectEvents (state : State R) : State R × List EdgeEvent :=
  match state.robot.touch, state.robot.motion with
  | some touch, some motion =>
      let (prev, triggered) := Alvik.detectEvents state.prev touch motion
      ({ state with prev }, triggered)
  | _, _ => (state, [])

def step (D : Defaults P) (state : State R) :
    Action P → Option (State R × List (Event P))
  | .bringUp firmware =>
      match state.snapshot, firmware with
      | some _, _ => none
      | none, some ⟨major, minor, patch⟩ =>
          let (alvikEvents, events) :=
            send state.alvikEvents (.fwVersion major minor patch)
          some ({ state with alvikEvents, snapshot := some (.default D) }, events)
      | none, none => some ({ state with snapshot := some (.default D) }, [])
  | .status status =>
      state.snapshot.map fun snapshot =>
        match snapshot.apply status with
        | (folded, none) =>
            ({ state with snapshot := some folded, alvikState := some folded },
              [.processed status])
        | (folded, some discrete) =>
            let (alvikEvents, events) := send state.alvikEvents discrete
            ({ state with snapshot := some folded, alvikEvents },
              .processed status :: events)
  | .frame =>
      let (next, triggered) := state.applyStatus.detectEvents
      some (next, [.framed state.alvikEvents.items triggered])

end StatusPath

open StatusPath in
/-- A robot has just been spawned with the given components and the driver task
has just started. -/
def statusPath (spawned : AlvikComponents R) (spawnedWheels : Wheels P) :
    Machine (State R) (Action P) (Event P) where
  initial := {
    snapshot := none
    alvikState := none
    alvikEvents := .empty
    robot := spawned
    wheels := spawnedWheels
    prev := .default }
  step := step R.toDefaults

namespace StatusPath

/-- What a send does. -/
inductive Sent (queue : AlvikEvents P) (status : Status P) :
    AlvikEvents P → List (Event P) → Prop
  | accepted {next} (room : queue.items.length < 32)
      (items : next.items = queue.items ++ [status]) : Sent queue status next [.accepted status]
  | rejected (full : queue.items.length = 32) : Sent queue status queue [.rejected status]

theorem send_shape (queue : AlvikEvents P) (status : Status P) :
    Sent queue status (send queue status).1 (send queue status).2 := by
  rw [send]
  cases sent : queue.trySend status with
  | ok next =>
      have spec := BoundedQueue.trySend_eq_ok sent
      exact .accepted spec.1 spec.2
  | error returned =>
      rcases BoundedQueue.trySend_eq_error sent with ⟨full, rfl⟩
      exact .rejected full

/-- `detect_events` only remembers the bytes. -/
theorem detectEvents_robot (state : State R) :
    state.detectEvents.1.snapshot = state.snapshot ∧
      state.detectEvents.1.alvikState = state.alvikState ∧
      state.detectEvents.1.alvikEvents = state.alvikEvents ∧
      state.detectEvents.1.robot = state.robot ∧
      state.detectEvents.1.wheels = state.wheels := by
  rw [State.detectEvents]
  split <;> exact ⟨rfl, rfl, rfl, rfl, rfl⟩

/-- A send to the event queue is no processed message. -/
theorem processed_of_sent {queue next : AlvikEvents P} {status : Status P}
    {events : List (Event P)} (sent : Sent queue status next events) :
    processed events = [] := by
  cases sent <;> rfl

theorem processed_queued (history : List (Event P)) {queue next : AlvikEvents P}
    {status : Status P} {events : List (Event P)} (sent : Sent queue status next events) :
    processed (history ++ .processed status :: events) = processed history ++ [status] := by
  have quiet := processed_of_sent sent
  rw [processed] at quiet
  simp [processed, Event.processedOf, quiet]

theorem processed_framed (history : List (Event P)) (drained : List (Status P))
    (triggered : List EdgeEvent) :
    processed (history ++ [.framed drained triggered]) = processed history := by
  rw [processed_append]
  exact List.append_nil _

/-- What a step can do. -/
inductive Step (state : State R) : Action P → State R → List (Event P) → Prop
  | broughtUp (start : state.snapshot = none) :
      Step state (.bringUp none)
        { state with snapshot := some (.default R.toDefaults) } []
  | announced {version queue events} (start : state.snapshot = none)
      (sent : Sent state.alvikEvents
        (.fwVersion version.major version.minor version.patch) queue events) :
      Step state (.bringUp (some version))
        { state with
          alvikEvents := queue
          snapshot := some (.default R.toDefaults) } events
  | coalesced {snapshot status} (running : state.snapshot = some snapshot)
      (continuous : status.continuous = true) :
      Step state (.status status)
        { state with
          snapshot := some (snapshot.apply status).1
          alvikState := some (snapshot.apply status).1 } [.processed status]
  | queued {snapshot status queue events} (running : state.snapshot = some snapshot)
      (discrete : status.continuous = false)
      (sent : Sent state.alvikEvents status queue events) :
      Step state (.status status) { state with alvikEvents := queue }
        (.processed status :: events)
  | framed :
      Step state .frame state.applyStatus.detectEvents.1
        [.framed state.alvikEvents.items state.applyStatus.detectEvents.2]

theorem step_shape {spawned : AlvikComponents R} {spawnedWheels : Wheels P}
    {state next : State R} {action : Action P} {events : List (Event P)}
    (stepped : (statusPath spawned spawnedWheels).step state action =
      some (next, events)) : Step state action next events := by
  change step R.toDefaults state action = some (next, events) at stepped
  cases action with
  | bringUp firmware =>
      simp only [step] at stepped
      split at stepped
      case h_1 => cases stepped
      case h_2 start =>
        cases stepped
        exact .announced start (send_shape ..)
      case h_3 start =>
        cases stepped
        exact .broughtUp start
  | status status =>
      simp only [step, Option.map_eq_some_iff] at stepped
      rcases stepped with ⟨snapshot, running, equal⟩
      cases kind : status.continuous with
      | true =>
          have kept := snapshot.apply_of_continuous kind
          split at equal
          case h_1 folded applied =>
            have result : (snapshot.apply status).1 = folded :=
              congrArg Prod.fst applied
            cases equal
            rw [← result]
            exact .coalesced running kind
          case h_2 folded discrete applied =>
            rw [applied] at kept
            cases kept
      | false =>
          rw [snapshot.apply_of_discrete kind] at equal
          cases equal
          have shape := Step.queued running kind (send_shape state.alvikEvents status)
          rwa [← running]
  | frame =>
      cases stepped
      exact .framed

end StatusPath

end BeetEsp.Alvik
