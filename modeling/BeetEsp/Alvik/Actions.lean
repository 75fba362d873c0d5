import Mathlib.Data.List.DropRight
import BeetEsp.Alvik.LastCommand
import BeetEsp.Alvik.SnapshotCoalescing

/-! # Behaviour leaves and route handlers

The leaves of `alvik/actions.rs` and the handlers of `alvik/routes.rs`, in the loop from
the sensors of the robot to its motors: the driver folds status messages, a frame shows
them on the components, a leaf answers what it finds there, and the flush systems send the
answer to `ALVIK_OUT`.
-/

namespace BeetEsp.Alvik

open Foundation

variable {P : Quantities} {R : Readouts P}

namespace Actions

/-! ## Leaves -/

/-- A reading at or above this is black. -/
def LINE_BLACK_THRESHOLD : Int16 := 500

/-- Forward over white at 40 mm/s, to the right over black at 20 mm/s and -60 deg/s. -/
def lineFollowStep (line : LineSensors) : DifferentialDrive P :=
  if LINE_BLACK_THRESHOLD ≤ line.left then
    { linear := P.fromMmPerSec 0x41A00000, angular := P.fromDegPerSec 0xC2700000 }
  else
    { linear := P.fromMmPerSec 0x42200000, angular := P.fromDegPerSec 0 }

/-- 200 mm. -/
def ROOMBA_NEAR_MM : F32 := 0x43480000

/-- Away from a wall at -90 deg/s, and else forward at 50 mm/s. -/
def roombaStep (tof : Tof P) : DifferentialDrive P :=
  if F32.le (P.asMillimeters tof.center) ROOMBA_NEAR_MM then
    { linear := P.fromMmPerSec 0, angular := P.fromDegPerSec 0xC2B40000 }
  else
    { linear := P.fromMmPerSec 0x42480000, angular := P.fromDegPerSec 0 }

inductive Leaf
  | lineFollow
  | roomba

/-- What a leaf writes. It runs on a robot with its sensor only. -/
def Leaf.drive (robot : AlvikComponents R) : Leaf → Option (DifferentialDrive P)
  | lineFollow => robot.line.map lineFollowStep
  | roomba => robot.tof.map roombaStep

/-! ## Route handlers -/

/-- 60 mm/s. -/
def DRIVE_SPEED_MM_S : F32 := 0x42700000

/-- 90 deg/s. -/
def TURN_RATE_DEG_S : F32 := 0x42B40000

/-- The commanded velocity and the reply. -/
def driveHandler (dir : Option String) : DifferentialDrive P × String :=
  let dir := dir.getD "stop"
  let (linear, angular) := match dir with
    | "forward" => (DRIVE_SPEED_MM_S, 0)
    | "back" => (F32.neg DRIVE_SPEED_MM_S, 0)
    | "left" => (0, TURN_RATE_DEG_S)
    | "right" => (0, F32.neg TURN_RATE_DEG_S)
    | _ => (0, 0)
  ({ linear := P.fromMmPerSec linear, angular := P.fromDegPerSec angular },
    "drive " ++ dir ++ "\n")

/-- The lights and the reply; any other side is the right one. -/
def ledHandler (white : P.Color) (lights : Lights P) (side state : Option String) :
    Lights P × String :=
  let side := side.getD ""
  let state := state.getD "off"
  let want : Side := match side with
    | "left" => .left
    | _ => .right
  let color := if state = "on" then white else P.black
  ({ lights with
      leds := lights.leds.map fun led => if led.1 = want then (led.1, color) else led },
    "led " ++ side ++ " " ++ state ++ "\n")

/-! ## The loop -/

structure State (R : Readouts P) where
  sensing : StatusPath.State R
  path : Transport.State P

inductive Action (P : Quantities)
  | sensing (action : StatusPath.Action P)
  | leaf (leaf : Leaf)
  | driveHandler (dir : Option String)
  | ledHandler (side state : Option String)
  /-- The driver, a flush system or anything else that writes command components. -/
  | path (action : Transport.Action P)

inductive Event (P : Quantities)
  | sensing (event : StatusPath.Event P)
  /-- A leaf, or something else, wrote the commanded velocity. -/
  | ordered (leaf : Option Leaf) (drive : DifferentialDrive P)
  | path (event : Transport.Event P)

def Event.pathOf : Event P → Option (Transport.Event P)
  | path event => some event
  | _ => none

def Event.driveOf : Event P → Option (DifferentialDrive P)
  | ordered _ drive => some drive
  | _ => none

def orderOf : Transport.Action P → Option (DifferentialDrive P)
  | .ecs action => Transport.driveOrder action
  | .driver _ => none

/-- What an action does on the command path. -/
def State.performs (white : P.Color) (state : State R) :
    Action P → Option (Option Leaf × Transport.Action P)
  | .sensing _ => none
  | .leaf leaf =>
      (leaf.drive state.sensing.robot).map fun drive => (some leaf, .ecs (.setDrive drive))
  | .driveHandler dir => some (none, .ecs (.setDrive (Actions.driveHandler dir).1))
  | .ledHandler side status =>
      let lights := Actions.ledHandler white state.path.ecs.lights.value side status
      some (none, .ecs (.setLights lights.1))
  | .path action => some (none, action)

/-- What a step of the command path shows. -/
def shown (leaf : Option Leaf) (action : Transport.Action P)
    (events : List (Transport.Event P)) : List (Event P) :=
  ((orderOf action).map (Event.ordered leaf)).toList ++ events.map .path

def State.perform (state : State R) (leaf : Option Leaf) (action : Transport.Action P) :
    Option (State R × List (Event P)) :=
  ((transport P).step state.path action).map fun (path, events) =>
    ({ state with path }, shown leaf action events)

def step (white : P.Color) (state : State R) (action : Action P) :
    Option (State R × List (Event P)) :=
  match action with
  | .sensing action =>
      (StatusPath.step R.toDefaults state.sensing action).map fun (sensing, events) =>
        ({ state with sensing }, events.map .sensing)
  | action =>
      (state.performs white action).bind fun (leaf, action) => state.perform leaf action

/-- The line and distance sensors as `<Alvik>` spawns them, on a robot with whatever other
components. -/
def spawnedSensors (robot : AlvikComponents R) : AlvikComponents R :=
  { robot with
    line := some ⟨0, 0, 0⟩
    tof := some ⟨R.distance, R.distance, R.distance, R.distance, R.distance, R.distance,
      R.distance⟩ }

end Actions

open Actions in
def sensorLoop (white : P.Color) (robot : AlvikComponents R) (wheels : Wheels P) :
    Machine (State R) (Action P) (Event P) where
  initial := {
    sensing := (statusPath (spawnedSensors robot) wheels).initial
    path := (transport P).initial }
  step := step white

namespace Actions

variable {white : P.Color} {robot : AlvikComponents R} {wheels : Wheels P}

/-- What a step can do. -/
inductive Step (white : P.Color) (state : State R) :
    Action P → State R → List (Event P) → Prop
  | sensed {action sensing events}
      (acted : StatusPath.step R.toDefaults state.sensing action = some (sensing, events)) :
      Step white state (.sensing action) { state with sensing } (events.map .sensing)
  | performed {action leaf onPath path events}
      (performs : state.performs white action = some (leaf, onPath))
      (acted : (transport P).step state.path onPath = some (path, events)) :
      Step white state action { state with path } (shown leaf onPath events)

theorem step_shape {state next : State R} {action : Action P} {events : List (Event P)}
    (stepped : (sensorLoop white robot wheels).step state action = some (next, events)) :
    Step white state action next events := by
  change step white state action = some (next, events) at stepped
  have performed {action : Action P}
      (bound : ((state.performs white action).bind fun (leaf, action) =>
        state.perform leaf action) = some (next, events)) :
      Step white state action next events := by
    rcases Option.bind_eq_some_iff.mp bound with ⟨⟨leaf, onPath⟩, performs, bound⟩
    rcases Option.map_eq_some_iff.mp bound with ⟨⟨path, visible⟩, acted, same⟩
    cases same
    exact .performed performs acted
  cases action with
  | sensing action =>
      rcases Option.map_eq_some_iff.mp stepped with ⟨⟨sensing, visible⟩, acted, same⟩
      cases same
      exact .sensed acted
  | leaf | driveHandler | ledHandler | path => exact performed stepped

@[simp] theorem filterMap_pathOf_shown (leaf : Option Leaf) (action : Transport.Action P)
    (events : List (Transport.Event P)) :
    (shown leaf action events).filterMap Event.pathOf = events := by
  have same : (events.map Event.path).filterMap Event.pathOf = events := by
    rw [List.filterMap_map]
    exact List.filterMap_some
  rw [shown, List.filterMap_append, same]
  cases orderOf action <;> rfl

@[simp] theorem filterMap_driveOf_shown (leaf : Option Leaf) (action : Transport.Action P)
    (events : List (Transport.Event P)) :
    (shown leaf action events).filterMap Event.driveOf = (orderOf action).toList := by
  rw [shown, List.filterMap_append]
  cases orderOf action <;> simp [Event.driveOf, Function.comp_def]

theorem reached_path {state : State R} {history : List (Event P)}
    (reached : (sensorLoop white robot wheels).Reached state history) :
    (transport P).Reached state.path (history.filterMap Event.pathOf) := by
  apply Machine.Reached.project State.path Event.pathOf
    (Machine.reached_initial _) ?follows reached
  intro state action next events stepped
  cases step_shape stepped with
  | sensed =>
      rw [List.filterMap_map]
      exact .inl ⟨rfl, List.filterMap_eq_nil_iff.mpr fun _ _ => rfl⟩
  | performed _ acted =>
      rw [filterMap_pathOf_shown]
      exact .inr ⟨_, acted⟩

/-! ## What the leaves answer -/

def isFrame : StatusPath.Event P → Bool
  | .framed .. => true
  | _ => false

/-- The messages the driver had processed when the last frame began. -/
def seen (history : List (StatusPath.Event P)) : List (Status P) :=
  StatusPath.processed (history.rdropWhile fun event => !isFrame event)

/-- Field by field the last of these messages, or the default. -/
def reading (D : Defaults P) (messages : List (Status P)) (field : Field) : field.Value P :=
  (latest (Status.carried field) messages).getD ((StatusSnapshot.default D).read field)

def lineOf (shown : (field : Field) → field.Value P) : LineSensors :=
  ⟨(shown .line).1, (shown .line).2.1, (shown .line).2.2⟩

def tofOf (shown : (field : Field) → field.Value P) : Tof P where
  left := shown .tofLeft
  centerLeft := shown .tofCenterLeft
  center := shown .tofCenter
  centerRight := shown .tofCenterRight
  right := shown .tofRight
  top := shown .tofTop
  bottom := shown .tofBottom

def Leaf.answer (shown : (field : Field) → field.Value P) : Leaf → DifferentialDrive P
  | lineFollow => lineFollowStep (lineOf shown)
  | roomba => roombaStep (tofOf shown)

theorem seen_append {events : List (StatusPath.Event P)} (history : List (StatusPath.Event P))
    (none : ∀ event ∈ events, isFrame event = false) :
    seen (history ++ events) = seen history := by
  induction events using List.reverseRecOn with
  | nil => rw [List.append_nil]
  | append_singleton events event induction =>
      have last := none event (by simp)
      rw [← List.append_assoc, seen, List.rdropWhile_concat_pos _ _ _ (by simp [last])]
      exact induction fun other member => none other (List.mem_append_left _ member)

theorem seen_framed (history : List (StatusPath.Event P)) (drained : List (Status P))
    (triggered : List EdgeEvent) :
    seen (history ++ [.framed drained triggered]) = StatusPath.processed history := by
  rw [seen, List.rdropWhile_concat_neg _ _ _ (by simp [isFrame])]
  exact StatusPath.processed_framed history drained triggered

/-- What was seen is a front of what was processed. -/
theorem seen_front (history : List (StatusPath.Event P)) :
    seen history <+: StatusPath.processed history := by
  rcases List.rdropWhile_prefix (fun event => !isFrame event) (l := history) with ⟨rest, split⟩
  refine ⟨StatusPath.processed rest, ?_⟩
  rw [seen, ← StatusPath.processed_append, split]

theorem read_folded (D : Defaults P) (history : List (StatusPath.Event P)) :
    (StatusSnapshot.folded D (StatusPath.continuous history)).read =
      reading D (StatusPath.processed history) := by
  funext field
  rw [StatusSnapshot.read_folded, StatusPath.latest_continuous, reading]

/-- Discrete messages are no readings. -/
theorem reading_of_discrete (D : Defaults P) {messages : List (Status P)}
    (discrete : messages.filter Status.continuous = []) :
    reading D messages = (StatusSnapshot.default D).read := by
  funext field
  have nothing : latest (Status.carried field) messages = none := by
    refine List.getLast?_eq_none_iff.mpr (List.filterMap_eq_nil_iff.mpr ?_)
    intro status member
    have kind := List.filter_eq_nil_iff.mp discrete status member
    exact Status.carried_of_discrete (Bool.eq_false_iff.mpr kind) field
  rw [reading, nothing, Option.getD_none]

/-- The sensors show what was seen. -/
structure Fresh (robot : AlvikComponents R) (messages : List (Status P)) : Prop where
  line : robot.line = some (lineOf (reading R.toDefaults messages))
  tof : robot.tof = some (tofOf (reading R.toDefaults messages))

theorem Fresh.drive {robot : AlvikComponents R} {messages : List (Status P)}
    (fresh : Fresh robot messages) (leaf : Leaf) :
    leaf.drive robot = some (leaf.answer (reading R.toDefaults messages)) := by
  cases leaf with
  | lineFollow => rw [Leaf.drive, fresh.line, Option.map_some, Leaf.answer]
  | roomba => rw [Leaf.drive, fresh.tof, Option.map_some, Leaf.answer]

theorem Fresh.drain {robot : AlvikComponents R} {messages : List (Status P)}
    (fresh : Fresh robot messages) (drained : List (Status P)) :
    Fresh (drained.foldl .handle robot) messages := by
  induction drained generalizing robot with
  | nil => exact fresh
  | cons status drained induction =>
      refine induction ?_
      rcases fresh with ⟨line, tof⟩
      cases status <;> exact ⟨line, tof⟩

/-- A frame brings the sensors up to date. -/
theorem Fresh.applyStatus {state : StatusPath.State R} {history : List (StatusPath.Event P)}
    (fresh : Fresh state.robot (seen history))
    (holds : StatusPath.Coalesced (spawnedSensors robot) wheels state history) :
    Fresh state.applyStatus.robot (StatusPath.processed history) := by
  rw [StatusPath.State.applyStatus]
  cases slot : state.alvikState with
  | some snapshot =>
      refine Fresh.drain ?_ _
      have shown : snapshot.read = reading R.toDefaults (StatusPath.processed history) := by
        rw [holds.pending snapshot slot, read_folded]
      change Fresh (state.robot.receive snapshot) _
      constructor
      · rw [← shown]
        simp only [AlvikComponents.receive, fresh.line]
        rfl
      · rw [← shown]
        simp only [AlvikComponents.receive, fresh.tof]
        rfl
  | none =>
      refine Fresh.drain ?_ _
      by_cases started : StatusPath.continuous history = []
      · have all := reading_of_discrete R.toDefaults started
        have front : (seen history).filter Status.continuous = [] := by
          have whole := (seen_front history).sublist.filter Status.continuous
          rw [← StatusPath.continuous, started] at whole
          exact List.sublist_nil.mp whole
        have before := reading_of_discrete R.toDefaults front
        constructor
        · rw [fresh.line, before, all]
        · rw [fresh.tof, before, all]
      · have shows := holds.shown slot started
        rw [read_folded] at shows
        exact ⟨shows.line, shows.tof⟩

theorem fresh {state : StatusPath.State R} {history : List (StatusPath.Event P)}
    (reached : (statusPath (spawnedSensors robot) wheels).Reached state history) :
    Fresh state.robot (seen history) := by
  refine reached.induction (fun state history => Fresh state.robot (seen history))
    ?start ?preserved
  case start => exact ⟨rfl, rfl⟩
  case preserved =>
    intro state history action next events reached fresh stepped
    have sent {queue next : StatusPath.AlvikEvents P} {status : Status P}
        {events : List (StatusPath.Event P)}
        (sent : StatusPath.Sent queue status next events) :
        ∀ event ∈ events, isFrame event = false := by
      cases sent <;> simp [isFrame]
    cases StatusPath.step_shape stepped with
    | broughtUp => rwa [List.append_nil]
    | announced _ announced =>
        rwa [seen_append history (sent announced)]
    | coalesced =>
        rwa [seen_append history (by simp [isFrame])]
    | queued _ _ queued =>
        rwa [seen_append history (by simpa [isFrame] using sent queued)]
    | framed =>
        rcases StatusPath.detectEvents_robot state.applyStatus with ⟨-, -, -, same, -⟩
        rw [seen_framed, same]
        exact fresh.applyStatus (StatusPath.coalesced reached)

end Actions

end BeetEsp.Alvik
