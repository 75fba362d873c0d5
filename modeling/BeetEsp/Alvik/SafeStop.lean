import BeetEsp.Alvik.LastCommand

/-! # The safe stop after an unhandled error

`reset_on_unhandled_error` raises `ERRORED`, in or out of a frame. The next time
`trigger_reset_on_error` runs it lowers the flag and queues a `ResetScene`, which is
triggered before `Update` is over, and the systems of `PostUpdate` flush what it wrote.
-/

namespace BeetEsp.Alvik

open Foundation
open Transport (DriverAction sendEach accepted transmitted Told filterMap_accepted
  drive_lowered)

variable {P : Quantities}

namespace SafeStop

/-- The systems of `PostUpdate`, which run in any order. -/
inductive FlushSystem
  | wheels
  | drive
  | servos
  | alvikLeds
  deriving DecidableEq

def FlushSystem.action : FlushSystem → EcsAction P
  | wheels => .flushWheels
  | drive => .flushDrive
  | servos => .flushServos
  | alvikLeds => .flushAlvikLeds

inductive Stage
  /-- No frame is under way. -/
  | between
  /-- In `Update`, before `trigger_reset_on_error`. -/
  | update
  /-- Its `ResetScene` waits among the commands of `Update`. -/
  | triggered
  | updated
  /-- In `PostUpdate`, before these systems. -/
  | postUpdate (left : List FlushSystem)
  deriving DecidableEq

structure State (P : Quantities) where
  path : Transport.State P
  stage : Stage
  /-- `ERRORED` -/
  errored : Bool

inductive Action (P : Quantities)
  /-- The error handler runs. -/
  | unhandled
  /-- An app system, a task or a scene command. -/
  | app (action : EcsAction P)
  | driver (action : DriverAction)
  | beginFrame
  | triggerResetOnError
  | applyCommands
  | postUpdate
  | flush (system : FlushSystem)
  | endFrame

inductive Event (P : Quantities)
  | unhandled
  | began
  /-- The `ResetScene` of `trigger_reset_on_error`. -/
  | reset
  /-- Something else commanded the motors or a wheel. -/
  | moved
  | ended
  | path (event : Transport.Event P)

def Event.pathOf : Event P → Option (Transport.Event P)
  | path event => some event
  | _ => none

/-- Everything but the flush systems. -/
def ofApp : EcsAction P → Bool
  | .flushWheels | .flushDrive | .flushServos | .flushAlvikLeds => false
  | _ => true

def moves : EcsAction P → Bool
  | .setDrive _ | .setWheel .. => true
  | _ => false

def State.perform (state : State P) (action : Transport.Action P) :
    Option (State P × List (Event P)) :=
  ((transport P).step state.path action).map fun (path, events) =>
    ({ state with path }, events.map .path)

def step (state : State P) : Action P → Option (State P × List (Event P))
  | .unhandled => some ({ state with errored := true }, [.unhandled])
  | .app action =>
      if ofApp action then
        (state.perform (.ecs action)).map fun (next, events) =>
          (next, (if moves action then [.moved] else []) ++ events)
      else none
  | .driver action => state.perform (.driver action)
  | .beginFrame =>
      match state.stage with
      | .between => some ({ state with stage := .update }, [.began])
      | _ => none
  | .triggerResetOnError =>
      match state.stage with
      | .update =>
          let stage := if state.errored then .triggered else .updated
          some ({ state with stage, errored := false }, [])
      | _ => none
  | .applyCommands =>
      match state.stage with
      | .triggered =>
          ({ state with stage := .updated }.perform (.ecs .resetScene)).map
            fun (next, events) => (next, .reset :: events)
      | _ => none
  | .postUpdate =>
      match state.stage with
      | .updated =>
          some ({ state with stage := .postUpdate [.wheels, .drive, .servos, .alvikLeds] },
            [])
      | _ => none
  | .flush system =>
      match state.stage with
      | .postUpdate left =>
          if system ∈ left then
            { state with stage := .postUpdate (left.erase system) }.perform
              (.ecs system.action)
          else none
      | _ => none
  | .endFrame =>
      match state.stage with
      | .postUpdate [] => some ({ state with stage := .between }, [.ended])
      | _ => none

end SafeStop

open SafeStop in
/-- The frames of the app, beside the command path to the robot. -/
def safeStop (P : Quantities) : Machine (State P) (Action P) (Event P) where
  initial := { path := (transport P).initial, stage := .between, errored := false }
  step := step

namespace SafeStop

/-- What a step can do. -/
inductive Step (state : State P) : Action P → State P → List (Event P) → Prop
  | unhandled : Step state .unhandled { state with errored := true } [.unhandled]
  | app {action path events} (allowed : ofApp action = true)
      (acted : (transport P).step state.path (.ecs action) = some (path, events)) :
      Step state (.app action) { state with path }
        ((if moves action then [.moved] else []) ++ events.map .path)
  | driver {action path events}
      (acted : (transport P).step state.path (.driver action) = some (path, events)) :
      Step state (.driver action) { state with path } (events.map .path)
  | began (stage : state.stage = .between) :
      Step state .beginFrame { state with stage := .update } [.began]
  | caught (stage : state.stage = .update) (errored : state.errored = true) :
      Step state .triggerResetOnError
        { state with stage := .triggered, errored := false } []
  | calm (stage : state.stage = .update) (errored : state.errored = false) :
      Step state .triggerResetOnError
        { state with stage := .updated, errored := false } []
  | reset {path events} (stage : state.stage = .triggered)
      (acted : (transport P).step state.path (.ecs .resetScene) = some (path, events)) :
      Step state .applyCommands { state with stage := .updated, path }
        (.reset :: events.map .path)
  | postUpdate (stage : state.stage = .updated) :
      Step state .postUpdate
        { state with stage := .postUpdate [.wheels, .drive, .servos, .alvikLeds] } []
  | flushed {system left path events} (stage : state.stage = .postUpdate left)
      (member : system ∈ left)
      (acted : (transport P).step state.path (.ecs system.action) = some (path, events)) :
      Step state (.flush system)
        { state with stage := .postUpdate (left.erase system), path } (events.map .path)
  | ended (stage : state.stage = .postUpdate []) :
      Step state .endFrame { state with stage := .between } [.ended]

theorem perform_eq_some {state next : State P} {action : Transport.Action P}
    {events : List (Event P)} (performed : state.perform action = some (next, events)) :
    ∃ path shown, (transport P).step state.path action = some (path, shown) ∧
      next = { state with path } ∧ events = shown.map .path := by
  rcases Option.map_eq_some_iff.mp performed with ⟨⟨path, shown⟩, acted, same⟩
  cases same
  exact ⟨path, shown, acted, rfl, rfl⟩

theorem step_shape {state next : State P} {action : Action P} {events : List (Event P)}
    (stepped : (safeStop P).step state action = some (next, events)) :
    Step state action next events := by
  change step state action = some (next, events) at stepped
  cases action with
  | unhandled =>
      cases stepped
      exact .unhandled
  | app action =>
      simp only [step] at stepped
      split at stepped
      case isTrue allowed =>
        rcases Option.map_eq_some_iff.mp stepped with ⟨⟨after, shown⟩, performed, same⟩
        cases same
        rcases perform_eq_some performed with ⟨path, shown, acted, rfl, rfl⟩
        exact .app allowed acted
      case isFalse => cases stepped
  | driver action =>
      rcases perform_eq_some stepped with ⟨path, shown, acted, rfl, rfl⟩
      exact .driver acted
  | beginFrame =>
      simp only [step] at stepped
      split at stepped <;> cases stepped
      exact .began ‹_›
  | triggerResetOnError =>
      simp only [step] at stepped
      split at stepped
      case h_1 stage =>
        cases errored : state.errored <;> rw [errored] at stepped <;> cases stepped
        · exact .calm stage errored
        · exact .caught stage errored
      case h_2 => cases stepped
  | applyCommands =>
      simp only [step] at stepped
      split at stepped
      case h_1 stage =>
        rcases Option.map_eq_some_iff.mp stepped with ⟨⟨after, shown⟩, performed, same⟩
        cases same
        rcases perform_eq_some performed with ⟨path, shown, acted, rfl, rfl⟩
        exact .reset stage acted
      case h_2 => cases stepped
  | postUpdate =>
      simp only [step] at stepped
      split at stepped <;> cases stepped
      exact .postUpdate ‹_›
  | flush system =>
      simp only [step] at stepped
      split at stepped
      case h_1 left stage =>
        split at stepped
        case isTrue member =>
          rcases perform_eq_some stepped with ⟨path, shown, acted, rfl, rfl⟩
          exact .flushed stage member acted
        case isFalse => cases stepped
      case h_2 => cases stepped
  | endFrame =>
      simp only [step] at stepped
      split at stepped <;> cases stepped
      exact .ended ‹_›

/-- The frames and the errors leave the command path alone. -/
theorem reached_path {state : State P} {history : List (Event P)}
    (reached : (safeStop P).Reached state history) :
    (transport P).Reached state.path (history.filterMap Event.pathOf) := by
  apply Machine.Reached.project State.path Event.pathOf
    (Machine.reached_initial (transport P)) ?follows reached
  intro state action next events stepped
  have shown (events : List (Transport.Event P)) :
      (events.map Event.path).filterMap Event.pathOf = events := by
    rw [List.filterMap_map]
    exact List.filterMap_some
  cases step_shape stepped with
  | unhandled | began | caught | calm | postUpdate | ended => exact .inl ⟨rfl, rfl⟩
  | driver acted | flushed _ _ acted =>
      rw [shown]
      exact .inr ⟨_, acted⟩
  | @app action path events _ acted =>
      rw [List.filterMap_append, shown]
      cases moves action <;> exact .inr ⟨_, acted⟩
  | reset _ acted =>
      rw [List.filterMap_cons]
      simp only [Event.pathOf, shown]
      exact .inr ⟨_, acted⟩

/-! ## Errors are answered -/

/-- An error that no reset has answered is still to be taken, and the frame that began
after it has not come to its flush systems. -/
structure Awaits (state : State P) (after : List (Event P)) : Prop where
  raised : state.errored = true ∨ state.stage = .triggered
  soon : .began ∈ after → state.stage = .update ∨ state.stage = .triggered

theorem answered_step {state next : State P} {action : Action P}
    {events after : List (Event P)} (shape : Step state action next events)
    (holds : .reset ∈ after ∨ Awaits state after) :
    .reset ∈ after ++ events ∨ Awaits next (after ++ events) := by
  rcases holds with answered | ⟨raised, soon⟩
  · exact .inl (List.mem_append_left _ answered)
  · have unstarted {stage : Stage} (now : state.stage = stage) (update : stage ≠ .update)
        (triggered : stage ≠ .triggered) : .began ∉ after := by
      intro began
      rcases soon began with same | same <;> rw [now] at same
      · exact update same
      · exact triggered same
    cases shape with
    | unhandled => exact .inr ⟨.inl rfl, by simpa using soon⟩
    | app => exact .inr ⟨raised, by split <;> simpa using soon⟩
    | driver => exact .inr ⟨raised, by simpa using soon⟩
    | began stage =>
        refine .inr ⟨?_, fun _ => .inl rfl⟩
        rw [stage] at raised
        exact .inl (raised.resolve_right nofun)
    | caught => exact .inr ⟨.inr rfl, fun _ => .inr rfl⟩
    | calm stage errored =>
        rw [errored, stage] at raised
        exact raised.elim nofun nofun
    | reset => exact .inl (List.mem_append_right _ List.mem_cons_self)
    | postUpdate stage =>
        have before := unstarted stage nofun nofun
        rw [stage] at raised
        exact .inr ⟨.inl (raised.resolve_right nofun), by simpa using before⟩
    | flushed stage =>
        have before := unstarted stage nofun nofun
        rw [stage] at raised
        exact .inr ⟨.inl (raised.resolve_right nofun), by simpa using before⟩
    | ended stage =>
        have before := unstarted stage nofun nofun
        rw [stage] at raised
        exact .inr ⟨.inl (raised.resolve_right nofun), by simpa using before⟩

theorem answered {state : State P} {history before after : List (Event P)}
    (reached : (safeStop P).Reached state history)
    (split : history = before ++ .unhandled :: after) :
    .reset ∈ after ∨ Awaits state after := by
  refine reached.since (· = .unhandled)
    (fun state after => .reset ∈ after ∨ Awaits state after) ?start ?preserved split rfl
  case start =>
    rintro state history action next front event back - stepped rfl
    generalize shown : front ++ .unhandled :: back = events at stepped
    have member : .unhandled ∈ events := by simp [← shown]
    cases step_shape stepped with
    | unhandled =>
        rcases List.append_eq_singleton_iff.mp shown with ⟨-, last⟩ | ⟨-, none⟩
        · cases last
          exact .inr ⟨.inl rfl, nofun⟩
        · cases none
    | app => split at member <;> simp at member
    | driver | began | caught | calm | reset | postUpdate | flushed | ended =>
        simp at member
  case preserved => exact fun _ holds stepped => answered_step (step_shape stepped) holds

/-- What `ALVIK_OUT` accepted. -/
def sent (history : List (Event P)) : List (Command P) :=
  accepted (history.filterMap Event.pathOf)

@[simp] theorem sent_append (front back : List (Event P)) :
    sent (front ++ back) = sent front ++ sent back := by
  rw [sent, List.filterMap_append, Transport.accepted_append, sent, sent]

@[simp] theorem sent_map_path (events : List (Transport.Event P)) :
    sent (events.map .path) = accepted events := by
  rw [sent, List.filterMap_map]
  exact congrArg accepted List.filterMap_some

/-- The motors or a wheel were commanded otherwise, or a motion command found `ALVIK_OUT`
full. -/
def Spoiled (after : List (Event P)) : Prop :=
  .moved ∈ after ∨ ∃ command, .path (.rejected command) ∈ after ∧
    ¬(command.driveOf = none ∧ ∀ side, command.targetOf side = none)

theorem Spoiled.append {after : List (Event P)} (spoiled : Spoiled after)
    (events : List (Event P)) : Spoiled (after ++ events) := by
  rcases spoiled with moved | ⟨command, rejected, motion⟩
  · exact .inl (List.mem_append_left _ moved)
  · exact .inr ⟨command, List.mem_append_left _ rejected, motion⟩

/-- The flush system has still to run in the frame under way. -/
def Stage.Before (system : FlushSystem) : Stage → Prop
  | updated => True
  | postUpdate left => system ∈ left
  | between | update | triggered => False

def STOPPED (P : Quantities) : WheelTarget P := .speed (P.fromRpm 0)

/-- The stop of a reset on its way into `ALVIK_OUT`. -/
structure Stopping (state : State P) (after : List (Event P)) : Prop where
  drive : Told Command.driveOf (.rest P) (state.stage.Before .drive ∧ .ended ∉ after)
    state.path.ecs.drive (sent after)
  wheel : ∀ side, Told (Command.targetOf side) (STOPPED P)
    (state.stage.Before .wheels ∧ .ended ∉ after) (state.path.ecs.wheel side) (sent after)

/-- What leaves the commanded motion alone keeps a robot at rest. -/
theorem drive_perform {ecs : Ecs P} {action : EcsAction P} (still : moves action = false)
    (rest : ecs.drive.value = .rest P) : (ecs.perform action).1.drive.value = .rest P := by
  rw [Transport.drive_value, rest]
  cases action <;> first | rfl | cases still

theorem wheel_perform {ecs : Ecs P} {action : EcsAction P} (still : moves action = false)
    (rest : ∀ side, (ecs.wheel side).value = STOPPED P) (side : Side) :
    ((ecs.perform action).1.wheel side).value = STOPPED P := by
  cases action with
  | setDrive | setWheel => cases still
  | setServos | setLights | flushWheels | oneShot => exact rest side
  | resetScene => rfl
  | flushDrive =>
      simp only [Ecs.perform, Ecs.flushDrive]
      split <;> exact rest side
  | flushServos =>
      have same := congrFun (Transport.flushServos_leaves ecs).wheel side
      exact (congrArg Tracked.value same).trans (rest side)
  | flushAlvikLeds =>
      have same := congrFun (Transport.flushAlvikLeds_leaves ecs).wheel side
      exact (congrArg Tracked.value same).trans (rest side)

theorem Stopping.act {state : State P} {stage : Stage} {action : EcsAction P}
    {path : Transport.State P} {events : List (Transport.Event P)}
    {after : List (Event P)} (holds : Stopping state after)
    (acted : (transport P).step state.path (.ecs action) = some (path, events))
    (still : moves action = false)
    (taken : ∀ command, .rejected command ∈ events →
      command.driveOf = none ∧ ∀ side, command.targetOf side = none)
    (drive : state.stage.Before .drive → action ≠ .flushDrive → stage.Before .drive)
    (wheels : state.stage.Before .wheels → action ≠ .flushWheels → stage.Before .wheels) :
    Stopping { state with stage, path } (after ++ events.map .path) := by
  cases acted
  have unended : .ended ∉ after → .ended ∉
      after ++ (sendEach state.path.alvikOut (state.path.ecs.perform action).2).2.map
        Event.path := by
    simp
  constructor
  · rw [sent_append, sent_map_path]
    exact holds.drive.flush (Transport.flush_drive state.path.ecs action)
      (drive_perform still holds.drive.holds) (drive_lowered state.path.ecs)
      (fun pending other => ⟨drive pending.1 other, unended pending.2⟩)
      (filterMap_accepted fun command rejected => (taken command rejected).1)
  · intro side
    rw [sent_append, sent_map_path]
    refine (holds.wheel side).flush (Transport.flush_wheel state.path.ecs action side)
      (wheel_perform still (fun side => (holds.wheel side).holds) side) ?_
      (fun pending other => ⟨wheels pending.1 other, unended pending.2⟩)
      (filterMap_accepted fun command rejected => (taken command rejected).2 side)
    rintro rfl
    rfl

theorem Stopping.driver {state : State P} {action : DriverAction}
    {path : Transport.State P} {events : List (Transport.Event P)}
    {after : List (Event P)} (holds : Stopping state after)
    (acted : (transport P).step state.path (.driver action) = some (path, events)) :
    Stopping { state with path } (after ++ events.map .path) := by
  rcases Transport.step_cases acted with ⟨_, other, -⟩ | ⟨_, -, same, shape⟩
  · cases other
  · have unended : .ended ∉ after → .ended ∉ after ++ events.map Event.path := by
      simp
    constructor
    · rw [sent_append, sent_map_path, Transport.accepted_of_driverStep shape,
        List.append_nil, same]
      exact holds.drive.mono fun pending => ⟨pending.1, unended pending.2⟩
    · intro side
      rw [sent_append, sent_map_path, Transport.accepted_of_driverStep shape,
        List.append_nil, same]
      exact (holds.wheel side).mono fun pending => ⟨pending.1, unended pending.2⟩

/-- Right after a reset. -/
theorem Stopping.start {state : State P} {path : Transport.State P}
    {events : List (Transport.Event P)}
    (acted : (transport P).step state.path (.ecs .resetScene) = some (path, events)) :
    Stopping { state with stage := .updated, path } (events.map .path) := by
  cases acted
  exact ⟨⟨rfl, .inl ⟨⟨trivial, nofun⟩, rfl⟩⟩, fun _ => ⟨rfl, .inl ⟨⟨trivial, nofun⟩, rfl⟩⟩⟩

/-- What the robot is told last is to stop: in `ALVIK_OUT`, and on the wire once all of it
is written. -/
structure Stopped (state : State P) (history : List (Event P)) : Prop where
  drive : latest Command.driveOf (sent history) = some (.rest P)
  wheel : ∀ side, latest (Command.targetOf side) (sent history) = some (STOPPED P)
  wire : state.path.alvikOut.items = [] → state.path.driver.phase = .idle →
    let written := transmitted (history.filterMap Event.pathOf)
    latest Command.driveOf written = some (.rest P) ∧
      ∀ side, latest (Command.targetOf side) written = some (STOPPED P)

/-- Once the frame of the reset is over, `ALVIK_OUT` has the stop. -/
theorem Stopping.stopped {state : State P} {history before after : List (Event P)}
    (reached : (safeStop P).Reached state history)
    (split : history = before ++ .reset :: after) (holds : Stopping state after)
    (ended : .ended ∈ after) : Stopped state history := by
  have back : sent history = sent (before ++ [.reset]) ++ sent after := by
    rw [split, ← sent_append, List.append_assoc, List.singleton_append]
  have drive := holds.drive.told.resolve_left fun pending => pending.1.2 ended
  have wheel side := (holds.wheel side).told.resolve_left fun pending => pending.1.2 ended
  have driven : latest Command.driveOf (sent history) = some (.rest P) := by
    rw [back]
    exact latest_append_of_some drive
  have wheeled side : latest (Command.targetOf side) (sent history) = some (STOPPED P) := by
    rw [back]
    exact latest_append_of_some (wheel side)
  refine ⟨driven, wheeled, ?_⟩
  intro empty idle
  rw [Transport.transmitted_of_drained (reached_path reached) empty idle]
  exact ⟨latest_append_of_some driven, fun side => latest_append_of_some (wheeled side)⟩

def flushes : List (Action Quantities.wire) :=
  [.postUpdate, .flush .wheels, .flush .drive, .flush .servos, .flush .alvikLeds, .endFrame]

/-- A robot that drives, and an error after `trigger_reset_on_error` has run. -/
def fault : List (Action Quantities.wire) :=
  [.app (.setDrive ⟨0x42700000, 0⟩), .beginFrame, .triggerResetOnError, .unhandled] ++
    flushes ++ [.beginFrame, .triggerResetOnError, .applyCommands] ++ flushes

/-- From the error to the end of the next frame. -/
def shown : List (Event Quantities.wire) :=
  [.path (.accepted (.wheelSpeed .left 0)), .path (.accepted (.wheelSpeed .right 0)),
    .path (.accepted (.drive 0x42700000 0)), .path (.accepted (.setServo 90 90)),
    .path (.accepted (.setLeds 2)), .ended, .began, .reset,
    .path (.accepted (.wheelSpeed .left 0)), .path (.accepted (.wheelSpeed .right 0)),
    .path (.accepted (.drive 0 0))]

def Event.isUnhandled : Event P → Bool
  | unhandled => true
  | _ => false

def Event.isReset : Event P → Bool
  | reset => true
  | _ => false

def Event.isBegan : Event P → Bool
  | began => true
  | _ => false

@[simp] theorem isUnhandled_path : Event.isUnhandled ∘ Event.path (P := P) = fun _ => false :=
  rfl

@[simp] theorem isReset_path : Event.isReset ∘ Event.path (P := P) = fun _ => false := rfl

@[simp] theorem isBegan_path : Event.isBegan ∘ Event.path (P := P) = fun _ => false := rfl

/-- The reset this frame may still trigger. -/
def Stage.due : Stage → Nat
  | update | triggered => 1
  | between | updated | postUpdate _ => 0

/-- Resets done and to come. -/
structure Counted (state : State P) (history : List (Event P)) : Prop where
  errors : history.countP Event.isReset + (if state.stage = .triggered then 1 else 0) +
    state.errored.toNat ≤ history.countP Event.isUnhandled
  frames : history.countP Event.isReset + state.stage.due ≤ history.countP Event.isBegan

theorem Counted.step {state next : State P} {action : Action P}
    {events history : List (Event P)} (shape : Step state action next events)
    (holds : Counted state history) : Counted next (history ++ events) := by
  rcases holds with ⟨errors, frames⟩
  have raised : state.errored.toNat ≤ 1 := Bool.toNat_le _
  cases shape with
  | unhandled =>
      constructor <;> simp [Event.isUnhandled, Event.isReset, Event.isBegan] <;> omega
  | @app action path events _ acted =>
      constructor <;> cases moves action <;>
        simpa [Event.isUnhandled, Event.isReset, Event.isBegan]
  | driver acted => exact ⟨by simpa, by simpa⟩
  | began stage | ended stage =>
      rw [stage] at errors frames
      constructor <;>
        simp_all [Event.isUnhandled, Event.isReset, Event.isBegan, Stage.due]
  | caught stage errored | calm stage errored =>
      rw [stage, errored] at errors
      rw [stage] at frames
      constructor <;> simp_all [Stage.due] <;> omega
  | reset stage acted =>
      rw [stage] at errors frames
      constructor <;>
        simp_all [List.countP_cons, Event.isUnhandled, Event.isReset, Event.isBegan,
          Stage.due]
  | postUpdate stage | flushed stage member acted =>
      rw [stage] at errors frames
      constructor <;> simp_all [Stage.due]

/-- There are no more resets than errors, and no more than frames. -/
theorem resets_counted {state : State P} {history : List (Event P)}
    (reached : (safeStop P).Reached state history) :
    history.countP Event.isReset ≤ history.countP Event.isUnhandled ∧
      history.countP Event.isReset ≤ history.countP Event.isBegan := by
  have holds : Counted state history := by
    refine reached.induction Counted ?start ?preserved
    case start => exact ⟨Nat.le_refl _, Nat.le_refl _⟩
    case preserved => exact fun _ holds stepped => holds.step (step_shape stepped)
  exact ⟨Nat.le_trans (Nat.le_add_right _ _) (Nat.le_trans (Nat.le_add_right _ _) holds.errors),
    Nat.le_trans (Nat.le_add_right _ _) holds.frames⟩

/-- Three errors, one of them in the frame that answers them all. -/
theorem resets_counted_burst :
    ∃ (state : State Quantities.wire) (history : List (Event Quantities.wire)),
      (safeStop Quantities.wire).Reached state history ∧
      history.countP Event.isUnhandled = 3 ∧ history.countP Event.isReset = 1 ∧
      history.countP Event.isReset ≤ history.countP Event.isUnhandled ∧
      history.countP Event.isReset ≤ history.countP Event.isBegan := by
  have reached : (safeStop Quantities.wire).Reached _ _ :=
    ⟨[.unhandled, .unhandled, .beginFrame, .unhandled, .triggerResetOnError,
      .applyCommands], rfl⟩
  exact ⟨_, _, reached, rfl, rfl, resets_counted reached⟩

end SafeStop

end BeetEsp.Alvik
