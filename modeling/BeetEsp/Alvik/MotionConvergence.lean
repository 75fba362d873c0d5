import BeetEsp.Alvik.Transport
import BeetEsp.Foundation.Latest

/-! # Motion commands converge while they fit

A component is flushed once for each change, and a rejected send is not tried
again. As long as every motion flush finds room in `ALVIK_OUT`, the robot ends up
with the velocity and the wheel targets the components hold.
-/

namespace BeetEsp.Alvik.Transport

open Foundation

variable {P : Quantities} {Value : Type}

/-! ## A flushed component -/

/-- What one ECS action does to a component and to the commands of its kind: its
own system flushes it, or no such command is sent and the component is left alone
or written. -/
inductive Flush (ownSystem : Prop) (carried : Command P → Option Value) :
    Tracked Value → List (Command P) → Tracked Value → Prop
  | flushed {component commands} (own : ownSystem)
      (changed : component.changed = true)
      (last : latest carried commands = some component.value) :
      Flush ownSystem carried component commands component.seen
  | untouched {component commands}
      (others : ∀ command ∈ commands, carried command = none) :
      Flush ownSystem carried component commands component
  | written {component commands value}
      (others : ∀ command ∈ commands, carried command = none) :
      Flush ownSystem carried component commands (.write value)

/-- Unless the component waits for its flush, the last accepted command of its
kind carries its value. -/
def Synced (carried : Command P → Option Value) (component : Tracked Value)
    (queued : List (Command P)) : Prop :=
  component.changed = false → latest carried queued = some component.value

theorem Synced.flush {ownSystem : Prop} {carried : Command P → Option Value}
    {component next : Tracked Value} {queued commands : List (Command P)}
    {out : AlvikOut P} (synced : Synced carried component queued)
    (flush : Flush ownSystem carried component commands next)
    (fits : ownSystem → component.changed = true →
      out.items.length + commands.length ≤ 16) :
    Synced carried next (queued ++ accepted (sendEach out commands).2) := by
  cases flush with
  | flushed own changed last =>
      intro _
      rw [accepted_sendEach_of_room (fits own changed)]
      exact latest_append_of_some last
  | untouched others =>
      intro unchanged
      rw [latest_append_of_none
        fun command member => others command (mem_of_mem_accepted_sendEach member)]
      exact synced unchanged
  | written others =>
      exact nofun

/-- An action that has nothing to do with motion. -/
structure LeavesMotion (ecs : Ecs P) (result : Ecs P × List (Command P)) : Prop where
  drive : result.1.drive = ecs.drive
  wheel : result.1.wheel = ecs.wheel
  commands : ∀ command ∈ result.2,
    command.driveOf = none ∧ ∀ side, command.targetOf side = none

theorem flushServos_leaves (ecs : Ecs P) : LeavesMotion ecs ecs.flushServos := by
  rcases ecs.flushServos_cases with ⟨a, b, -, -, flushed⟩ | ⟨-, flushed⟩
  · rw [flushed]
    exact ⟨rfl, rfl, by simp [Command.driveOf, Command.targetOf]⟩
  · rw [flushed]
    exact ⟨rfl, rfl, List.forall_mem_nil _⟩

theorem flushAlvikLeds_leaves (ecs : Ecs P) : LeavesMotion ecs ecs.flushAlvikLeds := by
  rcases ecs.flushAlvikLeds_cases with ⟨byte, -, -, flushed⟩ | ⟨-, flushed⟩
  · rw [flushed]
    exact ⟨rfl, rfl, by simp [Command.driveOf, Command.targetOf]⟩
  · rw [flushed]
    exact ⟨rfl, rfl, List.forall_mem_nil _⟩

theorem oneShot_leaves (ecs : Ecs P) {command : Command P}
    (allowed : command.oneShot = true) : LeavesMotion ecs (ecs, [command]) := by
  refine ⟨rfl, rfl, ?_⟩
  intro other member
  rw [List.mem_singleton.mp member]
  have kinds := Command.kinds_of_oneShot allowed
  exact ⟨kinds.1, kinds.2.1⟩

theorem LeavesMotion.flush_drive {ownSystem : Prop} {ecs : Ecs P}
    {result : Ecs P × List (Command P)} (leaves : LeavesMotion ecs result) :
    Flush ownSystem Command.driveOf ecs.drive result.2 result.1.drive := by
  rw [leaves.drive]
  exact .untouched fun command member => (leaves.commands command member).1

theorem LeavesMotion.flush_wheel {ownSystem : Prop} {ecs : Ecs P}
    {result : Ecs P × List (Command P)} (leaves : LeavesMotion ecs result)
    (side : Side) :
    Flush ownSystem (Command.targetOf side) (ecs.wheel side) result.2
      (result.1.wheel side) := by
  rw [leaves.wheel]
  exact .untouched fun command member => (leaves.commands command member).2 side

theorem flush_drive (ecs : Ecs P) (action : EcsAction P) :
    Flush (action = .flushDrive) Command.driveOf ecs.drive (ecs.perform action).2
      (ecs.perform action).1.drive := by
  cases action with
  | setDrive drive => exact .written (List.forall_mem_nil _)
  | setWheel side target => exact .untouched (List.forall_mem_nil _)
  | setServos servos => exact .untouched (List.forall_mem_nil _)
  | setLights lights => exact .untouched (List.forall_mem_nil _)
  | resetScene => exact .written (List.forall_mem_nil _)
  | flushWheels =>
      apply Flush.untouched
      intro command member
      rcases List.mem_map.mp member with ⟨side, -, rfl⟩
      cases (ecs.wheel side).value <;> rfl
  | flushDrive =>
      simp only [Ecs.perform, Ecs.flushDrive]
      split
      case isTrue changed => exact .flushed trivial changed rfl
      case isFalse => exact .untouched (List.forall_mem_nil _)
  | flushServos => exact (flushServos_leaves ecs).flush_drive
  | flushAlvikLeds => exact (flushAlvikLeds_leaves ecs).flush_drive
  | oneShot command allowed => exact (oneShot_leaves ecs allowed).flush_drive

/-- Of the commands `flush_wheels` sends, the one for a side carries the target of
that side's wheel. -/
theorem latest_flushWheels (ecs : Ecs P) (side : Side) :
    latest (Command.targetOf side) ecs.flushWheels.2 =
      if (ecs.wheel side).changed then some (ecs.wheel side).value else none := by
  cases left : (ecs.wheel .left).changed <;>
    cases right : (ecs.wheel .right).changed <;> cases side <;>
    simp [Ecs.flushWheels, latest, left, right]

theorem flush_wheel (ecs : Ecs P) (action : EcsAction P) (side : Side) :
    Flush (action = .flushWheels) (Command.targetOf side) (ecs.wheel side)
      (ecs.perform action).2 ((ecs.perform action).1.wheel side) := by
  cases action with
  | setDrive drive => exact .untouched (List.forall_mem_nil _)
  | setWheel wheel target =>
      simp only [Ecs.perform, Function.update_apply]
      split
      case isTrue => exact .written (List.forall_mem_nil _)
      case isFalse => exact .untouched (List.forall_mem_nil _)
  | setServos servos => exact .untouched (List.forall_mem_nil _)
  | setLights lights => exact .untouched (List.forall_mem_nil _)
  | resetScene => exact .written (List.forall_mem_nil _)
  | flushWheels =>
      have last := latest_flushWheels ecs side
      cases changed : (ecs.wheel side).changed with
      | true =>
          rw [if_pos changed] at last
          exact .flushed rfl changed last
      | false =>
          rw [if_neg (by simp [changed])] at last
          have unchanged : (ecs.wheel side).seen = ecs.wheel side := by
            rw [Tracked.seen, ← changed]
          rw [Ecs.perform, show ecs.flushWheels.1.wheel side = ecs.wheel side from
            unchanged]
          exact .untouched (List.filterMap_eq_nil_iff.mp (List.getLast?_eq_none_iff.mp last))
  | flushDrive =>
      simp only [Ecs.perform, Ecs.flushDrive]
      split
      case isTrue => exact .untouched (by simp [Command.targetOf])
      case isFalse => exact .untouched (List.forall_mem_nil _)
  | flushServos => exact (flushServos_leaves ecs).flush_wheel side
  | flushAlvikLeds => exact (flushAlvikLeds_leaves ecs).flush_wheel side
  | oneShot command allowed => exact (oneShot_leaves ecs allowed).flush_wheel side

/-! ## Runs -/

/-- A motion flush finds room in `ALVIK_OUT` for every command it sends. -/
def MotionFlushFits (state : State P) : Action P → Prop
  | .ecs .flushDrive =>
      state.ecs.drive.changed = true → state.alvikOut.items.length < 16
  | .ecs .flushWheels =>
      state.alvikOut.items.length + ([Side.left, Side.right].filter
        fun side => (state.ecs.wheel side).changed).length ≤ 16
  | _ => True

theorem room_of_flushDrive {state : State P}
    (fits : MotionFlushFits state (.ecs .flushDrive))
    (changed : state.ecs.drive.changed = true) :
    state.alvikOut.items.length + (state.ecs.perform .flushDrive).2.length ≤ 16 := by
  have room := fits changed
  simp only [Ecs.perform, Ecs.flushDrive, if_pos changed, List.length_singleton]
  omega

theorem room_of_flushWheels {state : State P}
    (fits : MotionFlushFits state (.ecs .flushWheels)) :
    state.alvikOut.items.length + (state.ecs.perform .flushWheels).2.length ≤ 16 := by
  rw [Ecs.perform, Ecs.flushWheels, List.length_map]
  exact fits

structure MotionSynced (state : State P) (history : List (Event P)) : Prop where
  drive : Synced Command.driveOf state.ecs.drive (accepted history)
  wheel : ∀ side, Synced (Command.targetOf side) (state.ecs.wheel side)
    (accepted history)

theorem MotionSynced.step {state next : State P} {history events : List (Event P)}
    {action : Action P} (synced : MotionSynced state history)
    (fits : MotionFlushFits state action)
    (stepped : (transport P).step state action = some (next, events)) :
    MotionSynced next (history ++ events) := by
  rcases step_cases stepped with
    ⟨ecsAction, rfl, ecs, -, rfl, -⟩ | ⟨driverAction, -, ecs, shape⟩
  · constructor
    · rw [ecs, accepted_append]
      apply synced.drive.flush (flush_drive state.ecs ecsAction)
      rintro rfl changed
      exact room_of_flushDrive fits changed
    · intro side
      rw [ecs, accepted_append]
      apply (synced.wheel side).flush (flush_wheel state.ecs ecsAction side)
      rintro rfl -
      exact room_of_flushWheels fits
  · constructor
    · rw [ecs, accepted_append, accepted_of_driverStep shape, List.append_nil]
      exact synced.drive
    · intro side
      rw [ecs, accepted_append, accepted_of_driverStep shape, List.append_nil]
      exact synced.wheel side

/-- Nothing is queued or in flight, and no motion component waits for its
flush. -/
structure Settled (state : State P) : Prop where
  empty : state.alvikOut.items = []
  idle : state.driver.phase = .idle
  drive : state.ecs.drive.changed = false
  wheel : ∀ side, (state.ecs.wheel side).changed = false

/-- In a settled state the robot was told its velocity and wheel targets last. -/
def MotionConverged (state : State P) (history : List (Event P)) : Prop :=
  Settled state →
    latest Command.driveOf (transmitted history) = some state.ecs.drive.value ∧
    ∀ side, latest (Command.targetOf side) (transmitted history) =
      some (state.ecs.wheel side).value

theorem MotionSynced.converged {state : State P} {history : List (Event P)}
    (reached : (transport P).Reached state history)
    (synced : MotionSynced state history) : MotionConverged state history := by
  intro settled
  rw [transmitted_of_drained reached settled.empty settled.idle]
  constructor
  · exact latest_append_of_some (synced.drive settled.drive)
  · exact fun side => latest_append_of_some (synced.wheel side (settled.wheel side))

/-- In every run whose motion flushes find room, whatever the interleaving, the
settled states have told the robot its current velocity and wheel targets. -/
theorem motion_converges (actions : List (Action P))
    (fits : (transport P).Meets MotionFlushFits actions) :
    (transport P).AlwaysAlong MotionConverged actions := by
  have synced : (transport P).AlwaysAlong MotionSynced actions :=
    fits.always ⟨nofun, nofun⟩ fun _ holds met stepped => holds.step met stepped
  exact synced.mono fun reached holds => holds.converged reached

/-- A robot that has power is driven and then reset, and the driver drains the queue. -/
def drainedReset : List (Action Quantities.wire) :=
  [.driver .handshake, .driver (.written 6), .driver (.written 6), .driver (.written 6),
    .driver (.written 7), .ecs (.setDrive ⟨0x42700000, 0⟩), .ecs .flushDrive,
    .driver .receive, .driver (.written 13), .ecs .resetScene, .ecs .flushDrive,
    .ecs .flushWheels, .driver .receive, .driver (.written 13), .driver .receive,
    .driver (.written 11), .driver .receive, .driver (.written 11)]

theorem motion_converges_reset :
    ∃ state history,
      (transport Quantities.wire).run drainedReset = some (state, history) ∧
      Settled state ∧
      latest Command.driveOf (transmitted history) = some (.rest Quantities.wire) ∧
      ∀ side, latest (Command.targetOf side) (transmitted history) =
        some (state.ecs.wheel side).value := by
  have fits : (transport Quantities.wire).Meets MotionFlushFits drainedReset := by
    iterate 6 refine Machine.meetsFrom_cons trivial rfl ?_
    refine Machine.meetsFrom_cons (fun _ => by decide) rfl ?_
    iterate 3 refine Machine.meetsFrom_cons trivial rfl ?_
    refine Machine.meetsFrom_cons (fun _ => by decide) rfl ?_
    refine Machine.meetsFrom_cons (Nat.le_of_ble_eq_true rfl) rfl ?_
    iterate 6 refine Machine.meetsFrom_cons trivial rfl ?_
    trivial
  have runs : ∃ state history,
      (transport Quantities.wire).run drainedReset = some (state, history) ∧
      Settled state ∧ state.ecs.drive.value = .rest Quantities.wire :=
    ⟨_, _, rfl, ⟨rfl, rfl, rfl, fun side => by cases side <;> rfl⟩, rfl⟩
  rcases runs with ⟨state, history, ran, settled, value⟩
  have converged := motion_converges drainedReset fits drainedReset [] rfl state history ran
    settled
  rw [value] at converged
  exact ⟨state, history, ran, settled, converged⟩

/-- Sixteen drive commands while the robot has no power, then a reset; then the
robot is switched on and the driver drains the queue. -/
def lostStop : List (Action Quantities.wire) :=
  (List.replicate 16
    [.ecs (.setDrive ⟨0x42700000, 0⟩), .ecs .flushDrive]).flatten ++
  [.ecs .resetScene, .ecs .flushDrive, .ecs .flushWheels] ++
  [.driver .handshake, .driver (.written 6), .driver (.written 6),
    .driver (.written 6), .driver (.written 7)] ++
  (List.replicate 16 [.driver .receive, .driver (.written 13)]).flatten

/-- The components are at rest, the robot drives on at 60 mm/s. -/
theorem stop_is_lost :
    (∃ state history,
      (transport Quantities.wire).run lostStop = some (state, history) ∧
      Settled state ∧ state.ecs.drive.value = .rest Quantities.wire ∧
      latest Command.driveOf (transmitted history) = some ⟨0x42700000, 0⟩) ∧
    ¬(transport Quantities.wire).AlwaysAlong MotionConverged lostStop := by
  have runs : ∃ state history,
      (transport Quantities.wire).run lostStop = some (state, history) ∧
      Settled state ∧ state.ecs.drive.value = .rest Quantities.wire ∧
      latest Command.driveOf (transmitted history) = some ⟨0x42700000, 0⟩ :=
    ⟨_, _, rfl, ⟨rfl, rfl, rfl, fun side => by cases side <;> rfl⟩, rfl, rfl⟩
  refine ⟨runs, ?_⟩
  intro always
  rcases runs with ⟨state, history, ran, settled, value, told⟩
  have converged := (always lostStop [] (by simp) state history ran settled).1
  rw [told, value] at converged
  cases converged

end BeetEsp.Alvik.Transport
