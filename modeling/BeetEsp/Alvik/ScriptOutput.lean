import BeetEsp.Alvik.ScriptReset

/-! # What a script leaves out

A script returns a map, of which `AlvikOutput` takes five fields, each of them with a
default for the map that does not have it. The access that applies the output writes all
of them.
-/

namespace BeetEsp.Alvik

open Foundation
open Scripting (Engine StateMap Entity World)
open Scripting.ScriptState (State Action Event)

/-- The fields of the map that a script returns, as far as it has them. -/
structure ScriptResult (E : Engine) where
  linear : Option F32
  angular : Option F32
  ledLeft : Option UInt32
  ledRight : Option UInt32
  state : Option (StateMap E)

/-- `HashMap::default()` -/
def emptyState (E : Engine) : StateMap E := fun _ => none

section

variable {E : Engine}

/-- Each field is `#[serde(default)]`. -/
def ScriptResult.output (result : ScriptResult E) : AlvikOutput E where
  linear := result.linear.getD 0
  angular := result.angular.getD 0
  ledLeft := result.ledLeft.getD 0
  ledRight := result.ledRight.getD 0
  state := result.state.getD (emptyState E)

def ScriptResult.led (result : ScriptResult E) : Side → Option UInt32
  | .left => result.ledLeft
  | .right => result.ledRight

end

variable {P : Quantities} {E : Engine}

theorem ScriptResult.color_output (result : ScriptResult E) (side : Side) :
    result.output.color P side = unpackColor P ((result.led side).getD 0) := by
  cases side <;> rfl

/-! ## A tick -/

/-- The step of this entity runs, and these actions while it waits for its script. -/
def tick (state : State E (AlvikDomain P) (AlvikInput E)) (entity : Entity)
    (meanwhile : List (Action E (AlvikDomain P) (AlvikOutput E))) (result : ScriptResult E) :
    List (Action E (AlvikDomain P) (AlvikOutput E)) :=
  .begin entity :: meanwhile ++ [.finish state.ticks.length (.ok result.output)]

theorem tick_runs {boot : World E (AlvikDomain P)}
    {state between : State E (AlvikDomain P) (AlvikInput E)} {entity : Entity}
    {meanwhile : List (Action E (AlvikDomain P) (AlvikOutput E))}
    {seen : List (Event E (AlvikDomain P) (AlvikOutput E))}
    (up : ((alvikScriptStep P E).begin state.world entity).isSome)
    (ran : (alvikScriptSteps boot).runFrom state (.begin entity :: meanwhile) =
      some (between, seen))
    (unfinished : ∀ outcome, .finish state.ticks.length outcome ∉ meanwhile)
    (result : ScriptResult E) :
    ∃ next events, (alvikScriptSteps boot).runFrom state
        (tick state entity meanwhile result) = some (next, events) ∧
      next.world = (alvikScriptStep P E).finish between.world entity result.output := by
  rcases Option.isSome_iff_exists.mp up with ⟨running, began⟩
  exact ⟨_, _, Scripting.ScriptState.runFrom_tick began ran unfinished result.output, rfl⟩

/-! ## The fields one by one -/

/-- A field that the result has is set by it, and one that it has not stays as it is. -/
structure SetsOnly (result : ScriptResult E) (entity : Entity)
    (world next : World E (AlvikDomain P)) : Prop where
  linear : next.domain.robots.map (fun robot => robot.drive.linear) =
    world.domain.robots.map fun robot => result.linear.elim robot.drive.linear P.fromMmPerSec
  angular : next.domain.robots.map (fun robot => robot.drive.angular) =
    world.domain.robots.map fun robot =>
      result.angular.elim robot.drive.angular P.fromDegPerSec
  led : next.domain.leds.map AlvikLed.color =
    world.domain.leds.map fun led => (result.led led.side).elim led.color (unpackColor P)
  state : ∀ components current, world.entity entity = some components →
    components.scriptState = some current →
    next.entity entity = some { components with
      scriptState := some (result.state.elim current id) }

/-- What the result leaves out is already what the default of the field writes. -/
structure DefaultsInPlace (result : ScriptResult E) (entity : Entity)
    (world : World E (AlvikDomain P)) : Prop where
  linear : ∀ robot ∈ world.domain.robots, result.linear = none →
    robot.drive.linear = P.fromMmPerSec 0
  angular : ∀ robot ∈ world.domain.robots, result.angular = none →
    robot.drive.angular = P.fromDegPerSec 0
  led : ∀ led ∈ world.domain.leds, result.led led.side = none → led.color = unpackColor P 0
  state : result.state = none → ∀ components current, world.entity entity = some components →
    components.scriptState = some current → current = emptyState E

/-- A default is written over a value that it should not change. -/
theorem default_kept_iff {Field Value : Type} (present : Option Field) (default : Field)
    (write : Field → Value) (current : Value) :
    write (present.getD default) = present.elim current write ↔
      (present = none → current = write default) := by
  cases present with
  | none => simpa using eq_comm
  | some field => simp

section

variable (result : ScriptResult E) (domain : AlvikDomain P)

theorem apply_linear :
    (domain.apply result.output).robots.map (fun robot => robot.drive.linear) =
        domain.robots.map (fun robot =>
          result.linear.elim robot.drive.linear P.fromMmPerSec) ↔
      ∀ robot ∈ domain.robots, result.linear = none →
        robot.drive.linear = P.fromMmPerSec 0 := by
  simp only [AlvikDomain.apply, List.map_map, List.map_inj_left, Function.comp_apply,
    AlvikOutput.drive, ScriptResult.output, default_kept_iff]

theorem apply_angular :
    (domain.apply result.output).robots.map (fun robot => robot.drive.angular) =
        domain.robots.map (fun robot =>
          result.angular.elim robot.drive.angular P.fromDegPerSec) ↔
      ∀ robot ∈ domain.robots, result.angular = none →
        robot.drive.angular = P.fromDegPerSec 0 := by
  simp only [AlvikDomain.apply, List.map_map, List.map_inj_left, Function.comp_apply,
    AlvikOutput.drive, ScriptResult.output, default_kept_iff]

theorem apply_led :
    (domain.apply result.output).leds.map AlvikLed.color =
        domain.leds.map (fun led =>
          (result.led led.side).elim led.color (unpackColor P)) ↔
      ∀ led ∈ domain.leds, result.led led.side = none → led.color = unpackColor P 0 := by
  simp only [AlvikDomain.apply, List.map_map, List.map_inj_left, Function.comp_apply,
    ScriptResult.color_output, default_kept_iff]

end

/-- The entity of the step gets the state of the output. -/
theorem finish_entity {world : World E (AlvikDomain P)} {entity : Entity}
    {components : Scripting.ScriptEntity E} {current : StateMap E}
    (present : world.entity entity = some components)
    (holds : components.scriptState = some current) (output : AlvikOutput E) :
    ((alvikScriptStep P E).finish world entity output).entity entity =
      some { components with scriptState := some output.state } := by
  simp only [Scripting.DomainStep.finish, alvikScriptStep, present, holds,
    Function.update_self]

theorem setsOnly_finish_iff (result : ScriptResult E) (entity : Entity)
    (world : World E (AlvikDomain P)) :
    SetsOnly result entity world
        ((alvikScriptStep P E).finish world entity result.output) ↔
      DefaultsInPlace result entity world := by
  have domain : ((alvikScriptStep P E).finish world entity result.output).domain =
      world.domain.apply result.output :=
    Scripting.DomainStep.domain_finish _ world entity result.output
  have state : ∀ components current, world.entity entity = some components →
      components.scriptState = some current →
      (((alvikScriptStep P E).finish world entity result.output).entity entity =
          some { components with scriptState := some (result.state.elim current id) } ↔
        (result.state = none → current = emptyState E)) := by
    intro components current present holds
    have default := default_kept_iff result.state (emptyState E) id current
    rw [finish_entity present holds, ← id_eq (emptyState E), ← default]
    simp [ScriptResult.output]
  constructor
  · intro sets
    rcases sets with ⟨linear, angular, led, kept⟩
    rw [domain] at linear angular led
    refine ⟨(apply_linear result _).mp linear, (apply_angular result _).mp angular,
      (apply_led result _).mp led, fun omitted components current present holds => ?_⟩
    exact (state _ _ present holds).mp (kept _ _ present holds) omitted
  · intro inPlace
    rcases inPlace with ⟨linear, angular, led, empty⟩
    constructor
    · rw [domain]
      exact (apply_linear result _).mpr linear
    · rw [domain]
      exact (apply_angular result _).mpr angular
    · rw [domain]
      exact (apply_led result _).mpr led
    · intro components current present holds
      exact (state _ _ present holds).mpr fun omitted =>
        empty omitted components current present holds

/-- Whatever happens while its script runs, a tick leaves the fields that the result does
not have as it finds them exactly if they are what the defaults write. -/
theorem omitted_fields_iff {boot : World E (AlvikDomain P)}
    {state between : State E (AlvikDomain P) (AlvikInput E)} {entity : Entity}
    {meanwhile : List (Action E (AlvikDomain P) (AlvikOutput E))}
    {seen : List (Event E (AlvikDomain P) (AlvikOutput E))}
    (up : ((alvikScriptStep P E).begin state.world entity).isSome)
    (ran : (alvikScriptSteps boot).runFrom state (.begin entity :: meanwhile) =
      some (between, seen))
    (unfinished : ∀ outcome, .finish state.ticks.length outcome ∉ meanwhile)
    (result : ScriptResult E) :
    ∃ next events, (alvikScriptSteps boot).runFrom state
        (tick state entity meanwhile result) = some (next, events) ∧
      (SetsOnly result entity between.world next.world ↔
        DefaultsInPlace result entity between.world) := by
  rcases tick_runs up ran unfinished result with ⟨next, events, finished, world⟩
  refine ⟨next, events, finished, ?_⟩
  rw [world]
  exact setsOnly_finish_iff result entity between.world

/-! ## A robot under way -/

/-- The robot of `sceneLoaded` drives at 60 mm/s. -/
def underWay : World bareEngine (AlvikDomain Quantities.wire) :=
  { sceneLoaded with
    domain := { sceneLoaded.domain with
      robots := sceneLoaded.domain.robots.map fun robot =>
        { robot with drive := ⟨(0x42700000 : F32), (0 : F32)⟩ } } }

def emptyResult : ScriptResult bareEngine := ⟨none, none, none, none, none⟩

/-- The scene is reset while the script runs. -/
theorem omitted_fields_at_rest : ∃ between seen next events,
    (alvikScriptSteps sceneLoaded).runFrom ⟨underWay, []⟩ [.begin 0, .resetScene] =
        some (between, seen) ∧
      (alvikScriptSteps sceneLoaded).runFrom ⟨underWay, []⟩
        (tick ⟨underWay, []⟩ 0 [.resetScene] emptyResult) = some (next, events) ∧
      (SetsOnly emptyResult 0 between.world next.world ↔
        DefaultsInPlace emptyResult 0 between.world) := by
  have ran : ∃ between seen, (alvikScriptSteps sceneLoaded).runFrom ⟨underWay, []⟩
      [.begin 0, .resetScene] = some (between, seen) := ⟨_, _, rfl⟩
  rcases ran with ⟨between, seen, ran⟩
  rcases omitted_fields_iff rfl ran (by simp) emptyResult with ⟨next, events, finished, sets⟩
  exact ⟨between, seen, next, events, ran, finished, sets⟩

/-- A script that returns an empty map stops the robot. -/
theorem empty_result_stops_robot : ∃ next events,
    (alvikScriptSteps underWay).runFrom ⟨underWay, []⟩
        (tick ⟨underWay, []⟩ 0 [] emptyResult) = some (next, events) ∧
      next.world.domain.robots.map RobotRoot.drive = [⟨(0 : F32), (0 : F32)⟩] ∧
      ¬SetsOnly emptyResult 0 underWay next.world := by
  refine ⟨_, _, rfl, rfl, ?_⟩
  intro sets
  have linear := sets.linear
  cases linear

end BeetEsp.Alvik
