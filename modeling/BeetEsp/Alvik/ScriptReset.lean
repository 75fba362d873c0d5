import BeetEsp.Alvik.Scripting

/-! # Resets and running script ticks

The access that applies an output does not ask what happened since the gather, so
a reset in between stands exactly when the output happens to command what the
robot does already.
-/

namespace BeetEsp.Alvik

open Foundation
open Scripting (Engine Entity World)
open Scripting.ScriptState

variable {P : Quantities} {E : Engine}

abbrev ScriptEvent (P : Quantities) (E : Engine) :=
  Event E (AlvikDomain P) (AlvikOutput E)

/-- A `ResetScene`, or the end of the scene a step belongs to. -/
def Interrupts (entity : Entity) : ScriptEvent P E → Prop
  | .wasReset => True
  | .despawned other => other = entity
  | .skipped _ | .gathered .. | .applied .. | .failed .. => False

/-- `applies` holds of every output that was applied to a world after its tick had
been interrupted. -/
def OnInterrupted (history : List (ScriptEvent P E))
    (applies : AlvikOutput E → AlvikDomain P → AlvikDomain P → Prop) : Prop :=
  ∀ before tick entity middle output world next after,
    history = before ++ .gathered tick entity ::
      (middle ++ .applied tick output world next :: after) →
    (∃ event ∈ middle, Interrupts entity event) →
    applies output world.domain next.domain

/-- The drive and the colours are as they were. -/
structure LeavesRobot (domain next : AlvikDomain P) : Prop where
  drive : next.robots.map RobotRoot.drive = domain.robots.map RobotRoot.drive
  color : next.leds.map AlvikLed.color = domain.leds.map AlvikLed.color

/-- No output of an interrupted tick changes what the robot does. -/
def ResetsStand (history : List (ScriptEvent P E)) : Prop :=
  OnInterrupted history fun _ domain next => LeavesRobot domain next

/-- The output commands what every robot and every LED is set to. -/
structure InPlace (output : AlvikOutput E) (domain : AlvikDomain P) : Prop where
  drive : ∀ robot ∈ domain.robots, output.drive P = robot.drive
  color : ∀ led ∈ domain.leds, output.color P led.side = led.color

/-- Every output of an interrupted tick commands what is in place already. -/
def InterruptedInPlace (history : List (ScriptEvent P E)) : Prop :=
  OnInterrupted history fun output domain _ => InPlace output domain

theorem leavesRobot_apply (output : AlvikOutput E) (domain : AlvikDomain P) :
    LeavesRobot domain (domain.apply output) ↔ InPlace output domain := by
  constructor
  · intro holds
    rcases holds with ⟨drive, color⟩
    simp only [AlvikDomain.apply, List.map_map, List.map_inj_left,
      Function.comp_apply] at drive color
    exact ⟨drive, color⟩
  · intro holds
    rcases holds with ⟨drive, color⟩
    constructor <;>
      simp only [AlvikDomain.apply, List.map_map, List.map_inj_left,
        Function.comp_apply]
    · exact drive
    · exact color

/-- Straight after a reset only a stop and black LEDs are in place. -/
theorem inPlace_reset (output : AlvikOutput E) (domain : AlvikDomain P) :
    InPlace output domain.reset ↔
      (domain.robots ≠ [] → output.drive P = .rest P) ∧
        ∀ led ∈ domain.leds, output.color P led.side = P.black := by
  constructor
  · intro holds
    rcases holds with ⟨drive, color⟩
    constructor
    · intro up
      rcases List.exists_mem_of_ne_nil _ up with ⟨robot, member⟩
      exact drive _ (List.mem_map_of_mem member)
    · intro led member
      exact color _ (List.mem_map_of_mem member)
  · intro holds
    rcases holds with ⟨stops, dark⟩
    constructor
    · intro robot member
      rcases List.mem_map.mp member with ⟨earlier, present, rfl⟩
      exact stops (List.ne_nil_of_mem present)
    · intro led member
      rcases List.mem_map.mp member with ⟨earlier, present, rfl⟩
      exact dark earlier present

theorem OnInterrupted.imp {history : List (ScriptEvent P E)}
    {first second : AlvikOutput E → AlvikDomain P → AlvikDomain P → Prop}
    (holds : OnInterrupted history first)
    (implies : ∀ before tick output world next after,
      history = before ++ .applied tick output world next :: after →
      first output world.domain next.domain → second output world.domain next.domain) :
    OnInterrupted history second := by
  intro before tick entity middle output world next after split interrupted
  refine implies (before ++ .gathered tick entity :: middle) tick output world next
    after ?_ (holds _ _ _ _ _ _ _ _ split interrupted)
  rw [split, List.append_assoc, List.cons_append]

/-- In every run, the resets that interrupt a tick stand if and only if the outputs
applied after them command what is in place already. -/
theorem resets_stand_iff {boot : World E (AlvikDomain P)}
    {state : State E (AlvikDomain P) (AlvikInput E)}
    {history : List (ScriptEvent P E)}
    (reached : (alvikScriptSteps boot).Reached state history) :
    ResetsStand history ↔ InterruptedInPlace history := by
  have applies : ∀ before tick output (world next : World E (AlvikDomain P)) after,
      history = before ++ .applied tick output world next :: after →
      (LeavesRobot world.domain next.domain ↔ InPlace output world.domain) := by
    intro before tick output world next after split
    rcases applied_of_reached reached split with ⟨entity, rfl⟩
    rw [Scripting.DomainStep.domain_finish]
    exact leavesRobot_apply output world.domain
  constructor
  · exact fun stand => stand.imp fun _ _ _ _ _ _ split =>
      (applies _ _ _ _ _ _ split).mp
  · exact fun inPlace => inPlace.imp fun _ _ _ _ _ _ split =>
      (applies _ _ _ _ _ _ split).mpr

/-! ## A robot that drives on -/

/-- An engine whose scripts and values carry nothing. -/
@[reducible] def bareEngine : Engine where
  Value := Unit
  Script := Unit
  ScriptConfig := Unit
  defaultConfig := ()

/-- One robot at rest, and a scene with a script on entity 0. -/
def sceneLoaded : World bareEngine (AlvikDomain Quantities.wire) where
  entity := fun entity =>
    if entity = 0 then some ⟨some (), none, some fun _ => none⟩ else none
  domain := {
    elapsedMs := 0
    robots := [{
      drive := .rest Quantities.wire
      sensors := { tofCenter := (0 : F32), line := ⟨0, 0, 0⟩, yawDeg := 0, touch := 0 } }]
    leds := [⟨.left, Quantities.wire.black⟩, ⟨.right, Quantities.wire.black⟩] }

/-- An output that turns both LEDs off. -/
def darkOutput (linear : F32) : AlvikOutput bareEngine where
  linear
  angular := 0
  ledLeft := 0
  ledRight := 0
  state := fun _ => none

/-- The scene is cleared and the robot reset while its script runs. -/
def clearedMidTick (linear : F32) :
    List (Action bareEngine (AlvikDomain Quantities.wire) (AlvikOutput bareEngine)) :=
  [.begin 0, .despawn 0, .resetScene, .finish 0 (.ok (darkOutput linear))]

theorem resets_stand_iff_stop : ∃ state history,
    (alvikScriptSteps sceneLoaded).run (clearedMidTick 0) = some (state, history) ∧
      (ResetsStand history ↔ InterruptedInPlace history) := by
  have runs : ∃ state history,
      (alvikScriptSteps sceneLoaded).run (clearedMidTick 0) = some (state, history) :=
    ⟨_, _, rfl⟩
  rcases runs with ⟨state, history, ran⟩
  exact ⟨state, history, ran, resets_stand_iff ⟨clearedMidTick 0, ran⟩⟩

/-- The robot drives at 60 mm/s with no scene left to stop it. -/
theorem reset_is_undone :
    ∃ state history,
      (alvikScriptSteps sceneLoaded).run (clearedMidTick 0x42700000) =
        some (state, history) ∧
      state.world.entity 0 = none ∧
      state.world.domain.robots.map RobotRoot.drive = [⟨(0x42700000 : F32), (0 : F32)⟩] ∧
      ¬ ResetsStand history := by
  refine ⟨_, _, rfl, rfl, rfl, ?_⟩
  intro stand
  have left := (stand [] 0 0 [.despawned 0, .wasReset] _ _ _ [] rfl
    ⟨.wasReset, by simp, trivial⟩).drive
  cases left

end BeetEsp.Alvik
