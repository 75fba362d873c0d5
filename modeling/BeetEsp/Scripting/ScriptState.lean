import Mathlib.Logic.Function.Basic
import BeetEsp.Foundation.Machine

/-! # Script steps

`ScriptState::step` of `scripting/mod.rs`, for any domain. A tick accesses the
world twice, to gather the input of the script and to apply its output. The script
runs in between, and the world moves on in the meantime.
-/

namespace BeetEsp.Scripting

open Foundation

/-- The script engine, which lives upstream. -/
structure Engine where
  /-- The marshalling currency in and out of the engine. -/
  Value : Type
  Script : Type
  ScriptConfig : Type
  /-- `ScriptConfig::default()`. -/
  defaultConfig : ScriptConfig

/-- The `HashMap<String, Value>` of a `ScriptState`. -/
abbrev StateMap (E : Engine) := String → Option E.Value

abbrev Entity := Nat

/-- The components of an entity that a step reads. -/
structure ScriptEntity (E : Engine) where
  script : Option E.Script
  config : Option E.ScriptConfig
  scriptState : Option (StateMap E)

structure World (E : Engine) (Domain : Type) where
  entity : Entity → Option (ScriptEntity E)
  domain : Domain

/-- The two closures a domain step passes to `ScriptState::step`. -/
structure DomainStep (E : Engine) (Domain Input Output : Type) where
  gather : World E Domain → StateMap E → Option Input
  apply : World E Domain → Output → World E Domain × StateMap E

/-- What the first access clones out. -/
structure Tick (E : Engine) (Input : Type) where
  entity : Entity
  script : E.Script
  config : E.ScriptConfig
  input : Input

namespace DomainStep

variable {E : Engine} {Domain Input Output : Type}

/-- The first access; `none` skips the tick. -/
def begin (step : DomainStep E Domain Input Output) (world : World E Domain)
    (entity : Entity) : Option (Tick E Input) := do
  let components ← world.entity entity
  let script ← components.script
  let config := components.config.getD E.defaultConfig
  let state ← components.scriptState
  let input ← step.gather world state
  pure { entity, script, config, input }

/-- The second access. -/
def finish (step : DomainStep E Domain Input Output) (world : World E Domain)
    (entity : Entity) (output : Output) : World E Domain :=
  let (world, state) := step.apply world output
  match world.entity entity with
  | some components =>
      match components.scriptState with
      | some _ => { world with
          entity := Function.update world.entity entity
            (some { components with scriptState := some state }) }
      | none => world
  | none => world

/-- Only the step's own entity decides about the state, never about the rest. -/
theorem domain_finish (step : DomainStep E Domain Input Output)
    (world : World E Domain) (entity : Entity) (output : Output) :
    (step.finish world entity output).domain = (step.apply world output).1.domain := by
  simp only [finish]
  split
  · split <;> rfl
  · rfl

theorem entity_of_begin {step : DomainStep E Domain Input Output} {world : World E Domain}
    {entity : Entity} {tick : Tick E Input} (began : step.begin world entity = some tick) :
    tick.entity = entity := by
  simp only [begin, bind, Option.bind_eq_some_iff] at began
  rcases began with ⟨_, -, _, -, _, -, _, -, equal⟩
  cases equal
  rfl

end DomainStep

/-! ## Interleaved ticks -/

namespace ScriptState

structure State (E : Engine) (Domain Input : Type) where
  world : World E Domain
  /-- Every tick begun so far, `none` once it is over. -/
  ticks : List (Option (Tick E Input))

inductive Action (E : Engine) (Domain Output : Type)
  /-- The leaf of this entity runs up to the evaluation of its script. -/
  | begin (entity : Entity)
  /-- The script of a tick has returned. -/
  | finish (tick : Nat) (result : Except String Output)
  | resetScene
  /-- The scene of this entity is cleared or replaced. -/
  | despawn (entity : Entity)
  /-- Anything else that happens to the world. -/
  | change (change : World E Domain → World E Domain)

inductive Event (E : Engine) (Domain Output : Type)
  | skipped (entity : Entity)
  | gathered (tick : Nat) (entity : Entity)
  /-- The world right before and right after the access that applies an output. -/
  | applied (tick : Nat) (output : Output) (world next : World E Domain)
  /-- The script error is logged and nothing else happens. -/
  | failed (tick : Nat) (err : String)
  | wasReset
  | despawned (entity : Entity)

variable {E : Engine} {Domain Input Output : Type}

def step (domainStep : DomainStep E Domain Input Output) (reset : Domain → Domain)
    (state : State E Domain Input) : Action E Domain Output →
      Option (State E Domain Input × List (Event E Domain Output))
  | .begin entity =>
      match domainStep.begin state.world entity with
      | some tick =>
          some ({ state with ticks := state.ticks ++ [some tick] },
            [.gathered state.ticks.length entity])
      | none => some (state, [.skipped entity])
  | .finish index result =>
      match state.ticks[index]? with
      | some (some tick) =>
          let ticks := state.ticks.set index none
          match result with
          | .ok output =>
              let world := domainStep.finish state.world tick.entity output
              some ({ world, ticks }, [.applied index output state.world world])
          | .error err => some ({ state with ticks }, [.failed index err])
      | _ => none
  | .resetScene =>
      let world := { state.world with domain := reset state.world.domain }
      some ({ state with world }, [.wasReset])
  | .despawn entity =>
      let world := { state.world with
        entity := Function.update state.world.entity entity none }
      some ({ state with world }, [.despawned entity])
  | .change change => some ({ state with world := change state.world }, [])

end ScriptState

open ScriptState in
/-- Any number of interleaved ticks of one kind of step. -/
def scriptSteps {E : Engine} {Domain Input Output : Type}
    (domainStep : DomainStep E Domain Input Output) (reset : Domain → Domain)
    (boot : World E Domain) :
    Machine (State E Domain Input) (Action E Domain Output)
      (Event E Domain Output) where
  initial := ⟨boot, []⟩
  step := ScriptState.step domainStep reset

namespace ScriptState

variable {E : Engine} {Domain Input Output : Type}
  {domainStep : DomainStep E Domain Input Output} {reset : Domain → Domain}
  {boot : World E Domain}

/-- A tick stays as it is until it is finished. -/
theorem ticks_of_step {state next : State E Domain Input} {action : Action E Domain Output}
    {events : List (Event E Domain Output)} {index : Nat} {tick : Tick E Input}
    (stepped : (scriptSteps domainStep reset boot).step state action = some (next, events))
    (begun : state.ticks[index]? = some (some tick))
    (unfinished : ∀ result, action ≠ .finish index result) :
    next.ticks[index]? = some (some tick) := by
  simp only [scriptSteps] at stepped
  cases action with
  | begin entity =>
      simp only [step] at stepped
      split at stepped
      · cases stepped
        rw [List.getElem?_append_left (List.getElem?_eq_some_iff.mp begun).1]
        exact begun
      · cases stepped
        exact begun
  | finish other result =>
      have apart : other ≠ index := fun equal => unfinished result (equal ▸ rfl)
      simp only [step] at stepped
      split at stepped
      case h_1 =>
        cases result with
        | ok | error =>
            cases stepped
            rw [List.getElem?_set_ne apart]
            exact begun
      case h_2 => cases stepped
  | resetScene | despawn entity | change change =>
      cases stepped
      exact begun

theorem ticks_of_run {state final : State E Domain Input}
    {actions : List (Action E Domain Output)} {events : List (Event E Domain Output)}
    {index : Nat} {tick : Tick E Input}
    (ran : (scriptSteps domainStep reset boot).runFrom state actions = some (final, events))
    (begun : state.ticks[index]? = some (some tick))
    (unfinished : ∀ result, .finish index result ∉ actions) :
    final.ticks[index]? = some (some tick) := by
  induction actions generalizing state events with
  | nil =>
      cases ran
      exact begun
  | cons action actions induction =>
      rcases Machine.runFrom_cons_eq_some _ ran with ⟨next, first, rest, stepped, continued, -⟩
      simp only [List.mem_cons, not_or, forall_and] at unfinished
      have still := ticks_of_step stepped begun fun result => Ne.symm (unfinished.1 result)
      exact induction continued still unfinished.2

/-- A tick from its gather to the access that applies its output, with anything else in
between. -/
theorem runFrom_tick {state between : State E Domain Input} {entity : Entity}
    {tick : Tick E Input} {meanwhile : List (Action E Domain Output)}
    {seen : List (Event E Domain Output)}
    (began : domainStep.begin state.world entity = some tick)
    (ran : (scriptSteps domainStep reset boot).runFrom state (.begin entity :: meanwhile) =
      some (between, seen))
    (unfinished : ∀ result, .finish state.ticks.length result ∉ meanwhile)
    (output : Output) :
    (scriptSteps domainStep reset boot).runFrom state
        (.begin entity :: meanwhile ++ [.finish state.ticks.length (.ok output)]) =
      some (⟨domainStep.finish between.world entity output,
          between.ticks.set state.ticks.length none⟩,
        seen ++ [.applied state.ticks.length output between.world
          (domainStep.finish between.world entity output)]) := by
  have begun : between.ticks[state.ticks.length]? = some (some tick) := by
    rcases Machine.runFrom_cons_eq_some _ ran with ⟨next, first, rest, stepped, continued, -⟩
    simp only [scriptSteps, step, began, Option.some.injEq, Prod.mk.injEq] at stepped
    rcases stepped with ⟨rfl, -⟩
    exact ticks_of_run continued List.getElem?_concat_length unfinished
  have applies : (scriptSteps domainStep reset boot).step between
      (.finish state.ticks.length (.ok output)) =
        some (⟨domainStep.finish between.world entity output,
            between.ticks.set state.ticks.length none⟩,
          [.applied state.ticks.length output between.world
            (domainStep.finish between.world entity output)]) := by
    simp only [scriptSteps, step, begun, DomainStep.entity_of_begin began]
  have last := Machine.runFrom_cons_of_step applies (Machine.runFrom_nil _ _)
  rw [Machine.runFrom_append, ran, Option.bind_some, last, Option.map_some, List.append_nil]

/-- Every output that was applied was applied by the second access. -/
theorem applied_of_reached {state : State E Domain Input}
    {history before after : List (Event E Domain Output)} {index : Nat}
    {output : Output} {world next : World E Domain}
    (reached : (scriptSteps domainStep reset boot).Reached state history)
    (split : history = before ++ .applied index output world next :: after) :
    ∃ entity, next = domainStep.finish world entity output := by
  rcases reached.emitted split with
    ⟨source, prior, action, target, front, back, -, stepped, -⟩
  simp only [scriptSteps] at stepped
  have only : ∀ event : Event E Domain Output,
      [event] = front ++ .applied index output world next :: back →
      event = .applied index output world next := by
    intro event single
    have member : Event.applied index output world next ∈ [event] := by
      rw [single]
      simp
    exact (List.mem_singleton.mp member).symm
  cases action with
  | begin entity =>
      simp only [ScriptState.step] at stepped
      split at stepped
      all_goals
        rw [Option.some.injEq, Prod.mk.injEq] at stepped
        exact nomatch only _ stepped.2
  | finish tick result =>
      simp only [ScriptState.step] at stepped
      split at stepped
      case h_1 running found =>
        cases result with
        | ok output =>
            rw [Option.some.injEq, Prod.mk.injEq] at stepped
            cases only _ stepped.2
            exact ⟨running.entity, rfl⟩
        | error err =>
            rw [Option.some.injEq, Prod.mk.injEq] at stepped
            exact nomatch only _ stepped.2
      case h_2 => cases stepped
  | resetScene | despawn entity =>
      simp only [ScriptState.step, Option.some.injEq, Prod.mk.injEq] at stepped
      exact nomatch only _ stepped.2
  | change change =>
      simp [ScriptState.step] at stepped

end ScriptState

end BeetEsp.Scripting
