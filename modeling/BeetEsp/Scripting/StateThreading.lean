import BeetEsp.Scripting.ScriptState

/-! # The state a script threads

Between the ticks of an entity its `ScriptState` holds what the last of them returned. The
ticks of other entities, failed and skipped ones and resets leave it alone.
-/

namespace BeetEsp.Scripting

open Foundation

namespace ScriptState

variable {E : Engine} {Domain Input Output : Type}

/-- The ticks an entity has begun, and the state it holds, as the events show them. -/
structure Thread (E : Engine) where
  ticks : List Nat
  state : StateMap E

def Thread.advance (domainStep : DomainStep E Domain Input Output) (entity : Entity)
    (thread : Thread E) : Event E Domain Output → Thread E
  | .gathered tick other =>
      if other = entity then { thread with ticks := tick :: thread.ticks } else thread
  | .applied tick output world _ =>
      if tick ∈ thread.ticks then { thread with state := (domainStep.apply world output).2 }
      else thread
  | .skipped _ | .failed .. | .wasReset | .despawned _ => thread

def thread (domainStep : DomainStep E Domain Input Output) (entity : Entity)
    (start : StateMap E) (history : List (Event E Domain Output)) : Thread E :=
  history.foldl (Thread.advance domainStep entity) ⟨[], start⟩

/-- Nothing but the steps writes to the components of the entity. -/
def LeavesEntity (entity : Entity) : Action E Domain Output → Prop
  | .change change => ∀ world, (change world).entity entity = world.entity entity
  | .despawn other => other ≠ entity
  | .begin _ | .finish .. | .resetScene => True

/-- The closure that applies an output leaves the components to `ScriptState::step`. -/
def AppliesToDomain (domainStep : DomainStep E Domain Input Output) : Prop :=
  ∀ world output, (domainStep.apply world output).1.entity = world.entity

variable {domainStep : DomainStep E Domain Input Output} {reset : Domain → Domain}
  {boot : World E Domain} {entity : Entity} {start : StateMap E}

@[simp] theorem thread_snoc (history : List (Event E Domain Output))
    (event : Event E Domain Output) :
    thread domainStep entity start (history ++ [event]) =
      (thread domainStep entity start history).advance domainStep entity event := by
  rw [thread, List.foldl_append]
  rfl

/-- The second access stores the state of its own entity only. -/
theorem entity_finish (applies : AppliesToDomain domainStep) {world : World E Domain}
    {components : ScriptEntity E} {current : StateMap E}
    (there : world.entity entity = some { components with scriptState := some current })
    (other : Entity) (output : Output) :
    (domainStep.finish world other output).entity entity =
      some { components with
        scriptState := some
          (if other = entity then (domainStep.apply world output).2 else current) } := by
  have same := applies world output
  rw [DomainStep.finish]
  simp only [same]
  by_cases own : other = entity
  · subst own
    rw [there]
    simp
  · rw [if_neg own]
    have apart : entity ≠ other := fun equal => own equal.symm
    split
    · split
      · exact (Function.update_of_ne apart _ _).trans there
      · rw [same, there]
    · rw [same, there]

/-- The entity holds what the events say it does. -/
structure Threaded (domainStep : DomainStep E Domain Input Output) (entity : Entity)
    (components : ScriptEntity E) (start : StateMap E) (state : State E Domain Input)
    (history : List (Event E Domain Output)) : Prop where
  holds : state.world.entity entity = some { components with
    scriptState := some (thread domainStep entity start history).state }
  own : ∀ index tick, state.ticks[index]? = some (some tick) →
    (index ∈ (thread domainStep entity start history).ticks ↔ tick.entity = entity)
  begun : ∀ index ∈ (thread domainStep entity start history).ticks,
    index < state.ticks.length

section

variable {components : ScriptEntity E} {state : State E Domain Input}
  {history : List (Event E Domain Output)}

/-- Most events leave the thread alone. -/
theorem Threaded.quiet {event : Event E Domain Output} {world : World E Domain}
    (threaded : Threaded domainStep entity components start state history)
    (quiet : ∀ thread : Thread E, thread.advance domainStep entity event = thread)
    (same : world.entity entity = state.world.entity entity) :
    Threaded domainStep entity components start { state with world } (history ++ [event]) := by
  rcases threaded with ⟨holds, own, begun⟩
  constructor
  · rw [thread_snoc, quiet]
    exact same.trans holds
  · rw [thread_snoc, quiet]
    exact own
  · rw [thread_snoc, quiet]
    exact begun

/-- A tick that begins is numbered as no tick was before. -/
theorem Threaded.gather {tick : Tick E Input}
    (threaded : Threaded domainStep entity components start state history) :
    Threaded domainStep entity components start
      { state with ticks := state.ticks ++ [some tick] }
      (history ++ [.gathered state.ticks.length tick.entity]) := by
  rcases threaded with ⟨holds, own, begun⟩
  have fresh : state.ticks.length ∉ (thread domainStep entity start history).ticks :=
    fun member => Nat.lt_irrefl _ (begun _ member)
  constructor
  · rw [thread_snoc, Thread.advance]
    split <;> exact holds
  · intro index running found
    rw [thread_snoc, Thread.advance]
    rcases Nat.lt_trichotomy index state.ticks.length with less | rfl | more
    · rw [List.getElem?_append_left less] at found
      have apart : index ≠ state.ticks.length := Nat.ne_of_lt less
      split
      · simpa [apart] using own index running found
      · exact own index running found
    · rw [List.getElem?_concat_length, Option.some.injEq, Option.some.injEq] at found
      subst found
      split
      case isTrue same => exact iff_of_true List.mem_cons_self same
      case isFalse apart => exact iff_of_false fresh apart
    · have past : (state.ticks ++ [some tick]).length ≤ index := by
        rw [List.length_append]
        exact more
      rw [List.getElem?_eq_none past] at found
      cases found
  · intro index member
    rw [thread_snoc, Thread.advance] at member
    rw [List.length_append, List.length_singleton]
    split at member
    · rcases List.mem_cons.mp member with rfl | earlier
      · exact Nat.lt_succ_self _
      · exact Nat.lt_succ_of_lt (begun index earlier)
    · exact Nat.lt_succ_of_lt (begun index member)

/-- A tick that ends is forgotten. -/
theorem Threaded.forget
    (threaded : Threaded domainStep entity components start state history) (index : Nat) :
    Threaded domainStep entity components start
      { state with ticks := state.ticks.set index none } history := by
  rcases threaded with ⟨holds, own, begun⟩
  refine ⟨holds, ?_, ?_⟩
  · intro other running there
    refine own other running ?_
    simp only [List.getElem?_set] at there
    split at there
    · split at there <;> cases there
    · exact there
  · intro other member
    rw [List.length_set]
    exact begun other member

/-- The output of a tick is stored in its own entity. -/
theorem Threaded.apply {tick : Tick E Input} {index : Nat} {output : Output}
    {after : World E Domain}
    (threaded : Threaded domainStep entity components start state history)
    (applies : AppliesToDomain domainStep) (found : state.ticks[index]? = some (some tick)) :
    Threaded domainStep entity components start
      { state with world := domainStep.finish state.world tick.entity output }
      (history ++ [.applied index output state.world after]) := by
  rcases threaded with ⟨holds, own, begun⟩
  have whose := own index tick found
  constructor
  · rw [thread_snoc, entity_finish applies holds, Thread.advance]
    by_cases same : tick.entity = entity
    · rw [if_pos same, if_pos (whose.mpr same)]
    · rw [if_neg same, if_neg (whose.not.mpr same)]
  · intro other running there
    rw [thread_snoc, Thread.advance]
    split <;> exact own other running there
  · intro other member
    refine begun other ?_
    rw [thread_snoc, Thread.advance] at member
    split at member <;> exact member

end

theorem Threaded.step {components : ScriptEntity E} {state next : State E Domain Input}
    {action : Action E Domain Output} {history events : List (Event E Domain Output)}
    (threaded : Threaded domainStep entity components start state history)
    (applies : AppliesToDomain domainStep) (leaves : LeavesEntity entity action)
    (stepped : (scriptSteps domainStep reset boot).step state action = some (next, events)) :
    Threaded domainStep entity components start next (history ++ events) := by
  simp only [scriptSteps] at stepped
  cases action with
  | begin other =>
      simp only [ScriptState.step] at stepped
      split at stepped
      case h_1 tick began =>
        cases stepped
        rw [← DomainStep.entity_of_begin began]
        exact threaded.gather
      case h_2 =>
        cases stepped
        exact threaded.quiet (fun _ => rfl) rfl
  | finish index result =>
      simp only [ScriptState.step] at stepped
      split at stepped
      case h_1 tick found =>
        cases result with
        | ok output =>
            cases stepped
            exact (threaded.apply applies found).forget index
        | error err =>
            cases stepped
            exact (threaded.quiet (fun _ => rfl) rfl).forget index
      case h_2 => cases stepped
  | resetScene =>
      cases stepped
      exact threaded.quiet (fun _ => rfl) rfl
  | despawn other =>
      cases stepped
      exact threaded.quiet (fun _ => rfl) (Function.update_of_ne (Ne.symm leaves) _ _)
  | change change =>
      cases stepped
      rw [List.append_nil]
      exact ⟨(leaves state.world).trans threaded.holds, threaded.own, threaded.begun⟩

theorem threaded {components : ScriptEntity E} {actions : List (Action E Domain Output)}
    {state : State E Domain Input} {history : List (Event E Domain Output)}
    (applies : AppliesToDomain domainStep)
    (booted : boot.entity entity = some { components with scriptState := some start })
    (leaves : (scriptSteps domainStep reset boot).Meets
      (fun _ action => LeavesEntity entity action) actions)
    (ran : (scriptSteps domainStep reset boot).run actions = some (state, history)) :
    Threaded domainStep entity components start state history := by
  refine Machine.Meets.induction ?start ?preserved leaves ran
  case start => exact ⟨booted, by simp [scriptSteps], by simp [thread]⟩
  case preserved =>
    exact fun _ holds met stepped => holds.step applies met stepped

/-- What the first access gathers from the state that is there. -/
theorem gather_of_begin {components : ScriptEntity E} {world : World E Domain}
    {current : StateMap E} {tick : Tick E Input}
    (there : world.entity entity = some { components with scriptState := some current })
    (began : domainStep.begin world entity = some tick) :
    domainStep.gather world current = some tick.input := by
  simp only [DomainStep.begin, there, bind, Option.bind_some, Option.bind_eq_some_iff] at began
  rcases began with ⟨script, -, input, gathered, same⟩
  cases same
  exact gathered

/-- However the ticks of any entities interleave, a tick that gathers its input is given
the state that the tick of its entity that was applied last returned. -/
theorem state_threads {components : ScriptEntity E}
    {actions : List (Action E Domain Output)} {state : State E Domain Input}
    {history : List (Event E Domain Output)} (applies : AppliesToDomain domainStep)
    (booted : boot.entity entity = some { components with scriptState := some start })
    (leaves : (scriptSteps domainStep reset boot).Meets
      (fun _ action => LeavesEntity entity action) actions)
    (ran : (scriptSteps domainStep reset boot).run actions = some (state, history)) :
    let held := (thread domainStep entity start history).state
    state.world.entity entity = some { components with scriptState := some held } ∧
      ∀ tick, domainStep.begin state.world entity = some tick →
        domainStep.gather state.world held = some tick.input := by
  have holds := (threaded applies booted leaves ran).holds
  exact ⟨holds, fun tick began => gather_of_begin holds began⟩

/-- Scripts whose values are numbers. -/
@[reducible] def counters : Engine where
  Value := Nat
  Script := Unit
  ScriptConfig := Unit
  defaultConfig := ()

def counted (count : Nat) : StateMap counters :=
  fun key => if key = "count" then some count else none

/-- A script that is handed its state and nothing else. -/
def counting : DomainStep counters Unit (StateMap counters) (StateMap counters) where
  gather := fun _ state => some state
  apply := fun world state => (world, state)

def zeros : World counters Unit where
  entity := fun _ => some ⟨some (), none, some (counted 0)⟩
  domain := ()

/-- Two ticks of one entity overlap, and the one that began first is applied last. -/
def crossed : List (Action counters Unit (StateMap counters)) :=
  [.begin 0, .begin 1, .begin 0, .finish 2 (.ok (counted 2)), .finish 1 (.ok (counted 9)),
    .finish 0 (.ok (counted 1))]

theorem state_threads_crossed :
    ∃ state history, (scriptSteps counting id zeros).run crossed = some (state, history) ∧
      state.world.entity 0 = some ⟨some (), none, some (counted 1)⟩ := by
  have leaves : (scriptSteps counting id zeros).Meets (fun _ action => LeavesEntity 0 action)
      crossed := by
    apply Machine.meets_of_forall
    simp [crossed, LeavesEntity]
  have booted : zeros.entity 0 = some { (⟨some (), none, none⟩ : ScriptEntity counters) with
      scriptState := some (counted 0) } := rfl
  have ran : (scriptSteps counting id zeros).run crossed = some (_, _) := rfl
  have threads := state_threads (fun _ _ => rfl) booted leaves ran
  exact ⟨_, _, ran, threads.1⟩

end ScriptState

end BeetEsp.Scripting
