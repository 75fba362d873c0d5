import BeetEsp.Esp32Utils.Executor
import Mathlib.Algebra.Group.Nat.Defs
import Mathlib.Data.List.Nodup

/-! # Sleeping across executors

The tasks of the application may not await a timer of embassy. A sleep is put into
`SLEEP_QUEUE`, from which `sleep_driver` gives each a timer task of its own, and the
sleeper awaits a signal. The timers share the slots of `run_boxed` with the drivers that
come and go beside them. Times are in microseconds.
-/

namespace BeetEsp.Esp32Utils

open Foundation

namespace Sleep

abbrev SleepId := Nat

/-- A future that the sleep source returned. -/
structure Sleeper where
  queued : Bool
  /-- Its signal has been raised. -/
  signalled : Bool
  /-- Neither resolved nor dropped. -/
  waiting : Bool

/-- The task of one sleep. -/
inductive TimerTask
  /-- Not polled yet. -/
  | spawned (micros : Nat) (id : SleepId)
  | running (deadline : Nat) (id : SleepId)
  | done
  deriving DecidableEq

structure State where
  now : Nat
  sleepQueue : BoundedQueue (Nat × SleepId) 8
  pool : SlotPool Executor.Task Executor.POOL_SIZE
  sleepers : List Sleeper
  tasks : List TimerTask
  panicked : Bool

inductive Action
  | elapse (micros : Nat)
  /-- `time_ext::sleep`, of this many microseconds. -/
  | sleep (duration : Nat)
  /-- The future of a sleep is polled. -/
  | poll (id : SleepId)
  | drop (id : SleepId)
  /-- `sleep_driver` takes a sleep and spawns its timer task. -/
  | spawn
  /-- The first poll of a timer task. -/
  | start (task : Nat)
  /-- The timer of a task has expired and the task is polled. -/
  | fire (task : Nat)
  /-- A driver that is no sleep is spawned. -/
  | spawnOther (task : Executor.Task)
  | returnOther (task : Executor.Task)

inductive Event
  /-- A sleep of this duration is queued at this time. -/
  | slept (id : SleepId) (duration time : Nat)
  /-- A sleep finds the queue full. -/
  | refused (id : SleepId)
  | taken (id : SleepId)
  | resolved (id : SleepId) (time : Nat)
  deriving DecidableEq

def Event.calledId : Event → Option SleepId
  | slept id _ _ | refused id => some id
  | _ => none

def Event.queuedId : Event → Option SleepId
  | slept id _ _ => some id
  | _ => none

def Event.takenId : Event → Option SleepId
  | taken id => some id
  | _ => none

def Event.resolvedId : Event → Option SleepId
  | resolved id _ => some id
  | _ => none

def act (state : State) : Action → Option (State × List Event)
  | .elapse micros => some ({ state with now := state.now + micros }, [])
  | .sleep duration =>
      let micros := duration % 2 ^ 64
      let id := state.sleepers.length
      match state.sleepQueue.trySend (micros, id) with
      | .ok sleepQueue =>
          some ({ state with
            sleepQueue
            sleepers := state.sleepers ++ [⟨true, false, true⟩] },
            [.slept id duration state.now])
      | .error _ =>
          some ({ state with sleepers := state.sleepers ++ [⟨false, false, true⟩] },
            [.refused id])
  | .poll id =>
      match state.sleepers[id]? with
      | some sleeper =>
          if sleeper.waiting then
            if sleeper.queued && !sleeper.signalled then some (state, [])
            else
              some ({ state with
                sleepers := state.sleepers.set id { sleeper with waiting := false } },
                [.resolved id state.now])
          else
            none
      | none => none
  | .drop id =>
      match state.sleepers[id]? with
      | some sleeper =>
          if sleeper.waiting then
            some ({ state with
              sleepers := state.sleepers.set id { sleeper with waiting := false } }, [])
          else
            none
      | none => none
  | .spawn =>
      state.sleepQueue.tryReceive.map fun ((micros, id), sleepQueue) =>
        match state.pool.take (.sleep id) with
        | some pool =>
            ({ state with sleepQueue, pool, tasks := state.tasks ++ [.spawned micros id] },
              [.taken id])
        | none => ({ state with sleepQueue, panicked := true }, [.taken id])
  | .start task =>
      match state.tasks[task]? with
      | some (.spawned micros id) =>
          -- The sum of an `Instant` and a `Duration` panics where it overflows.
          if state.now + micros < 2 ^ 64 then
            some ({ state with
              tasks := state.tasks.set task (.running (state.now + micros) id) }, [])
          else
            some ({ state with panicked := true }, [])
      | _ => none
  | .fire task =>
      match state.tasks[task]? with
      | some (.running deadline id) =>
          if deadline ≤ state.now then
            state.sleepers[id]?.map fun sleeper =>
              ({ state with
                pool := state.pool.release fun other => decide (other = .sleep id)
                tasks := state.tasks.set task .done
                sleepers := state.sleepers.set id { sleeper with signalled := true } }, [])
          else
            none
      | _ => none
  | .spawnOther task =>
      if task.isSleep then none
      else
        match state.pool.take task with
        | some pool => some ({ state with pool }, [])
        | none => some ({ state with panicked := true }, [])
  | .returnOther task =>
      if task.isSleep then none
      else
        some ({ state with pool := state.pool.release fun other => decide (other = task) }, [])

/-- A panic halts the executor. -/
def step (state : State) (action : Action) : Option (State × List Event) :=
  if state.panicked then none else act state action

end Sleep

open Sleep in
/-- `install_beet_sleep` and a `sleep_driver` that has been spawned. -/
def beetSleep : Machine State Action Event where
  initial := {
    now := 0
    sleepQueue := .empty
    pool := ⟨[.tick, .sleepDriver], by decide⟩
    sleepers := []
    tasks := []
    panicked := false }
  step := step

namespace Sleep

/-- What a step can do. -/
inductive Step (state : State) : Action → State → List Event → Prop
  | elapsed {micros} : Step state (.elapse micros) { state with now := state.now + micros } []
  | slept {duration queue} (room : state.sleepQueue.items.length < 8)
      (sent : queue.items =
        state.sleepQueue.items ++ [(duration % 2 ^ 64, state.sleepers.length)]) :
      Step state (.sleep duration)
        { state with
          sleepQueue := queue
          sleepers := state.sleepers ++ [⟨true, false, true⟩] }
        [.slept state.sleepers.length duration state.now]
  | refused {duration} (full : state.sleepQueue.items.length = 8) :
      Step state (.sleep duration)
        { state with sleepers := state.sleepers ++ [⟨false, false, true⟩] }
        [.refused state.sleepers.length]
  | pending {id sleeper} (found : state.sleepers[id]? = some sleeper)
      (waits : sleeper.waiting = true) : Step state (.poll id) state []
  | resolved {id sleeper} (found : state.sleepers[id]? = some sleeper)
      (waits : sleeper.waiting = true)
      (ready : sleeper.queued = false ∨ sleeper.signalled = true) :
      Step state (.poll id)
        { state with sleepers := state.sleepers.set id { sleeper with waiting := false } }
        [.resolved id state.now]
  | dropped {id sleeper} (found : state.sleepers[id]? = some sleeper) :
      Step state (.drop id)
        { state with sleepers := state.sleepers.set id { sleeper with waiting := false } } []
  | taken {micros id queue pool}
      (first : state.sleepQueue.items = (micros, id) :: queue.items) :
      Step state .spawn
        { state with sleepQueue := queue, pool, tasks := state.tasks ++ [.spawned micros id] }
        [.taken id]
  /-- There is no slot for the timer of the sleep that is taken. -/
  | exhausted {micros id queue}
      (first : state.sleepQueue.items = (micros, id) :: queue.items) :
      Step state .spawn { state with sleepQueue := queue, panicked := true } [.taken id]
  | started {task micros id} (found : state.tasks[task]? = some (.spawned micros id)) :
      Step state (.start task)
        { state with tasks := state.tasks.set task (.running (state.now + micros) id) } []
  | fired {task deadline id sleeper pool}
      (found : state.tasks[task]? = some (.running deadline id))
      (due : deadline ≤ state.now) (sleeps : state.sleepers[id]? = some sleeper) :
      Step state (.fire task)
        { state with
          pool
          tasks := state.tasks.set task .done
          sleepers := state.sleepers.set id { sleeper with signalled := true } } []
  | others {action pool} : Step state action { state with pool } []
  | halted {action} : Step state action { state with panicked := true } []

theorem act_shape {state next : State} {action : Action} {events : List Event}
    (acted : act state action = some (next, events)) : Step state action next events := by
  cases action with
  | elapse micros =>
      cases acted
      exact .elapsed
  | sleep duration =>
      simp only [act] at acted
      split at acted
      case h_1 queue sent =>
        cases acted
        have spec := BoundedQueue.trySend_eq_ok sent
        exact .slept spec.1 spec.2
      case h_2 rejected =>
        cases acted
        exact .refused (BoundedQueue.trySend_eq_error rejected).1
  | poll id =>
      simp only [act] at acted
      split at acted
      case h_1 sleeper found =>
        split at acted
        case isTrue waits =>
          split at acted <;> cases acted
          case isTrue => exact .pending found waits
          case isFalse ready =>
            refine .resolved found waits ?_
            cases queued : sleeper.queued
            · exact .inl rfl
            · cases signalled : sleeper.signalled
              · simp [queued, signalled] at ready
              · exact .inr rfl
        case isFalse => cases acted
      case h_2 => cases acted
  | drop id =>
      simp only [act] at acted
      split at acted
      case h_1 sleeper found =>
        split at acted <;> cases acted
        exact .dropped found
      case h_2 => cases acted
  | spawn =>
      simp only [act, Option.map_eq_some_iff] at acted
      rcases acted with ⟨⟨⟨micros, id⟩, queue⟩, received, equal⟩
      have first := BoundedQueue.tryReceive_eq_some received
      split at equal <;> cases equal
      case h_1 => exact .taken first
      case h_2 => exact .exhausted first
  | start task =>
      simp only [act] at acted
      split at acted
      case h_1 micros id found =>
        split at acted <;> cases acted
        case isTrue => exact .started found
        case isFalse => exact .halted
      case h_2 => cases acted
  | fire task =>
      simp only [act] at acted
      split at acted
      case h_1 deadline id found =>
        split at acted
        case isTrue due =>
          rw [Option.map_eq_some_iff] at acted
          rcases acted with ⟨sleeper, sleeps, equal⟩
          cases equal
          exact .fired found due sleeps
        case isFalse => cases acted
      case h_2 => cases acted
  | spawnOther task =>
      simp only [act] at acted
      split at acted
      case isTrue => cases acted
      case isFalse =>
        split at acted <;> cases acted
        case h_1 => exact .others
        case h_2 => exact .halted
  | returnOther task =>
      simp only [act] at acted
      split at acted <;> cases acted
      exact .others

/-- Until a step panics, the executor runs. -/
theorem step_shape {state next : State} {action : Action} {events : List Event}
    (stepped : beetSleep.step state action = some (next, events)) :
    state.panicked = false ∧ Step state action next events := by
  change step state action = some (next, events) at stepped
  rw [step] at stepped
  split at stepped
  case isTrue => cases stepped
  case isFalse running => exact ⟨Bool.not_eq_true _ ▸ running, act_shape stepped⟩

/-! ## No sleep ends early -/

/-- What `as u64` keeps of the duration the sleep was called for is over at this time. -/
def Over (history : List Event) (id : SleepId) (time : Nat) : Prop :=
  ∃ duration called, .slept id duration called ∈ history ∧
    called + duration % 2 ^ 64 ≤ time

theorem Over.later {history : List Event} {id : SleepId} {time after : Nat}
    (past : Over history id time) (later : time ≤ after) : Over history id after := by
  rcases past with ⟨duration, called, member, bound⟩
  exact ⟨duration, called, member, Nat.le_trans bound later⟩

theorem Over.append {history : List Event} {id : SleepId} {time : Nat}
    (past : Over history id time) (events : List Event) : Over (history ++ events) id time := by
  rcases past with ⟨duration, called, member, bound⟩
  exact ⟨duration, called, List.mem_append_left _ member, bound⟩

theorem exists_append {holds : Sleeper → Prop} {sleepers : List Sleeper} {id : SleepId}
    {sleeper : Sleeper} (new : Sleeper) (found : sleepers[id]? = some sleeper)
    (stands : holds sleeper) : ∃ after, (sleepers ++ [new])[id]? = some after ∧ holds after := by
  have inside := (List.getElem?_eq_some_iff.mp found).1
  exact ⟨sleeper, by rw [List.getElem?_append_left inside, found], stands⟩

/-- What becomes of one sleeper changes nothing about the others. -/
theorem exists_set {holds : Sleeper → Prop} {sleepers : List Sleeper} {id other : SleepId}
    {sleeper changed before : Sleeper} (found : sleepers[id]? = some sleeper)
    (stays : holds sleeper → holds changed) (lookup : sleepers[other]? = some before)
    (stands : holds before) :
    ∃ after, (sleepers.set id changed)[other]? = some after ∧ holds after := by
  by_cases same : id = other
  · subst same
    rw [found] at lookup
    cases lookup
    have inside := (List.getElem?_eq_some_iff.mp found).1
    exact ⟨changed, List.getElem?_set_self inside, stays stands⟩
  · exact ⟨before, by rw [List.getElem?_set_ne same, lookup], stands⟩

/-- Signals of the second list are raised in the first. -/
def RaisedIn (sleepers after : List Sleeper) : Prop :=
  ∀ (id : SleepId) (sleeper : Sleeper), after[id]? = some sleeper →
    sleeper.signalled = true →
    ∃ before : Sleeper, sleepers[id]? = some before ∧ before.signalled = true

theorem RaisedIn.refl (sleepers : List Sleeper) : RaisedIn sleepers sleepers :=
  fun _ sleeper found raised => ⟨sleeper, found, raised⟩

theorem raisedIn_append (sleepers : List Sleeper) (queued : Bool) :
    RaisedIn sleepers (sleepers ++ [⟨queued, false, true⟩]) := by
  intro id sleeper found raised
  by_cases inside : id < sleepers.length
  · rw [List.getElem?_append_left inside] at found
    exact ⟨sleeper, found, raised⟩
  · rw [List.getElem?_append_right (Nat.le_of_not_lt inside)] at found
    rw [List.mem_singleton.mp (List.mem_of_getElem? found)] at raised
    cases raised

theorem raisedIn_set {sleepers : List Sleeper} {id : SleepId} {sleeper : Sleeper}
    (found : sleepers[id]? = some sleeper) (waiting : Bool) :
    RaisedIn sleepers (sleepers.set id { sleeper with waiting }) := by
  intro other changed lookup raised
  by_cases same : id = other
  · subst same
    rw [List.getElem?_set_self (List.getElem?_eq_some_iff.mp found).1] at lookup
    cases lookup
    exact ⟨sleeper, found, raised⟩
  · rw [List.getElem?_set_ne same] at lookup
    exact ⟨changed, lookup, raised⟩

theorem append_raisedIn (sleepers : List Sleeper) (sleeper : Sleeper) :
    RaisedIn (sleepers ++ [sleeper]) sleepers :=
  fun _ _ found raised => exists_append sleeper found raised

theorem set_raisedIn {sleepers : List Sleeper} {id : SleepId} {sleeper changed : Sleeper}
    (found : sleepers[id]? = some sleeper)
    (stays : sleeper.signalled = true → changed.signalled = true) :
    RaisedIn (sleepers.set id changed) sleepers :=
  fun _ _ lookup raised => exists_set found stays lookup raised

/-- Wherever a sleep is, its signal is not raised before its time. -/
structure Timely (state : State) (history : List Event) : Prop where
  queued : ∀ micros id, (micros, id) ∈ state.sleepQueue.items →
    Over history id (state.now + micros)
  spawned : ∀ micros id, .spawned micros id ∈ state.tasks →
    Over history id (state.now + micros)
  running : ∀ deadline id, .running deadline id ∈ state.tasks → Over history id deadline
  signalled : ∀ id sleeper, state.sleepers[id]? = some sleeper →
    sleeper.signalled = true → Over history id state.now

theorem Timely.elapse {state : State} {history : List Event} (holds : Timely state history)
    (micros : Nat) : Timely { state with now := state.now + micros } history := by
  have passes := Nat.le_add_right state.now micros
  constructor
  · intro waits id member
    exact (holds.queued waits id member).later (Nat.add_le_add_right passes waits)
  · intro waits id member
    exact (holds.spawned waits id member).later (Nat.add_le_add_right passes waits)
  · exact holds.running
  · exact fun id sleeper found raised => (holds.signalled id sleeper found raised).later passes

/-- Nothing is queued or spawned, no timer starts and no signal is raised. -/
theorem Timely.quiet {state next : State} {history events : List Event}
    (holds : Timely state history) (now : next.now = state.now)
    (queue : next.sleepQueue.items ⊆ state.sleepQueue.items)
    (tasks : next.tasks = state.tasks) (raised : RaisedIn state.sleepers next.sleepers) :
    Timely next (history ++ events) := by
  constructor
  · intro micros id member
    rw [now]
    exact (holds.queued micros id (queue member)).append events
  · intro micros id member
    rw [now]
    exact (holds.spawned micros id (tasks ▸ member)).append events
  · exact fun deadline id member => (holds.running deadline id (tasks ▸ member)).append events
  · intro id sleeper found signalled
    rcases raised id sleeper found signalled with ⟨before, earlier, past⟩
    rw [now]
    exact (holds.signalled id before earlier past).append events

theorem Timely.slept {state : State} {history : List Event} (holds : Timely state history)
    {queue : BoundedQueue (Nat × SleepId) 8} (duration : Nat)
    (sent : queue.items =
      state.sleepQueue.items ++ [(duration % 2 ^ 64, state.sleepers.length)]) :
    Timely { state with
      sleepQueue := queue
      sleepers := state.sleepers ++ [⟨true, false, true⟩] }
      (history ++ [.slept state.sleepers.length duration state.now]) := by
  have others : Timely { state with sleepers := state.sleepers ++ [⟨true, false, true⟩] }
      (history ++ [.slept state.sleepers.length duration state.now]) :=
    holds.quiet rfl (List.Subset.refl _) rfl (raisedIn_append _ true)
  refine ⟨?_, others.spawned, others.running, others.signalled⟩
  intro micros id member
  rw [sent] at member
  rcases List.mem_append.mp member with earlier | new
  · exact others.queued micros id earlier
  · cases List.mem_singleton.mp new
    exact ⟨duration, state.now, List.mem_append_right _ List.mem_cons_self, Nat.le_refl _⟩

theorem Timely.taken {state : State} {history : List Event} (holds : Timely state history)
    {micros : Nat} {id : SleepId} {queue : BoundedQueue (Nat × SleepId) 8}
    (pool : SlotPool Executor.Task Executor.POOL_SIZE)
    (first : state.sleepQueue.items = (micros, id) :: queue.items) :
    Timely { state with
      sleepQueue := queue, pool, tasks := state.tasks ++ [.spawned micros id] }
      (history ++ [.taken id]) := by
  have others : Timely { state with sleepQueue := queue, pool } (history ++ [.taken id]) :=
    holds.quiet rfl (first ▸ List.subset_cons_self _ _) rfl (.refl _)
  refine ⟨others.queued, ?_, ?_, others.signalled⟩
  · intro waits other member
    rcases List.mem_append.mp member with earlier | new
    · exact others.spawned waits other earlier
    · cases List.mem_singleton.mp new
      exact (holds.queued micros id (first ▸ List.mem_cons_self)).append _
  · intro deadline other member
    rcases List.mem_append.mp member with earlier | new
    · exact others.running deadline other earlier
    · cases List.mem_singleton.mp new

theorem Timely.started {state : State} {history : List Event} (holds : Timely state history)
    {task micros : Nat} {id : SleepId}
    (found : state.tasks[task]? = some (.spawned micros id)) :
    Timely { state with tasks := state.tasks.set task (.running (state.now + micros) id) }
      history := by
  refine ⟨holds.queued, ?_, ?_, holds.signalled⟩
  · intro waits other member
    rcases List.mem_or_eq_of_mem_set member with earlier | new
    · exact holds.spawned waits other earlier
    · cases new
  · intro deadline other member
    rcases List.mem_or_eq_of_mem_set member with earlier | new
    · exact holds.running deadline other earlier
    · cases new
      exact holds.spawned micros id (List.mem_of_getElem? found)

theorem Timely.fired {state : State} {history : List Event} (holds : Timely state history)
    {task deadline : Nat} {id : SleepId} {sleeper : Sleeper}
    (pool : SlotPool Executor.Task Executor.POOL_SIZE)
    (found : state.tasks[task]? = some (.running deadline id)) (due : deadline ≤ state.now) :
    Timely { state with
      pool
      tasks := state.tasks.set task .done
      sleepers := state.sleepers.set id { sleeper with signalled := true } } history := by
  have past := (holds.running deadline id (List.mem_of_getElem? found)).later due
  refine ⟨holds.queued, ?_, ?_, ?_⟩
  · intro waits other member
    rcases List.mem_or_eq_of_mem_set member with earlier | new
    · exact holds.spawned waits other earlier
    · cases new
  · intro waits other member
    rcases List.mem_or_eq_of_mem_set member with earlier | new
    · exact holds.running waits other earlier
    · cases new
  · intro other changed lookup raised
    by_cases same : id = other
    · subst same
      exact past
    · rw [List.getElem?_set_ne same] at lookup
      exact holds.signalled other changed lookup raised

theorem Timely.step {state next : State} {action : Action} {history events : List Event}
    (holds : Timely state history) (shape : Step state action next events) :
    Timely next (history ++ events) := by
  have kept := List.Subset.refl state.sleepQueue.items
  cases shape with
  | elapsed => exact (List.append_nil history).symm ▸ holds.elapse _
  | slept room sent => exact holds.slept _ sent
  | taken first => exact holds.taken _ first
  | started found => exact (List.append_nil history).symm ▸ holds.started found
  | fired found due => exact (List.append_nil history).symm ▸ holds.fired _ found due
  | refused full => exact holds.quiet rfl kept rfl (raisedIn_append _ false)
  | resolved found | dropped found => exact holds.quiet rfl kept rfl (raisedIn_set found false)
  | exhausted first =>
      exact holds.quiet rfl (first ▸ List.subset_cons_self _ _) rfl (.refl _)
  | pending | others | halted => exact holds.quiet rfl kept rfl (.refl _)

theorem timely {state : State} {history : List Event}
    (reached : beetSleep.Reached state history) : Timely state history := by
  apply Machine.Reached.induction Timely ?start ?preserved reached
  case start => exact ⟨nofun, nofun, nofun, nofun⟩
  case preserved => exact fun _ holds stepped => holds.step (step_shape stepped).2

/-- A sleep that is not queued was refused, and what resolves was refused or is over. -/
structure Answered (state : State) (history : List Event) : Prop where
  refused : ∀ id sleeper, state.sleepers[id]? = some sleeper → sleeper.queued = false →
    .refused id ∈ history
  resolved : ∀ id time, .resolved id time ∈ history →
    .refused id ∈ history ∨ Over history id time

theorem answered {state : State} {history : List Event}
    (reached : beetSleep.Reached state history) : Answered state history := by
  apply Machine.Reached.induction Answered ?start ?preserved reached
  case start => exact ⟨nofun, nofun⟩
  case preserved =>
    intro state history action next events reached holds stepped
    have kept : ∀ {id time}, Over history id time → Over (history ++ events) id time :=
      fun past => past.append events
    have signalled := (timely reached).signalled
    rcases holds with ⟨refused, resolved⟩
    cases (step_shape stepped).2 with
    | slept | refused | resolved | dropped | taken | exhausted | fired =>
        constructor <;> grind
    | elapsed | pending | started | others | halted =>
        rw [List.append_nil]
        exact ⟨refused, resolved⟩

/-! ## Each sleep on its own -/

/-- Sleeps are numbered as they are called and taken as they are queued, and each resolves
once. -/
structure Separate (state : State) (history : List Event) : Prop where
  called : observed Event.calledId history = List.range state.sleepers.length
  taken : observed Event.queuedId history =
    observed Event.takenId history ++ state.sleepQueue.items.map Prod.snd
  known : ∀ id ∈ observed Event.resolvedId history, ∃ sleeper,
    state.sleepers[id]? = some sleeper ∧ sleeper.waiting = false
  once : (observed Event.resolvedId history).Nodup

/-- Who resolves waits no longer, and has not resolved before. -/
theorem Separate.resolved {state : State} {history : List Event}
    (holds : Separate state history) {id : SleepId} {sleeper : Sleeper}
    (found : state.sleepers[id]? = some sleeper) (waits : sleeper.waiting = true) :
    Separate { state with sleepers := state.sleepers.set id { sleeper with waiting := false } }
      (history ++ [.resolved id state.now]) := by
  have new : id ∉ observed Event.resolvedId history := by
    intro earlier
    rcases holds.known id earlier with ⟨same, lookup, done⟩
    rw [found] at lookup
    cases lookup
    rw [waits] at done
    cases done
  constructor
  · simpa [Event.calledId] using holds.called
  · simpa [Event.queuedId, Event.takenId] using holds.taken
  · intro other member
    rw [observed_append] at member
    rcases List.mem_append.mp member with earlier | now
    · rcases holds.known other earlier with ⟨before, lookup, past⟩
      exact exists_set found (fun _ => rfl) lookup past
    · rw [List.mem_singleton.mp now]
      exact ⟨_, List.getElem?_set_self (List.getElem?_eq_some_iff.mp found).1, rfl⟩
  · rw [observed_append]
    change (_ ++ [id]).Nodup
    rw [← List.concat_eq_append]
    exact holds.once.concat new

theorem Separate.step {state next : State} {action : Action} {history events : List Event}
    (holds : Separate state history) (shape : Step state action next events) :
    Separate next (history ++ events) := by
  have joined : ∀ new, ∀ id ∈ observed Event.resolvedId history, ∃ sleeper,
      (state.sleepers ++ [new])[id]? = some sleeper ∧ sleeper.waiting = false := by
    intro new id earlier
    rcases holds.known id earlier with ⟨sleeper, lookup, past⟩
    exact exists_append new lookup past
  have altered : ∀ {id : SleepId} {sleeper : Sleeper} (changed : Sleeper),
      state.sleepers[id]? = some sleeper →
      (sleeper.waiting = false → changed.waiting = false) →
      ∀ other ∈ observed Event.resolvedId history, ∃ found,
        (state.sleepers.set id changed)[other]? = some found ∧ found.waiting = false := by
    intro id sleeper changed found keeps other earlier
    rcases holds.known other earlier with ⟨before, lookup, past⟩
    exact exists_set found keeps lookup past
  have resolved := @holds.resolved
  rcases holds with ⟨called, taken, known, once⟩
  cases shape with
  | resolved found waits ready => exact resolved found waits
  | elapsed | pending | started | others | halted =>
      rw [List.append_nil]
      exact ⟨called, taken, known, once⟩
  | slept room sent =>
      constructor
      · simp [called, Event.calledId, List.range_succ]
      · simp [taken, sent, Event.queuedId, Event.takenId]
      · simpa [Event.resolvedId] using joined _
      · simpa [Event.resolvedId] using once
  | refused full =>
      constructor
      · simp [called, Event.calledId, List.range_succ]
      · simp [taken, Event.queuedId, Event.takenId]
      · simpa [Event.resolvedId] using joined _
      · simpa [Event.resolvedId] using once
  | dropped found | fired found due sleeps =>
      constructor
      · simpa using called
      · simpa using taken
      · simpa using altered _ (by assumption) (by simp)
      · simpa using once
  | taken first | exhausted first =>
      constructor
      · simpa [Event.calledId] using called
      · simp [taken, first, Event.queuedId, Event.takenId]
      · simpa [Event.resolvedId] using known
      · simpa [Event.resolvedId] using once

theorem separate {state : State} {history : List Event}
    (reached : beetSleep.Reached state history) : Separate state history := by
  apply Machine.Reached.induction Separate ?start ?preserved reached
  case start => exact ⟨rfl, rfl, nofun, List.nodup_nil⟩
  case preserved => exact fun _ holds stepped => holds.step (step_shape stepped).2

/-- A refusal is emitted alone, with a full queue. -/
theorem refused_emitted {state next : State} {action : Action} {front back : List Event}
    {id : SleepId} (shape : Step state action next (front ++ .refused id :: back)) :
    front = [] ∧ state.sleepQueue.items.length = 8 := by
  generalize produced : front ++ Event.refused id :: back = events at shape
  have member : .refused id ∈ events := by simp [← produced]
  cases shape with
  | refused full =>
      cases front with
      | nil => exact ⟨rfl, full⟩
      | cons first front => simp at produced
  | elapsed | pending | dropped | started | fired | others | halted => cases member
  | slept | resolved | taken | exhausted => simp at member

/-- A sleep resolves once, and not before its time unless eight others were queued when it
was called. Of its duration 64 bits are kept. -/
structure SleepsSound (history : List Event) : Prop where
  distinct : (observed Event.calledId history).Nodup
  once : (observed Event.resolvedId history).Nodup
  neverEarly : ∀ id time, .resolved id time ∈ history →
    .refused id ∈ history ∨ ∃ duration called, .slept id duration called ∈ history ∧
      (duration < 2 ^ 64 → called + duration ≤ time)
  refused : ∀ before id after, history = before ++ .refused id :: after →
    (observed Event.queuedId before).length =
      (observed Event.takenId before).length + 8

theorem sleeps_sound {state : State} {history : List Event}
    (reached : beetSleep.Reached state history) : SleepsSound history := by
  have holds := separate reached
  constructor
  · rw [holds.called]
    exact List.nodup_range
  · exact holds.once
  · intro id time resolved
    rcases (answered reached).resolved id time resolved with refused |
      ⟨duration, called, slept, past⟩
    · exact .inl refused
    · refine .inr ⟨duration, called, slept, fun short => ?_⟩
      rwa [Nat.mod_eq_of_lt short] at past
  · intro before id after split
    rcases reached.emitted split with
      ⟨source, prior, action, next, front, back, reachedSource, stepped, rfl⟩
    rcases refused_emitted (step_shape stepped).2 with ⟨rfl, full⟩
    rw [List.append_nil, (separate reachedSource).taken, List.length_append, List.length_map,
      full]

/-- The second sleep is the shorter one, and the ninth of those that wait is refused. -/
theorem sleeps_sound_nine :
    ∃ (state : State) (history : List Event), beetSleep.Reached state history ∧
      SleepsSound history ∧
      history.filter (fun event => (Event.resolvedId event).isSome) =
        [.resolved 10 0, .resolved 1 2, .resolved 0 9] :=
  have reached : beetSleep.Reached _ _ :=
    ⟨[.sleep 7, .sleep 2, .spawn, .spawn, .start 1, .start 0] ++
      List.replicate 9 (.sleep 5) ++
      [.poll 10, .poll 0, .elapse 2, .fire 1, .poll 1, .elapse 7, .fire 0, .poll 0], rfl⟩
  ⟨_, _, reached, sleeps_sound reached, by decide⟩

/-! ## Sleeps do not hold each other up -/

/-- Nothing for the task to do at this time. -/
def TimerTask.Rests (now : Nat) : TimerTask → Prop
  | spawned .. => False
  | running deadline _ => now < deadline
  | done => True

/-- The embassy executor runs, and has nothing left to do at this time. -/
structure Idle (state : State) : Prop where
  running : state.panicked = false
  drained : state.sleepQueue.items = []
  rests : ∀ task ∈ state.tasks, task.Rests state.now

/-- Time passes only once the executor is idle. -/
def Prompt (state : State) : Action → Prop
  | .elapse _ => Idle state
  | _ => True

theorem Separate.slept_eq {state : State} {history : List Event}
    (separate : Separate state history) {id : SleepId}
    {duration duration' called called' : Nat} (slept : .slept id duration called ∈ history)
    (again : .slept id duration' called' ∈ history) :
    duration = duration' ∧ called = called' := by
  have distinct : (observed Event.calledId history).Nodup := by
    rw [separate.called]
    exact List.nodup_range
  have equal := eq_of_observed_nodup Event.calledId distinct slept again rfl rfl
  cases equal
  exact ⟨rfl, rfl⟩

/-- The timer of each sleep expires at the end of the sleep. -/
structure Punctual (state : State) (history : List Event) : Prop where
  queued : ∀ micros id, (micros, id) ∈ state.sleepQueue.items →
    ∃ duration, micros = duration % 2 ^ 64 ∧ .slept id duration state.now ∈ history
  spawned : ∀ micros id, .spawned micros id ∈ state.tasks →
    ∃ duration, micros = duration % 2 ^ 64 ∧ .slept id duration state.now ∈ history
  placed : ∀ id duration called, .slept id duration called ∈ history →
    (duration % 2 ^ 64, id) ∈ state.sleepQueue.items ∨
      .spawned (duration % 2 ^ 64) id ∈ state.tasks ∨
      .running (called + duration % 2 ^ 64) id ∈ state.tasks ∨
      ∃ sleeper, state.sleepers[id]? = some sleeper ∧ sleeper.signalled = true

instance (now : Nat) (task : TimerTask) : Decidable (task.Rests now) :=
  match task with
  | .spawned .. => .isFalse id
  | .running deadline _ => inferInstanceAs (Decidable (now < deadline))
  | .done => .isTrue trivial

theorem slept_of_quiet {history events : List Event}
    (quiet : ∀ event ∈ events, event.queuedId = none) {id : SleepId} {duration called : Nat}
    (slept : .slept id duration called ∈ history ++ events) :
    .slept id duration called ∈ history := by
  rcases List.mem_append.mp slept with earlier | now
  · exact earlier
  · cases quiet _ now

/-- Nothing is queued and no timer moves. -/
theorem Punctual.quiet {state next : State} {history events : List Event}
    (holds : Punctual state history) (now : next.now = state.now)
    (queue : next.sleepQueue.items = state.sleepQueue.items) (tasks : next.tasks = state.tasks)
    (raised : RaisedIn next.sleepers state.sleepers)
    (quiet : ∀ event ∈ events, event.queuedId = none) : Punctual next (history ++ events) := by
  have kept : ∀ {micros id}, (∃ duration, micros = duration % 2 ^ 64 ∧
        .slept id duration state.now ∈ history) →
      ∃ duration, micros = duration % 2 ^ 64 ∧ .slept id duration next.now ∈ history ++ events := by
    rintro micros id ⟨duration, same, slept⟩
    rw [now]
    exact ⟨duration, same, List.mem_append_left _ slept⟩
  constructor
  · rw [queue]
    exact fun micros id member => kept (holds.queued micros id member)
  · rw [tasks]
    exact fun micros id member => kept (holds.spawned micros id member)
  · intro id duration called slept
    rw [queue, tasks]
    rcases holds.placed id duration called (slept_of_quiet quiet slept) with
      queued | spawned | running | ⟨sleeper, found, signalled⟩
    · exact .inl queued
    · exact .inr (.inl spawned)
    · exact .inr (.inr (.inl running))
    · exact .inr (.inr (.inr (raised id sleeper found signalled)))

theorem Punctual.slept {state : State} {history : List Event} (holds : Punctual state history)
    {queue : BoundedQueue (Nat × SleepId) 8} (duration : Nat)
    (sent : queue.items =
      state.sleepQueue.items ++ [(duration % 2 ^ 64, state.sleepers.length)]) :
    Punctual { state with
      sleepQueue := queue
      sleepers := state.sleepers ++ [⟨true, false, true⟩] }
      (history ++ [.slept state.sleepers.length duration state.now]) := by
  constructor
  · intro micros id member
    rw [sent] at member
    rcases List.mem_append.mp member with earlier | new
    · rcases holds.queued micros id earlier with ⟨duration, same, slept⟩
      exact ⟨duration, same, List.mem_append_left _ slept⟩
    · cases List.mem_singleton.mp new
      exact ⟨duration, rfl, List.mem_append_right _ List.mem_cons_self⟩
  · intro micros id member
    rcases holds.spawned micros id member with ⟨duration, same, slept⟩
    exact ⟨duration, same, List.mem_append_left _ slept⟩
  · intro id lasting called slept
    rw [sent]
    rcases List.mem_append.mp slept with earlier | new
    · rcases holds.placed id lasting called earlier with
        queued | spawned | running | ⟨sleeper, found, signalled⟩
      · exact .inl (List.mem_append_left _ queued)
      · exact .inr (.inl spawned)
      · exact .inr (.inr (.inl running))
      · exact .inr (.inr (.inr (append_raisedIn _ _ id sleeper found signalled)))
    · cases List.mem_singleton.mp new
      exact .inl (List.mem_append_right _ List.mem_cons_self)

theorem Punctual.taken {state : State} {history : List Event} (holds : Punctual state history)
    {micros : Nat} {id : SleepId} {queue : BoundedQueue (Nat × SleepId) 8}
    (pool : SlotPool Executor.Task Executor.POOL_SIZE)
    (first : state.sleepQueue.items = (micros, id) :: queue.items) :
    Punctual { state with
      sleepQueue := queue, pool, tasks := state.tasks ++ [.spawned micros id] }
      (history ++ [.taken id]) := by
  have quiet : ∀ event ∈ [Event.taken id], event.queuedId = none := by simp [Event.queuedId]
  have kept : ∀ {waits other}, (waits, other) ∈ state.sleepQueue.items →
      ∃ duration, waits = duration % 2 ^ 64 ∧
        .slept other duration state.now ∈ history ++ [.taken id] := by
    intro waits other member
    rcases holds.queued waits other member with ⟨duration, same, slept⟩
    exact ⟨duration, same, List.mem_append_left _ slept⟩
  constructor
  · intro waits other member
    exact kept (first ▸ List.mem_cons_of_mem _ member)
  · intro waits other member
    rcases List.mem_append.mp member with earlier | new
    · rcases holds.spawned waits other earlier with ⟨duration, same, slept⟩
      exact ⟨duration, same, List.mem_append_left _ slept⟩
    · cases List.mem_singleton.mp new
      exact kept (first ▸ List.mem_cons_self)
  · intro other duration called slept
    rcases holds.placed other duration called (slept_of_quiet quiet slept) with
      queued | spawned | running | signalled
    · rw [first] at queued
      rcases List.mem_cons.mp queued with same | later
      · cases same
        exact .inr (.inl (List.mem_append_right _ List.mem_cons_self))
      · exact .inl later
    · exact .inr (.inl (List.mem_append_left _ spawned))
    · exact .inr (.inr (.inl (List.mem_append_left _ running)))
    · exact .inr (.inr (.inr signalled))

/-- Setting a task moves no other one. -/
theorem mem_set_task {tasks : List TimerTask} {task : Nat} {old found : TimerTask}
    (new : TimerTask) (lookup : tasks[task]? = some old) (member : found ∈ tasks) :
    found = old ∨ found ∈ tasks.set task new := by
  rcases List.getElem?_of_mem member with ⟨index, lookup'⟩
  by_cases same : task = index
  · subst same
    rw [lookup] at lookup'
    cases lookup'
    exact .inl rfl
  · exact .inr (List.mem_of_getElem? (by rw [List.getElem?_set_ne same, lookup']))

theorem Punctual.started {state : State} {history : List Event}
    (holds : Punctual state history) (separate : Separate state history) {task micros : Nat}
    {id : SleepId} (found : state.tasks[task]? = some (.spawned micros id)) :
    Punctual { state with tasks := state.tasks.set task (.running (state.now + micros) id) }
      (history ++ []) := by
  rw [List.append_nil]
  refine ⟨holds.queued, ?_, ?_⟩
  · intro waits other member
    rcases List.mem_or_eq_of_mem_set member with earlier | new
    · exact holds.spawned waits other earlier
    · cases new
  · intro other duration called slept
    rcases holds.placed other duration called slept with
      queued | spawned | running | signalled
    · exact .inl queued
    · rcases mem_set_task (.running (state.now + micros) id) found spawned with same | stays
      · cases same
        -- The task was spawned when the sleep was called, as no time has passed since.
        rcases holds.spawned _ id (List.mem_of_getElem? found) with ⟨lasting, -, again⟩
        rcases separate.slept_eq slept again with ⟨rfl, rfl⟩
        have inside := (List.getElem?_eq_some_iff.mp found).1
        exact .inr (.inr (.inl (List.mem_of_getElem? (List.getElem?_set_self inside))))
      · exact .inr (.inl stays)
    · rcases mem_set_task (.running (state.now + micros) id) found running with same | stays
      · cases same
      · exact .inr (.inr (.inl stays))
    · exact .inr (.inr (.inr signalled))

theorem Punctual.fired {state : State} {history : List Event} (holds : Punctual state history)
    {task deadline : Nat} {id : SleepId} {sleeper : Sleeper}
    (pool : SlotPool Executor.Task Executor.POOL_SIZE)
    (found : state.tasks[task]? = some (.running deadline id))
    (sleeps : state.sleepers[id]? = some sleeper) :
    Punctual { state with
      pool
      tasks := state.tasks.set task .done
      sleepers := state.sleepers.set id { sleeper with signalled := true } }
      (history ++ []) := by
  rw [List.append_nil]
  refine ⟨holds.queued, ?_, ?_⟩
  · intro waits other member
    rcases List.mem_or_eq_of_mem_set member with earlier | new
    · exact holds.spawned waits other earlier
    · cases new
  · intro other duration called slept
    rcases holds.placed other duration called slept with
      queued | spawned | running | ⟨before, lookup, signalled⟩
    · exact .inl queued
    · rcases mem_set_task .done found spawned with same | stays
      · cases same
      · exact .inr (.inl stays)
    · rcases mem_set_task .done found running with same | stays
      · cases same
        have inside := (List.getElem?_eq_some_iff.mp sleeps).1
        exact .inr (.inr (.inr ⟨_, List.getElem?_set_self inside, rfl⟩))
      · exact .inr (.inr (.inl stays))
    · have raised : RaisedIn (state.sleepers.set id { sleeper with signalled := true })
          state.sleepers := set_raisedIn sleeps fun _ => rfl
      exact .inr (.inr (.inr (raised other before lookup signalled)))

theorem Punctual.step {state next : State} {action : Action} {history events : List Event}
    (holds : Punctual state history) (separate : Separate state history)
    (prompt : Prompt state action) (shape : Step state action next events)
    (still : next.panicked = false) : Punctual next (history ++ events) := by
  cases shape with
  | elapsed =>
      have drained := prompt.drained
      rw [List.append_nil]
      refine ⟨?_, fun micros id member => (prompt.rests _ member).elim, holds.placed⟩
      intro micros id member
      rw [drained] at member
      cases member
  | slept room sent => exact holds.slept _ sent
  | taken first => exact holds.taken _ first
  | started found => exact holds.started separate found
  | fired found due sleeps => exact holds.fired _ found sleeps
  | refused full =>
      exact holds.quiet rfl rfl rfl (append_raisedIn _ _) (by simp [Event.queuedId])
  | resolved found | dropped found =>
      exact holds.quiet rfl rfl rfl (set_raisedIn found id) (by simp [Event.queuedId])
  | pending | others => exact holds.quiet rfl rfl rfl (.refl _) nofun
  | exhausted | halted => cases still

end Sleep

end BeetEsp.Esp32Utils
