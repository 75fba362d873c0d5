import BeetEsp.Esp32Utils.Executor

/-! # When the driver pool is exhausted

The queues of the producers bound what waits for a slot, not what holds one: a sleep
leaves `SLEEP_QUEUE` for a slot of its own, and so does a connect. The pool lasts
exactly as long as the drivers, those of the app included, sleeps, connections, servers
and browsers together leave a slot for each task that is spawned.
-/

namespace BeetEsp.Esp32Utils.Executor

open Foundation

variable {build : Build}

/-! ## Populations -/

/-- What holds a slot, producer by producer. -/
def State.live (state : State build) : Nat :=
  build.drivers.length + state.pool.population Task.isSleep +
    state.pool.population Task.isConnection + state.pool.population Task.isServer +
    state.pool.population Task.isBrowser

theorem countP_tasks (tasks : List Task) :
    tasks.length = tasks.countP Task.isDriver + tasks.countP Task.isSleep +
      tasks.countP Task.isConnection + tasks.countP Task.isServer +
      tasks.countP Task.isBrowser := by
  induction tasks with
  | nil => rfl
  | cons task tasks induction =>
      simp only [List.length_cons, List.countP_cons, induction]
      cases task <;> simp [Task.isDriver, Task.isSleep, Task.isConnection, Task.isServer,
        Task.isBrowser] <;> omega

/-! ## Steps -/

/-- The pool after a spawn, whether or not there was a slot. -/
theorem population_spawnDriver (state : State build) {task : Task} {kind : Task → Bool}
    (other : kind task = false) :
    (spawnDriver state task).1.pool.population kind = state.pool.population kind := by
  rw [spawnDriver]
  cases taken : state.pool.take task with
  | none => rfl
  | some pool =>
      have counted := SlotPool.population_take taken kind
      rwa [other, if_neg Bool.false_ne_true, Nat.add_zero] at counted

theorem spawnDriver_panicked {state : State build} (running : state.panicked = none)
    (task : Task) :
    (spawnDriver state task).1.panicked = some .poolExhausted ↔
      POOL_SIZE ≤ state.pool.holders.length := by
  rw [← SlotPool.take_eq_none, spawnDriver]
  cases state.pool.take task with
  | none => exact iff_of_true rfl rfl
  | some pool => exact iff_of_false (by simp [running]) (by simp)

theorem population_startBrowsers {kind : Task → Bool}
    (other : ∀ id, kind (.browser id) = false) (state : State build) (ids : List Nat) :
    (startBrowsers state ids).1.pool.population kind = state.pool.population kind := by
  have keeps := @startBrowsers_keeps build
    fun next => next.pool.population kind = state.pool.population kind
  apply keeps ?spawned ?marked ids rfl
  case spawned => exact fun id same => (population_spawnDriver _ (other id)).trans same
  case marked => exact fun _ _ same => same

/-- A frame exhausts the pool exactly when there are more browsers than slots. -/
theorem startBrowsers_panicked {state : State build} (running : state.panicked = none)
    (ids : List Nat) :
    (startBrowsers state ids).1.panicked = some .poolExhausted ↔
      POOL_SIZE < state.pool.holders.length + ids.length := by
  induction ids generalizing state with
  | nil =>
      have bounded := state.pool.bounded
      apply iff_of_false
      · simp [startBrowsers, running]
      · simp only [List.length_nil]
        omega
  | cons id rest induction =>
      simp only [startBrowsers, spawnDriver, List.length_cons]
      cases taken : state.pool.take (.browser id) with
      | none =>
          have full := SlotPool.take_eq_none.mp taken
          apply iff_of_true rfl
          omega
      | some pool =>
          have spec := SlotPool.take_eq_some taken
          simp only [running]
          rw [induction rfl]
          simp only [spec.2, List.length_append, List.length_singleton]
          omega

theorem addSocket_pool (state : State build) (owner : Owner) :
    (addSocket state owner).1.pool = state.pool := by
  rw [addSocket]
  cases state.sockets.take owner <;> rfl

theorem addSocket_panicked {state : State build} (running : state.panicked = none)
    (owner : Owner) : (addSocket state owner).1.panicked ≠ some .poolExhausted := by
  rw [addSocket]
  cases state.sockets.take owner <;> simp [running]

theorem Spawns.finite {action : Action} {task : Task} (asks : Spawns action task) :
    task.isDriver = false := by
  cases asks <;> rfl

/-! ## Startup -/

theorem startDrivers_cons {state : State build} (running : state.panicked = none)
    (task : Task) (rest : List Task) :
    startDrivers state (task :: rest) =
      match state.pool.take task with
      | some pool => startDrivers { state with pool } rest
      | none => { state with panicked := some .poolExhausted } := by
  simp only [startDrivers, spawnDriver]
  cases state.pool.take task with
  | none => rfl
  | some pool => simp only [running]

/-- Drivers that are no more than the slots all find one. -/
theorem startDrivers_fits {state : State build} (running : state.panicked = none)
    {tasks : List Task} (fits : state.pool.holders.length + tasks.length ≤ POOL_SIZE) :
    (startDrivers state tasks).panicked = none ∧
      (startDrivers state tasks).pool.holders = state.pool.holders ++ tasks := by
  induction tasks generalizing state with
  | nil => exact ⟨running, (List.append_nil _).symm⟩
  | cons task rest induction =>
      rw [List.length_cons] at fits
      rw [startDrivers_cons running]
      cases taken : state.pool.take task with
      | none =>
          have full := SlotPool.take_eq_none.mp taken
          omega
      | some pool =>
          have holders := (SlotPool.take_eq_some taken).2
          have fewer : pool.holders.length + rest.length ≤ POOL_SIZE := by
            rw [holders, List.length_append, List.length_singleton]
            omega
          rw [List.append_cons, ← holders]
          exact @induction { state with pool } running fewer

/-- The first driver that is too many exhausts the pool. -/
theorem startDrivers_exhausts {state : State build} (running : state.panicked = none)
    {tasks : List Task} (more : POOL_SIZE < state.pool.holders.length + tasks.length) :
    (startDrivers state tasks).panicked = some .poolExhausted := by
  induction tasks generalizing state with
  | nil => exact absurd state.pool.bounded (Nat.not_le.mpr more)
  | cons task rest induction =>
      rw [List.length_cons] at more
      rw [startDrivers_cons running]
      cases taken : state.pool.take task with
      | none => rfl
      | some pool =>
          have holders := (SlotPool.take_eq_some taken).2
          have still : POOL_SIZE < pool.holders.length + rest.length := by
            rw [holders, List.length_append, List.length_singleton]
            omega
          exact @induction { state with pool } running still

/-- Startup exhausts the pool exactly when there are more drivers than slots. -/
theorem startup_panicked (build : Build) :
    (executor build).initial.panicked = some .poolExhausted ↔
      POOL_SIZE < build.drivers.length := by
  have running : (State.empty build).panicked = none := rfl
  constructor
  · intro panicked
    by_contra fits
    rw [Nat.not_lt, ← Nat.zero_add build.drivers.length] at fits
    have started := (startDrivers_fits running fits).1
    rw [executor, started] at panicked
    cases panicked
  · intro more
    rw [← Nat.zero_add build.drivers.length] at more
    exact startDrivers_exhausts running more

/-- What has not panicked has got through startup. -/
theorem drivers_fit {state : State build} {history : List Event}
    (reached : (executor build).Reached state history) (running : state.panicked = none) :
    build.drivers.length ≤ POOL_SIZE := by
  suffices general : state.panicked = none → build.drivers.length ≤ POOL_SIZE from
    general running
  apply Machine.Reached.induction
    (fun state _ => state.panicked = none → build.drivers.length ≤ POOL_SIZE)
    ?start ?preserved reached
  case start =>
    intro running
    by_contra more
    rw [(startup_panicked build).mpr (Nat.lt_of_not_le more)] at running
    cases running
  case preserved => exact fun _ fits stepped _ => fits (step_shape stepped).1

theorem countP_drivers (build : Build) :
    build.drivers.countP Task.isDriver = build.drivers.length := by
  rw [List.countP_eq_length]
  intro task member
  cases task with
  | sleep | connection | server | browser =>
      simp only [Build.drivers] at member
      split_ifs at member <;> simp at member
  | _ => rfl

/-- The long-lived drivers never leave the pool. -/
theorem drivers_stay {state : State build} {history : List Event}
    (fits : build.drivers.length ≤ POOL_SIZE)
    (reached : (executor build).Reached state history) :
    state.pool.population Task.isDriver = build.drivers.length := by
  apply Machine.Reached.induction
    (fun state _ => state.pool.population Task.isDriver = build.drivers.length)
    ?start ?preserved reached
  case start =>
    rw [← Nat.zero_add build.drivers.length] at fits
    have started := (startDrivers_fits (by rfl : (State.empty build).panicked = none) fits).2
    rw [executor, SlotPool.population, started, ← countP_drivers]
    rfl
  case preserved =>
    intro state history action next events _ stay stepped
    cases (step_shape stepped).2 with
    | idle takes pool => rw [pool, stay]
    | spawned asks prepared pool => rw [population_spawnDriver prepared asks.finite, pool, stay]
    | browsing => rw [population_startBrowsers (fun id => rfl), stay]
    | opened => rw [addSocket_pool, stay]
    | renewed => rw [addSocket_pool, dropSockets, stay]
    | closed => exact stay
    | @ended action task takes finite =>
        have kept : (endTask state task).pool.population Task.isDriver =
            state.pool.population Task.isDriver := by
          apply SlotPool.population_release
          intro other driver
          rw [decide_eq_false_iff_not]
          intro same
          subst same
          rw [finite] at driver
          cases driver
        rw [kept, stay]

theorem live_of_reached {state : State build} {history : List Event}
    (reached : (executor build).Reached state history) (running : state.panicked = none) :
    state.pool.holders.length = state.live := by
  rw [countP_tasks, State.live, ← drivers_stay (drivers_fit reached running) reached]
  rfl

/-! ## The pool along a run -/

/-- No spawn has failed. -/
structure WithinPool (state : State build) : Prop where
  live : state.pool.holders.length ≤ POOL_SIZE
  spawned : state.panicked ≠ some .poolExhausted

/-- There is a slot for each task the action spawns. -/
def PoolRoom (state : State build) : Action → Prop
  | .drainSleep | .dial | .startServer _ => state.live < POOL_SIZE
  | .startPendingBrowsers => state.live + state.pending.length ≤ POOL_SIZE
  | _ => True

theorem poolRoom_of_takes {state : State build} {action : Action}
    (takes : action.takes = false) : PoolRoom state action := by
  cases action with
  | drainSleep | dial | startServer | startPendingBrowsers => cases takes
  | _ => trivial

theorem poolRoom_of_spawns {state : State build} {action : Action} {task : Task}
    (asks : Spawns action task) : PoolRoom state action ↔ state.live < POOL_SIZE := by
  cases asks <;> rfl

/-- A step exhausts the pool exactly when it spawns more than there are slots for. -/
theorem withinPool_iff {state next : State build} {action : Action}
    {history events : List Event} (reached : (executor build).Reached state history)
    (stepped : (executor build).step state action = some (next, events)) :
    WithinPool next ↔ PoolRoom state action := by
  have spawned : WithinPool next ↔ next.panicked ≠ some .poolExhausted :=
    ⟨WithinPool.spawned, fun spawned => ⟨next.pool.bounded, spawned⟩⟩
  rcases step_shape stepped with ⟨running, step⟩
  have live := live_of_reached reached running
  rw [spawned]
  cases step with
  | idle takes pool sockets still =>
      exact iff_of_true (by simp [still]) (poolRoom_of_takes takes)
  | @spawned action task asks prepared pool sockets still =>
      rw [Ne, spawnDriver_panicked still task, poolRoom_of_spawns asks, pool, live, Nat.not_le]
  | browsing => rw [Ne, startBrowsers_panicked running, live, Nat.not_lt, PoolRoom]
  | opened may => exact iff_of_true (addSocket_panicked running _) trivial
  | @renewed id held =>
      have dropped : (dropSockets state fun owner => decide (owner = .accept id)).panicked = none :=
        running
      exact iff_of_true (addSocket_panicked dropped _) trivial
  | closed takes => exact iff_of_true (by simp [dropSockets, running]) (poolRoom_of_takes takes)
  | ended takes =>
      exact iff_of_true (by simp [endTask, dropSockets, running]) (poolRoom_of_takes takes)

/-- The pool is not exhausted along a run exactly when the drivers, sleeps,
connections, servers and browsers leave a slot for each task that is spawned. -/
theorem pool_holds {actions : List Action} {state : State build} {history : List Event}
    (ran : (executor build).run actions = some (state, history)) :
    (executor build).AlwaysAlong (fun state _ => WithinPool state) actions ↔
      build.drivers.length ≤ POOL_SIZE ∧ (executor build).Meets PoolRoom actions := by
  have started : WithinPool (executor build).initial ↔ build.drivers.length ≤ POOL_SIZE := by
    rw [← Nat.not_lt, ← startup_panicked]
    exact ⟨WithinPool.spawned, fun spawned => ⟨SlotPool.bounded _, spawned⟩⟩
  have steps (start : WithinPool (executor build).initial) :
      (executor build).AlwaysAlong (fun state _ => WithinPool state) actions ↔
        (executor build).Meets PoolRoom actions := by
    apply Machine.always_iff_meets _ start ?exact ran
    intro state history action next events reached _ stepped
    exact withinPool_iff reached stepped
  constructor
  · intro always
    have start := always [] actions rfl _ _ rfl
    exact ⟨started.mp start, (steps start).mp always⟩
  · rintro ⟨fits, met⟩
    exact (steps (started.mpr fits)).mpr met

/-- Every plugin that spawns drivers. -/
def fullBuild : Build := ⟨true, true, true, true, 0⟩

/-- The plugins of the kitchen sink, and `ping`. -/
def kitchenSink : Build := ⟨false, true, false, false, 1⟩

/-- A number of sleeps, each taken from the queue before the next. -/
def sleeping (count : Nat) : List Action :=
  (List.replicate count [.sleep, .drainSleep]).flatten

/-- A server of the kitchen sink, and nine sleeps beside it. -/
def busySink : List Action := .startServer false :: sleeping 9

theorem pool_holds_sleeping :
    ∃ state history, (executor kitchenSink).run busySink = some (state, history) ∧
      state.live = POOL_SIZE ∧
      ((executor kitchenSink).AlwaysAlong (fun state _ => WithinPool state) busySink ↔
        kitchenSink.drivers.length ≤ POOL_SIZE ∧
          (executor kitchenSink).Meets PoolRoom busySink) := by
  have shown : ((executor kitchenSink).run busySink).map (fun last => last.1.live) =
      some POOL_SIZE := by
    decide +kernel
  rcases Option.map_eq_some_iff.mp shown with ⟨⟨state, history⟩, ran, full⟩
  exact ⟨state, history, ran, full, pool_holds ran⟩

/-- With all eight drivers running, the ninth long sleep finds its queue empty, and no
slot. -/
theorem sleeps_exhaust_pool :
    ∃ state history, (executor fullBuild).run (sleeping 9) = some (state, history) ∧
      state.pool.population Task.isSleep = 8 ∧ state.sleepQueue.items = [] ∧
      state.panicked = some .poolExhausted ∧ ¬ WithinPool state := by
  have shown : ((executor fullBuild).run (sleeping 9)).map (fun last =>
      decide (last.1.pool.population Task.isSleep = 8 ∧ last.1.sleepQueue.items = [] ∧
        last.1.panicked = some .poolExhausted)) = some true := by
    decide +kernel
  rcases Option.map_eq_some_iff.mp shown with ⟨⟨state, history⟩, ran, same⟩
  rcases of_decide_eq_true same with ⟨sleeps, queued, panicked⟩
  exact ⟨state, history, ran, sleeps, queued, panicked, fun within => within.spawned panicked⟩

end BeetEsp.Esp32Utils.Executor
