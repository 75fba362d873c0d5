import BeetEsp.Esp32Utils.DriverPool

/-! # When the socket set is full

DHCP and DNS have a socket each for good; of the client and of SNTP there is at most
one each, but every server has up to two, and every browser and connection one. The
set of the stack lasts exactly as long as one more is opened only while these leave a
place for it.
-/

namespace BeetEsp.Esp32Utils.Executor

open Foundation

variable {build : Build}

namespace Owner

def isStack : Owner → Bool
  | dhcp | dns => true
  | _ => false

def isClient : Owner → Bool
  | client => true
  | _ => false

def isSntp : Owner → Bool
  | sntp => true
  | _ => false

def isAccept : Owner → Bool
  | accept _ => true
  | _ => false

def isResponder : Owner → Bool
  | responder _ => true
  | _ => false

def isBrowser : Owner → Bool
  | browser _ => true
  | _ => false

def isConnection : Owner → Bool
  | connection _ => true
  | _ => false

end Owner

/-! ## Populations -/

/-- What holds a socket, owner by owner. -/
def State.liveSockets (state : State build) : Nat :=
  [Owner.dhcp, Owner.dns].length + state.sockets.population Owner.isClient +
    state.sockets.population Owner.isSntp + state.sockets.population Owner.isAccept +
    state.sockets.population Owner.isResponder + state.sockets.population Owner.isBrowser +
    state.sockets.population Owner.isConnection

theorem countP_owners (owners : List Owner) :
    owners.length = owners.countP Owner.isStack + owners.countP Owner.isClient +
      owners.countP Owner.isSntp + owners.countP Owner.isAccept +
      owners.countP Owner.isResponder + owners.countP Owner.isBrowser +
      owners.countP Owner.isConnection := by
  induction owners with
  | nil => rfl
  | cons owner owners induction =>
      simp only [List.length_cons, List.countP_cons, induction]
      cases owner <;> simp [Owner.isStack, Owner.isClient, Owner.isSntp, Owner.isAccept,
        Owner.isResponder, Owner.isBrowser, Owner.isConnection] <;> omega

/-! ## Steps -/

theorem spawnDriver_sockets (state : State build) (task : Task) :
    (spawnDriver state task).1.sockets = state.sockets := by
  rw [spawnDriver]
  cases state.pool.take task <;> rfl

theorem spawnDriver_socketSetFull {state : State build}
    (running : state.panicked ≠ some .socketSetFull) (task : Task) :
    (spawnDriver state task).1.panicked ≠ some .socketSetFull := by
  rw [spawnDriver]
  cases state.pool.take task with
  | none => simp
  | some pool => exact running

/-- The drivers open no socket before they run. -/
theorem startup_sockets (build : Build) :
    (executor build).initial.sockets = (State.empty build).sockets := by
  have keeps := @startDrivers_keeps build fun next => next.sockets = (State.empty build).sockets
  apply keeps ?spawned build.drivers rfl
  exact fun task same => (spawnDriver_sockets _ task).trans same

theorem startBrowsers_sockets (state : State build) (ids : List Nat) :
    (startBrowsers state ids).1.sockets = state.sockets := by
  have keeps := @startBrowsers_keeps build fun next => next.sockets = state.sockets
  apply keeps ?spawned ?marked ids rfl
  case spawned => exact fun id same => (spawnDriver_sockets _ _).trans same
  case marked => exact fun _ _ same => same

theorem startBrowsers_socketSetFull {state : State build}
    (running : state.panicked ≠ some .socketSetFull) (ids : List Nat) :
    (startBrowsers state ids).1.panicked ≠ some .socketSetFull := by
  have keeps := @startBrowsers_keeps build fun next => next.panicked ≠ some .socketSetFull
  apply keeps ?spawned ?marked ids running
  case spawned => exact fun id still => spawnDriver_socketSetFull still _
  case marked => exact fun _ _ still => still

theorem addSocket_socketSetFull {state : State build} (running : state.panicked = none)
    (owner : Owner) : (addSocket state owner).1.panicked = some .socketSetFull ↔
      build.STACK_SOCKETS ≤ state.sockets.holders.length := by
  rw [← SlotPool.take_eq_none, addSocket]
  cases state.sockets.take owner with
  | none => exact iff_of_true rfl rfl
  | some sockets => exact iff_of_false (by simp [running]) (by simp)

theorem population_addSocket (state : State build) {owner : Owner} {kind : Owner → Bool}
    (other : kind owner = false) :
    (addSocket state owner).1.sockets.population kind = state.sockets.population kind := by
  rw [addSocket]
  cases taken : state.sockets.take owner with
  | none => rfl
  | some sockets =>
      have counted := SlotPool.population_take taken kind
      rwa [other, if_neg Bool.false_ne_true, Nat.add_zero] at counted

/-- The sockets of DHCP and DNS live in no task. -/
theorem stack_dropSockets (state : State build) {gone : Owner → Bool}
    (tasks : ∀ owner, gone owner = true → owner.task.isSome = true) :
    (dropSockets state gone).sockets.population Owner.isStack =
      state.sockets.population Owner.isStack := by
  apply SlotPool.population_release
  intro owner stack
  cases leaves : gone owner with
  | false => rfl
  | true =>
      have task := tasks owner leaves
      cases owner with
      | dhcp | dns => cases task
      | _ => cases stack

theorem mayOpen_spec {state : State build} {owner : Owner}
    (may : state.mayOpen owner = true) :
    owner ∉ state.sockets.holders ∧
      ∃ task, owner.task = some task ∧ task ∈ state.pool.holders := by
  simp only [State.mayOpen, Bool.and_eq_true, decide_eq_true_eq] at may
  rcases may with ⟨⟨unheld, live⟩, -⟩
  refine ⟨unheld, ?_⟩
  cases task : owner.task with
  | none =>
      rw [task] at live
      cases live
  | some task' =>
      rw [task] at live
      exact ⟨task', rfl, of_decide_eq_true live⟩

theorem Owner.isStack_of_task {owner : Owner} (task : owner.task.isSome = true) :
    owner.isStack = false := by
  cases owner with
  | dhcp | dns => cases task
  | _ => rfl

/-- DHCP and DNS keep their sockets. -/
theorem stack_stays {state : State build} {history : List Event}
    (reached : (executor build).Reached state history) :
    state.sockets.population Owner.isStack = [Owner.dhcp, Owner.dns].length := by
  apply Machine.Reached.induction
    (fun state _ => state.sockets.population Owner.isStack = [Owner.dhcp, Owner.dns].length)
    ?start ?preserved reached
  case start =>
    rw [startup_sockets]
    rfl
  case preserved =>
    intro state history action next events _ stay stepped
    cases (step_shape stepped).2 with
    | idle takes pool sockets => rw [sockets, stay]
    | spawned asks prepared pool sockets => rw [spawnDriver_sockets, sockets, stay]
    | browsing => rw [startBrowsers_sockets, stay]
    | opened may =>
        rcases (mayOpen_spec may).2 with ⟨task, lives, -⟩
        rw [population_addSocket state (Owner.isStack_of_task (by rw [lives]; rfl)), stay]
    | renewed held =>
        rw [population_addSocket _ rfl, stack_dropSockets, stay]
        intro owner leaves
        rw [of_decide_eq_true leaves]
        rfl
    | closed takes leaves =>
        rw [stack_dropSockets, stay]
        intro owner same
        rwa [of_decide_eq_true same]
    | @ended action task takes finite =>
        have dropped : (endTask state task).sockets.population Owner.isStack =
            state.sockets.population Owner.isStack := by
          apply stack_dropSockets
          intro owner lives
          rw [of_decide_eq_true lives]
          rfl
        rw [dropped, stay]

theorem liveSockets_of_reached {state : State build} {history : List Event}
    (reached : (executor build).Reached state history) :
    state.sockets.holders.length = state.liveSockets := by
  rw [countP_owners, State.liveSockets, ← stack_stays reached]
  rfl

/-! ## The set along a run -/

/-- No socket was added to a full set. -/
structure WithinBudget (state : State build) : Prop where
  live : state.sockets.holders.length ≤ build.STACK_SOCKETS
  added : state.panicked ≠ some .socketSetFull

theorem startup_within (build : Build) : WithinBudget (executor build).initial := by
  constructor
  · exact (executor build).initial.sockets.bounded
  · have keeps := @startDrivers_keeps build fun next => next.panicked ≠ some .socketSetFull
    apply keeps ?spawned build.drivers (by rintro ⟨⟩)
    exact fun task still => spawnDriver_socketSetFull still task

/-- There is a place for the socket that is opened. -/
def SocketRoom (state : State build) : Action → Prop
  | .opens _ => state.liveSockets < build.STACK_SOCKETS
  | _ => True

theorem socketRoom_of_takes {state : State build} {action : Action}
    (takes : action.takes = false) : SocketRoom state action := by
  cases action with
  | opens => cases takes
  | _ => trivial

/-- A server that comes round finds the place it has left. -/
theorem renewed_fits {state : State build} {id : Nat} (running : state.panicked = none)
    (held : .accept id ∈ state.sockets.holders) :
    (addSocket (dropSockets state fun owner => decide (owner = .accept id))
      (.accept id)).1.panicked ≠ some .socketSetFull := by
  have dropped : (dropSockets state fun owner => decide (owner = .accept id)).panicked = none :=
    running
  rcases SlotPool.take_release held
    (fun owner => decide (owner = .accept id)) (decide_eq_true rfl) (.accept id) with ⟨next, taken⟩
  rw [Ne, addSocket_socketSetFull dropped, ← SlotPool.take_eq_none]
  exact fun full => Option.some_ne_none next (taken.symm.trans full)

/-- A step fills the set exactly when it opens a socket there is no place for. -/
theorem withinBudget_iff {state next : State build} {action : Action}
    {history events : List Event} (reached : (executor build).Reached state history)
    (stepped : (executor build).step state action = some (next, events)) :
    WithinBudget next ↔ SocketRoom state action := by
  have added : WithinBudget next ↔ next.panicked ≠ some .socketSetFull :=
    ⟨WithinBudget.added, fun added => ⟨next.sockets.bounded, added⟩⟩
  rcases step_shape stepped with ⟨running, step⟩
  have live := liveSockets_of_reached reached
  rw [added]
  cases step with
  | idle takes pool sockets still =>
      exact iff_of_true (by simp [still]) (socketRoom_of_takes takes)
  | spawned asks prepared pool sockets still =>
      apply iff_of_true (spawnDriver_socketSetFull (by simp [still]) _)
      cases asks <;> trivial
  | browsing =>
      exact iff_of_true (startBrowsers_socketSetFull (by simp [running]) _) trivial
  | @opened owner may =>
      rw [Ne, addSocket_socketSetFull running owner, live, Nat.not_le, SocketRoom]
  | renewed held => exact iff_of_true (renewed_fits running held) trivial
  | closed takes =>
      exact iff_of_true (by simp [dropSockets, running]) (socketRoom_of_takes takes)
  | ended takes =>
      exact iff_of_true (by simp [endTask, dropSockets, running]) (socketRoom_of_takes takes)

/-- The socket set is not exceeded along a run exactly when each socket is opened
while those of the stack, the client, SNTP, servers, responders, browsers and
connections leave a place for it. -/
theorem budget_holds {actions : List Action} {state : State build} {history : List Event}
    (ran : (executor build).run actions = some (state, history)) :
    (executor build).AlwaysAlong (fun state _ => WithinBudget state) actions ↔
      (executor build).Meets SocketRoom actions := by
  apply Machine.always_iff_meets _ ?start ?exact ran
  case start => exact startup_within build
  case exact =>
    intro state history action next events reached _ stepped
    exact withinBudget_iff reached stepped

/-! ## What the count covers -/

/-- Every socket is open once, and in a task that runs. -/
structure Seated (owners : List Owner) (tasks : List Task) : Prop where
  once : owners.Nodup
  housed : ∀ owner ∈ owners, ∀ task, owner.task = some task → task ∈ tasks

theorem Seated.more {owners : List Owner} {tasks more : List Task}
    (seated : Seated owners tasks) (kept : tasks ⊆ more) : Seated owners more where
  once := seated.once
  housed owner member task lives := kept (seated.housed owner member task lives)

theorem Seated.snoc {owners : List Owner} {tasks : List Task} (seated : Seated owners tasks)
    {owner : Owner} (unheld : owner ∉ owners)
    (live : ∀ task, owner.task = some task → task ∈ tasks) :
    Seated (owners ++ [owner]) tasks where
  once := by
    rw [List.nodup_append_comm, List.singleton_append]
    exact List.nodup_cons.mpr ⟨unheld, seated.once⟩
  housed other member task lives := by
    rcases List.mem_append.mp member with earlier | added
    · exact seated.housed other earlier task lives
    · cases List.mem_singleton.mp added
      exact live task lives

theorem Seated.filter {owners : List Owner} {tasks : List Task} (seated : Seated owners tasks)
    (stays : Owner → Bool) : Seated (owners.filter stays) tasks where
  once := seated.once.filter stays
  housed owner member := seated.housed owner (List.mem_filter.mp member).1

/-- The sockets of one kind are no more than the tasks they live in. -/
theorem Seated.countP_le {owners : List Owner} {tasks : List Task}
    (seated : Seated owners tasks) {kind : Owner → Bool} {taskKind : Task → Bool}
    (lives : ∀ owner, kind owner = true →
      ∃ task, owner.task = some task ∧ taskKind task = true)
    (own : ∀ {first second}, kind first = true → kind second = true →
      first.task = second.task → first = second) :
    owners.countP kind ≤ tasks.countP taskKind := by
  apply countP_le_countP_of_map seated.once fun owner => owner.task.getD .tick
  · intro first second counted counted' same
    rcases lives first counted with ⟨task, lives₁, -⟩
    rcases lives second counted' with ⟨task', lives₂, -⟩
    rw [lives₁, lives₂] at same
    apply own counted counted'
    rw [lives₁, lives₂]
    exact congrArg some same
  · intro owner member counted
    rcases lives owner counted with ⟨task, lives, taskCounted⟩
    rw [lives]
    exact ⟨seated.housed owner member task lives, taskCounted⟩

/-- Of some owners there is one at most. -/
theorem Seated.countP_le_length {owners : List Owner} {tasks : List Task}
    (seated : Seated owners tasks) {kind : Owner → Bool} (few : List Owner)
    (only : ∀ owner, kind owner = true → owner ∈ few) : owners.countP kind ≤ few.length := by
  rw [List.countP_eq_length_filter]
  have inside : owners.filter kind ⊆ few := by
    intro owner member
    exact only owner (List.mem_filter.mp member).2
  exact ((seated.once.filter kind).subperm inside).length_le

/-- What may be open at once: the sockets of DHCP, DNS, the client and SNTP, two of
each server, and one of each browser and connection. -/
def State.demand (state : State build) : Nat :=
  4 + 2 * state.pool.population Task.isServer + state.pool.population Task.isBrowser +
    state.pool.population Task.isConnection

theorem Seated.length_le {owners : List Owner} {state : State build}
    (seated : Seated owners state.pool.holders) : owners.length ≤ state.demand := by
  have stack : owners.countP Owner.isStack ≤ 2 := by
    apply seated.countP_le_length [.dhcp, .dns]
    intro owner
    cases owner <;> simp [Owner.isStack]
  have client : owners.countP Owner.isClient ≤ 1 := by
    apply seated.countP_le_length [.client]
    intro owner
    cases owner <;> simp [Owner.isClient]
  have sntp : owners.countP Owner.isSntp ≤ 1 := by
    apply seated.countP_le_length [.sntp]
    intro owner
    cases owner <;> simp [Owner.isSntp]
  have accept : owners.countP Owner.isAccept ≤ state.pool.population Task.isServer := by
    apply seated.countP_le
    · intro owner
      cases owner <;> simp [Owner.isAccept, Owner.task, Task.isServer]
    · intro first second
      cases first <;> cases second <;> simp [Owner.isAccept, Owner.task]
  have responder : owners.countP Owner.isResponder ≤ state.pool.population Task.isServer := by
    apply seated.countP_le
    · intro owner
      cases owner <;> simp [Owner.isResponder, Owner.task, Task.isServer]
    · intro first second
      cases first <;> cases second <;> simp [Owner.isResponder, Owner.task]
  have browser : owners.countP Owner.isBrowser ≤ state.pool.population Task.isBrowser := by
    apply seated.countP_le
    · intro owner
      cases owner <;> simp [Owner.isBrowser, Owner.task, Task.isBrowser]
    · intro first second
      cases first <;> cases second <;> simp [Owner.isBrowser, Owner.task]
  have connection : owners.countP Owner.isConnection ≤
      state.pool.population Task.isConnection := by
    apply seated.countP_le
    · intro owner
      cases owner <;> simp [Owner.isConnection, Owner.task, Task.isConnection]
    · intro first second
      cases first <;> cases second <;> simp [Owner.isConnection, Owner.task]
  rw [countP_owners, State.demand]
  omega

theorem spawnDriver_subset (state : State build) (task : Task) :
    state.pool.holders ⊆ (spawnDriver state task).1.pool.holders := by
  rw [spawnDriver]
  cases taken : state.pool.take task with
  | none => exact List.Subset.refl _
  | some pool =>
      rw [(SlotPool.take_eq_some taken).2]
      exact List.subset_append_left _ _

theorem startBrowsers_subset (state : State build) (ids : List Nat) :
    state.pool.holders ⊆ (startBrowsers state ids).1.pool.holders := by
  have keeps := @startBrowsers_keeps build fun next => state.pool.holders ⊆ next.pool.holders
  apply keeps ?spawned ?marked ids (List.Subset.refl _)
  case spawned => exact fun id kept => List.Subset.trans kept (spawnDriver_subset _ _)
  case marked => exact fun _ _ kept => kept

theorem seated_addSocket {state : State build} {owner : Owner}
    (seated : Seated state.sockets.holders state.pool.holders)
    (unheld : owner ∉ state.sockets.holders)
    (live : ∀ task, owner.task = some task → task ∈ state.pool.holders) :
    Seated (addSocket state owner).1.sockets.holders (addSocket state owner).1.pool.holders := by
  rw [addSocket_pool, addSocket]
  cases taken : state.sockets.take owner with
  | none => exact seated
  | some sockets =>
      rw [(SlotPool.take_eq_some taken).2]
      exact seated.snoc unheld live

theorem mayOpen_live {state : State build} {owner : Owner} (may : state.mayOpen owner = true)
    (task : Task) (lives : owner.task = some task) : task ∈ state.pool.holders := by
  rcases (mayOpen_spec may).2 with ⟨task', lives', live⟩
  cases lives.symm.trans lives'
  exact live

theorem seated_of_reached {state : State build} {history : List Event}
    (reached : (executor build).Reached state history) :
    Seated state.sockets.holders state.pool.holders := by
  apply Machine.Reached.induction
    (fun state _ => Seated state.sockets.holders state.pool.holders) ?start ?preserved reached
  case start =>
    rw [startup_sockets]
    constructor
    · simp [State.empty]
    · intro owner member task lives
      rcases List.mem_pair.mp member with rfl | rfl <;> cases lives
  case preserved =>
    intro state history action next events _ seated stepped
    cases (step_shape stepped).2 with
    | idle takes pool sockets => rwa [pool, sockets]
    | @spawned action task asks prepared pool sockets =>
        rw [spawnDriver_sockets, sockets]
        apply seated.more
        rw [← pool]
        exact spawnDriver_subset prepared task
    | browsing =>
        rw [startBrowsers_sockets]
        exact seated.more (startBrowsers_subset _ _)
    | opened may => exact seated_addSocket seated (mayOpen_spec may).1 (mayOpen_live may)
    | @renewed id held =>
        apply seated_addSocket (seated.filter _)
        · simp [dropSockets, SlotPool.mem_release]
        · exact seated.housed _ held
    | closed => exact seated.filter _
    | @ended action task takes finite =>
        constructor
        · exact (seated.filter _).once
        · intro owner member other lives
          rcases SlotPool.mem_release.mp member with ⟨held, stays⟩
          apply SlotPool.mem_release.mpr
          refine ⟨seated.housed owner held other lives, ?_⟩
          rw [decide_eq_false_iff_not] at stays ⊢
          intro same
          subst same
          exact stays lives

theorem demand_of_full {state : State build} {history : List Event} {owner : Owner}
    (reached : (executor build).Reached state history) (may : state.mayOpen owner = true)
    (full : ¬ SocketRoom state (.opens owner)) : build.STACK_SOCKETS < state.demand := by
  have seated := (seated_of_reached reached).snoc (mayOpen_spec may).1 (mayOpen_live may)
  have most := seated.length_le
  rw [List.length_append, liveSockets_of_reached reached] at most
  exact Nat.lt_of_lt_of_le (Nat.lt_succ_of_le (Nat.le_of_not_lt full)) most

/-- Whatever coincides, the set is not exceeded while the servers, browsers and
connections leave it the room they may need. -/
theorem withinBudget_of_demand {state : State build} {history : List Event}
    (reached : (executor build).Reached state history)
    (covered : state.demand ≤ build.STACK_SOCKETS) : WithinBudget state := by
  have either : WithinBudget state ∨ build.STACK_SOCKETS < state.demand := by
    apply Machine.Reached.induction
      (fun state _ => WithinBudget state ∨ build.STACK_SOCKETS < state.demand)
      ?start ?preserved reached
    case start => exact .inl (startup_within build)
    case preserved =>
      intro state history action next events reached _ stepped
      by_cases room : SocketRoom state action
      · exact .inl ((withinBudget_iff reached stepped).mpr room)
      · cases (step_shape stepped).2 with
        | @opened owner may =>
            right
            rw [State.demand, addSocket_pool]
            exact demand_of_full reached may room
        | idle takes | closed takes | ended takes => exact absurd (socketRoom_of_takes takes) room
        | spawned asks => cases asks <;> exact absurd trivial room
        | browsing | renewed => exact absurd trivial room
  exact either.resolve_right (Nat.not_lt.mpr covered)

/-- A server with its name, and a connection. -/
def serving : List Action :=
  [.startServer true, .opens (.accept 0), .opens (.responder 0), .settles (.responder 0),
    .connect, .dial, .opens (.connection 1)]

theorem budget_holds_serving :
    ∃ state history,
      (executor fullBuild).run (serving ++ [.opens .client, .opens .sntp]) =
        some (state, history) ∧
      state.liveSockets = fullBuild.STACK_SOCKETS ∧
      ((executor fullBuild).AlwaysAlong (fun state _ => WithinBudget state)
          (serving ++ [.opens .client, .opens .sntp]) ↔
        (executor fullBuild).Meets SocketRoom (serving ++ [.opens .client, .opens .sntp])) := by
  have shown : ((executor fullBuild).run (serving ++ [.opens .client, .opens .sntp])).map
      (fun last => last.1.liveSockets) = some fullBuild.STACK_SOCKETS := by
    decide +kernel
  rcases Option.map_eq_some_iff.mp shown with ⟨⟨state, history⟩, ran, full⟩
  exact ⟨state, history, ran, full, budget_holds ran⟩

/-- With one browser more, a sync of the clock during an exchange of the client is the
eighth socket. -/
theorem browser_exceeds_budget :
    ∃ state history,
      (executor fullBuild).run (serving ++ [.spawnBrowser, .startPendingBrowsers,
        .opens (.browser 2), .settles (.browser 2), .opens .client, .opens .sntp]) =
        some (state, history) ∧
      state.panicked = some .socketSetFull ∧ ¬ WithinBudget state := by
  have shown : ((executor fullBuild).run (serving ++ [.spawnBrowser, .startPendingBrowsers,
      .opens (.browser 2), .settles (.browser 2), .opens .client, .opens .sntp])).map
      (fun last => last.1.panicked) = some (some .socketSetFull) := by
    decide +kernel
  rcases Option.map_eq_some_iff.mp shown with ⟨⟨state, history⟩, ran, panicked⟩
  exact ⟨state, history, ran, panicked, fun within => within.added panicked⟩

end BeetEsp.Esp32Utils.Executor
