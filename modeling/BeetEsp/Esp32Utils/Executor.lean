import BeetEsp.Foundation.BoundedQueue
import BeetEsp.Foundation.Machine
import BeetEsp.Foundation.SlotPool

/-! # The tasks of the executor and their sockets

`spawn_driver` puts every async driver into a slot of `run_boxed`, the long-lived
ones of the plugins and of the app at startup and one for each sleep, connection, server
and browser; and tasks of the network open sockets in the set of their stack. Neither
waits for room: a spawn without a slot and a socket without a place panic.
-/

namespace BeetEsp.Esp32Utils

open Foundation

namespace Executor

/-- The plugins that spawn drivers, the `sockets` feature, and the app. -/
structure Build where
  alvik : Bool
  wifi : Bool
  clock : Bool
  sockets : Bool
  /-- The drivers that systems of the app spawn at startup, as `ping` of the kitchen sink
  and `spawn_bridge` of `flash-firmware` do. -/
  app : Nat

/-- The `pool_size` of `run_boxed`. -/
def POOL_SIZE : Nat := 16

/-- Of the stack of `start_wifi`. -/
def Build.STACK_SOCKETS (build : Build) : Nat :=
  if build.sockets then 7 else 6

/-- What `spawn_driver` is given. -/
inductive Task
  | tick
  | sleepDriver
  | alvikDriver
  | connectionLoop
  | netLoop
  | clientDriver
  | socketDriver
  | clockLoop
  /-- The loop of `ping`, or `bridge.run`. -/
  | app (id : Nat)
  /-- The timer of one sleep. -/
  | sleep (id : Nat)
  /-- `drive_connection` -/
  | connection (id : Nat)
  /-- The accept loop of an `HttpServer`, joined with its `mdns_task`. -/
  | server (id : Nat)
  /-- `browser_task` -/
  | browser (id : Nat)
deriving DecidableEq

namespace Task

def isDriver : Task → Bool
  | sleep _ | connection _ | server _ | browser _ => false
  | _ => true

def isSleep : Task → Bool
  | sleep _ => true
  | _ => false

def isConnection : Task → Bool
  | connection _ => true
  | _ => false

def isServer : Task → Bool
  | server _ => true
  | _ => false

def isBrowser : Task → Bool
  | browser _ => true
  | _ => false

end Task

/-- What is spawned up to `PostStartup`; `start_wifi` publishes the stack that
`spawn_clock` needs. -/
def Build.drivers (build : Build) : List Task :=
  [.tick, .sleepDriver] ++
    (if build.wifi then
      [.connectionLoop, .netLoop, .clientDriver] ++
        (if build.sockets then [.socketDriver] else []) ++
        (if build.clock then [.clockLoop] else [])
    else []) ++
    (if build.alvik then [.alvikDriver] else []) ++
    (List.range build.app).map .app

/-- Who has a socket in the set of the stack. -/
inductive Owner
  | dhcp
  | dns
  /-- `exchange_on` -/
  | client
  /-- `sync_once` -/
  | sntp
  /-- `server_loop` -/
  | accept (id : Nat)
  /-- `mdns_task` -/
  | responder (id : Nat)
  | browser (id : Nat)
  | connection (id : Nat)
deriving DecidableEq

namespace Owner

/-- The task whose frame the socket lives in. -/
def task : Owner → Option Task
  | dhcp | dns => none
  | client => some .clientDriver
  | sntp => some .clockLoop
  | accept id | responder id => some (.server id)
  | browser id => some (.browser id)
  | connection id => some (.connection id)

/-- A multicast socket, which its task binds before its loop. -/
def isMulticast : Owner → Bool
  | responder _ | browser _ => true
  | _ => false

end Owner

inductive Panic
  /-- `"driver task pool exhausted"` -/
  | poolExhausted
  /-- `"adding a socket to a full SocketSet"` -/
  | socketSetFull
deriving DecidableEq

structure State (build : Build) where
  pool : SlotPool Task POOL_SIZE
  sockets : SlotPool Owner build.STACK_SOCKETS
  /-- `SLEEP_QUEUE` -/
  sleepQueue : BoundedQueue Nat 8
  /-- The queue of `CONNECT_BRIDGE`. -/
  connectQueue : BoundedQueue Nat 2
  /-- The `MdnsBrowser` entities without `BrowserStarted`. -/
  pending : List Nat
  /-- The multicast tasks that have not come to their loop. -/
  settingUp : List Owner
  /-- The number of sleeps, connects, servers and browsers so far. -/
  serial : Nat
  panicked : Option Panic

inductive Action
  /-- `time_ext::sleep` -/
  | sleep
  /-- `sleep_driver` takes a sleep. -/
  | drainSleep
  /-- `Socket::connect` -/
  | connect
  /-- `socket_driver` takes a job. -/
  | dial
  /-- `start_esp_server` finds the stack. -/
  | startServer (mdns : Bool)
  | spawnBrowser
  | despawnBrowser (id : Nat)
  | startPendingBrowsers
  /-- A task opens its socket. -/
  | opens (owner : Owner)
  /-- `server_loop` comes round: it drops its socket and opens the next. -/
  | renews (id : Nat)
  /-- An exchange or a sync is over. -/
  | closes (owner : Owner)
  /-- A multicast task comes to its loop. -/
  | settles (owner : Owner)
  /-- A multicast task returns before its loop. -/
  | fails (owner : Owner)
  /-- The timer fires, the connection ends or the server is stopped. -/
  | returns (task : Task)

inductive Event
  | resolvedImmediately (id : Nat)
  | connectRefused (id : Nat)
  | spawned (task : Task)
  | opened (owner : Owner)
  | panicked (panic : Panic)

variable {build : Build}

def spawnDriver (state : State build) (task : Task) : State build × List Event :=
  match state.pool.take task with
  | some pool => ({ state with pool }, [.spawned task])
  | none => ({ state with panicked := some .poolExhausted }, [.panicked .poolExhausted])

/-- The drivers are spawned one after the other. -/
def startDrivers (state : State build) : List Task → State build
  | [] => state
  | task :: rest =>
      let (next, _) := spawnDriver state task
      match next.panicked with
      | some _ => next
      | none => startDrivers next rest

/-- `TcpSocket::new` and `UdpSocket::new` -/
def addSocket (state : State build) (owner : Owner) : State build × List Event :=
  match state.sockets.take owner with
  | some sockets => ({ state with sockets }, [.opened owner])
  | none => ({ state with panicked := some .socketSetFull }, [.panicked .socketSetFull])

def dropSockets (state : State build) (gone : Owner → Bool) : State build :=
  { state with
    sockets := state.sockets.release gone
    settingUp := state.settingUp.filter fun owner => !gone owner }

/-- A task is over: its slot is free, and what it owned is dropped. -/
def endTask (state : State build) (task : Task) : State build :=
  { dropSockets state (fun owner => decide (owner.task = some task)) with
    pool := state.pool.release fun other => decide (other = task) }

/-- The loop of `start_pending_browsers`. -/
def startBrowsers (state : State build) : List Nat → State build × List Event
  | [] => (state, [])
  | id :: rest =>
      let (next, events) := spawnDriver state (.browser id)
      match next.panicked with
      | some _ => (next, events)
      | none =>
          let started := { next with
            pending := next.pending.erase id
            settingUp := next.settingUp ++ [.browser id] }
          let (last, more) := startBrowsers started rest
          (last, events ++ more)

/-- A task opens a socket of its own once; what settles opens it before its loop. -/
def State.mayOpen (state : State build) (owner : Owner) : Bool :=
  decide (owner ∉ state.sockets.holders) &&
    (match owner.task with
    | some task => decide (task ∈ state.pool.holders)
    | none => false) &&
    (!owner.isMulticast || decide (owner ∈ state.settingUp))

def act (state : State build) (action : Action) : Option (State build × List Event) :=
  let id := state.serial
  match action with
  | .sleep =>
      match state.sleepQueue.trySend id with
      | .ok sleepQueue => some ({ state with sleepQueue, serial := id + 1 }, [])
      | .error _ => some ({ state with serial := id + 1 }, [.resolvedImmediately id])
  | .drainSleep =>
      state.sleepQueue.tryReceive.map fun (id, sleepQueue) =>
        spawnDriver { state with sleepQueue } (.sleep id)
  | .connect =>
      if build.wifi && build.sockets then
        match state.connectQueue.trySend id with
        | .ok connectQueue => some ({ state with connectQueue, serial := id + 1 }, [])
        | .error _ => some ({ state with serial := id + 1 }, [.connectRefused id])
      else none
  | .dial =>
      state.connectQueue.tryReceive.map fun (id, connectQueue) =>
        spawnDriver { state with connectQueue } (.connection id)
  | .startServer mdns =>
      if build.wifi then
        let settingUp := if mdns then state.settingUp ++ [.responder id] else state.settingUp
        some (spawnDriver { state with settingUp, serial := id + 1 } (.server id))
      else none
  | .spawnBrowser =>
      some ({ state with pending := state.pending ++ [id], serial := id + 1 }, [])
  -- `BrowserStarted` or not, a task that runs goes on.
  | .despawnBrowser id => some ({ state with pending := state.pending.erase id }, [])
  | .startPendingBrowsers =>
      if build.wifi then some (startBrowsers state state.pending) else none
  | .opens owner => if state.mayOpen owner then some (addSocket state owner) else none
  | .renews id =>
      if .accept id ∈ state.sockets.holders then
        some (addSocket (dropSockets state fun owner => decide (owner = .accept id)) (.accept id))
      else none
  | .closes owner =>
      match owner with
      | .client | .sntp => some (dropSockets state fun other => decide (other = owner), [])
      | _ => none
  | .settles owner =>
      if owner ∈ state.settingUp ∧ owner ∈ state.sockets.holders then
        some ({ state with settingUp := state.settingUp.erase owner }, [])
      else none
  | .fails owner =>
      if owner ∈ state.settingUp then
        match owner with
        | .browser id => some (endTask state (.browser id), [])
        | .responder _ => some (dropSockets state fun other => decide (other = owner), [])
        | _ => none
      else none
  | .returns task =>
      if task ∈ state.pool.holders then
        match task with
        | .sleep _ | .connection _ | .server _ => some (endTask state task, [])
        | _ => none
      else none

/-- A panic halts the executor. -/
def step (state : State build) (action : Action) : Option (State build × List Event) :=
  if state.panicked.isSome then none else act state action

theorem stack_fits (build : Build) : [Owner.dhcp, Owner.dns].length ≤ build.STACK_SOCKETS := by
  rw [Build.STACK_SOCKETS]
  split <;> decide

/-- Nothing has been spawned. DHCP and DNS hold a socket each for the stack's life. -/
def State.empty (build : Build) : State build where
  pool := ⟨[], Nat.zero_le _⟩
  sockets := ⟨[.dhcp, .dns], stack_fits build⟩
  sleepQueue := .empty
  connectQueue := .empty
  pending := []
  settingUp := []
  serial := 0
  panicked := none

end Executor

open Executor in
/-- The executor from the end of startup on. -/
def executor (build : Build) : Machine (Executor.State build) Executor.Action Executor.Event where
  initial := startDrivers (.empty build) build.drivers
  step := step

namespace Executor

variable {build : Build}

/-- What every spawn keeps, startup keeps. -/
theorem startDrivers_keeps {Invariant : State build → Prop}
    (spawned : ∀ {state} task, Invariant state → Invariant (spawnDriver state task).1)
    (tasks : List Task) {state : State build} (holds : Invariant state) :
    Invariant (startDrivers state tasks) := by
  induction tasks generalizing state with
  | nil => exact holds
  | cons task rest induction =>
      have next := spawned task holds
      simp only [startDrivers]
      split
      case h_1 => exact next
      case h_2 => exact induction next

/-- What the spawn of a browser keeps, and its bookkeeping, the whole loop keeps. -/
theorem startBrowsers_keeps {Invariant : State build → Prop}
    (spawned : ∀ {state} id, Invariant state → Invariant (spawnDriver state (.browser id)).1)
    (marked : ∀ {state} pending settingUp, Invariant state →
      Invariant { state with pending, settingUp })
    (ids : List Nat) {state : State build} (holds : Invariant state) :
    Invariant (startBrowsers state ids).1 := by
  induction ids generalizing state with
  | nil => exact holds
  | cons id rest induction =>
      have next := spawned id holds
      simp only [startBrowsers]
      split
      case h_1 => exact next
      case h_2 => exact induction (marked _ _ next)

/-- The requests that get a task of their own. -/
inductive Spawns : Action → Task → Prop
  | sleep {id} : Spawns .drainSleep (.sleep id)
  | connection {id} : Spawns .dial (.connection id)
  | server {mdns id} : Spawns (.startServer mdns) (.server id)

/-- Whether it takes a slot or a socket. -/
def Action.takes : Action → Bool
  | .drainSleep | .dial | .startServer _ | .startPendingBrowsers | .opens _ | .renews _ => true
  | _ => false

/-- What a step can do to the pool and the sockets. -/
inductive Step (state : State build) : Action → State build → Prop
  /-- Queues and entities only. -/
  | idle {action next} (takes : action.takes = false) (pool : next.pool = state.pool)
      (sockets : next.sockets = state.sockets) (running : next.panicked = none) :
      Step state action next
  | spawned {action task} (asks : Spawns action task) (prepared : State build)
      (pool : prepared.pool = state.pool) (sockets : prepared.sockets = state.sockets)
      (running : prepared.panicked = none) : Step state action (spawnDriver prepared task).1
  | browsing : Step state .startPendingBrowsers (startBrowsers state state.pending).1
  | opened {owner} (may : state.mayOpen owner = true) :
      Step state (.opens owner) (addSocket state owner).1
  | renewed {id} (held : .accept id ∈ state.sockets.holders) :
      Step state (.renews id)
        (addSocket (dropSockets state fun owner => decide (owner = .accept id)) (.accept id)).1
  | closed {action owner} (takes : action.takes = false) (leaves : owner.task.isSome = true) :
      Step state action (dropSockets state fun other => decide (other = owner))
  | ended {action task} (takes : action.takes = false) (finite : task.isDriver = false) :
      Step state action (endTask state task)

theorem drainSleep_shape {state next : State build} {events : List Event}
    (running : state.panicked = none)
    (acted : act state .drainSleep = some (next, events)) :
    Step state .drainSleep next := by
  rcases Option.map_eq_some_iff.mp acted with ⟨⟨id, sleepQueue⟩, received, same⟩
  have spawns : spawnDriver { state with sleepQueue } (.sleep id) = (next, events) := same
  have shape : Step state .drainSleep (spawnDriver { state with sleepQueue } (.sleep id)).1 :=
    .spawned .sleep _ rfl rfl running
  rwa [spawns] at shape

theorem dial_shape {state next : State build} {events : List Event}
    (running : state.panicked = none)
    (acted : act state .dial = some (next, events)) :
    Step state .dial next := by
  rcases Option.map_eq_some_iff.mp acted with ⟨⟨id, connectQueue⟩, received, same⟩
  have spawns : spawnDriver { state with connectQueue } (.connection id) = (next, events) :=
    same
  have shape : Step state .dial
      (spawnDriver { state with connectQueue } (.connection id)).1 :=
    .spawned .connection _ rfl rfl running
  rwa [spawns] at shape

theorem startServer_shape {state next : State build} {events : List Event} {mdns : Bool}
    (running : state.panicked = none)
    (acted : act state (.startServer mdns) = some (next, events)) :
    Step state (.startServer mdns) next := by
  simp only [act] at acted
  split at acted
  case isTrue =>
    have shape : Step state (.startServer mdns) (spawnDriver { state with
        settingUp := if mdns then state.settingUp ++ [.responder state.serial]
          else state.settingUp
        serial := state.serial + 1 } (.server state.serial)).1 :=
      .spawned .server _ rfl rfl running
    rwa [Option.some.inj acted] at shape
  case isFalse => cases acted

theorem fails_shape {state next : State build} {events : List Event} {owner : Owner}
    (acted : act state (.fails owner) = some (next, events)) :
    Step state (.fails owner) next := by
  simp only [act] at acted
  split at acted
  case isTrue =>
    split at acted
    case h_1 =>
      cases acted
      exact .ended rfl rfl
    case h_2 =>
      cases acted
      exact .closed rfl rfl
    case h_3 => cases acted
  case isFalse => cases acted

theorem returns_shape {state next : State build} {events : List Event} {task : Task}
    (acted : act state (.returns task) = some (next, events)) :
    Step state (.returns task) next := by
  simp only [act] at acted
  split at acted
  case isTrue =>
    split at acted
    case h_1 | h_2 | h_3 =>
      cases acted
      exact .ended rfl rfl
    case h_4 => cases acted
  case isFalse => cases acted

theorem act_shape {state next : State build} {action : Action} {events : List Event}
    (running : state.panicked = none) (acted : act state action = some (next, events)) :
    Step state action next := by
  cases action with
  | sleep =>
      simp only [act] at acted
      split at acted <;> cases acted <;> exact .idle rfl rfl rfl running
  | drainSleep => exact drainSleep_shape running acted
  | connect =>
      simp only [act] at acted
      split at acted
      case isTrue =>
        split at acted <;> cases acted <;> exact .idle rfl rfl rfl running
      case isFalse => cases acted
  | dial => exact dial_shape running acted
  | startServer mdns => exact startServer_shape running acted
  | spawnBrowser =>
      cases acted
      exact .idle rfl rfl rfl running
  | despawnBrowser id =>
      cases acted
      exact .idle rfl rfl rfl running
  | startPendingBrowsers =>
      simp only [act] at acted
      split at acted
      case isTrue =>
        have shape : Step state .startPendingBrowsers (startBrowsers state state.pending).1 :=
          .browsing
        rwa [Option.some.inj acted] at shape
      case isFalse => cases acted
  | opens owner =>
      simp only [act] at acted
      split at acted
      case isTrue may =>
        have shape : Step state (.opens owner) (addSocket state owner).1 := .opened may
        rwa [Option.some.inj acted] at shape
      case isFalse => cases acted
  | renews id =>
      simp only [act] at acted
      split at acted
      case isTrue held =>
        have shape : Step state (.renews id) _ := .renewed held
        rwa [Option.some.inj acted] at shape
      case isFalse => cases acted
  | closes owner =>
      simp only [act] at acted
      split at acted
      case h_1 | h_2 =>
        cases acted
        exact .closed rfl rfl
      case h_3 => cases acted
  | settles owner =>
      simp only [act] at acted
      split at acted
      case isTrue =>
        cases acted
        exact .idle rfl rfl rfl running
      case isFalse => cases acted
  | fails owner => exact fails_shape acted
  | returns task => exact returns_shape acted

/-- Until a step panics, the executor runs. -/
theorem step_shape {state next : State build} {action : Action} {events : List Event}
    (stepped : (executor build).step state action = some (next, events)) :
    state.panicked = none ∧ Step state action next := by
  change step state action = some (next, events) at stepped
  rw [step] at stepped
  split at stepped
  case isTrue => cases stepped
  case isFalse unhalted =>
    have running : state.panicked = none := by
      rwa [Option.not_isSome_iff_eq_none] at unhalted
    exact ⟨running, act_shape running stepped⟩

end Executor

end BeetEsp.Esp32Utils
