import BeetEsp.Foundation.BoundedQueue
import BeetEsp.Foundation.Machine

/-! # The request/reply bridge

The pipes of `esp32_utils/async_bridge.rs` and a machine for `AsyncBridge` with
its callers and responders. The embassy `Channel` is a bounded FIFO and the
`Signal` of a call a cell for one value. Every `.await` is a point between two
steps, so callers and responders interleave in any order.
-/

namespace BeetEsp.Esp32Utils

open Foundation

/-- The `Arc<Signal>` of a call, by the order in which calls allocate it. -/
abbrev SignalId := Nat

abbrev TaskId := Nat

/-- One in-flight call: the input plus the signal its `Reply` answers on. -/
structure Exchange (In : Type) where
  input : In
  reply : SignalId

/-! ## Responders -/

inductive Responder
  /-- `run_worker`: one job at a time, in its own loop. -/
  | runWorker
  /-- The loop of `mdns_task`, with its resolver jobs in the loop itself. -/
  | mdnsTask
  /-- `drain_to_async`: every frame, each pending call gets a task of its own. -/
  | drainToAsync
  /-- `socket_driver`: each call gets a `drive_connection` task. -/
  | socketDriver
  deriving DecidableEq

/-- Whether the `Reply` moves into a new task. -/
def Responder.spawnsJobs : Responder → Bool
  | .runWorker | .mdnsTask => false
  | .drainToAsync | .socketDriver => true

inductive Task (In : Type)
  /-- `mdns_task` until its socket is bound. -/
  | starting
  /-- Waiting for the next call. -/
  | listening (responder : Responder)
  /-- In its loop, awaiting the answer to a call. -/
  | serving (responder : Responder) (exchange : Exchange In)
  /-- A task spawned for one call. -/
  | job (exchange : Exchange In)
  /-- Returned or dropped, with everything it held. -/
  | ended

namespace Task

variable {In : Type}

def start : Responder → Task In
  | .mdnsTask => starting
  | responder => listening responder

/-- The exchange whose `Reply` the task holds. -/
def held : Task In → Option (Exchange In)
  | serving _ exchange | job exchange => some exchange
  | _ => none

/-- A live task that takes calls from the queue, now or when it gets back to its
loop. -/
def responds : Task In → Bool
  | starting | listening _ | serving _ _ => true
  | job _ | ended => false

@[simp] theorem held_start (responder : Responder) :
    (start responder : Task In).held = none := by
  cases responder <;> rfl

/-- What the task does once it has answered. -/
def answered : Task In → Task In
  | serving responder _ => listening responder
  | _ => ended

@[simp] theorem held_answered (task : Task In) : task.answered.held = none := by
  cases task <;> rfl

/-- A responder that serves in its own loop goes back to it. -/
theorem responds_answered {task : Task In} {exchange : Exchange In}
    (held : task.held = some exchange) (responds : task.responds = true) :
    task.answered.responds = true := by
  cases task with
  | serving responder exchange => rfl
  | starting | listening | ended => cases held
  | job exchange => cases responds

def live : Task In → Bool
  | ended => false
  | _ => true

theorem of_append {tasks : List (Task In)} {added found : Task In} {index : TaskId}
    (lookup : (tasks ++ [added])[index]? = some found) :
    tasks[index]? = some found ∨ (index = tasks.length ∧ found = added) := by
  rcases Nat.lt_trichotomy index tasks.length with inside | rfl | outside
  · rw [List.getElem?_append_left inside] at lookup
    exact .inl lookup
  · rw [List.getElem?_append_right (Nat.le_refl _), Nat.sub_self] at lookup
    cases lookup
    exact .inr ⟨rfl, rfl⟩
  · rw [List.getElem?_eq_none (by simp; omega)] at lookup
    cases lookup

theorem of_set {tasks : List (Task In)} {replacement found : Task In}
    {task index : TaskId}
    (lookup : (tasks.set task replacement)[index]? = some found) :
    (index = task ∧ found = replacement) ∨
      (index ≠ task ∧ tasks[index]? = some found) := by
  rw [List.getElem?_set] at lookup
  split at lookup
  case isTrue same =>
    split at lookup
    · cases lookup
      exact .inl ⟨same.symm, rfl⟩
    · cases lookup
  case isFalse different => exact .inr ⟨Ne.symm different, lookup⟩

end Task

/-! ## The bridge -/

namespace AsyncBridge

structure State (In Out : Type) (N : Nat) where
  queue : BoundedQueue (Exchange In) N
  signals : List (Option Out)
  /-- The callers in `signal.wait().await`. -/
  awaiting : List SignalId
  tasks : List (Task In)

inductive Action (In Out : Type)
  /-- A responder task is spawned. -/
  | start (responder : Responder)
  /-- `mdns_task` has joined its group and bound its socket. -/
  | bind (task : TaskId)
  /-- `call` up to its await. -/
  | call (input : In)
  /-- The caller is polled with its signal set. -/
  | resume (id : SignalId)
  /-- The caller's future is dropped. -/
  | cancel (id : SignalId)
  /-- The responder takes the oldest call and splits it. -/
  | receive (task : TaskId)
  /-- The worker of a call is done and its `Reply` sent. -/
  | answer (task : TaskId) (out : Out)
  /-- The task returns early or is dropped. -/
  | finish (task : TaskId)

inductive Event (In Out : Type)
  | called (id : SignalId) (input : In)
  | accepted (id : SignalId) (input : In)
  /-- `call` returned `Err(input)`. -/
  | rejected (id : SignalId) (input : In)
  | received (task : TaskId) (id : SignalId) (input : In)
  | answered (task : TaskId) (id : SignalId) (out : Out)
  /-- `call` returned `Ok(out)`. -/
  | returned (id : SignalId) (out : Out)
  | cancelled (id : SignalId)

variable {In Out : Type} {N : Nat}

def step (state : State In Out N) :
    Action In Out → Option (State In Out N × List (Event In Out))
  | .start responder =>
      some ({ state with tasks := state.tasks ++ [.start responder] }, [])
  | .bind task =>
      match state.tasks[task]? with
      | some .starting =>
          some ({ state with tasks := state.tasks.set task (.listening .mdnsTask) }, [])
      | _ => none
  | .call input =>
      let id := state.signals.length
      let signals := state.signals ++ [none]
      match state.queue.trySend { input, reply := id } with
      | .ok queue =>
          some ({ state with queue, signals, awaiting := state.awaiting ++ [id] },
            [.called id input, .accepted id input])
      | .error exchange =>
          some ({ state with signals },
            [.called id input, .rejected id exchange.input])
  | .resume id =>
      match state.signals[id]? with
      | some (some out) =>
          if id ∈ state.awaiting then
            some ({ state with
              signals := state.signals.set id none
              awaiting := state.awaiting.filter (· ≠ id) }, [.returned id out])
          else
            none
      | _ => none
  | .cancel id =>
      if id ∈ state.awaiting then
        some ({ state with awaiting := state.awaiting.filter (· ≠ id) },
          [.cancelled id])
      else
        none
  | .receive task =>
      match state.tasks[task]?, state.queue.tryReceive with
      | some (.listening responder), some (exchange, queue) =>
          if responder.spawnsJobs then
            some ({ state with queue, tasks := state.tasks ++ [.job exchange] },
              [.received state.tasks.length exchange.reply exchange.input])
          else
            some ({ state with
              queue
              tasks := state.tasks.set task (.serving responder exchange) },
              [.received task exchange.reply exchange.input])
      | _, _ => none
  | .answer task out =>
      match state.tasks[task]? with
      | some holder =>
          holder.held.map fun exchange =>
            ({ state with
              signals := state.signals.set exchange.reply (some out)
              tasks := state.tasks.set task holder.answered },
              [.answered task exchange.reply out])
      | none => none
  | .finish task =>
      match state.tasks[task]? with
      | some running =>
          if running.live then
            some ({ state with tasks := state.tasks.set task .ended }, [])
          else
            none
      | none => none

end AsyncBridge

open AsyncBridge in
/-- `AsyncBridge::new()`, before any responder is spawned. -/
def asyncBridge (In Out : Type) (N : Nat) :
    Machine (State In Out N) (Action In Out) (Event In Out) where
  initial := { queue := .empty, signals := [], awaiting := [], tasks := [] }
  step := step

namespace AsyncBridge

/-- What a step can do. -/
inductive Step (state : State In Out N) :
    Action In Out → State In Out N → List (Event In Out) → Prop
  | started {responder} :
      Step state (.start responder)
        { state with tasks := state.tasks ++ [.start responder] } []
  | bound {task} (starting : state.tasks[task]? = some .starting) :
      Step state (.bind task)
        { state with tasks := state.tasks.set task (.listening .mdnsTask) } []
  | accepted {input queue} (room : state.queue.items.length < N)
      (sent : queue.items = state.queue.items ++ [⟨input, state.signals.length⟩]) :
      Step state (.call input)
        { state with
          queue
          signals := state.signals ++ [none]
          awaiting := state.awaiting ++ [state.signals.length] }
        [.called state.signals.length input, .accepted state.signals.length input]
  | rejected {input} (full : state.queue.items.length = N) :
      Step state (.call input) { state with signals := state.signals ++ [none] }
        [.called state.signals.length input, .rejected state.signals.length input]
  | returned {id out} (waits : id ∈ state.awaiting)
      (answer : state.signals[id]? = some (some out)) :
      Step state (.resume id)
        { state with
          signals := state.signals.set id none
          awaiting := state.awaiting.filter (· ≠ id) } [.returned id out]
  | cancelled {id} (waits : id ∈ state.awaiting) :
      Step state (.cancel id)
        { state with awaiting := state.awaiting.filter (· ≠ id) } [.cancelled id]
  | spawned {task responder exchange queue}
      (listens : state.tasks[task]? = some (.listening responder))
      (taken : state.queue.items = exchange :: queue.items) :
      Step state (.receive task)
        { state with queue, tasks := state.tasks ++ [.job exchange] }
        [.received state.tasks.length exchange.reply exchange.input]
  | served {task responder exchange queue}
      (listens : state.tasks[task]? = some (.listening responder))
      (taken : state.queue.items = exchange :: queue.items) :
      Step state (.receive task)
        { state with
          queue
          tasks := state.tasks.set task (.serving responder exchange) }
        [.received task exchange.reply exchange.input]
  | answered {task holder exchange out} (holds : state.tasks[task]? = some holder)
      (held : holder.held = some exchange) :
      Step state (.answer task out)
        { state with
          signals := state.signals.set exchange.reply (some out)
          tasks := state.tasks.set task holder.answered }
        [.answered task exchange.reply out]
  | finished {task running} (runs : state.tasks[task]? = some running)
      (live : running.live = true) :
      Step state (.finish task)
        { state with tasks := state.tasks.set task .ended } []

theorem step_shape {state next : State In Out N} {action : Action In Out}
    {events : List (Event In Out)}
    (stepped : (asyncBridge In Out N).step state action = some (next, events)) :
    Step state action next events := by
  change AsyncBridge.step state action = some (next, events) at stepped
  cases action with
  | start responder =>
      cases stepped
      exact .started
  | bind task =>
      simp only [AsyncBridge.step] at stepped
      split at stepped
      case h_1 starting =>
        cases stepped
        exact .bound starting
      case h_2 => cases stepped
  | call input =>
      simp only [AsyncBridge.step] at stepped
      split at stepped
      case h_1 queue sent =>
        cases stepped
        have spec := BoundedQueue.trySend_eq_ok sent
        exact .accepted spec.1 spec.2
      case h_2 exchange rejected =>
        cases stepped
        rcases BoundedQueue.trySend_eq_error rejected with ⟨full, rfl⟩
        exact .rejected full
  | resume id =>
      simp only [AsyncBridge.step] at stepped
      split at stepped
      case h_1 out answer =>
        split at stepped
        case isTrue waits =>
          cases stepped
          exact .returned waits answer
        case isFalse => cases stepped
      case h_2 => cases stepped
  | cancel id =>
      simp only [AsyncBridge.step] at stepped
      split at stepped
      case isTrue waits =>
        cases stepped
        exact .cancelled waits
      case isFalse => cases stepped
  | receive task =>
      simp only [AsyncBridge.step] at stepped
      split at stepped
      case h_1 responder exchange queue listens received =>
        have taken := BoundedQueue.tryReceive_eq_some received
        split at stepped
        case isTrue =>
          cases stepped
          exact .spawned listens taken
        case isFalse =>
          cases stepped
          exact .served listens taken
      case h_2 => cases stepped
  | answer task out =>
      simp only [AsyncBridge.step] at stepped
      split at stepped
      case h_1 holder holds =>
        rw [Option.map_eq_some_iff] at stepped
        rcases stepped with ⟨exchange, held, equal⟩
        cases equal
        exact .answered holds held
      case h_2 => cases stepped
  | finish task =>
      simp only [AsyncBridge.step] at stepped
      split at stepped
      case h_1 running runs =>
        split at stepped
        case isTrue live =>
          cases stepped
          exact .finished runs live
        case isFalse => cases stepped
      case h_2 => cases stepped

end AsyncBridge

end BeetEsp.Esp32Utils
