import BeetEsp.Esp32Utils.AsyncBridge
import Mathlib.Data.List.Nodup

/-! # Replies are matched to their own calls

Each call owns one signal. The history of a run shows every reply on its way:
called, accepted, received, answered, returned.
-/

namespace BeetEsp.Esp32Utils.AsyncBridge

open Foundation

variable {In Out : Type} {N : Nat}

/-! ## Histories -/

def Event.calledOf : Event In Out → Option SignalId
  | called id _ => some id
  | _ => none

def Event.acceptedOf : Event In Out → Option (SignalId × In)
  | accepted id input => some (id, input)
  | _ => none

def Event.receivedOf : Event In Out → Option (TaskId × SignalId × In)
  | received task id input => some (task, id, input)
  | _ => none

def Event.answeredOf : Event In Out → Option SignalId
  | answered _ id _ => some id
  | _ => none

def Event.returnedOf : Event In Out → Option SignalId
  | returned id _ => some id
  | _ => none

def calledIds (history : List (Event In Out)) : List SignalId :=
  history.filterMap Event.calledOf

/-- The accepted calls with their inputs, in order. -/
def acceptedCalls (history : List (Event In Out)) : List (SignalId × In) :=
  history.filterMap Event.acceptedOf

/-- The calls responders received, in order, with the task that took each. -/
def receipts (history : List (Event In Out)) : List (TaskId × SignalId × In) :=
  history.filterMap Event.receivedOf

def answeredIds (history : List (Event In Out)) : List SignalId :=
  history.filterMap Event.answeredOf

def returnedIds (history : List (Event In Out)) : List SignalId :=
  history.filterMap Event.returnedOf

/-- The queued calls, oldest first. -/
def queuedCalls (queue : BoundedQueue (Exchange In) N) : List (SignalId × In) :=
  queue.items.map fun exchange => (exchange.reply, exchange.input)

theorem calledIds_append (front back : List (Event In Out)) :
    calledIds (front ++ back) = calledIds front ++ calledIds back :=
  List.filterMap_append

theorem acceptedCalls_append (front back : List (Event In Out)) :
    acceptedCalls (front ++ back) = acceptedCalls front ++ acceptedCalls back :=
  List.filterMap_append

theorem receipts_append (front back : List (Event In Out)) :
    receipts (front ++ back) = receipts front ++ receipts back :=
  List.filterMap_append

theorem answeredIds_append (front back : List (Event In Out)) :
    answeredIds (front ++ back) = answeredIds front ++ answeredIds back :=
  List.filterMap_append

theorem returnedIds_append (front back : List (Event In Out)) :
    returnedIds (front ++ back) = returnedIds front ++ returnedIds back :=
  List.filterMap_append

theorem mem_receipts {history : List (Event In Out)} {task : TaskId} {id : SignalId}
    {input : In} :
    (task, id, input) ∈ receipts history ↔ .received task id input ∈ history := by
  rw [receipts, List.mem_filterMap]
  constructor
  · intro holds
    rcases holds with ⟨event, member, equal⟩
    cases event <;> cases equal
    exact member
  · exact fun member => ⟨_, member, rfl⟩

/-! ## The way of a call

What a history has to show of a call, in this order, once it got this far. -/

def acceptedPath (id : SignalId) (input : In) : List (Event In Out) :=
  [.called id input, .accepted id input]

def receivedPath (id : SignalId) (input : In) (task : TaskId) : List (Event In Out) :=
  acceptedPath id input ++ [.received task id input]

def answeredPath (id : SignalId) (input : In) (task : TaskId) (out : Out) :
    List (Event In Out) :=
  receivedPath id input task ++ [.answered task id out]

def returnedPath (id : SignalId) (input : In) (task : TaskId) (out : Out) :
    List (Event In Out) :=
  answeredPath id input task out ++ [.returned id out]

theorem sublist_later {path history : List (Event In Out)}
    (shown : path.Sublist history) (events : List (Event In Out)) :
    path.Sublist (history ++ events) :=
  shown.trans (List.sublist_append_left history events)

/-! ## From the callers to the responders -/

structure Flow (queue : BoundedQueue (Exchange In) N) (allocated : Nat)
    (history : List (Event In Out)) : Prop where
  called : calledIds history = List.range allocated
  queued : acceptedCalls history =
    (receipts history).map Prod.snd ++ queuedCalls queue
  accepted : ∀ id input, (id, input) ∈ acceptedCalls history →
    id < allocated ∧ (acceptedPath id input).Sublist history
  distinct : ((acceptedCalls history).map Prod.fst).Nodup
  rejected : ∀ id input, .rejected id input ∈ history →
    id < allocated ∧ ∀ other, (id, other) ∉ acceptedCalls history

theorem Flow.accept {queue next : BoundedQueue (Exchange In) N} {allocated : Nat}
    {history : List (Event In Out)} {input : In} (flow : Flow queue allocated history)
    (sent : next.items = queue.items ++ [⟨input, allocated⟩]) :
    Flow next (allocated + 1)
      (history ++ [.called allocated input, .accepted allocated input]) := by
  have calls : acceptedCalls (history ++ [.called allocated input,
      .accepted allocated input]) = acceptedCalls history ++ [(allocated, input)] :=
    acceptedCalls_append _ _
  have received : receipts (history ++ [.called allocated input,
      .accepted allocated input]) = receipts history := by
    rw [receipts_append]
    exact List.append_nil _
  constructor
  · rw [calledIds_append, flow.called, List.range_succ]
    rfl
  · rw [calls, received, flow.queued, queuedCalls, queuedCalls, sent, List.map_append,
      List.append_assoc]
    rfl
  · intro id other member
    rw [calls, List.mem_append, List.mem_singleton] at member
    rcases member with earlier | fresh
    · have shown := flow.accepted id other earlier
      exact ⟨Nat.lt_succ_of_lt shown.1, sublist_later shown.2 _⟩
    · cases fresh
      exact ⟨Nat.lt_succ_self _, List.sublist_append_right _ _⟩
  · rw [calls, List.map_append, List.map_singleton, ← List.concat_eq_append]
    apply flow.distinct.concat
    intro earlier
    rcases List.mem_map.mp earlier with ⟨call, member, same⟩
    have bound := (flow.accepted call.1 call.2 member).1
    rw [same] at bound
    exact Nat.lt_irrefl _ bound
  · intro id other member
    have earlier : .rejected id other ∈ history := by simpa using member
    have old := flow.rejected id other earlier
    refine ⟨Nat.lt_succ_of_lt old.1, ?_⟩
    intro input' accepted
    rw [calls, List.mem_append, List.mem_singleton] at accepted
    rcases accepted with before | fresh
    · exact old.2 input' before
    · cases fresh
      exact Nat.lt_irrefl _ old.1

theorem Flow.reject {queue : BoundedQueue (Exchange In) N} {allocated : Nat}
    {history : List (Event In Out)} {input : In} (flow : Flow queue allocated history) :
    Flow queue (allocated + 1)
      (history ++ [.called allocated input, .rejected allocated input]) := by
  have calls : acceptedCalls (history ++ [.called allocated input,
      .rejected allocated input]) = acceptedCalls history := by
    rw [acceptedCalls_append]
    exact List.append_nil _
  have received : receipts (history ++ [.called allocated input,
      .rejected allocated input]) = receipts history := by
    rw [receipts_append]
    exact List.append_nil _
  constructor
  · rw [calledIds_append, flow.called, List.range_succ]
    rfl
  · rw [calls, received, flow.queued]
  · intro id other member
    rw [calls] at member
    have shown := flow.accepted id other member
    exact ⟨Nat.lt_succ_of_lt shown.1, sublist_later shown.2 _⟩
  · rw [calls]
    exact flow.distinct
  · intro id other member
    rw [calls]
    have cases : .rejected id other ∈ history ∨ id = allocated := by
      simp only [List.mem_append, List.mem_cons, reduceCtorEq, Event.rejected.injEq,
        List.not_mem_nil, or_false, false_or] at member
      exact member.imp_right And.left
    rcases cases with earlier | rfl
    · have old := flow.rejected id other earlier
      exact ⟨Nat.lt_succ_of_lt old.1, old.2⟩
    · refine ⟨Nat.lt_succ_self _, ?_⟩
      intro input' accepted
      exact Nat.lt_irrefl _ (flow.accepted id input' accepted).1

theorem Flow.receive {queue next : BoundedQueue (Exchange In) N} {allocated : Nat}
    {history : List (Event In Out)} {exchange : Exchange In} {task : TaskId}
    (flow : Flow queue allocated history)
    (taken : queue.items = exchange :: next.items) :
    Flow next allocated
      (history ++ [.received task exchange.reply exchange.input]) := by
  have calls : acceptedCalls (history ++ [.received task exchange.reply
      exchange.input]) = acceptedCalls history := by
    rw [acceptedCalls_append]
    exact List.append_nil _
  constructor
  · rw [calledIds_append, flow.called]
    exact List.append_nil _
  · rw [calls, receipts_append, flow.queued, queuedCalls, taken, List.map_append,
      List.append_assoc]
    rfl
  · intro id input member
    rw [calls] at member
    have shown := flow.accepted id input member
    exact ⟨shown.1, sublist_later shown.2 _⟩
  · rw [calls]
    exact flow.distinct
  · intro id input member
    rw [calls]
    exact flow.rejected id input (by simpa using member)

/-- Events behind the responders. -/
theorem Flow.answer {queue : BoundedQueue (Exchange In) N} {allocated : Nat}
    {history : List (Event In Out)} (flow : Flow queue allocated history)
    {event : Event In Out} (called : event.calledOf = none)
    (accepted : event.acceptedOf = none) (received : event.receivedOf = none)
    (rejected : ∀ id input, event ≠ .rejected id input) :
    Flow queue allocated (history ++ [event]) := by
  have calls : acceptedCalls (history ++ [event]) = acceptedCalls history := by
    simp [acceptedCalls, accepted]
  constructor
  · simp [calledIds, called, ← flow.called]
  · rw [calls, receipts_append, flow.queued]
    simp [receipts, received]
  · intro id input member
    rw [calls] at member
    have shown := flow.accepted id input member
    exact ⟨shown.1, sublist_later shown.2 _⟩
  · rw [calls]
    exact flow.distinct
  · intro id input member
    rw [calls]
    rcases List.mem_append.mp member with earlier | fresh
    · exact flow.rejected id input earlier
    · exact absurd (List.mem_singleton.mp fresh).symm (rejected id input)

theorem Flow.step {state next : State In Out N} {action : Action In Out}
    {history events : List (Event In Out)}
    (flow : Flow state.queue state.signals.length history)
    (shape : Step state action next events) :
    Flow next.queue next.signals.length (history ++ events) := by
  cases shape with
  | started => simpa using flow
  | bound => simpa using flow
  | accepted room sent => simpa using flow.accept sent
  | rejected full => simpa using flow.reject
  | returned waits answer =>
      simp only [List.length_set]
      exact flow.answer rfl rfl rfl nofun
  | cancelled waits => exact flow.answer rfl rfl rfl nofun
  | spawned listens taken => exact flow.receive taken
  | served listens taken => exact flow.receive taken
  | answered holds held =>
      simp only [List.length_set]
      exact flow.answer rfl rfl rfl nofun
  | finished runs live => simpa using flow

/-- A call is received once. -/
theorem Flow.receivedOnce {queue : BoundedQueue (Exchange In) N} {allocated : Nat}
    {history : List (Event In Out)} (flow : Flow queue allocated history) :
    ((receipts history).map fun receipt => receipt.2.1).Nodup := by
  have distinct := flow.distinct
  rw [flow.queued, List.map_append, List.map_map, List.nodup_append] at distinct
  exact distinct.1

theorem Flow.receiver_eq {queue : BoundedQueue (Exchange In) N} {allocated : Nat}
    {history : List (Event In Out)} (flow : Flow queue allocated history)
    {task other : TaskId} {id : SignalId} {input input' : In}
    (received : .received task id input ∈ history)
    (again : .received other id input' ∈ history) : task = other := by
  have equal := List.inj_on_of_nodup_map flow.receivedOnce
    (mem_receipts.mpr received) (mem_receipts.mpr again) rfl
  exact congrArg Prod.fst equal

/-- What is received was accepted. -/
theorem Flow.accepted_of_received {queue : BoundedQueue (Exchange In) N} {allocated : Nat}
    {history : List (Event In Out)} {task : TaskId} {id : SignalId} {input : In}
    (flow : Flow queue allocated history) (received : .received task id input ∈ history) :
    .accepted id input ∈ history := by
  have call : (id, input) ∈ acceptedCalls history := by
    rw [flow.queued]
    exact List.mem_append_left _ (List.mem_map.mpr ⟨_, mem_receipts.mpr received, rfl⟩)
  exact (flow.accepted id input call).2.subset (by simp [acceptedPath])

/-- What is still queued was accepted and not yet received. -/
theorem Flow.not_received {queue : BoundedQueue (Exchange In) N} {allocated : Nat}
    {history : List (Event In Out)} (flow : Flow queue allocated history)
    {exchange : Exchange In} (member : exchange ∈ queue.items) :
    exchange.reply ∉ (receipts history).map fun receipt => receipt.2.1 := by
  have distinct := flow.distinct
  rw [flow.queued, List.map_append, List.map_map, List.nodup_append] at distinct
  intro received
  apply distinct.2.2 exchange.reply received exchange.reply _ rfl
  exact List.mem_map.mpr ⟨(exchange.reply, exchange.input),
    List.mem_map.mpr ⟨exchange, member, rfl⟩, rfl⟩

theorem Flow.queued_path {queue : BoundedQueue (Exchange In) N} {allocated : Nat}
    {history : List (Event In Out)} (flow : Flow queue allocated history)
    {exchange : Exchange In} (member : exchange ∈ queue.items) :
    (acceptedPath exchange.reply exchange.input).Sublist history := by
  apply (flow.accepted _ _ _).2
  rw [flow.queued]
  exact List.mem_append_right _ (List.mem_map.mpr ⟨exchange, member, rfl⟩)

/-! ## In the responders' hands -/

/-- A task holds only a `Reply` it received, and has not used it. -/
def Holding (tasks : List (Task In)) (history : List (Event In Out)) : Prop :=
  ∀ task holder exchange, tasks[task]? = some holder → holder.held = some exchange →
    (receivedPath exchange.reply exchange.input task).Sublist history ∧
      exchange.reply ∉ answeredIds history

theorem Holding.later {tasks : List (Task In)} {history events : List (Event In Out)}
    (holding : Holding tasks history) (unanswered : answeredIds events = []) :
    Holding tasks (history ++ events) := by
  intro task holder exchange lookup held
  have before := holding task holder exchange lookup held
  rw [answeredIds_append, unanswered, List.append_nil]
  exact ⟨sublist_later before.1 events, before.2⟩

theorem Holding.append {tasks : List (Task In)} {history : List (Event In Out)}
    {added : Task In} (holding : Holding tasks history)
    (fresh : ∀ exchange, added.held = some exchange →
      (receivedPath exchange.reply exchange.input tasks.length).Sublist history ∧
        exchange.reply ∉ answeredIds history) :
    Holding (tasks ++ [added]) history := by
  intro task holder exchange lookup held
  rcases Task.of_append lookup with before | ⟨rfl, rfl⟩
  · exact holding task holder exchange before held
  · exact fresh exchange held

theorem Holding.set {tasks : List (Task In)} {history : List (Event In Out)}
    {changed : TaskId} {replacement : Task In} (holding : Holding tasks history)
    (fresh : ∀ exchange, replacement.held = some exchange →
      (receivedPath exchange.reply exchange.input changed).Sublist history ∧
        exchange.reply ∉ answeredIds history) :
    Holding (tasks.set changed replacement) history := by
  intro task holder exchange lookup held
  rcases Task.of_set lookup with ⟨rfl, rfl⟩ | ⟨-, before⟩
  · exact fresh exchange held
  · exact holding task holder exchange before held

/-- A responder takes the oldest call: its path goes on, and no answer has been
given to it. -/
theorem receive_fresh {queue next : BoundedQueue (Exchange In) N} {allocated : Nat}
    {history : List (Event In Out)} {exchange : Exchange In} (task : TaskId)
    (flow : Flow queue allocated history)
    (answered : ∀ id ∈ answeredIds history,
      id ∈ (receipts history).map fun receipt => receipt.2.1)
    (taken : queue.items = exchange :: next.items) :
    (receivedPath exchange.reply exchange.input task).Sublist
        (history ++ [.received task exchange.reply exchange.input]) ∧
      exchange.reply ∉ answeredIds
        (history ++ [.received task exchange.reply exchange.input]) := by
  have member : exchange ∈ queue.items := by
    rw [taken]
    exact List.mem_cons_self ..
  constructor
  · exact (flow.queued_path member).append_right _
  · rw [answeredIds_append]
    intro used
    rcases List.mem_append.mp used with before | fresh
    · exact flow.not_received member (answered _ before)
    · cases fresh

structure Answering (state : State In Out N) (history : List (Event In Out)) :
    Prop where
  held : Holding state.tasks history
  answered : ∀ id ∈ answeredIds history,
    id ∈ (receipts history).map fun receipt => receipt.2.1
  once : (answeredIds history).Nodup
  signal : ∀ (id : SignalId) out, state.signals[id]? = some (some out) →
    id ∈ answeredIds history ∧
      ∃ input task, (answeredPath id input task out).Sublist history

/-- Steps that answer nothing and touch no set signal. -/
theorem Answering.quiet {state next : State In Out N}
    {history events : List (Event In Out)} (answering : Answering state history)
    (held : Holding next.tasks (history ++ events))
    (unanswered : answeredIds events = [])
    (signals : ∀ (id : SignalId) out, next.signals[id]? = some (some out) →
      state.signals[id]? = some (some out)) :
    Answering next (history ++ events) := by
  constructor
  · exact held
  · intro id member
    rw [answeredIds_append, unanswered, List.append_nil] at member
    rw [receipts_append, List.map_append]
    exact List.mem_append_left _ (answering.answered id member)
  · rw [answeredIds_append, unanswered, List.append_nil]
    exact answering.once
  · intro id out set
    rcases answering.signal id out (signals id out set) with
      ⟨member, input, task, shown⟩
    rw [answeredIds_append]
    exact ⟨List.mem_append_left _ member, input, task, sublist_later shown events⟩

theorem signal_of_append {signals : List (Option Out)} {id : SignalId} {out : Out}
    (set : (signals ++ [none])[id]? = some (some out)) :
    signals[id]? = some (some out) := by
  rcases Nat.lt_or_ge id signals.length with inside | outside
  · rwa [List.getElem?_append_left inside] at set
  · rw [List.getElem?_append_right outside] at set
    cases index : id - signals.length with
    | zero => simp [index] at set
    | succ rest => simp [index] at set

theorem signal_of_take {signals : List (Option Out)} {id other : SignalId} {out : Out}
    (set : (signals.set other none)[id]? = some (some out)) :
    signals[id]? = some (some out) := by
  rw [List.getElem?_set] at set
  split at set
  · split at set <;> simp at set
  · exact set

theorem Answering.answer {state : State In Out N} {history : List (Event In Out)}
    {task : TaskId} {holder : Task In} {exchange : Exchange In} {out : Out}
    (flow : Flow state.queue state.signals.length history)
    (answering : Answering state history)
    (holds : state.tasks[task]? = some holder) (held : holder.held = some exchange) :
    Answering { state with
      signals := state.signals.set exchange.reply (some out)
      tasks := state.tasks.set task holder.answered }
      (history ++ [.answered task exchange.reply out]) := by
  have own := answering.held task holder exchange holds held
  have received : .received task exchange.reply exchange.input ∈ history :=
    own.1.subset (by simp [receivedPath])
  have ids : answeredIds (history ++ [.answered task exchange.reply out]) =
      answeredIds history ++ [exchange.reply] := answeredIds_append _ _
  have same : receipts (history ++ [.answered task exchange.reply out]) =
      receipts history := by
    rw [receipts_append]
    exact List.append_nil _
  constructor
  · intro index found other lookup kept
    rcases Task.of_set lookup with ⟨-, rfl⟩ | ⟨different, before⟩
    · simp at kept
    have shown := answering.held index found other before kept
    refine ⟨sublist_later shown.1 _, ?_⟩
    rw [ids]
    intro used
    rcases List.mem_append.mp used with earlier | now
    · exact shown.2 earlier
    · have receivedToo : .received index other.reply other.input ∈ history :=
        shown.1.subset (by simp [receivedPath])
      rw [List.mem_singleton.mp now] at receivedToo
      exact different (flow.receiver_eq receivedToo received)
  · intro id member
    rw [ids] at member
    rw [same]
    rcases List.mem_append.mp member with earlier | now
    · exact answering.answered id earlier
    · rw [List.mem_singleton.mp now]
      exact List.mem_map.mpr ⟨_, mem_receipts.mpr received, rfl⟩
  · rw [ids, ← List.concat_eq_append]
    exact answering.once.concat own.2
  · intro id out' set
    rw [List.getElem?_set] at set
    rw [ids]
    split at set
    case isTrue here =>
      split at set
      · cases set
        subst here
        exact ⟨List.mem_append_right _ (List.mem_singleton.mpr rfl),
          exchange.input, task, own.1.append_right _⟩
      · cases set
    case isFalse =>
      rcases answering.signal id out' set with ⟨member, input, task', shown⟩
      exact ⟨List.mem_append_left _ member, input, task', sublist_later shown _⟩

theorem Answering.step {state next : State In Out N} {action : Action In Out}
    {history events : List (Event In Out)}
    (flow : Flow state.queue state.signals.length history)
    (answering : Answering state history) (shape : Step state action next events) :
    Answering next (history ++ events) := by
  cases shape with
  | started =>
      refine answering.quiet ?_ rfl (fun _ _ => id)
      exact (answering.held.later rfl).append (by simp)
  | bound starting =>
      refine answering.quiet ?_ rfl (fun _ _ => id)
      exact (answering.held.later rfl).set nofun
  | accepted room sent =>
      exact answering.quiet (answering.held.later rfl) rfl
        fun _ _ => signal_of_append
  | rejected full =>
      exact answering.quiet (answering.held.later rfl) rfl
        fun _ _ => signal_of_append
  | returned waits answer =>
      exact answering.quiet (answering.held.later rfl) rfl fun _ _ => signal_of_take
  | cancelled waits =>
      exact answering.quiet (answering.held.later rfl) rfl (fun _ _ => id)
  | @spawned task responder exchange queue listens taken =>
      refine answering.quiet ?_ rfl (fun _ _ => id)
      apply (answering.held.later rfl).append
      rintro _ ⟨⟩
      exact receive_fresh _ flow answering.answered taken
  | @served task responder exchange queue listens taken =>
      refine answering.quiet ?_ rfl (fun _ _ => id)
      apply (answering.held.later rfl).set
      rintro _ ⟨⟩
      exact receive_fresh _ flow answering.answered taken
  | answered holds held => exact answering.answer flow holds held
  | finished runs live =>
      refine answering.quiet ?_ rfl (fun _ _ => id)
      exact (answering.held.later rfl).set nofun

/-! ## Back to the callers -/

structure Returning (state : State In Out N) (history : List (Event In Out)) :
    Prop where
  awaiting : ∀ id ∈ state.awaiting,
    id < state.signals.length ∧ id ∉ returnedIds history
  returned : ∀ id out, .returned id out ∈ history →
    id < state.signals.length ∧
      ∃ input task, (returnedPath id input task out).Sublist history
  once : (returnedIds history).Nodup

theorem mem_returnedIds {history : List (Event In Out)} {id : SignalId} :
    id ∈ returnedIds history ↔ ∃ out, .returned id out ∈ history := by
  rw [returnedIds, List.mem_filterMap]
  constructor
  · intro holds
    rcases holds with ⟨event, member, equal⟩
    cases event <;> cases equal
    exact ⟨_, member⟩
  · intro holds
    rcases holds with ⟨out, member⟩
    exact ⟨_, member, rfl⟩

/-- Steps that return nothing and let callers wait only for their own calls. -/
theorem Returning.quiet {state next : State In Out N}
    {history events : List (Event In Out)} (returning : Returning state history)
    (silent : returnedIds events = [])
    (grows : state.signals.length ≤ next.signals.length)
    (awaiting : ∀ id ∈ next.awaiting, id ∈ state.awaiting ∨
      (id = state.signals.length ∧ id < next.signals.length)) :
    Returning next (history ++ events) := by
  have ids : returnedIds (history ++ events) = returnedIds history := by
    rw [returnedIds_append, silent, List.append_nil]
  constructor
  · intro id member
    rw [ids]
    rcases awaiting id member with waits | ⟨rfl, bound⟩
    · have before := returning.awaiting id waits
      exact ⟨Nat.lt_of_lt_of_le before.1 grows, before.2⟩
    · refine ⟨bound, ?_⟩
      intro returned
      rcases mem_returnedIds.mp returned with ⟨out, member⟩
      exact Nat.lt_irrefl _ (returning.returned _ out member).1
  · intro id out member
    have earlier : .returned id out ∈ history := by
      rcases List.mem_append.mp member with earlier | now
      · exact earlier
      · have listed := mem_returnedIds.mpr ⟨out, now⟩
        rw [silent] at listed
        cases listed
    rcases returning.returned id out earlier with ⟨bound, input, task, shown⟩
    exact ⟨Nat.lt_of_lt_of_le bound grows, input, task, sublist_later shown _⟩
  · rw [ids]
    exact returning.once

theorem Returning.step {state next : State In Out N} {action : Action In Out}
    {history events : List (Event In Out)}
    (answering : Answering state history) (returning : Returning state history)
    (shape : Step state action next events) : Returning next (history ++ events) := by
  cases shape with
  | started => exact returning.quiet rfl (Nat.le_refl _) fun _ => .inl
  | bound => exact returning.quiet rfl (Nat.le_refl _) fun _ => .inl
  | accepted room sent =>
      apply returning.quiet rfl (by simp)
      intro id member
      rcases List.mem_append.mp member with waits | fresh
      · exact .inl waits
      · exact .inr ⟨List.mem_singleton.mp fresh, by
          simp [List.mem_singleton.mp fresh]⟩
  | rejected full => exact returning.quiet rfl (by simp) fun _ => .inl
  | @returned id out waits answer =>
      have own := returning.awaiting id waits
      rcases (answering.signal id out answer).2 with ⟨input, task, shown⟩
      have ids : returnedIds (history ++ [Event.returned id out]) =
          returnedIds history ++ [id] := returnedIds_append _ _
      constructor
      · intro other member
        rw [List.mem_filter] at member
        rw [ids, List.length_set]
        have before := returning.awaiting other member.1
        refine ⟨before.1, ?_⟩
        intro returned
        rcases List.mem_append.mp returned with earlier | now
        · exact before.2 earlier
        · exact of_decide_eq_true member.2 (List.mem_singleton.mp now)
      · intro other out' member
        rw [List.length_set]
        rcases List.mem_append.mp member with earlier | now
        · rcases returning.returned other out' earlier with ⟨bound, input', task', path⟩
          exact ⟨bound, input', task', sublist_later path _⟩
        · cases List.mem_singleton.mp now
          exact ⟨own.1, input, task, shown.append_right _⟩
      · rw [ids, ← List.concat_eq_append]
        exact returning.once.concat own.2
  | cancelled waits =>
      refine returning.quiet rfl (Nat.le_refl _) ?_
      exact fun id member => .inl (List.mem_filter.mp member).1
  | spawned => exact returning.quiet rfl (Nat.le_refl _) fun _ => .inl
  | served => exact returning.quiet rfl (Nat.le_refl _) fun _ => .inl
  | answered => exact returning.quiet rfl (by simp) fun _ => .inl
  | finished => exact returning.quiet rfl (Nat.le_refl _) fun _ => .inl

/-! ## Runs -/

structure Sound (state : State In Out N) (history : List (Event In Out)) : Prop where
  flow : Flow state.queue state.signals.length history
  answering : Answering state history
  returning : Returning state history

theorem sound {state : State In Out N} {history : List (Event In Out)}
    (reached : (asyncBridge In Out N).Reached state history) : Sound state history := by
  apply Machine.Reached.induction _ ?start ?preserved reached
  case start =>
    exact ⟨⟨rfl, rfl, nofun, List.nodup_nil, nofun⟩,
      ⟨nofun, nofun, List.nodup_nil, nofun⟩, ⟨nofun, nofun, List.nodup_nil⟩⟩
  case preserved =>
    intro state history action next events _ holds stepped
    have shape := step_shape stepped
    exact ⟨holds.flow.step shape, holds.answering.step holds.flow shape,
      holds.returning.step holds.answering shape⟩

/-- Only a call is accepted. -/
theorem call_of_accepted {state next : State In Out N} {action : Action In Out}
    {events : List (Event In Out)} {id : SignalId} {input : In}
    (shape : Step state action next events) (accepted : .accepted id input ∈ events) :
    action = .call input := by
  cases shape with
  | accepted =>
      simp only [List.mem_cons, reduceCtorEq, Event.accepted.injEq, false_or,
        List.not_mem_nil, or_false] at accepted
      rw [accepted.2]
  | started | bound | finished => cases accepted
  | rejected | returned | cancelled | spawned | served | answered => simp at accepted

/-- A rejection is emitted right after its own call, with a full queue. -/
theorem rejected_emitted {state next : State In Out N} {action : Action In Out}
    {front back : List (Event In Out)} {id : SignalId} {input : In}
    (shape : Step state action next (front ++ .rejected id input :: back)) :
    front = [.called id input] ∧ state.queue.items.length = N := by
  generalize produced : front ++ Event.rejected id input :: back = events at shape
  have member : .rejected id input ∈ events := by
    rw [← produced]
    simp
  cases shape with
  | rejected full =>
      refine ⟨?_, full⟩
      match front with
      | [] => cases produced
      | [first] =>
          cases produced
          rfl
      | first :: second :: rest => simp at produced
  | started | bound | finished => cases member
  | accepted | returned | cancelled | spawned | served | answered => simp at member

/-- What a history shows of the calls of a bridge: answers reach their own
callers, inputs are received once and in order, a rejected input is handed back
and never received, and no call is answered twice. -/
structure RepliesMatched (queue : BoundedQueue (Exchange In) N)
    (history : List (Event In Out)) : Prop where
  distinct : (calledIds history).Nodup
  own : ∀ id out, .returned id out ∈ history →
    ∃ input task, (returnedPath id input task out).Sublist history
  inOrder : acceptedCalls history =
    (receipts history).map Prod.snd ++ queuedCalls queue
  receivedOnce : ((receipts history).map fun receipt => receipt.2.1).Nodup
  rejected : ∀ before id input after, history = before ++ .rejected id input :: after →
    .called id input ∈ before ∧
      (acceptedCalls before).length = (receipts before).length + N ∧
      ∀ task other, .received task id other ∉ history
  answeredOnce : (answeredIds history).Nodup
  returnedOnce : (returnedIds history).Nodup

theorem replies_matched {state : State In Out N} {history : List (Event In Out)}
    (reached : (asyncBridge In Out N).Reached state history) :
    RepliesMatched state.queue history := by
  have holds := sound reached
  constructor
  · rw [holds.flow.called]
    exact List.nodup_range
  · exact fun id out member => (holds.returning.returned id out member).2
  · exact holds.flow.queued
  · exact holds.flow.receivedOnce
  · intro before id input after split
    rcases reached.emitted split with
      ⟨source, prior, action, next, front, back, reachedSource, stepped, rfl⟩
    rcases rejected_emitted (step_shape stepped) with ⟨rfl, full⟩
    refine ⟨by simp, ?_, ?_⟩
    · have lengths := congrArg List.length (sound reachedSource).flow.queued
      rw [List.length_append, List.length_map, queuedCalls, List.length_map, full]
        at lengths
      rw [acceptedCalls_append, receipts_append, List.length_append,
        List.length_append, lengths]
      rfl
    · intro task other received
      have member : .rejected id input ∈ history := by
        rw [split]
        simp
      apply (holds.flow.rejected id input member).2 other
      rw [holds.flow.queued]
      exact List.mem_append_left _
        (List.mem_map.mpr ⟨_, mem_receipts.mpr received, rfl⟩)
  · exact holds.answering.once
  · exact holds.returning.once

/-- Two calls of a bridge of depth one that are answered, and one it rejects. -/
theorem replies_matched_two_calls :
    ∃ (state : State String Nat 1) (history : List (Event String Nat)),
      (asyncBridge String Nat 1).Reached state history ∧
      RepliesMatched state.queue history ∧
      (history.filterMap fun event => match event with
        | .returned id out => some (id, out)
        | _ => none) = [(2, 7), (0, 5)] :=
  have reached : (asyncBridge String Nat 1).Reached _ _ :=
    ⟨[.start .drainToAsync, .call "a", .call "b", .receive 0, .call "c", .receive 0,
      .answer 2 7, .answer 1 5, .resume 2, .resume 0], rfl⟩
  ⟨_, _, reached, replies_matched reached, rfl⟩

end BeetEsp.Esp32Utils.AsyncBridge
