import BeetEsp.Esp32Utils.AsyncBridgeMatching

/-! # Orphaned callers

A caller waits without a timeout. It is an orphan when nobody who is alive can
answer it any more.
-/

namespace BeetEsp.Esp32Utils.AsyncBridge

open Foundation

variable {In Out : Type} {N : Nat}

/-- A live responder will take calls from the queue. -/
def HasResponder (tasks : List (Task In)) : Prop :=
  ∃ (task : TaskId) (found : Task In), tasks[task]? = some found ∧
    found.responds = true

/-- A live task holds the `Reply` of the call. -/
def ReplyHeld (tasks : List (Task In)) (id : SignalId) : Prop :=
  ∃ (task : TaskId) (found : Task In) (exchange : Exchange In),
    tasks[task]? = some found ∧ found.held = some exchange ∧ exchange.reply = id

def Queued (queue : BoundedQueue (Exchange In) N) (id : SignalId) : Prop :=
  ∃ exchange ∈ queue.items, exchange.reply = id

def Answered (signals : List (Option Out)) (id : SignalId) : Prop :=
  ∃ out, signals[id]? = some (some out)

/-- The call can still be answered. -/
def Answerable (state : State In Out N) (id : SignalId) : Prop :=
  (Queued state.queue id ∧ HasResponder state.tasks) ∨
    ReplyHeld state.tasks id ∨ Answered state.signals id

def NoOrphans (state : State In Out N) : Prop :=
  ∀ id ∈ state.awaiting, Answerable state id

/-- A call is put into the queue only when a live responder can take it, and no
task ends with the `Reply` of a waiting call or as the last responder of one. -/
def KeepsCallers (state : State In Out N) : Action In Out → Prop
  | .call _ => state.queue.items.length < N → HasResponder state.tasks
  | .finish task =>
      (∀ found exchange, state.tasks[task]? = some found →
        found.held = some exchange → exchange.reply ∉ state.awaiting) ∧
      ((∃ exchange ∈ state.queue.items, exchange.reply ∈ state.awaiting) →
        ∃ (other : TaskId) (found : Task In), other ≠ task ∧
          state.tasks[other]? = some found ∧ found.responds = true)
  | _ => True

/-! ## Task tables -/

theorem Task.lookup_append {tasks : List (Task In)} {task : TaskId} {found : Task In}
    (lookup : tasks[task]? = some found) (added : Task In) :
    (tasks ++ [added])[task]? = some found := by
  rw [List.getElem?_append_left (List.getElem?_eq_some_iff.mp lookup).1, lookup]

theorem Task.lookup_set_ne {tasks : List (Task In)} {task changed : TaskId}
    {found : Task In} (lookup : tasks[task]? = some found) (different : task ≠ changed)
    (replacement : Task In) :
    (tasks.set changed replacement)[task]? = some found := by
  rw [List.getElem?_set_ne (Ne.symm different), lookup]

theorem Task.lookup_set_self {tasks : List (Task In)} {task : TaskId} {found : Task In}
    (lookup : tasks[task]? = some found) (replacement : Task In) :
    (tasks.set task replacement)[task]? = some replacement :=
  List.getElem?_set_self (List.getElem?_eq_some_iff.mp lookup).1

theorem HasResponder.append {tasks : List (Task In)} (responder : HasResponder tasks)
    (added : Task In) : HasResponder (tasks ++ [added]) := by
  rcases responder with ⟨task, found, lookup, responds⟩
  exact ⟨task, found, Task.lookup_append lookup added, responds⟩

/-- A responder that goes on responding. -/
theorem HasResponder.set {tasks : List (Task In)} {changed : TaskId}
    {old replacement : Task In} (responder : HasResponder tasks)
    (lookup : tasks[changed]? = some old)
    (goesOn : old.responds = true → replacement.responds = true) :
    HasResponder (tasks.set changed replacement) := by
  rcases responder with ⟨task, found, at_, responds⟩
  by_cases same : task = changed
  · subst same
    rw [lookup] at at_
    cases at_
    exact ⟨task, replacement, Task.lookup_set_self lookup _, goesOn responds⟩
  · exact ⟨task, found, Task.lookup_set_ne at_ same _, responds⟩

theorem ReplyHeld.append {tasks : List (Task In)} {id : SignalId}
    (held : ReplyHeld tasks id) (added : Task In) : ReplyHeld (tasks ++ [added]) id := by
  rcases held with ⟨task, found, exchange, lookup, holds⟩
  exact ⟨task, found, exchange, Task.lookup_append lookup added, holds⟩

/-- A task that does not hold the `Reply` may change. -/
theorem ReplyHeld.set {tasks : List (Task In)} {id : SignalId} {changed : TaskId}
    {old : Task In} (held : ReplyHeld tasks id) (lookup : tasks[changed]? = some old)
    (other : ∀ exchange, old.held = some exchange → exchange.reply ≠ id)
    (replacement : Task In) : ReplyHeld (tasks.set changed replacement) id := by
  rcases held with ⟨task, found, exchange, at_, holds, reply⟩
  refine ⟨task, found, exchange, Task.lookup_set_ne at_ ?_ _, holds, reply⟩
  intro same
  subst same
  rw [lookup] at at_
  cases at_
  exact other exchange holds reply

theorem Answered.append {signals : List (Option Out)} {id : SignalId}
    (answered : Answered signals id) : Answered (signals ++ [none]) id := by
  rcases answered with ⟨out, set⟩
  refine ⟨out, ?_⟩
  rw [List.getElem?_append_left (List.getElem?_eq_some_iff.mp set).1, set]

theorem Answered.set_ne {signals : List (Option Out)} {id other : SignalId}
    (answered : Answered signals id) (different : id ≠ other) (value : Option Out) :
    Answered (signals.set other value) id := by
  rcases answered with ⟨out, set⟩
  exact ⟨out, by rw [List.getElem?_set_ne (Ne.symm different), set]⟩

/-! ## Where a waiting call is not -/

section

variable {state : State In Out N} {history : List (Event In Out)}

theorem Sound.received_of_held (holds : Sound state history) {id : SignalId}
    (held : ReplyHeld state.tasks id) :
    id ∈ (receipts history).map fun receipt => receipt.2.1 := by
  rcases held with ⟨task, found, exchange, lookup, holding, rfl⟩
  have shown := (holds.answering.held task found exchange lookup holding).1
  have received : .received task exchange.reply exchange.input ∈ history :=
    shown.subset (by simp [receivedPath])
  exact List.mem_map.mpr ⟨_, mem_receipts.mpr received, rfl⟩

theorem Sound.received_lt (holds : Sound state history) {id : SignalId}
    (received : id ∈ (receipts history).map fun receipt => receipt.2.1) :
    id < state.signals.length := by
  rcases List.mem_map.mp received with ⟨receipt, member, rfl⟩
  apply (holds.flow.accepted receipt.2.1 receipt.2.2 _).1
  rw [holds.flow.queued]
  exact List.mem_append_left _ (List.mem_map.mpr ⟨receipt, member, rfl⟩)

theorem Sound.received_of_answered (holds : Sound state history) {id : SignalId}
    (answered : Answered state.signals id) :
    id ∈ (receipts history).map fun receipt => receipt.2.1 := by
  rcases answered with ⟨out, set⟩
  exact holds.answering.answered id (holds.answering.signal id out set).1

theorem Sound.not_received_of_queued (holds : Sound state history) {id : SignalId}
    (queued : Queued state.queue id) :
    id ∉ (receipts history).map fun receipt => receipt.2.1 := by
  rcases queued with ⟨exchange, member, rfl⟩
  exact holds.flow.not_received member

theorem Sound.queued_lt (holds : Sound state history) {exchange : Exchange In}
    (member : exchange ∈ state.queue.items) : exchange.reply < state.signals.length := by
  apply (holds.flow.accepted exchange.reply exchange.input _).1
  rw [holds.flow.queued]
  exact List.mem_append_right _ (List.mem_map.mpr ⟨exchange, member, rfl⟩)

theorem Sound.not_answered_of_held (holds : Sound state history) {id : SignalId}
    (held : ReplyHeld state.tasks id) : ¬Answered state.signals id := by
  rcases held with ⟨task, found, exchange, lookup, holding, rfl⟩
  intro holds
  rcases holds with ⟨out, set⟩
  exact (holds.answering.held task found exchange lookup holding).2
    (holds.answering.signal _ out set).1

/-- One task holds the `Reply` of a call. -/
theorem Sound.holder_eq (holds : Sound state history) {task other : TaskId}
    {found found' : Task In} {exchange exchange' : Exchange In}
    (lookup : state.tasks[task]? = some found) (held : found.held = some exchange)
    (lookup' : state.tasks[other]? = some found')
    (held' : found'.held = some exchange') (same : exchange.reply = exchange'.reply) :
    task = other := by
  have shown := (holds.answering.held task found exchange lookup held).1
  have shown' := (holds.answering.held other found' exchange' lookup' held').1
  have received : .received task exchange.reply exchange.input ∈ history :=
    shown.subset (by simp [receivedPath])
  have received' : .received other exchange'.reply exchange'.input ∈ history :=
    shown'.subset (by simp [receivedPath])
  rw [← same] at received'
  exact holds.flow.receiver_eq received received'

end

/-! ## One step -/

section

variable {state : State In Out N} {history : List (Event In Out)}

/-- A task changes into one that goes on responding and gives up no `Reply`. -/
theorem Answerable.set_task {id : SignalId} {changed : TaskId} {old : Task In}
    (answerable : Answerable state id) (lookup : state.tasks[changed]? = some old)
    (empty : old.held = none) (replacement : Task In)
    (goesOn : old.responds = true → replacement.responds = true) :
    Answerable { state with tasks := state.tasks.set changed replacement } id := by
  rcases answerable with ⟨queued, responder⟩ | held | answered
  · exact .inl ⟨queued, responder.set lookup goesOn⟩
  · refine .inr (.inl (held.set lookup ?_ replacement))
    intro exchange holds
    rw [empty] at holds
    cases holds
  · exact .inr (.inr answered)

theorem Answerable.append_task {id : SignalId} (answerable : Answerable state id)
    (added : Task In) :
    Answerable { state with tasks := state.tasks ++ [added] } id := by
  rcases answerable with ⟨queued, responder⟩ | held | answered
  · exact .inl ⟨queued, responder.append added⟩
  · exact .inr (.inl (held.append added))
  · exact .inr (.inr answered)

/-- The oldest call goes from the queue to a task. -/
theorem Answerable.receive {id : SignalId} {exchange : Exchange In}
    {queue : BoundedQueue (Exchange In) N} {tasks : List (Task In)}
    (answerable : Answerable { state with tasks } id)
    (taken : state.queue.items = exchange :: queue.items)
    (holder : ReplyHeld tasks exchange.reply) :
    Answerable { state with queue, tasks } id := by
  rcases answerable with ⟨⟨found, member, reply⟩, responder⟩ | other
  · rw [taken, List.mem_cons] at member
    rcases member with rfl | later
    · rw [reply] at holder
      exact .inr (.inl holder)
    · exact .inl ⟨⟨found, later, reply⟩, responder⟩
  · exact .inr other

theorem Answerable.answer {id : SignalId} {task : TaskId} {holder : Task In}
    {exchange : Exchange In} (holds : Sound state history)
    (answerable : Answerable state id) (lookup : state.tasks[task]? = some holder)
    (held : holder.held = some exchange) (out : Out) :
    Answerable { state with
      signals := state.signals.set exchange.reply (some out)
      tasks := state.tasks.set task holder.answered } id := by
  by_cases same : exchange.reply = id
  · have received := holds.received_of_held ⟨task, holder, exchange, lookup, held, rfl⟩
    have allocated := holds.received_lt received
    subst same
    exact .inr (.inr ⟨out, List.getElem?_set_self allocated⟩)
  rcases answerable with ⟨queued, responder⟩ | replyHeld | answered
  · exact .inl ⟨queued, responder.set lookup (Task.responds_answered held)⟩
  · refine .inr (.inl (replyHeld.set lookup ?_ _))
    intro other holding
    rw [held] at holding
    cases holding
    exact same
  · exact .inr (.inr (answered.set_ne (Ne.symm same) _))

theorem noOrphans_accept_iff {input : In} {queue : BoundedQueue (Exchange In) N}
    (holds : Sound state history) (answerable : NoOrphans state)
    (sent : queue.items = state.queue.items ++ [⟨input, state.signals.length⟩]) :
    NoOrphans { state with
      queue
      signals := state.signals ++ [none]
      awaiting := state.awaiting ++ [state.signals.length] } ↔
    HasResponder state.tasks := by
  constructor
  · intro next
    have own := next state.signals.length
      (List.mem_append_right _ (List.mem_singleton.mpr rfl))
    rcases own with ⟨-, responder⟩ | held | ⟨out, set⟩
    · exact responder
    · exact absurd (holds.received_lt (holds.received_of_held held))
        (Nat.lt_irrefl _)
    · simp at set
  · intro responder id member
    rcases List.mem_append.mp member with waits | fresh
    · rcases answerable id waits with ⟨⟨found, queued, reply⟩, -⟩ | held | answered
      · refine .inl ⟨⟨found, ?_, reply⟩, responder⟩
        rw [sent]
        exact List.mem_append_left _ queued
      · exact .inr (.inl held)
      · exact .inr (.inr answered.append)
    · rw [List.mem_singleton.mp fresh]
      refine .inl ⟨⟨⟨input, state.signals.length⟩, ?_, rfl⟩, responder⟩
      rw [sent]
      exact List.mem_append_right _ (List.mem_singleton.mpr rfl)

theorem noOrphans_finish_iff {task : TaskId} {running : Task In}
    (holds : Sound state history) (answerable : NoOrphans state)
    (runs : state.tasks[task]? = some running) :
    NoOrphans { state with tasks := state.tasks.set task .ended } ↔
      KeepsCallers state (.finish task) := by
  constructor
  · intro next
    constructor
    · intro found exchange lookup held waits
      have heldNow : ReplyHeld state.tasks exchange.reply :=
        ⟨task, found, exchange, lookup, held, rfl⟩
      rcases next exchange.reply waits with ⟨queued, -⟩ | ⟨other, later⟩ | answered
      · exact holds.not_received_of_queued queued (holds.received_of_held heldNow)
      · rcases later with ⟨found', exchange', lookup', held', same⟩
        rcases Task.of_set lookup' with ⟨-, rfl⟩ | ⟨different, before⟩
        · cases held'
        · exact different (holds.holder_eq before held' lookup held same)
      · exact holds.not_answered_of_held heldNow answered
    · intro holds
      rcases holds with ⟨exchange, member, waits⟩
      have queuedNow : Queued state.queue exchange.reply := ⟨exchange, member, rfl⟩
      have fresh := holds.not_received_of_queued queuedNow
      rcases next exchange.reply waits with
        ⟨-, other, found, lookup, responds⟩ | ⟨other, later⟩ | answered
      · rcases Task.of_set lookup with ⟨-, rfl⟩ | ⟨different, before⟩
        · cases responds
        · exact ⟨other, found, different, before, responds⟩
      · rcases later with ⟨found, exchange', lookup, held, reply⟩
        rcases Task.of_set lookup with ⟨-, rfl⟩ | ⟨-, before⟩
        · cases held
        · exact absurd (holds.received_of_held
            ⟨other, found, exchange', before, held, reply⟩) fresh
      · exact absurd (holds.received_of_answered answered) fresh
  · rintro ⟨notHeld, responders⟩ id waits
    rcases answerable id waits with
      ⟨⟨exchange, member, rfl⟩, -⟩ | ⟨other, found, exchange, lookup, held, rfl⟩ | answered
    · rcases responders ⟨exchange, member, waits⟩ with
        ⟨other, found, different, lookup, responds⟩
      exact .inl ⟨⟨exchange, member, rfl⟩, other, found,
        Task.lookup_set_ne lookup different _, responds⟩
    · have different : other ≠ task := by
        intro same
        subst same
        exact notHeld found exchange lookup held waits
      exact .inr (.inl ⟨other, found, exchange,
        Task.lookup_set_ne lookup different _, held, rfl⟩)
    · exact .inr (.inr answered)

/-- One step leaves no orphan exactly when it keeps its callers. -/
theorem NoOrphans.step_iff {next : State In Out N} {action : Action In Out}
    {events : List (Event In Out)} (holds : Sound state history)
    (answerable : NoOrphans state) (shape : Step state action next events) :
    NoOrphans next ↔ KeepsCallers state action := by
  cases shape with
  | started =>
      apply iff_of_true _ trivial
      exact fun id waits => (answerable id waits).append_task _
  | bound starting =>
      apply iff_of_true _ trivial
      exact fun id waits => (answerable id waits).set_task starting rfl _ fun _ => rfl
  | accepted room sent =>
      rw [noOrphans_accept_iff holds answerable sent]
      exact ⟨fun responder _ => responder, fun keeps => keeps room⟩
  | rejected full =>
      apply iff_of_true _ fun room => absurd full (Nat.ne_of_lt room)
      intro id waits
      rcases answerable id waits with queued | held | answered
      · exact .inl queued
      · exact .inr (.inl held)
      · exact .inr (.inr answered.append)
  | returned waits answer =>
      apply iff_of_true _ trivial
      intro id member
      rcases List.mem_filter.mp member with ⟨stillWaits, different⟩
      rcases answerable id stillWaits with queued | held | answered
      · exact .inl queued
      · exact .inr (.inl held)
      · exact .inr (.inr (answered.set_ne (of_decide_eq_true different) _))
  | cancelled waits =>
      apply iff_of_true _ trivial
      exact fun id member => answerable id (List.mem_filter.mp member).1
  | @spawned task responder exchange queue listens taken =>
      apply iff_of_true _ trivial
      intro id waits
      apply ((answerable id waits).append_task (.job exchange)).receive taken
      exact ⟨_, .job exchange, exchange, List.getElem?_concat_length, rfl, rfl⟩
  | @served task responder exchange queue listens taken =>
      apply iff_of_true _ trivial
      intro id waits
      refine ((answerable id waits).set_task listens rfl (.serving responder exchange)
        fun _ => rfl).receive taken ?_
      exact ⟨task, .serving responder exchange, exchange,
        Task.lookup_set_self listens _, rfl, rfl⟩
  | answered lookup held =>
      apply iff_of_true _ trivial
      exact fun id waits => (answerable id waits).answer holds lookup held _
  | finished runs live => exact noOrphans_finish_iff holds answerable runs

end

/-! ## Runs -/

/-- No caller is orphaned all along a run if and only if every call that enters
the queue finds a live responder, and no task ends with the `Reply` of a waiting
call or as the last responder of one. -/
theorem no_orphans_iff (actions : List (Action In Out)) {final : State In Out N}
    {history : List (Event In Out)}
    (ran : (asyncBridge In Out N).run actions = some (final, history)) :
    (asyncBridge In Out N).AlwaysAlong (fun state _ => NoOrphans state) actions ↔
      (asyncBridge In Out N).Meets KeepsCallers actions := by
  have start : NoOrphans (asyncBridge In Out N).initial := nofun
  exact (asyncBridge In Out N).always_iff_meets start
    (fun reached answerable stepped =>
      answerable.step_iff (sound reached) (step_shape stepped)) ran

theorem no_orphans_iff_mdnsTask :
    let actions : List (Action String (Option Nat)) :=
      [.start .mdnsTask, .call "printer", .bind 0, .receive 0, .answer 0 none, .resume 0]
    (asyncBridge String (Option Nat) 2).AlwaysAlong (fun state _ => NoOrphans state)
      actions ↔ (asyncBridge String (Option Nat) 2).Meets KeepsCallers actions :=
  no_orphans_iff _ rfl

/-- The resolver bridge, of depth two, with no mDNS task: the lookup is accepted
and waits for nobody. -/
theorem lookup_is_orphaned :
    (∃ (state : State String (Option Nat) 2) (history : List (Event String (Option Nat))),
      (asyncBridge String (Option Nat) 2).run [.call "printer"] = some (state, history) ∧
      0 ∈ state.awaiting ∧ state.tasks = []) ∧
    ¬(asyncBridge String (Option Nat) 2).AlwaysAlong (fun state _ => NoOrphans state)
      [.call "printer"] := by
  refine ⟨⟨_, _, rfl, by decide, rfl⟩, ?_⟩
  intro always
  have answerable := always [.call "printer"] [] rfl _ _ rfl 0 (by decide)
  rcases answerable with
    ⟨-, task, found, lookup, -⟩ | ⟨task, found, exchange, lookup, -⟩ | ⟨out, set⟩
  · cases lookup
  · cases lookup
  · cases set

end BeetEsp.Esp32Utils.AsyncBridge
