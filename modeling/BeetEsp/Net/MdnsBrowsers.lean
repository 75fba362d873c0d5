import BeetEsp.Foundation.Family
import BeetEsp.Net.MdnsBrowser

/-! # Browsers and their tasks

`start_pending_browsers` spawns a `browser_task` for each `MdnsBrowser` entity once the
stack is there. All tasks push what they receive into `PACKETS`, from where
`drain_browser_packets` hands it to the world once per frame. Times are in microseconds
since boot, and a send takes its time.
-/

namespace BeetEsp.Net.MdnsBrowsers

open Foundation
open MdnsBrowser (UdpPacket Packets QUERY_INTERVAL)

abbrev Entity := Nat

abbrev TaskId := Nat

/-! ## A browser task -/

inductive Phase
  /-- `wait_config_up` -/
  | configuring
  | binding
  /-- The query is handed to the socket. -/
  | querying (query : List UInt8)
  /-- The receive races against its timeout. -/
  | receiving (query : List UInt8) (deadline : Nat)
  | returned

/-- What an await returns. -/
inductive Io
  /-- The stack is configured, and the group is joined or not. -/
  | configUp (joined : Bool)
  | bound (ok : Bool)
  | sent (ok : Bool)
  | received (packet : UdpPacket)
  | receiveFailed
  | timeout

inductive Said
  | queried (query : List UInt8) (now : Nat)
  | queued (packet : UdpPacket)
  /-- `PACKETS` is full. -/
  | dropped (packet : UdpPacket)
  | returned
  deriving DecidableEq

/-- `browser_task` from one await to the next. `ptrQuery` is `build_ptr_query`. -/
def browse (ptrQuery : String → Option (List UInt8)) (serviceType : String) (now : Nat)
    (packets : Packets) : Phase → Io → Option (Phase × Packets × List Said)
  | .configuring, .configUp joined =>
      if joined then some (.binding, packets, []) else some (.returned, packets, [.returned])
  | .binding, .bound ok =>
      if ok then
        match ptrQuery serviceType with
        | some query => some (.querying query, packets, [.queried query now])
        | none => some (.returned, packets, [.returned])
      else some (.returned, packets, [.returned])
  | .querying query, .sent _ => some (.receiving query (now + QUERY_INTERVAL), packets, [])
  | .receiving query _, .received packet =>
      -- `recv` holds 1536 bytes; a longer packet is a failed receive.
      if 1536 < packet.bytes.length then none
      else
        let rearmed := .receiving query (now + QUERY_INTERVAL)
        match packets.trySend packet with
        | .ok packets => some (rearmed, packets, [.queued packet])
        | .error packet => some (rearmed, packets, [.dropped packet])
  | .receiving query _, .receiveFailed =>
      some (.receiving query (now + QUERY_INTERVAL), packets, [])
  | .receiving query deadline, .timeout =>
      if deadline ≤ now then some (.querying query, packets, [.queried query now]) else none
  | _, _ => none

/-! ## The plugin -/

/-- An `MdnsBrowser` entity. -/
structure Browser where
  entity : Entity
  serviceType : String
  /-- It has the marker `BrowserStarted`. -/
  started : Bool

structure BrowserTask where
  entity : Entity
  serviceType : String
  phase : Phase

structure State where
  now : Nat
  /-- `start_wifi` has published the stack. -/
  stack : Bool
  /-- The number of browser entities so far. -/
  spawned : Nat
  browsers : List Browser
  tasks : List BrowserTask
  packets : Packets

inductive Action
  | elapse (time : Nat)
  | publishStack
  | spawn (serviceType : String)
  | despawn (entity : Entity)
  | startPendingBrowsers
  | drainBrowserPackets
  | io (task : TaskId) (io : Io)

inductive Event
  | started (entity : Entity) (serviceType : String)
  | said (task : TaskId) (what : Said)
  /-- `handle_udp_packet` is triggered. -/
  | triggered (packet : UdpPacket)
  deriving DecidableEq

def Browser.start (browser : Browser) : Browser := { browser with started := true }

def Browser.task (browser : Browser) : BrowserTask where
  entity := browser.entity
  serviceType := browser.serviceType
  phase := .configuring

def State.pending (state : State) : List Browser :=
  state.browsers.filter fun browser => !browser.started

def step (ptrQuery : String → Option (List UInt8)) (state : State) :
    Action → Option (State × List Event)
  | .elapse time => some ({ state with now := state.now + time }, [])
  | .publishStack => some ({ state with stack := true }, [])
  | .spawn serviceType =>
      let browser := { entity := state.spawned, serviceType, started := false }
      some ({ state with
        spawned := state.spawned + 1
        browsers := state.browsers ++ [browser] }, [])
  | .despawn entity =>
      some ({ state with
        browsers := state.browsers.filter fun browser => browser.entity ≠ entity }, [])
  | .startPendingBrowsers =>
      if state.stack then
        some ({ state with
          browsers := state.browsers.map Browser.start
          tasks := state.tasks ++ state.pending.map Browser.task },
          state.pending.map fun browser => .started browser.entity browser.serviceType)
      else
        some (state, [])
  | .drainBrowserPackets =>
      some ({ state with packets := .empty }, state.packets.items.map .triggered)
  | .io task io =>
      match state.tasks[task]? with
      | some running =>
          (browse ptrQuery running.serviceType state.now state.packets running.phase io).map
            fun (phase, packets, said) =>
              ({ state with
                packets
                tasks := state.tasks.set task { running with phase } },
                said.map (.said task))
      | none => none

/-- `mdns_browser_plugin` -/
def mdnsBrowsers (ptrQuery : String → Option (List UInt8)) : Machine State Action Event where
  initial := { now := 0, stack := false, spawned := 0, browsers := [], tasks := []
               packets := .empty }
  step := step ptrQuery

/-! ## Steps -/

section

variable {ptrQuery : String → Option (List UInt8)}

variable (ptrQuery) in
/-- What a task can do. -/
inductive Browses (serviceType : String) (now : Nat) (packets : Packets) :
    Phase → Phase → Packets → List Said → Prop
  | joined : Browses serviceType now packets .configuring .binding packets []
  | gaveUp {phase} (early : phase = .configuring ∨ phase = .binding) :
      Browses serviceType now packets phase .returned packets [.returned]
  | bound {query} (built : ptrQuery serviceType = some query) :
      Browses serviceType now packets .binding (.querying query) packets
        [.queried query now]
  | sent {query} :
      Browses serviceType now packets (.querying query)
        (.receiving query (now + QUERY_INTERVAL)) packets []
  | queued {query deadline packet after} (sent : packets.trySend packet = .ok after) :
      Browses serviceType now packets (.receiving query deadline)
        (.receiving query (now + QUERY_INTERVAL)) after [.queued packet]
  | dropped {query deadline packet} (full : packets.items.length = 8) :
      Browses serviceType now packets (.receiving query deadline)
        (.receiving query (now + QUERY_INTERVAL)) packets [.dropped packet]
  | failed {query deadline} :
      Browses serviceType now packets (.receiving query deadline)
        (.receiving query (now + QUERY_INTERVAL)) packets []
  | requeried {query deadline} (due : deadline ≤ now) :
      Browses serviceType now packets (.receiving query deadline) (.querying query) packets
        [.queried query now]

theorem browses {serviceType : String} {now : Nat} {packets after : Packets}
    {phase next : Phase} {io : Io} {said : List Said}
    (stepped : browse ptrQuery serviceType now packets phase io =
      some (next, after, said)) :
    Browses ptrQuery serviceType now packets phase next after said := by
  unfold browse at stepped
  split at stepped
  case h_1 joined =>
    split at stepped <;> cases stepped
    · exact .joined
    · exact .gaveUp (.inl rfl)
  case h_2 ok =>
    split at stepped
    case isTrue =>
      split at stepped <;> cases stepped
      case h_1 query built => exact .bound built
      case h_2 => exact .gaveUp (.inr rfl)
    case isFalse =>
      cases stepped
      exact .gaveUp (.inr rfl)
  case h_3 =>
    cases stepped
    exact .sent
  case h_4 packet =>
    split at stepped
    case isTrue => cases stepped
    case isFalse =>
      simp only at stepped
      split at stepped <;> cases stepped
      case h_1 sent => exact .queued sent
      case h_2 rejected =>
        exact .dropped (BoundedQueue.trySend_eq_error rejected).1
  case h_5 =>
    cases stepped
    exact .failed
  case h_6 =>
    split at stepped <;> cases stepped
    exact .requeried ‹_›
  case h_7 => cases stepped

variable (ptrQuery) in
/-- What a step can do. -/
inductive Step (state : State) : State → List Event → Prop
  | elapsed {time} : Step state { state with now := state.now + time } []
  | published : Step state { state with stack := true } []
  | spawned {serviceType} :
      Step state { state with
        spawned := state.spawned + 1
        browsers := state.browsers ++ [⟨state.spawned, serviceType, false⟩] } []
  | despawned {entity} :
      Step state { state with
        browsers := state.browsers.filter fun browser => browser.entity ≠ entity } []
  | started (stack : state.stack = true) :
      Step state { state with
        browsers := state.browsers.map Browser.start
        tasks := state.tasks ++ state.pending.map Browser.task }
        (state.pending.map fun browser => .started browser.entity browser.serviceType)
  | waited (stack : state.stack = false) : Step state state []
  | drained :
      Step state { state with packets := .empty } (state.packets.items.map .triggered)
  | browsed {task running phase packets said} (found : state.tasks[task]? = some running)
      (browses : Browses ptrQuery running.serviceType state.now state.packets running.phase
        phase packets said) :
      Step state { state with
        packets
        tasks := state.tasks.set task { running with phase } } (said.map (.said task))

theorem step_shape {state next : State} {action : Action} {events : List Event}
    (stepped : (mdnsBrowsers ptrQuery).step state action = some (next, events)) :
    Step ptrQuery state next events := by
  change step ptrQuery state action = some (next, events) at stepped
  cases action with
  | elapse time =>
      cases stepped
      exact .elapsed
  | publishStack =>
      cases stepped
      exact .published
  | spawn serviceType =>
      cases stepped
      exact .spawned
  | despawn entity =>
      cases stepped
      exact .despawned
  | startPendingBrowsers =>
      simp only [step] at stepped
      by_cases stack : state.stack = true
      · rw [if_pos stack] at stepped
        cases stepped
        exact .started stack
      · rw [if_neg stack] at stepped
        cases stepped
        exact .waited (by simpa using stack)
  | drainBrowserPackets =>
      cases stepped
      exact .drained
  | io task io =>
      simp only [step] at stepped
      split at stepped
      case h_2 => cases stepped
      case h_1 running found =>
        rcases Option.map_eq_some_iff.mp stepped with ⟨⟨phase, packets, said⟩, inner, equal⟩
        cases equal
        exact .browsed found (browses inner)

/-! ## The packets -/

def Event.queuedOf : Event → Option UdpPacket
  | said _ (.queued packet) => some packet
  | _ => none

def Event.triggeredOf : Event → Option UdpPacket
  | triggered packet => some packet
  | _ => none

@[simp] theorem queuedOf_started (browsers : List Browser) :
    observed Event.queuedOf
      (browsers.map fun browser => .started browser.entity browser.serviceType) = [] :=
  observed_map_eq_nil _ (fun _ => rfl) browsers

@[simp] theorem triggeredOf_started (browsers : List Browser) :
    observed Event.triggeredOf
      (browsers.map fun browser => .started browser.entity browser.serviceType) = [] :=
  observed_map_eq_nil _ (fun _ => rfl) browsers

@[simp] theorem triggeredOf_said (task : TaskId) (said : List Said) :
    observed Event.triggeredOf (said.map (Event.said task)) = [] :=
  observed_map_eq_nil _ (fun _ => rfl) said

@[simp] theorem queuedOf_triggered (packets : List UdpPacket) :
    observed Event.queuedOf (packets.map Event.triggered) = [] :=
  observed_map_eq_nil _ (fun _ => rfl) packets

@[simp] theorem triggeredOf_triggered (packets : List UdpPacket) :
    observed Event.triggeredOf (packets.map Event.triggered) = packets := by
  have each : ∀ packet, (Event.triggered packet).triggeredOf = some packet := fun _ => rfl
  rw [observed_map _ each, List.map_id']

/-- What a task queues is at the end of the queue. -/
theorem Browses.queue {serviceType : String} {now : Nat} {packets after : Packets}
    {phase next : Phase} {said : List Said}
    (browses : Browses ptrQuery serviceType now packets phase next after said)
    (task : TaskId) :
    after.items = packets.items ++ observed Event.queuedOf (said.map (.said task)) := by
  cases browses with
  | queued sent => exact (BoundedQueue.trySend_eq_ok sent).2
  | joined | gaveUp | bound | sent | dropped | failed | requeried =>
      exact (List.append_nil _).symm

/-- All that was queued was triggered in its turn, or still waits. -/
theorem queued_eq {state : State} {history : List Event}
    (reached : (mdnsBrowsers ptrQuery).Reached state history) :
    observed Event.queuedOf history =
      observed Event.triggeredOf history ++ state.packets.items := by
  apply Machine.Reached.induction (fun state history => observed Event.queuedOf history =
    observed Event.triggeredOf history ++ state.packets.items) ?start ?preserved reached
  case start => rfl
  case preserved =>
    intro state history action next events _ holds stepped
    rw [observed_append, observed_append, holds, List.append_assoc, List.append_assoc]
    congr 1
    cases step_shape stepped with
    | elapsed | published | spawned | despawned | waited => simp
    | started => simp
    | drained => simp [BoundedQueue.empty]
    | browsed found browses => rw [triggeredOf_said, List.nil_append, browses.queue]

/-- The packet a task receives. -/
def Action.packetOf : Action → Option UdpPacket
  | io _ (.received packet) => some packet
  | _ => none

/-- The packet a task has queued or dropped. -/
def Event.packetOf : Event → Option UdpPacket
  | said _ (.queued packet) | said _ (.dropped packet) => some packet
  | _ => none

/-- A packet is queued or dropped when it is received, and no other is. -/
theorem browse_packet {serviceType : String} {now : Nat} {packets after : Packets}
    {phase next : Phase} {io : Io} {said : List Said}
    (stepped : browse ptrQuery serviceType now packets phase io =
      some (next, after, said)) (task : TaskId) :
    observed Event.packetOf (said.map (.said task)) = (Action.io task io).packetOf.toList := by
  unfold browse at stepped
  split at stepped
  case h_4 packet =>
    split at stepped
    case isTrue => cases stepped
    case isFalse =>
      simp only at stepped
      split at stepped <;> cases stepped
      case h_1 => rfl
      case h_2 rejected =>
        rw [(BoundedQueue.trySend_eq_error rejected).2]
        rfl
  case h_1 | h_6 => split at stepped <;> cases stepped <;> rfl
  case h_2 =>
    split at stepped
    case isTrue => split at stepped <;> cases stepped <;> rfl
    case isFalse =>
      cases stepped
      rfl
  case h_3 | h_5 =>
    cases stepped
    rfl
  case h_7 => cases stepped

/-- What is received is queued or dropped, each packet in its turn. -/
theorem packets_eq {actions : List Action} {state : State} {history : List Event}
    (ran : (mdnsBrowsers ptrQuery).run actions = some (state, history)) :
    observed Event.packetOf history = actions.filterMap Action.packetOf := by
  refine Machine.observed_runFrom ?shows ran
  intro state action next events stepped
  change step ptrQuery state action = some (next, events) at stepped
  cases action with
  | io task io =>
      simp only [step] at stepped
      split at stepped
      case h_2 => cases stepped
      case h_1 running found =>
        rcases Option.map_eq_some_iff.mp stepped with ⟨⟨phase, packets, said⟩, inner, equal⟩
        cases equal
        exact browse_packet inner task
  | startPendingBrowsers =>
      simp only [step] at stepped
      split at stepped <;> cases stepped
      · exact observed_map_eq_nil _ (fun _ => rfl) _
      · rfl
  | drainBrowserPackets =>
      cases stepped
      exact observed_map_eq_nil _ (fun _ => rfl) _
  | elapse | publishStack | spawn | despawn =>
      cases stepped
      rfl

/-- The packets of all browsers reach the world in the order in which they came, each
once, but for those that came while eight were waiting. -/
structure PacketsDelivered (actions : List Action) (packets : Packets) (history : List Event) :
    Prop where
  received : observed Event.packetOf history = actions.filterMap Action.packetOf
  inOrder : observed Event.queuedOf history =
    observed Event.triggeredOf history ++ packets.items
  dropped : ∀ before task packet after,
    history = before ++ .said task (.dropped packet) :: after →
    (observed Event.queuedOf before).length = (observed Event.triggeredOf before).length + 8

theorem dropped_full {state next : State} {task : TaskId} {packet : UdpPacket}
    {front back : List Event}
    (shape : Step ptrQuery state next (front ++ .said task (.dropped packet) :: back)) :
    front = [] ∧ state.packets.items.length = 8 := by
  generalize produced : front ++ Event.said task (.dropped packet) :: back = events at shape
  have member : .said task (.dropped packet) ∈ events := by
    rw [← produced]
    simp
  cases shape with
  | elapsed | published | spawned | despawned | waited | started | drained => simp at member
  | browsed found browses =>
      rename_i running phase packets said
      generalize running.phase = waits at browses
      cases browses with
      | joined | gaveUp | bound | sent | queued | failed | requeried => simp at member
      | dropped full =>
          refine ⟨?_, full⟩
          match front with
          | [] => rfl
          | first :: rest => simp at produced

theorem packets_delivered {actions : List Action} {state : State} {history : List Event}
    (ran : (mdnsBrowsers ptrQuery).run actions = some (state, history)) :
    PacketsDelivered actions state.packets history := by
  have reached : (mdnsBrowsers ptrQuery).Reached state history := ⟨actions, ran⟩
  refine ⟨packets_eq ran, queued_eq reached, ?_⟩
  intro before task packet after split
  rcases reached.emitted split with
    ⟨source, prior, action, next, front, back, earlier, stepped, rfl⟩
  rcases dropped_full (step_shape stepped) with ⟨rfl, full⟩
  rw [List.append_nil, queued_eq earlier, List.length_append, full]

/-! ## One task for each browser -/

def Event.startedOf : Event → Option (Entity × String)
  | started entity serviceType => some (entity, serviceType)
  | _ => none

def BrowserTask.owner (task : BrowserTask) : Entity × String :=
  (task.entity, task.serviceType)

@[simp] theorem startedOf_started (browsers : List Browser) :
    observed Event.startedOf
      (browsers.map fun browser => .started browser.entity browser.serviceType) =
      browsers.map fun browser => (browser.entity, browser.serviceType) :=
  observed_map Event.startedOf (fun _ => rfl) browsers

@[simp] theorem startedOf_said (task : TaskId) (said : List Said) :
    observed Event.startedOf (said.map (Event.said task)) = [] :=
  observed_map_eq_nil _ (fun _ => rfl) said

@[simp] theorem startedOf_triggered (packets : List UdpPacket) :
    observed Event.startedOf (packets.map Event.triggered) = [] :=
  observed_map_eq_nil _ (fun _ => rfl) packets

/-- A task keeps its owner. -/
theorem owners_set {tasks : List BrowserTask} {task : TaskId} {running : BrowserTask}
    (found : tasks[task]? = some running) (phase : Phase) :
    (tasks.set task { running with phase }).map BrowserTask.owner =
      tasks.map BrowserTask.owner := by
  have same : (tasks.map BrowserTask.owner)[task]? = some running.owner := by
    rw [List.getElem?_map, found, Option.map_some]
  rcases List.getElem?_eq_some_iff.mp same with ⟨bound, value⟩
  rw [List.map_set]
  change (tasks.map BrowserTask.owner).set task running.owner = _
  rw [← value, List.set_getElem_self]

def State.entities (state : State) : List Entity :=
  (state.tasks.map BrowserTask.owner).map Prod.fst

/-- Browsers, marks and tasks. -/
structure Marked (state : State) (history : List Event) : Prop where
  owners : state.tasks.map BrowserTask.owner = observed Event.startedOf history
  distinct : (state.browsers.map Browser.entity).Nodup
  fresh : ∀ browser ∈ state.browsers, browser.entity < state.spawned
  marked : ∀ browser ∈ state.browsers,
    browser.started = true ↔ browser.entity ∈ state.entities
  once : state.entities.Nodup
  allocated : ∀ entity ∈ state.entities, entity < state.spawned
  waits : state.stack = false → state.tasks = []

variable {state next : State} {history events : List Event}

theorem Marked.quiet (holds : Marked state history)
    (owners : next.tasks.map BrowserTask.owner = state.tasks.map BrowserTask.owner)
    (browsers : next.browsers = state.browsers) (spawned : next.spawned = state.spawned)
    (stack : next.stack = state.stack) (none : observed Event.startedOf events = []) :
    Marked next (history ++ events) := by
  have entities : next.entities = state.entities := by rw [State.entities, owners, State.entities]
  constructor
  · rw [owners, holds.owners, observed_append, none, List.append_nil]
  · rw [browsers]
    exact holds.distinct
  · rw [browsers, spawned]
    exact holds.fresh
  · rw [browsers, entities]
    exact holds.marked
  · rw [entities]
    exact holds.once
  · rw [entities, spawned]
    exact holds.allocated
  · intro absent
    rw [stack] at absent
    have empty := congrArg List.length owners
    rw [holds.waits absent, List.length_map, List.length_map] at empty
    exact List.eq_nil_of_length_eq_zero empty

/-- The browsers without a mark. -/
theorem mem_pending {browser : Browser} :
    browser ∈ state.pending ↔ browser ∈ state.browsers ∧ browser.started = false := by
  simp [State.pending]

/-- The frame in which `start_pending_browsers` finds the stack. -/
def State.startPending (state : State) : State :=
  { state with
    browsers := state.browsers.map Browser.start
    tasks := state.tasks ++ state.pending.map Browser.task }

theorem entities_startPending (state : State) :
    state.startPending.entities = state.entities ++ state.pending.map Browser.entity := by
  simp [State.startPending, State.entities, BrowserTask.owner, Browser.task,
    Function.comp_def]

theorem Marked.startPending (holds : Marked state history) (stack : state.stack = true) :
    Marked state.startPending (history ++ state.pending.map fun browser =>
      .started browser.entity browser.serviceType) := by
  have pending : (state.pending.map Browser.entity).Nodup :=
    holds.distinct.sublist (List.filter_sublist.map _)
  have apart : ∀ browser ∈ state.pending, browser.entity ∉ state.entities := by
    intro browser member inside
    rcases mem_pending.mp member with ⟨present, unmarked⟩
    rw [(holds.marked browser present).mpr inside] at unmarked
    cases unmarked
  constructor
  · rw [observed_append, startedOf_started, ← holds.owners]
    simp [State.startPending, BrowserTask.owner, Browser.task, Function.comp_def]
  · have same : state.startPending.browsers.map Browser.entity =
        state.browsers.map Browser.entity := by
      simp [State.startPending, Browser.start, Function.comp_def]
    rw [same]
    exact holds.distinct
  · intro browser member
    rcases List.mem_map.mp member with ⟨before, present, rfl⟩
    exact holds.fresh before present
  · intro browser member
    rcases List.mem_map.mp member with ⟨before, present, rfl⟩
    rw [entities_startPending, List.mem_append]
    refine ⟨fun _ => ?_, fun _ => rfl⟩
    cases mark : before.started with
    | true => exact .inl ((holds.marked before present).mp mark)
    | false => exact .inr (List.mem_map.mpr ⟨before, mem_pending.mpr ⟨present, mark⟩, rfl⟩)
  · rw [entities_startPending]
    refine List.nodup_append'.mpr ⟨holds.once, pending, ?_⟩
    intro entity inside now
    rcases List.mem_map.mp now with ⟨browser, member, rfl⟩
    exact apart browser member inside
  · intro entity member
    rw [entities_startPending] at member
    rcases List.mem_append.mp member with earlier | now
    · exact holds.allocated entity earlier
    · rcases List.mem_map.mp now with ⟨browser, waiting, rfl⟩
      exact holds.fresh browser (mem_pending.mp waiting).1
  · intro absent
    rw [show state.startPending.stack = state.stack from rfl, stack] at absent
    cases absent

theorem Marked.step (holds : Marked state history)
    (shape : Step ptrQuery state next events) : Marked next (history ++ events) := by
  cases shape with
  | elapsed | waited => exact holds.quiet rfl rfl rfl rfl rfl
  | drained => exact holds.quiet rfl rfl rfl rfl (startedOf_triggered _)
  | browsed found => exact holds.quiet (owners_set found _) rfl rfl rfl (startedOf_said _ _)
  | published =>
      rw [List.append_nil]
      exact { holds with waits := nofun }
  | spawned =>
      rw [List.append_nil]
      constructor
      · exact holds.owners
      · rw [List.map_append, List.map_singleton, ← List.concat_eq_append]
        apply holds.distinct.concat
        intro member
        rcases List.mem_map.mp member with ⟨browser, inside, same⟩
        exact Nat.ne_of_lt (holds.fresh browser inside) same
      · intro browser member
        rcases List.mem_append.mp member with earlier | now
        · exact Nat.lt_succ_of_lt (holds.fresh browser earlier)
        · cases List.mem_singleton.mp now
          exact Nat.lt_succ_self _
      · intro browser member
        rcases List.mem_append.mp member with earlier | now
        · exact holds.marked browser earlier
        · cases List.mem_singleton.mp now
          constructor
          · nofun
          · exact fun inside => absurd (holds.allocated _ inside) (Nat.lt_irrefl _)
      · exact holds.once
      · exact fun entity member => Nat.lt_succ_of_lt (holds.allocated entity member)
      · exact holds.waits
  | despawned =>
      rw [List.append_nil]
      constructor
      · exact holds.owners
      · exact holds.distinct.sublist (List.filter_sublist.map _)
      · exact fun browser member => holds.fresh browser (List.mem_filter.mp member).1
      · exact fun browser member => holds.marked browser (List.mem_filter.mp member).1
      · exact holds.once
      · exact holds.allocated
      · exact holds.waits
  | started stack => exact holds.startPending stack

theorem marked (reached : (mdnsBrowsers ptrQuery).Reached state history) :
    Marked state history := by
  apply Machine.Reached.induction Marked ?start ?preserved reached
  case start => exact ⟨rfl, List.nodup_nil, nofun, nofun, List.nodup_nil, nofun, fun _ => rfl⟩
  case preserved => exact fun _ holds stepped => holds.step (step_shape stepped)

/-- A browser has a task of its own if and only if it is marked, no browser ever gets a
second one, not even after its task has returned, and after a frame with the stack no
browser is without. -/
structure OneTaskEach (ptrQuery : String → Option (List UInt8)) (state : State)
    (history : List Event) : Prop where
  once : ((observed Event.startedOf history).map Prod.fst).Nodup
  tasks : state.tasks.map BrowserTask.owner = observed Event.startedOf history
  marked : ∀ browser ∈ state.browsers,
    browser.started = true ↔ browser.entity ∈ (observed Event.startedOf history).map Prod.fst
  waits : state.stack = false → observed Event.startedOf history = []
  frame : ∀ next events,
    step ptrQuery state .startPendingBrowsers = some (next, events) →
    state.stack = true → next.pending = []

theorem one_task_each (reached : (mdnsBrowsers ptrQuery).Reached state history) :
    OneTaskEach ptrQuery state history := by
  have holds := MdnsBrowsers.marked reached
  have entities : state.entities = (observed Event.startedOf history).map Prod.fst := by
    rw [State.entities, holds.owners]
  constructor
  · rw [← entities]
    exact holds.once
  · exact holds.owners
  · rw [← entities]
    exact holds.marked
  · intro absent
    rw [← holds.owners, holds.waits absent, List.map_nil]
  · intro next events stepped stack
    rw [step, if_pos stack] at stepped
    cases stepped
    exact List.filter_eq_nil_iff.mpr fun browser member => by
      rcases List.mem_map.mp member with ⟨before, -, rfl⟩
      simp [Browser.start]

/-! ## The queries of a task -/

/-- A query with its time. -/
def Said.queryOf : Said → Option (List UInt8 × Nat)
  | queried query now => some (query, now)
  | _ => none

def Event.queriedBy (task : TaskId) : Event → Option (List UInt8 × Nat)
  | said other what => if other = task then what.queryOf else none
  | _ => none

theorem queriedBy_self (task : TaskId) (said : List Said) :
    observed (Event.queriedBy task) (said.map (.said task)) = observed Said.queryOf said := by
  have each : Event.queriedBy task ∘ Event.said task = Said.queryOf :=
    funext fun _ => if_pos rfl
  rw [observed, List.filterMap_map, each, observed]

theorem queriedBy_of_ne {task other : TaskId} (different : other ≠ task)
    (said : List Said) : observed (Event.queriedBy task) (said.map (.said other)) = [] := by
  have none : ∀ what, (Event.said other what).queriedBy task = none :=
    fun _ => if_neg different
  exact observed_map_eq_nil _ none said

/-- The queries of a task that is here. -/
def Phase.Allows (ptrQuery : String → Option (List UInt8)) (serviceType : String)
    (asked : List (List UInt8 × Nat)) : Phase → Prop
  | .configuring | .binding => asked = []
  | .querying query => ptrQuery serviceType = some query
  | .receiving query deadline =>
      ptrQuery serviceType = some query ∧
        ∀ earlier ∈ asked, earlier.2 + QUERY_INTERVAL ≤ deadline
  | .returned => True

structure Asks (ptrQuery : String → Option (List UInt8)) (serviceType : String)
    (now : Nat) (phase : Phase) (asked : List (List UInt8 × Nat)) : Prop where
  own : ∀ query ∈ asked, ptrQuery serviceType = some query.1
  past : ∀ query ∈ asked, query.2 ≤ now
  spaced : asked.Pairwise fun earlier later => earlier.2 + QUERY_INTERVAL ≤ later.2
  allows : phase.Allows ptrQuery serviceType asked

variable {serviceType : String} {now : Nat} {phase after : Phase} {packets left : Packets}
  {said : List Said} {asked : List (List UInt8 × Nat)}

/-- A receive that is started anew gets a whole interval. -/
theorem Asks.rearm {query : List UInt8} (holds : Asks ptrQuery serviceType now phase asked)
    (built : ptrQuery serviceType = some query) :
    Asks ptrQuery serviceType now (.receiving query (now + QUERY_INTERVAL)) (asked ++ []) := by
  rw [List.append_nil]
  exact ⟨holds.own, holds.past, holds.spaced, built,
    fun earlier member => Nat.add_le_add_right (holds.past earlier member) _⟩

/-- A query that comes an interval after all others. -/
theorem Asks.query {query : List UInt8} (holds : Asks ptrQuery serviceType now phase asked)
    (built : ptrQuery serviceType = some query)
    (due : ∀ earlier ∈ asked, earlier.2 + QUERY_INTERVAL ≤ now) :
    Asks ptrQuery serviceType now (.querying query) (asked ++ [(query, now)]) := by
  constructor
  · intro other member
    rcases List.mem_append.mp member with earlier | last
    · exact holds.own other earlier
    · cases List.mem_singleton.mp last
      exact built
  · intro other member
    rcases List.mem_append.mp member with earlier | last
    · exact holds.past other earlier
    · cases List.mem_singleton.mp last
      exact Nat.le_refl _
  · refine List.pairwise_append.mpr ⟨holds.spaced, List.pairwise_singleton _ _, ?_⟩
    intro earlier member last same
    cases List.mem_singleton.mp same
    exact due earlier member
  · exact built

theorem Asks.step (holds : Asks ptrQuery serviceType now phase asked)
    (browses : Browses ptrQuery serviceType now packets phase after left said) :
    Asks ptrQuery serviceType now after (asked ++ observed Said.queryOf said) := by
  cases browses with
  | joined =>
      rw [observed_nil, List.append_nil]
      exact { holds with allows := holds.allows }
  | gaveUp =>
      rw [show observed Said.queryOf [.returned] = [] from rfl, List.append_nil]
      exact { holds with allows := trivial }
  | bound built =>
      have none := holds.allows
      exact holds.query built (by rw [show asked = [] from none]; nofun)
  | sent => exact holds.rearm holds.allows
  | queued | dropped | failed => exact holds.rearm holds.allows.1
  | requeried due =>
      exact holds.query holds.allows.1 fun earlier member =>
        Nat.le_trans (holds.allows.2 earlier member) due

theorem Asks.later {passed : Nat} (holds : Asks ptrQuery serviceType now phase asked)
    (later : now ≤ passed) : Asks ptrQuery serviceType passed phase asked :=
  { holds with past := fun query member => Nat.le_trans (holds.past query member) later }

/-- All tasks with their queries. -/
abbrev Asking (ptrQuery : String → Option (List UInt8)) :=
  Machine.Family State.tasks Event.queriedBy fun state running asked =>
    Asks ptrQuery running.serviceType state.now running.phase asked

theorem asking (reached : (mdnsBrowsers ptrQuery).Reached state history) :
    Asking ptrQuery state history := by
  refine Machine.Reached.family rfl ?_ reached
  intro state history action next events _ stepped
  cases step_shape stepped with
  | elapsed =>
      exact .of_same rfl (fun _ => rfl) fun _ _ asks => asks.later (Nat.le_add_right _ _)
  | published | spawned | despawned | waited =>
      exact .of_same rfl (fun _ => rfl) fun _ _ asks => asks
  | drained =>
      exact .of_same rfl (fun _ => observed_map_eq_nil _ (fun _ => rfl) _) fun _ _ asks => asks
  | started =>
      refine .of_append rfl (fun _ => observed_map_eq_nil _ (fun _ => rfl) _)
        (fun _ _ asks => asks) ?_
      intro running member
      rcases List.mem_map.mp member with ⟨browser, -, rfl⟩
      exact ⟨nofun, nofun, .nil, rfl⟩
  | browsed found browses =>
      refine .of_set found rfl (fun other different => queriedBy_of_ne different.symm _)
        (fun _ _ asks => asks) ?_
      intro past asks
      rw [queriedBy_self]
      exact asks.step browses

/-- What a task queries for is the service of its own browser, and between two of its
queries there is at least an interval. -/
structure QueriesSpaced (ptrQuery : String → Option (List UInt8)) (history : List Event) :
    Prop where
  own : ∀ task query now, .said task (.queried query now) ∈ history →
    ∃ entity serviceType, (observed Event.startedOf history)[task]? =
      some (entity, serviceType) ∧ ptrQuery serviceType = some query
  spaced : ∀ task, (observed (Event.queriedBy task) history).Pairwise
    fun earlier later => earlier.2 + QUERY_INTERVAL ≤ later.2

theorem queries_spaced (reached : (mdnsBrowsers ptrQuery).Reached state history) :
    QueriesSpaced ptrQuery history := by
  have holds := asking reached
  constructor
  · intro task query now queried
    have seen : (query, now) ∈ observed (Event.queriedBy task) history :=
      (mem_observed _).mpr ⟨_, queried, if_pos rfl⟩
    cases found : state.tasks[task]? with
    | none =>
        rw [holds.silent task (List.getElem?_eq_none_iff.mp found)] at seen
        cases seen
    | some running =>
        refine ⟨running.entity, running.serviceType, ?_, (holds.each task running found).own _ seen⟩
        rw [← (MdnsBrowsers.marked reached).owners, List.getElem?_map, found]
        rfl
  · intro task
    cases found : state.tasks[task]? with
    | none =>
        rw [holds.silent task (List.getElem?_eq_none_iff.mp found)]
        exact .nil
    | some running => exact (holds.each task running found).spaced

end

/-! ## Runs -/

/-- The length of the service type stands for its query. -/
def shortQuery (serviceType : String) : Option (List UInt8) :=
  some [serviceType.length.toUInt8]

def answer (byte : UInt8) : UdpPacket := ⟨(0, 5353), [byte]⟩

/-- Two browsers fill the queue between two frames. -/
def burst : List Action :=
  [.spawn "_a._tcp", .spawn "_b._udp", .publishStack, .startPendingBrowsers,
    .io 0 (.configUp true), .io 1 (.configUp true), .io 0 (.bound true), .io 1 (.bound true),
    .io 0 (.sent true), .io 1 (.sent true), .io 0 (.received (answer 1)),
    .io 1 (.received (answer 2)), .io 0 (.received (answer 3)), .io 0 (.received (answer 4)),
    .io 1 (.received (answer 5)), .io 1 (.received (answer 6)), .io 0 (.received (answer 7)),
    .io 1 (.received (answer 8)), .io 0 (.received (answer 9)), .drainBrowserPackets,
    .io 0 (.received (answer 10))]

theorem packets_delivered_burst :
    ∃ (state : State) (history : List Event),
      (mdnsBrowsers shortQuery).run burst = some (state, history) ∧
      PacketsDelivered burst state.packets history ∧
      observed Event.triggeredOf history = [1, 2, 3, 4, 5, 6, 7, 8].map answer ∧
      .said 0 (.dropped (answer 9)) ∈ history ∧ state.packets.items = [answer 10] :=
  have ran : (mdnsBrowsers shortQuery).run burst = some (_, _) := rfl
  ⟨_, _, ran, packets_delivered ran, rfl, by decide +kernel, rfl⟩

/-- The task of a browser fails to join its group, and another browser is despawned
before the stack is there. -/
theorem one_task_each_failed :
    ∃ (state : State) (history : List Event),
      (mdnsBrowsers shortQuery).Reached state history ∧
      OneTaskEach shortQuery state history ∧
      observed Event.startedOf history = [(1, "_b._udp"), (2, "_c._tcp")] :=
  have reached : (mdnsBrowsers shortQuery).Reached _ _ :=
    ⟨[.spawn "_a._tcp", .spawn "_b._udp", .startPendingBrowsers, .despawn 0, .publishStack,
      .startPendingBrowsers, .io 0 (.configUp false), .startPendingBrowsers,
      .spawn "_c._tcp", .startPendingBrowsers, .startPendingBrowsers], rfl⟩
  ⟨_, _, reached, one_task_each reached, rfl⟩

/-- A browser queries, receives and queries again. -/
theorem queries_spaced_again :
    ∃ (state : State) (history : List Event),
      (mdnsBrowsers shortQuery).Reached state history ∧
      QueriesSpaced shortQuery history ∧
      observed (Event.queriedBy 0) history = [([7], 3), ([7], 7000003)] :=
  have reached : (mdnsBrowsers shortQuery).Reached _ _ :=
    ⟨[.spawn "_a._tcp", .publishStack, .startPendingBrowsers, .elapse 3,
      .io 0 (.configUp true), .io 0 (.bound true), .io 0 (.sent true), .elapse 2000000,
      .io 0 (.received (answer 1)), .elapse 5000000, .io 0 .timeout, .io 0 (.sent false)],
      rfl⟩
  ⟨_, _, reached, queries_spaced reached, rfl⟩

end BeetEsp.Net.MdnsBrowsers
