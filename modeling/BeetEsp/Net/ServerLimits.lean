import BeetEsp.Esp32Utils.AsyncBridgeOrphans
import BeetEsp.Net.ServerDialogue
import Mathlib.Data.List.Perm.Subperm
import Mathlib.Data.List.Range

/-! # Full queues and stopped servers

Each accept loop has at most one request in the queue of the bridge, so the queue has room
for the requests of four servers. A server has one task, which says nothing any more after
the first poll that finds its stop signal.
-/

namespace BeetEsp.Net.HttpServer

open Foundation
open Esp32Utils

variable {Request Response : Type} {ext : ServerExt Request Response} {profile : Profile}
  {loops : TaskId → Option (Entity × Loop)} {shared next : Shared Request Response}
  {history events : List (Event Request Response)} {task : TaskId} {entity : Entity}
  {loop after : Loop} {count : Nat} {owner : SignalId → TaskId}
  {queue : List (Exchange (Entity × Request))}

/-! ## The tasks of queued requests -/

/-- Every queued request is the one of another task, which awaits its answer or is ended. -/
structure Owned (loops : TaskId → Option (Entity × Loop)) (count : Nat)
    (queue : List (Exchange (Entity × Request))) (owner : SignalId → TaskId) : Prop where
  started : ∀ exchange ∈ queue, owner exchange.reply < count
  waits : ∀ exchange ∈ queue, ∀ entity loop,
    loops (owner exchange.reply) = some (entity, loop) →
      ∃ conn, loop = .calling conn exchange.reply
  apart : (queue.map fun exchange => owner exchange.reply).Nodup

/-- A task with no request in the queue may do anything. -/
theorem Owned.change (owned : Owned loops count queue owner)
    (free : ∀ exchange ∈ queue, owner exchange.reply ≠ task)
    (found : Option (Entity × Loop)) :
    Owned (Function.update loops task found) count queue owner := by
  refine ⟨owned.started, ?_, owned.apart⟩
  intro exchange member entity loop lookup
  rw [Function.update_of_ne (free exchange member)] at lookup
  exact owned.waits exchange member entity loop lookup

/-- A task leaves its request in the queue when it ends. -/
theorem Owned.finish (owned : Owned loops count queue owner) (task : TaskId) :
    Owned (Function.update loops task none) count queue owner := by
  refine ⟨owned.started, ?_, owned.apart⟩
  intro exchange member entity loop lookup
  by_cases same : owner exchange.reply = task
  · rw [same, Function.update_self] at lookup
    cases lookup
  · rw [Function.update_of_ne same] at lookup
    exact owned.waits exchange member entity loop lookup

/-- Only the request of the call that a task awaits can be its own. -/
theorem Owned.free (owned : Owned loops count queue owner)
    (lookup : loops task = some (entity, loop))
    (other : ∀ exchange ∈ queue, ∀ conn, loop ≠ .calling conn exchange.reply) :
    ∀ exchange ∈ queue, owner exchange.reply ≠ task := by
  rintro exchange member rfl
  rcases owned.waits exchange member entity loop lookup with ⟨conn, calling⟩
  exact other exchange member conn calling

theorem Owned.send (exchange : Exchange (Entity × Request)) (entity : Entity) (conn : Nat)
    (owned : Owned loops count queue owner)
    (free : ∀ exchange ∈ queue, owner exchange.reply ≠ task)
    (new : ∀ other ∈ queue, other.reply ≠ exchange.reply) (started : task < count) :
    Owned (Function.update loops task (some (entity, .calling conn exchange.reply))) count
      (queue ++ [exchange]) (Function.update owner exchange.reply task) := by
  have kept : ∀ other ∈ queue,
      Function.update owner exchange.reply task other.reply = owner other.reply :=
    fun other member => Function.update_of_ne (new other member) _ _
  have changed := owned.change free (some (entity, .calling conn exchange.reply))
  constructor
  · intro other member
    rcases List.mem_append.mp member with earlier | last
    · rw [kept other earlier]
      exact owned.started other earlier
    · rw [List.mem_singleton.mp last, Function.update_self]
      exact started
  · intro other member found reached lookup
    rcases List.mem_append.mp member with earlier | last
    · rw [kept other earlier] at lookup
      exact changed.waits other earlier found reached lookup
    · rw [List.mem_singleton.mp last, Function.update_self, Function.update_self] at lookup
      cases lookup
      exact ⟨conn, by rw [List.mem_singleton.mp last]⟩
  · rw [List.map_append, List.map_congr_left kept, List.map_singleton, Function.update_self,
      ← List.concat_eq_append]
    apply owned.apart.concat
    intro earlier
    rcases List.mem_map.mp earlier with ⟨other, member, same⟩
    exact free other member same

theorem Owned.spawn {later : TaskId → Option (Entity × Loop)}
    (owned : Owned loops count queue owner)
    (same : ∀ task, task < count → later task = loops task) :
    Owned later (count + 1) queue owner := by
  refine ⟨fun exchange member => Nat.lt_succ_of_lt (owned.started exchange member), ?_,
    owned.apart⟩
  intro exchange member entity loop lookup
  rw [same _ (owned.started exchange member)] at lookup
  exact owned.waits exchange member entity loop lookup

/-- The world takes the oldest request. -/
theorem Owned.receive {exchange : Exchange (Entity × Request)}
    (owned : Owned loops count (exchange :: queue) owner) :
    Owned loops count queue owner :=
  ⟨fun other member => owned.started other (List.mem_cons_of_mem _ member),
    fun other member => owned.waits other (List.mem_cons_of_mem _ member),
    (List.nodup_cons.mp owned.apart).2⟩

/-- A task without a request in the queue is not counted among those that have one. -/
theorem Owned.length_lt (owned : Owned loops count queue owner)
    (free : ∀ exchange ∈ queue, owner exchange.reply ≠ task) (started : task < count) :
    queue.length < count := by
  have apart : (task :: queue.map fun exchange => owner exchange.reply).Nodup := by
    apply owned.apart.cons
    intro own
    rcases List.mem_map.mp own with ⟨exchange, member, same⟩
    exact free exchange member same
  have inside : (task :: queue.map fun exchange => owner exchange.reply) ⊆
      List.range count := by
    intro index member
    rw [List.mem_range]
    rcases List.mem_cons.mp member with rfl | own
    · exact started
    · rcases List.mem_map.mp own with ⟨exchange, queued, rfl⟩
      exact owned.started exchange queued
  have fewer := (apart.subperm inside).length_le
  rwa [List.length_cons, List.length_map, List.length_range] at fewer

/-! ## Refused requests -/

structure Queueing (loops : TaskId → Option (Entity × Loop)) (count : Nat)
    (shared : Shared Request Response) (history : List (Event Request Response)) :
    Prop where
  owned : ∃ owner, Owned loops count shared.bridge.queue.items owner
  refused : ∀ task conn, .said task conn .refused ∈ history → 4 < count

/-- Steps that refuse nothing, with tasks that have requests in the queue as before. -/
theorem Queueing.quiet {later : TaskId → Option (Entity × Loop)}
    (holds : Queueing loops count shared history)
    (owned : ∃ owner, Owned later count next.bridge.queue.items owner)
    (silent : ∀ task conn, .said task conn .refused ∉ events) :
    Queueing later count next (history ++ events) := by
  refine ⟨owned, ?_⟩
  intro task conn member
  rcases List.mem_append.mp member with earlier | now
  · exact holds.refused task conn earlier
  · exact absurd now (silent task conn)

theorem Queueing.loopStep
    (holds : Queueing (Function.update loops task (some (entity, loop))) count shared history)
    (sound : AsyncBridge.Sound shared.bridge (observed Event.bridgeOf history))
    (started : task < count)
    (shape : LoopStep ext profile task entity shared loop next after events) :
    Queueing (Function.update loops task (some (entity, after))) count next
      (history ++ events) := by
  rcases holds.owned with ⟨owner, owned⟩
  have free := owned.free (Function.update_self task _ loops)
  have stays : (∀ exchange ∈ shared.bridge.queue.items, owner exchange.reply ≠ task) →
      Owned (Function.update loops task (some (entity, after))) count
        shared.bridge.queue.items owner := by
    intro free
    have changed := owned.change free (some (entity, after))
    rwa [Function.update_idem] at changed
  cases shape with
  | configured | failed | opened | kept | malformed | written | flushed =>
      exact holds.quiet ⟨owner, stays (free nofun)⟩ (by simp)
  | @called conn buf result raw request bridge id whole parsed stepped =>
      cases AsyncBridge.step_shape stepped with
      | accepted room sent =>
          have grown := Owned.send ⟨(entity, request), _⟩ entity conn owned
            (free nofun) (fun other member => Nat.ne_of_lt (sound.queued_lt member)) started
          rw [Function.update_idem, ← sent] at grown
          exact holds.quiet ⟨_, grown⟩ (by simp)
  | refused whole parsed stepped =>
      cases AsyncBridge.step_shape stepped with
      | rejected full =>
          refine ⟨⟨owner, stays (free nofun)⟩, ?_⟩
          intro _ _ _
          have fewer := owned.length_lt (free nofun) started
          rwa [full] at fewer
  | replied stepped | unserialized stepped =>
      cases AsyncBridge.step_shape stepped with
      | returned waits answer =>
          refine holds.quiet ⟨owner, stays (free ?_)⟩ (by simp)
          rintro exchange member conn ⟨⟩
          exact sound.not_received_of_queued ⟨exchange, member, rfl⟩
            (sound.received_of_answered ⟨_, answer⟩)

theorem Queueing.drop
    (holds : Queueing (Function.update loops task (some (entity, loop))) count shared history)
    (drops : dropLoop shared loop = some (next, events)) :
    Queueing (Function.update loops task none) count next (history ++ events) := by
  rcases holds.owned with ⟨owner, owned⟩
  have ended := owned.finish task
  rw [Function.update_idem] at ended
  rcases dropLoop_eq_some drops with
    ⟨rfl, rfl, -⟩ | ⟨conn, id, bridge, rfl, cancels, rfl, rfl⟩
  · exact holds.quiet ⟨owner, ended⟩ (by simp)
  · cases AsyncBridge.step_shape cancels with
    | cancelled waits => exact holds.quiet ⟨owner, ended⟩ (by simp)

/-! ## The tasks of servers -/

/-- Each server that has its task asks for none. -/
structure Started (tasks : List AcceptTask) (servers : List Server) : Prop where
  once : (tasks.map AcceptTask.server).Nodup
  served : ∀ running ∈ tasks, ∃ entry, servers[running.server]? = some entry ∧
    entry.facet.asks = false

theorem Started.setTask {tasks : List AcceptTask} {servers : List Server}
    (started : Started tasks servers) {running changed : AcceptTask}
    (found : tasks[task]? = some running) (same : changed.server = running.server) :
    Started (tasks.set task changed) servers := by
  constructor
  · rw [List.map_set, same]
    have kept : (tasks.map AcceptTask.server)[task]? = some running.server := by
      rw [List.getElem?_map, found]
      rfl
    rcases List.getElem?_eq_some_iff.mp kept with ⟨inside, equal⟩
    rw [← equal, List.set_getElem_self]
    exact started.once
  · intro other member
    rcases List.mem_or_eq_of_mem_set member with earlier | rfl
    · exact started.served other earlier
    · rw [same]
      exact started.served running (List.mem_of_getElem? found)

theorem Started.setServer {tasks : List AcceptTask} {servers : List Server} {server : Nat}
    {facet : Facet} (started : Started tasks servers)
    (found : servers[server]? = some ⟨entity, facet⟩) (changed : Facet)
    (keeps : facet.asks = false → changed.asks = false) :
    Started tasks (servers.set server ⟨entity, changed⟩) := by
  refine ⟨started.once, ?_⟩
  intro running member
  rcases started.served running member with ⟨entry, lookup, quiet⟩
  by_cases same : server = running.server
  · subst same
    rw [found] at lookup
    cases lookup
    exact ⟨_, List.getElem?_set_self (List.getElem?_eq_some_iff.mp found).1, keeps quiet⟩
  · exact ⟨entry, by rw [List.getElem?_set_ne same, lookup], quiet⟩

/-- A server that asks has no task yet. -/
theorem Started.spawn {tasks : List AcceptTask} {servers : List Server} {server : Nat}
    {facet : Facet} (started : Started tasks servers)
    (found : servers[server]? = some ⟨entity, facet⟩) (asks : facet.asks = true)
    (loop : Option Loop) :
    Started (tasks ++ [⟨server, entity, loop⟩])
      (servers.set server ⟨entity, facet.served true⟩) := by
  have moved := started.setServer found (facet.served true) (by simp [asks])
  constructor
  · rw [List.map_append, List.map_singleton, ← List.concat_eq_append]
    apply moved.once.concat
    intro owned
    rcases List.mem_map.mp owned with ⟨running, member, same⟩
    rcases started.served running member with ⟨entry, lookup, quiet⟩
    rw [same, found] at lookup
    cases lookup
    rw [asks] at quiet
    cases quiet
  · intro running member
    rcases List.mem_append.mp member with earlier | last
    · exact moved.served running earlier
    · rw [List.mem_singleton.mp last]
      exact ⟨_, List.getElem?_set_self (List.getElem?_eq_some_iff.mp found).1,
        by cases facet <;> rfl⟩

theorem Started.length_le {tasks : List AcceptTask} {servers : List Server}
    (started : Started tasks servers) : tasks.length ≤ servers.length := by
  have inside : tasks.map AcceptTask.server ⊆ List.range servers.length := by
    intro server member
    rcases List.mem_map.mp member with ⟨running, owned, rfl⟩
    rcases started.served running owned with ⟨entry, found, -⟩
    exact List.mem_range.mpr (List.getElem?_eq_some_iff.mp found).1
  have fewer := (started.once.subperm inside).length_le
  rwa [List.length_map, List.length_range] at fewer

theorem started {state : State Request Response} {history : List (Event Request Response)}
    (reached : (httpServers ext profile).Reached state history) :
    Started state.tasks state.servers := by
  apply Machine.Reached.induction
    (fun state _ => Started state.tasks state.servers) ?start ?preserved reached
  case start => exact ⟨List.nodup_nil, nofun⟩
  case preserved =>
    intro state history action next events _ holds stepped
    cases step_shape stepped with
    | published | drained | dispatched => exact holds
    | started =>
        refine ⟨holds.once, ?_⟩
        intro running member
        rcases holds.served running member with ⟨entry, found, quiet⟩
        have inside := (List.getElem?_eq_some_iff.mp found).1
        exact ⟨entry, by rw [List.getElem?_append_left inside, found], quiet⟩
    | unserved found asks down => exact holds.setServer found _ (by simp [asks])
    | served found asks up =>
        rw [up]
        exact holds.spawn found asks _
    | @ended server entity facet found running =>
        apply holds.setServer found
        cases facet <;> simp [Facet.asks, Facet.ended]
    | polled found owner running ran => exact holds.setTask found rfl
    | stopped found owner finished ran drops => exact holds.setTask found rfl

/-! ## At most four servers -/

theorem queueing {state : State Request Response} {history : List (Event Request Response)}
    (reached : (httpServers ext profile).Reached state history) :
    Queueing (loopAt state.tasks) state.tasks.length state.shared history := by
  apply Machine.Reached.induction
    (fun state history =>
      Queueing (loopAt state.tasks) state.tasks.length state.shared history)
    ?start ?preserved reached
  case start => exact ⟨⟨fun _ => 0, nofun, nofun, List.nodup_nil⟩, nofun⟩
  case preserved =>
    intro state history action next events reached holds stepped
    have conversing := conversing reached
    have runs : ∀ {task index entity loop ios shared after events},
        state.tasks[task]? = some ⟨index, entity, some loop⟩ →
        (acceptLoop ext profile task entity).runFrom (state.shared, loop) ios =
          some ((shared, after), events) →
        Queueing (Function.update (loopAt state.tasks) task (some (entity, after)))
          state.tasks.length shared (history ++ events) := by
      intro task index entity loop ios shared after events found ran
      have inside := (List.getElem?_eq_some_iff.mp found).1
      refine (Machine.runFrom_induction (acceptLoop ext profile task entity)
        (fun reached history =>
          Conversing ext profile
            (Function.update (loopAt state.tasks) task (some (entity, reached.2)))
            reached.1 history ∧
          Queueing (Function.update (loopAt state.tasks) task (some (entity, reached.2)))
            state.tasks.length reached.1 history) ?_ ?_ ran).2
      · rintro reached action next history events both stepped
        have shape := loopStep_of_step stepped
        exact ⟨both.1.loopStep shape,
          both.2.loopStep (AsyncBridge.sound both.1.bridge) inside shape⟩
      · rw [← loopAt_eq found, Function.update_eq_self]
        exact ⟨conversing, holds⟩
    cases step_shape stepped with
    | published | started | unserved | ended =>
        rw [List.append_nil]
        exact holds
    | served found asks up =>
        rw [List.append_nil, List.length_append]
        rcases holds.owned with ⟨owner, owned⟩
        refine ⟨⟨owner, owned.spawn ?_⟩,
          fun task conn member => Nat.lt_succ_of_lt (holds.refused task conn member)⟩
        intro task inside
        rw [loopAt, loopAt, List.getElem?_append_left inside]
    | polled found owner running ran =>
        rw [loopAt_set _ _ found, List.length_set]
        exact runs found ran
    | stopped found owner finished ran drops =>
        rw [loopAt_set _ _ found, List.length_set, ← List.append_assoc]
        exact (runs found ran).drop drops
    | drained serves =>
        rcases holds.owned with ⟨owner, owned⟩
        cases AsyncBridge.step_shape serves with
        | spawned listens taken | served listens taken =>
            rw [taken] at owned
            exact holds.quiet ⟨owner, owned.receive⟩ (by simp)
    | dispatched serves =>
        cases AsyncBridge.step_shape serves with
        | answered => exact holds.quiet holds.owned (by simp)

/-- With at most four servers ever started no request is refused. -/
theorem four_servers_never_refuse {state : State Request Response}
    {history : List (Event Request Response)}
    (reached : (httpServers ext profile).Reached state history)
    (few : state.servers.length ≤ 4) (task : TaskId) (conn : Nat) :
    .said task conn .refused ∉ history := by
  intro refused
  have many := (queueing reached).refused task conn refused
  have fewer := (started reached).length_le
  omega

/-- Four servers with a request each in the queue. -/
theorem four_servers_never_refuse_full_queue :
    ∃ (state : State (List UInt8) (List UInt8)) (history : List (Event _ _)),
      (httpServers shortRequests .dev).Reached state history ∧
      state.shared.bridge.queue.items.length = 4 ∧
      ∀ task conn, .said task conn .refused ∉ history :=
  have reached : (httpServers shortRequests .dev).Reached _ _ :=
    ⟨[.publishStack, .startFacet 5, .startFacet 6, .startFacet 7, .startFacet 8, .window 0,
      .window 1, .window 2, .window 3, .poll 0 [.configUp, .accepted true, .read (.ok [1, 2])],
      .poll 1 [.configUp, .accepted true, .read (.ok [1, 2])],
      .poll 2 [.configUp, .accepted true, .read (.ok [1, 2])],
      .poll 3 [.configUp, .accepted true, .read (.ok [1, 2])]], rfl⟩
  ⟨_, _, reached, rfl, four_servers_never_refuse reached (by decide)⟩

/-! ## Stopped servers -/

/-- A loop says only what is its own. -/
theorem LoopStep.speaker
    (shape : LoopStep ext profile task entity shared loop next after events)
    {other : TaskId} {conn : Nat} {what : Said Request Response}
    (said : .said other conn what ∈ events) : other = task := by
  cases shape <;> grind

theorem runFrom_speaker {ios : List Io}
    (ran : (acceptLoop ext profile task entity).runFrom (shared, loop) ios =
      some ((next, after), events)) {other : TaskId} {conn : Nat}
    {what : Said Request Response} (said : .said other conn what ∈ events) :
    other = task := by
  have speakers : ∀ other conn what, .said other conn what ∈ [] ++ events →
      other = task := by
    refine Machine.runFrom_induction (acceptLoop ext profile task entity)
      (fun _ history => ∀ other conn what, .said other conn what ∈ history → other = task)
      ?preserved ?start ran
    case start => exact fun _ _ _ member => nomatch member
    case preserved =>
      intro state history action next events holds stepped other conn what member
      rcases List.mem_append.mp member with earlier | now
      · exact holds other conn what earlier
      · exact (loopStep_of_step stepped).speaker now
  exact speakers other conn what said

theorem ServerStep.speaker {state after : State Request Response} {action : Action Response}
    (shape : ServerStep ext profile state action after events) {task : TaskId} {conn : Nat}
    {what : Said Request Response} (said : .said task conn what ∈ events) :
    ∃ running, state.tasks[task]? = some running ∧ running.loop ≠ none := by
  cases shape with
  | published | started | unserved | served | ended => cases said
  | polled found owner running ran =>
      rw [runFrom_speaker ran said]
      exact ⟨_, found, nofun⟩
  | stopped found owner finished ran drops =>
      rcases List.mem_append.mp said with said | said
      · rw [runFrom_speaker ran said]
        exact ⟨_, found, nofun⟩
      · rcases dropLoop_eq_some drops with
          ⟨rfl, rfl, -⟩ | ⟨conn, id, bridge, rfl, cancels, rfl, rfl⟩ <;> simp at said
  | drained | dispatched => simp at said

/-- A task that is ended stays so. -/
theorem ServerStep.ended_of_ended {state after : State Request Response}
    {action : Action Response} (shape : ServerStep ext profile state action after events)
    {running : AcceptTask} (found : state.tasks[task]? = some running)
    (ended : running.loop = none) : after.tasks[task]? = some running := by
  cases shape with
  | published | started | unserved | ended | drained | dispatched => exact found
  | served => rw [List.getElem?_append_left (List.getElem?_eq_some_iff.mp found).1, found]
  | @polled other _ _ _ _ _ _ _ _ lookup | @stopped other _ _ _ _ _ _ _ _ _ _ lookup =>
      by_cases same : other = task
      · subst same
        rw [found] at lookup
        cases lookup
        cases ended
      · rw [List.getElem?_set_ne same, found]

theorem Started.task_eq {tasks : List AcceptTask} {servers : List Server}
    (started : Started tasks servers) {task other : TaskId} {running running' : AcceptTask}
    (found : tasks[task]? = some running) (found' : tasks[other]? = some running')
    (same : running.server = running'.server) : task = other := by
  have once := started.once
  rw [List.nodup_iff_getElem?_ne_getElem?] at once
  by_contra different
  rcases Nat.lt_or_gt_of_ne different with before | before
  · apply once task other before (by simpa using (List.getElem?_eq_some_iff.mp found').1)
    simp [found, found', same]
  · apply once other task before (by simpa using (List.getElem?_eq_some_iff.mp found).1)
    simp [found, found', same]

/-- After the first poll that finds the stop signal raised, the task of the server is
ended, says nothing and is not replaced. -/
theorem stopped_server_silent {back : List (Action Response)} {ios : List Io}
    {state next final : State Request Response}
    {history events last : List (Event Request Response)}
    {running : AcceptTask} {server : Server}
    (reached : (httpServers ext profile).Reached state history)
    (found : state.tasks[task]? = some running)
    (owner : state.servers[running.server]? = some server)
    (stopped : server.facet.isOver = true)
    (polled : (httpServers ext profile).step state (.poll task ios) = some (next, events))
    (continued : (httpServers ext profile).runFrom next back = some (final, last)) :
    final.tasks[task]? = some { running with loop := none } ∧
      (∀ conn what, .said task conn what ∉ last) ∧
      ∀ other replacement, final.tasks[other]? = some replacement →
        replacement.server = running.server → other = task := by
  have ended : next.tasks[task]? = some { running with loop := none } := by
    cases step_shape polled with
    | polled lookup owner' notOver ran =>
        rw [found] at lookup
        cases lookup
        rw [owner] at owner'
        cases owner'
        rw [stopped] at notOver
        cases notOver
    | stopped lookup owner' finished ran drops =>
        rw [found] at lookup
        cases lookup
        exact List.getElem?_set_self (List.getElem?_eq_some_iff.mp found).1
  have later : final.tasks[task]? = some { running with loop := none } ∧
      ∀ conn what, .said task conn what ∉ [] ++ last := by
    refine Machine.runFrom_induction (httpServers ext profile)
      (fun state history => state.tasks[task]? = some { running with loop := none } ∧
        ∀ conn what, .said task conn what ∉ history) ?preserved ?start continued
    case start => exact ⟨ended, fun _ _ member => nomatch member⟩
    case preserved =>
      intro state history action next events holds stepped
      have shape := step_shape stepped
      refine ⟨shape.ended_of_ended holds.1 rfl, ?_⟩
      intro conn what member
      rcases List.mem_append.mp member with earlier | now
      · exact holds.2 conn what earlier
      · rcases shape.speaker now with ⟨other, lookup, runs⟩
        rw [holds.1] at lookup
        cases lookup
        exact runs rfl
  refine ⟨later.1, later.2, ?_⟩
  intro other replacement lookup same
  have all := started ((reached.step polled).runFrom continued)
  exact all.task_eq lookup later.1 same

/-- A server is despawned while its loop awaits a response, which then comes too late. -/
theorem stopped_server_silent_despawned :
    ∃ (next final : State (List UInt8) (List UInt8)) (history last : List (Event _ _)),
      (httpServers shortRequests .dev).Reached next history ∧
      (httpServers shortRequests .dev).runFrom next
        [.drain, .dispatched 1 [3], .startFacet 7, .window 1] = some (final, last) ∧
      final.tasks.map AcceptTask.server = [0, 1] ∧
      ∀ conn what, .said 0 conn what ∉ last :=
  have reached : (httpServers shortRequests .dev).Reached _ _ :=
    ⟨[.publishStack, .startFacet 7, .window 0,
      .poll 0 [.configUp, .accepted true, .read (.ok [1, 2])], .endFacet 0], rfl⟩
  have polled : (httpServers shortRequests .dev).step _ (.poll 0 []) = some (_, _) := rfl
  have continued : (httpServers shortRequests .dev).runFrom _
    [.drain, .dispatched 1 [3], .startFacet 7, .window 1] = some (_, _) := rfl
  ⟨_, _, _, _, reached.step polled, continued, rfl,
    (stopped_server_silent reached rfl rfl rfl polled continued).2.1⟩

end BeetEsp.Net.HttpServer
