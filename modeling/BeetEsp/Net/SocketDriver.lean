import BeetEsp.Esp32Utils.AsyncBridgeMatching
import BeetEsp.Foundation.Family
import BeetEsp.Net.SocketOutbound

/-! # Sockets side by side

`esp_connect` hands its job over `CONNECT_BRIDGE` to `socket_driver`, which spawns a
`drive_connection` task for each and goes back to its loop. The connections run at the same
time, each with its own channels, and share only the bridge.
-/

namespace BeetEsp.Net.SocketDriver

open Foundation
open Esp32Utils
open SocketClient (BevyError WsExt ConnectJob)

def QUEUE_FULL : BevyError := "Wi-Fi socket connect queue full"

/-- What `esp_connect` reads of a url. -/
structure Url where
  secure : Bool
  authority : Option String
  host : Option String
  /-- `port_or_default` -/
  port : Option UInt16
  text : String

/-- How the firmware was built. -/
structure Build where
  secure : Bool
  /-- `BEET_SOCKET_SERVER` -/
  server : Option String

def NO_SERVER : BevyError :=
  "Socket::connect got no authority and BEET_SOCKET_SERVER is unset"

def WSS_REFUSED : BevyError :=
  "wss requires this firmware to be built with the `secure` feature"

/-- `target.contains("://")` -/
def hasScheme (target : String) : Bool :=
  target.toList.tails.any fun rest => "://".toList.isPrefixOf rest

/-- `resolve_url`, with `Url::parse`. -/
def resolveUrl (build : Build) (parse : String → Except BevyError Url) (url : Url) :
    Except BevyError Url :=
  let resolved : Except BevyError Url := match url.authority, build.server with
    | some _, _ => .ok url
    | none, some target => parse (if hasScheme target then target else "ws://" ++ target)
    | none, none => .error NO_SERVER
  resolved.bind fun url =>
    if url.secure && !build.secure then .error WSS_REFUSED else .ok url

/-- `trim_matches(['[', ']'])` -/
def trimBrackets (host : String) : String :=
  let bracket (char : Char) : Bool := char = '[' || char = ']'
  String.ofList ((host.toList.dropWhile bracket).reverse.dropWhile bracket).reverse

/-- `esp_connect` up to its call of the bridge. -/
def connectJob (build : Build) (parse : String → Except BevyError Url) (url : Url) :
    Except BevyError ConnectJob :=
  (resolveUrl build parse url).bind fun url =>
    match url.authority with
    | none => .error ("socket url has no authority: " ++ url.text)
    | some authority =>
        .ok {
          authority
          host := trimBrackets (url.host.getD "")
          port := url.port.getD (if url.secure then 443 else 80)
          secure := url.secure }

/-- `CONNECT_BRIDGE` -/
abbrev connectBridge := asyncBridge ConnectJob (Except BevyError Unit) 2

/-- A `drive_connection` task and the `Socket` it serves. -/
structure Conn (ws : WsExt) where
  /-- The call of its job. -/
  id : SignalId
  job : ConnectJob
  state : SocketClient.State ws

/-- Its `Reply`, and with it the task of the bridge. -/
def Conn.task {ws : WsExt} (conn : Conn ws) : Esp32Utils.Task ConnectJob :=
  if conn.state.reply then .job ⟨conn.job, conn.id⟩ else .ended

structure State (ws : WsExt) where
  /-- `wait_config_up` of `socket_driver` has returned. -/
  configured : Bool
  bridge : AsyncBridge.State ConnectJob (Except BevyError Unit) 2
  conns : List (Conn ws)
  /-- The calls that have returned a `Socket`. -/
  sockets : List SignalId

inductive Action (ws : WsExt)
  | configUp
  | connect (url : Url)
  | resume (id : SignalId)
  | cancel (id : SignalId)
  /-- `socket_driver` takes the next job and spawns its connection. -/
  | receive
  /-- A step of a connection or of its writer. -/
  | drive (conn : Nat) (action : SocketClient.Action ws)

inductive Event (ws : WsExt)
  /-- `esp_connect` returns without a reply. -/
  | bailed (url : Url) (error : BevyError)
  | bridge (event : AsyncBridge.Event ConnectJob (Except BevyError Unit))
  | conn (index : Nat) (event : SocketClient.Event ws)

variable {ws : WsExt}

def Event.bridgeOf : Event ws → Option (AsyncBridge.Event ConnectJob (Except BevyError Unit))
  | bridge event => some event
  | _ => none

def Event.connOf (index : Nat) : Event ws → Option (SocketClient.Event ws)
  | conn other event => if other = index then some event else none
  | _ => none

/-- What only the writer of a `Socket` does. -/
def writes : SocketClient.Action ws → Bool
  | .send _ | .close _ | .retry _ => true
  | _ => false

def Conn.initial (exchange : Exchange ConnectJob) : Conn ws where
  id := exchange.reply
  job := exchange.input
  state := (driveConnection ws exchange.input).initial

namespace State

def onBridge (state : State ws)
    (action : AsyncBridge.Action ConnectJob (Except BevyError Unit)) :
    Option (State ws × List (Event ws)) :=
  (connectBridge.step state.bridge action).map fun (bridge, events) =>
    ({ state with bridge }, events.map .bridge)

/-- A connection sends its `Reply`, if it does, in the step itself. -/
def answer (state : State ws) (index : Nat) (said : List (SocketClient.Event ws)) :
    Option (State ws × List (Event ws)) :=
  match SocketClient.replied said with
  | result :: _ => state.onBridge (.answer (index + 1) result)
  | [] => some (state, [])

def drive (state : State ws) (index : Nat) (action : SocketClient.Action ws) :
    Option (State ws × List (Event ws)) :=
  match state.conns[index]? with
  | none => none
  | some conn =>
      if writes action && conn.id ∉ state.sockets then none
      else
        ((driveConnection ws conn.job).step conn.state action).bind fun (after, said) =>
          (state.answer index said).map fun (next, events) =>
            ({ next with conns := next.conns.set index { conn with state := after } },
              said.map (.conn index) ++ events)

def step (build : Build) (parse : String → Except BevyError Url) (state : State ws) :
    Action ws → Option (State ws × List (Event ws))
  | .configUp => some ({ state with configured := true }, [])
  | .connect url =>
      match connectJob build parse url with
      | .error err => some (state, [.bailed url err])
      | .ok job =>
          (state.onBridge (.call job)).map fun (next, events) =>
            match state.bridge.queue.trySend ⟨job, state.bridge.signals.length⟩ with
            | .ok _ => (next, events)
            | .error _ => (next, events ++ [.bailed url QUEUE_FULL])
  | .resume id =>
      match state.bridge.signals[id]? with
      | some (some (.ok ())) =>
          (state.onBridge (.resume id)).map fun (next, events) =>
            ({ next with sockets := next.sockets ++ [id] }, events)
      | _ => state.onBridge (.resume id)
  | .cancel id => state.onBridge (.cancel id)
  | .receive =>
      match state.configured, state.bridge.queue.items with
      | true, exchange :: _ =>
          (state.onBridge (.receive 0)).map fun (next, events) =>
            ({ next with conns := next.conns ++ [.initial exchange] }, events)
      | _, _ => none
  | .drive index action => state.drive index action

end State

/-- `socket_driver` as `start_wifi` spawns it, and `Socket::connect`. -/
def socketDriver (ws : WsExt) (build : Build) (parse : String → Except BevyError Url) :
    Machine (State ws) (Action ws) (Event ws) where
  initial := {
    configured := false
    bridge := { queue := .empty, signals := [], awaiting := []
                tasks := [.start .socketDriver] }
    conns := []
    sockets := [] }
  step := State.step build parse

/-! ## Steps -/

/-- What a step can do. -/
inductive Step (build : Build) (parse : String → Except BevyError Url) (state : State ws) :
    State ws → List (Event ws) → Prop
  | configured : Step build parse state { state with configured := true } []
  | bailed {url err} : Step build parse state state [.bailed url err]
  | called {url job bridge happened bails} (made : connectJob build parse url = .ok job)
      (stepped : connectBridge.step state.bridge (.call job) = some (bridge, happened))
      (quiet : bails = [] ∨ ∃ url err, bails = [.bailed url err]) :
      Step build parse state { state with bridge } (happened.map .bridge ++ bails)
  | landed {id bridge happened}
      (set : state.bridge.signals[id]? = some (some (.ok ())))
      (stepped : connectBridge.step state.bridge (.resume id) = some (bridge, happened)) :
      Step build parse state { state with bridge, sockets := state.sockets ++ [id] }
        (happened.map .bridge)
  | resumed {id bridge happened}
      (stepped : connectBridge.step state.bridge (.resume id) = some (bridge, happened)) :
      Step build parse state { state with bridge } (happened.map .bridge)
  | cancelled {id bridge happened}
      (stepped : connectBridge.step state.bridge (.cancel id) = some (bridge, happened)) :
      Step build parse state { state with bridge } (happened.map .bridge)
  | received {exchange rest bridge happened}
      (first : state.bridge.queue.items = exchange :: rest)
      (stepped : connectBridge.step state.bridge (.receive 0) = some (bridge, happened)) :
      Step build parse state { state with bridge, conns := state.conns ++ [.initial exchange] }
        (happened.map .bridge)
  | drove {index conn action after said} (found : state.conns[index]? = some conn)
      (allowed : writes action = true → conn.id ∈ state.sockets)
      (stepped : (driveConnection ws conn.job).step conn.state action = some (after, said))
      (silent : SocketClient.replied said = []) :
      Step build parse state
        { state with conns := state.conns.set index { conn with state := after } }
        (said.map (.conn index))
  | answered {index conn action after said result rest bridge happened}
      (found : state.conns[index]? = some conn)
      (allowed : writes action = true → conn.id ∈ state.sockets)
      (stepped : (driveConnection ws conn.job).step conn.state action = some (after, said))
      (replies : SocketClient.replied said = result :: rest)
      (answers : connectBridge.step state.bridge (.answer (index + 1) result) =
        some (bridge, happened)) :
      Step build parse state
        { state with bridge, conns := state.conns.set index { conn with state := after } }
        (said.map (.conn index) ++ happened.map .bridge)

section

variable {build : Build} {parse : String → Except BevyError Url}
  {state next : State ws} {events : List (Event ws)}

theorem onBridge_eq_some {action : AsyncBridge.Action ConnectJob (Except BevyError Unit)}
    (stepped : state.onBridge action = some (next, events)) :
    ∃ bridge happened, connectBridge.step state.bridge action = some (bridge, happened) ∧
      next = { state with bridge } ∧ events = happened.map .bridge := by
  rcases Option.map_eq_some_iff.mp stepped with ⟨⟨bridge, happened⟩, inner, equal⟩
  cases equal
  exact ⟨bridge, happened, inner, rfl, rfl⟩

theorem step_of_drive {index : Nat} {action : SocketClient.Action ws}
    (stepped : state.drive index action = some (next, events)) :
    Step build parse state next events := by
  rw [State.drive] at stepped
  split at stepped
  case h_1 => cases stepped
  case h_2 conn found =>
    split at stepped
    case isTrue => cases stepped
    case isFalse guarded =>
      have allowed : writes action = true → conn.id ∈ state.sockets := by
        intro writing
        simpa [writing] using guarded
      rcases Option.bind_eq_some_iff.mp stepped with ⟨⟨after, said⟩, inner, rest⟩
      rcases Option.map_eq_some_iff.mp rest with ⟨⟨middle, own⟩, answers, equal⟩
      cases equal
      rw [State.answer] at answers
      split at answers
      case h_1 result others replies =>
        rcases onBridge_eq_some answers with ⟨bridge, happened, answered, rfl, rfl⟩
        exact .answered found allowed inner replies answered
      case h_2 silent =>
        cases answers
        rw [List.append_nil]
        exact .drove found allowed inner silent

theorem step_shape {action : Action ws}
    (stepped : (socketDriver ws build parse).step state action = some (next, events)) :
    Step build parse state next events := by
  change State.step build parse state action = some (next, events) at stepped
  cases action with
  | configUp =>
      cases stepped
      exact .configured
  | connect url =>
      simp only [State.step] at stepped
      split at stepped
      case h_1 =>
        cases stepped
        exact .bailed
      case h_2 job made =>
        rcases Option.map_eq_some_iff.mp stepped with ⟨⟨middle, own⟩, inner, equal⟩
        rcases onBridge_eq_some inner with ⟨bridge, happened, called, rfl, rfl⟩
        split at equal <;> cases equal
        · rw [← List.append_nil (happened.map _)]
          exact .called made called (.inl rfl)
        · exact .called made called (.inr ⟨_, _, rfl⟩)
  | resume id =>
      simp only [State.step] at stepped
      split at stepped
      case h_1 set =>
        rcases Option.map_eq_some_iff.mp stepped with ⟨⟨middle, own⟩, inner, equal⟩
        rcases onBridge_eq_some inner with ⟨bridge, happened, resumed, rfl, rfl⟩
        cases equal
        exact .landed set resumed
      case h_2 =>
        rcases onBridge_eq_some stepped with ⟨bridge, happened, resumed, rfl, rfl⟩
        exact .resumed resumed
  | cancel id =>
      rcases onBridge_eq_some stepped with ⟨bridge, happened, cancelled, rfl, rfl⟩
      exact .cancelled cancelled
  | receive =>
      simp only [State.step] at stepped
      split at stepped
      case h_1 exchange rest first =>
        rcases Option.map_eq_some_iff.mp stepped with ⟨⟨middle, own⟩, inner, equal⟩
        rcases onBridge_eq_some inner with ⟨bridge, happened, received, rfl, rfl⟩
        cases equal
        exact .received first received
      case h_2 => cases stepped
  | drive index action => exact step_of_drive stepped

/-! ## Each connection on its own -/

theorem connOf_bridge (index : Nat)
    (happened : List (AsyncBridge.Event ConnectJob (Except BevyError Unit))) :
    observed (Event.connOf index) (happened.map (Event.bridge : _ → Event ws)) = [] :=
  observed_map_eq_nil _ (fun _ => rfl) happened

theorem connOf_self (index : Nat) (said : List (SocketClient.Event ws)) :
    observed (Event.connOf index) (said.map (.conn index)) = said := by
  have each : ∀ event, (Event.conn index event : Event ws).connOf index = some event :=
    fun _ => if_pos rfl
  rw [observed_map _ each, List.map_id']

theorem connOf_of_ne {index other : Nat} (different : other ≠ index)
    (said : List (SocketClient.Event ws)) :
    observed (Event.connOf index) (said.map (.conn other)) = [] := by
  have none : ∀ event, (Event.conn other event : Event ws).connOf index = none :=
    fun _ => if_neg different
  exact observed_map_eq_nil _ none said

/-- Every connection runs as if it were alone. -/
abbrev Alone (state : State ws) (history : List (Event ws)) : Prop :=
  Machine.Family State.conns Event.connOf
    (fun _ conn said => (driveConnection ws conn.job).Reached conn.state said) state history

theorem alone {history : List (Event ws)}
    (reached : (socketDriver ws build parse).Reached state history) :
    Alone state history := by
  refine Machine.Reached.family rfl ?_ reached
  intro state history action next events _ stepped
  cases step_shape stepped with
  | configured | bailed => exact .of_same rfl (fun _ => rfl) fun _ _ reached => reached
  | called made stepped quiet =>
      refine .of_same rfl (fun index => ?_) fun _ _ reached => reached
      rw [observed_append, connOf_bridge]
      rcases quiet with rfl | ⟨url, err, rfl⟩ <;> rfl
  | landed | resumed | cancelled =>
      exact .of_same rfl (fun index => connOf_bridge index _) fun _ _ reached => reached
  | received first stepped =>
      refine .of_append rfl (fun index => connOf_bridge index _) (fun _ _ reached => reached) ?_
      intro conn member
      cases List.mem_singleton.mp member
      exact (driveConnection ws _).reached_initial
  | drove found allowed ran silent =>
      refine .of_set found rfl (fun other different => connOf_of_ne different.symm _)
        (fun _ _ reached => reached) ?_
      intro past reached
      rw [connOf_self]
      exact reached.step ran
  | answered found allowed ran replies answers =>
      refine .of_set found rfl ?_ (fun _ _ reached => reached) ?_
      · intro other different
        rw [observed_append, connOf_of_ne different.symm, connOf_bridge]
        rfl
      · intro past reached
        rw [observed_append, connOf_self, connOf_bridge, List.append_nil]
        exact reached.step ran

/-! ## Connections and their calls -/

theorem replied_append (front back : List (SocketClient.Event ws)) :
    SocketClient.replied (front ++ back) =
      SocketClient.replied front ++ SocketClient.replied back :=
  observed_append _ front back

/-- The `Reply` is there until it is sent, once. -/
theorem reply_eq {job : ConnectJob} {conn : SocketClient.State ws}
    {said : List (SocketClient.Event ws)}
    (reached : (driveConnection ws job).Reached conn said) :
    conn.reply = (SocketClient.replied said).isEmpty ∧
      (SocketClient.replied said).length ≤ 1 := by
  cases SocketClient.stage_of_reached reached with
  | dialing phase holds inbound socket quiet =>
      rw [holds, quiet.replied]
      exact ⟨rfl, Nat.zero_le _⟩
  | talking phase talking =>
      rw [talking.answered, talking.replied]
      exact ⟨rfl, Nat.le_refl _⟩
  | refused err phase answered inbound socket replied | finished _ phase answered _ _ replied =>
      rw [answered, replied]
      exact ⟨rfl, Nat.le_refl _⟩

/-- The tasks of the bridge are the connections, and what a connection replied is the
answer to the call of its job. -/
structure Paired (state : State ws) (history : List (Event ws)) : Prop where
  tasks : state.bridge.tasks = .listening .socketDriver :: state.conns.map Conn.task
  received : ∀ index conn, state.conns[index]? = some conn →
    .bridge (.received (index + 1) conn.id conn.job) ∈ history
  answered : ∀ task id out, .bridge (.answered task id out) ∈ history →
    ∃ index conn, task = index + 1 ∧ state.conns[index]? = some conn ∧ conn.id = id ∧
      SocketClient.replied (observed (Event.connOf index) history) = [out]

variable {history : List (Event ws)}

/-- A step that neither answers nor spawns, with the bridge at rest or at a caller. -/
theorem Paired.quiet (holds : Paired state history)
    (tasks : next.bridge.tasks = state.bridge.tasks) (conns : next.conns = state.conns)
    (none : ∀ index, observed (Event.connOf index) events = [])
    (noAnswer : ∀ task id out, .bridge (.answered task id out) ∉ events) :
    Paired next (history ++ events) := by
  constructor
  · rw [tasks, conns]
    exact holds.tasks
  · intro index conn found
    rw [conns] at found
    exact List.mem_append_left _ (holds.received index conn found)
  · intro task id out member
    rcases List.mem_append.mp member with earlier | now
    · rcases holds.answered task id out earlier with ⟨index, conn, place, found, own, replied⟩
      refine ⟨index, conn, place, by rw [conns]; exact found, own, ?_⟩
      rw [observed_append, none, List.append_nil]
      exact replied
    · exact absurd now (noAnswer task id out)

/-- What a caller does at the bridge. -/
theorem caller_step {bridge after : AsyncBridge.State ConnectJob (Except BevyError Unit) 2}
    {action : AsyncBridge.Action ConnectJob (Except BevyError Unit)}
    {happened : List (AsyncBridge.Event ConnectJob (Except BevyError Unit))}
    (caller : (∃ job, action = .call job) ∨ (∃ id, action = .resume id) ∨
      ∃ id, action = .cancel id)
    (stepped : connectBridge.step bridge action = some (after, happened)) :
    after.tasks = bridge.tasks ∧ ∀ task id out, .answered task id out ∉ happened := by
  have shape := AsyncBridge.step_shape stepped
  rcases caller with ⟨job, rfl⟩ | ⟨id, rfl⟩ | ⟨id, rfl⟩ <;> cases shape <;> simp

theorem receive_spawns {bridge after : AsyncBridge.State ConnectJob (Except BevyError Unit) 2}
    {tasks : List (Esp32Utils.Task ConnectJob)} {exchange : Exchange ConnectJob}
    {rest : List (Exchange ConnectJob)}
    {happened : List (AsyncBridge.Event ConnectJob (Except BevyError Unit))}
    (shape : bridge.tasks = .listening .socketDriver :: tasks)
    (first : bridge.queue.items = exchange :: rest)
    (stepped : connectBridge.step bridge (.receive 0) = some (after, happened)) :
    after.tasks = bridge.tasks ++ [.job exchange] ∧
      happened = [.received bridge.tasks.length exchange.reply exchange.input] := by
  have lookup : bridge.tasks[0]? = some (.listening .socketDriver) := by rw [shape]; rfl
  simp only [asyncBridge, AsyncBridge.step, lookup] at stepped
  cases received : bridge.queue.tryReceive with
  | none =>
      simp only [received] at stepped
      cases stepped
  | some taken =>
      rcases taken with ⟨oldest, queue⟩
      have same := first.symm.trans (BoundedQueue.tryReceive_eq_some received)
      rw [List.cons.injEq] at same
      simp only [received, Responder.spawnsJobs, if_true, Option.some.injEq,
        Prod.mk.injEq] at stepped
      rcases stepped with ⟨rfl, rfl⟩
      rw [same.1]
      exact ⟨rfl, rfl⟩

theorem Paired.receive (holds : Paired state history) {exchange : Exchange ConnectJob}
    {rest : List (Exchange ConnectJob)}
    {bridge : AsyncBridge.State ConnectJob (Except BevyError Unit) 2}
    {happened : List (AsyncBridge.Event ConnectJob (Except BevyError Unit))}
    (first : state.bridge.queue.items = exchange :: rest)
    (stepped : connectBridge.step state.bridge (.receive 0) = some (bridge, happened)) :
    Paired { state with bridge, conns := state.conns ++ [.initial exchange] }
      (history ++ happened.map .bridge) := by
  rcases receive_spawns holds.tasks first stepped with ⟨tasks, rfl⟩
  have length : state.bridge.tasks.length = state.conns.length + 1 := by
    rw [holds.tasks, List.length_cons, List.length_map]
  constructor
  · rw [tasks, holds.tasks, List.map_append]
    rfl
  · intro index conn found
    rcases Nat.lt_or_ge index state.conns.length with inside | outside
    · rw [List.getElem?_append_left inside] at found
      exact List.mem_append_left _ (holds.received index conn found)
    · have last : index = state.conns.length := by
        have bound : index < (state.conns ++ [Conn.initial exchange]).length :=
          (List.getElem?_eq_some_iff.mp found).1
        rw [List.length_append, List.length_singleton] at bound
        exact Nat.le_antisymm (Nat.le_of_lt_succ bound) outside
      subst last
      rw [List.getElem?_append_right (Nat.le_refl _), Nat.sub_self] at found
      cases found
      rw [length]
      exact List.mem_append_right _ List.mem_cons_self
  · intro task id out member
    rcases List.mem_append.mp member with earlier | now
    · rcases holds.answered task id out earlier with ⟨index, conn, place, found, own, replied⟩
      refine ⟨index, conn, place, ?_, own, ?_⟩
      · rw [List.getElem?_append_left (List.getElem?_eq_some_iff.mp found).1]
        exact found
      · rw [observed_append, connOf_bridge, List.append_nil]
        exact replied
    · simp at now

/-- A connection that stays with its job. -/
theorem conns_set {conns : List (Conn ws)} {index other : Nat} {conn found : Conn ws}
    {after : SocketClient.State ws} (present : conns[index]? = some conn)
    (lookup : (conns.set index { conn with state := after })[other]? = some found) :
    ∃ before, conns[other]? = some before ∧ before.id = found.id ∧ before.job = found.job := by
  rw [List.getElem?_set] at lookup
  split at lookup
  case isTrue same =>
    subst same
    split at lookup <;> cases lookup
    exact ⟨conn, present, rfl, rfl⟩
  case isFalse => exact ⟨found, lookup, rfl, rfl⟩

/-- A step of a connection leaves what the others replied. -/
theorem Paired.answered_set (holds : Paired state history) (alone : Alone state history)
    {index : Nat} {conn : Conn ws} {after : SocketClient.State ws}
    {action : SocketClient.Action ws} {said : List (SocketClient.Event ws)}
    (found : state.conns[index]? = some conn)
    (ran : (driveConnection ws conn.job).step conn.state action = some (after, said))
    (happened : List (AsyncBridge.Event ConnectJob (Except BevyError Unit)))
    {task : Esp32Utils.TaskId} {id : SignalId} {out : Except BevyError Unit}
    (answered : .bridge (.answered task id out) ∈ history) :
    ∃ other changed, task = other + 1 ∧
      (state.conns.set index { conn with state := after })[other]? = some changed ∧
      changed.id = id ∧ SocketClient.replied (observed (Event.connOf other)
        (history ++ (said.map (.conn index) ++ happened.map .bridge))) = [out] := by
  rcases holds.answered task id out answered with ⟨other, before, place, present, own, replied⟩
  by_cases same : other = index
  · subst same
    rw [found] at present
    cases present
    refine ⟨other, { conn with state := after }, place, ?_, own, ?_⟩
    · rw [List.getElem?_set_self (List.getElem?_eq_some_iff.mp found).1]
    · -- The reply was sent, and no second one follows.
      have once := (reply_eq ((alone.each other conn found).step ran)).2
      rw [observed_append, observed_append, connOf_self, connOf_bridge, List.append_nil]
      rw [replied_append, replied, List.length_append] at once
      have none : SocketClient.replied said = [] := by
        apply List.eq_nil_of_length_eq_zero
        rw [List.length_singleton] at once
        omega
      rw [replied_append, replied, none, List.append_nil]
  · refine ⟨other, before, place, ?_, own, ?_⟩
    · rw [List.getElem?_set_ne (Ne.symm same)]
      exact present
    · rw [observed_append, observed_append, connOf_of_ne (Ne.symm same), connOf_bridge,
        List.append_nil, List.append_nil]
      exact replied

theorem Paired.drive (holds : Paired state history) (alone : Alone state history)
    {index : Nat} {conn : Conn ws} {after : SocketClient.State ws}
    {action : SocketClient.Action ws} {said : List (SocketClient.Event ws)}
    (found : state.conns[index]? = some conn)
    (ran : (driveConnection ws conn.job).step conn.state action = some (after, said))
    (silent : SocketClient.replied said = []) :
    Paired { state with conns := state.conns.set index { conn with state := after } }
      (history ++ said.map (.conn index)) := by
  have reply : after.reply = conn.state.reply := by
    have now := (reply_eq ((alone.each index conn found).step ran)).1
    rw [replied_append, silent, List.append_nil] at now
    rw [now, (reply_eq (alone.each index conn found)).1]
  constructor
  · have same : Conn.task { conn with state := after } = conn.task := by
      simp only [Conn.task, reply]
    have present : (state.conns.map Conn.task)[index]? = some conn.task := by
      rw [List.getElem?_map, found, Option.map_some]
    rcases List.getElem?_eq_some_iff.mp present with ⟨bound, value⟩
    rw [List.map_set, same, ← value, List.set_getElem_self]
    exact holds.tasks
  · intro other changed lookup
    rcases conns_set found lookup with ⟨before, present, id, job⟩
    rw [← id, ← job]
    exact List.mem_append_left _ (holds.received other before present)
  · intro task id out member
    rcases List.mem_append.mp member with earlier | now
    · have kept := holds.answered_set alone found ran [] earlier
      rwa [List.map_nil, List.append_nil] at kept
    · simp at now

theorem Paired.answer (holds : Paired state history) (alone : Alone state history)
    {index : Nat} {conn : Conn ws} {after : SocketClient.State ws}
    {action : SocketClient.Action ws} {said : List (SocketClient.Event ws)}
    {result : Except BevyError Unit} {rest : List (Except BevyError Unit)}
    {bridge : AsyncBridge.State ConnectJob (Except BevyError Unit) 2}
    {happened : List (AsyncBridge.Event ConnectJob (Except BevyError Unit))}
    (found : state.conns[index]? = some conn)
    (ran : (driveConnection ws conn.job).step conn.state action = some (after, said))
    (replies : SocketClient.replied said = result :: rest)
    (answers : connectBridge.step state.bridge (.answer (index + 1) result) =
      some (bridge, happened)) :
    Paired { state with bridge, conns := state.conns.set index { conn with state := after } }
      (history ++ (said.map (.conn index) ++ happened.map .bridge)) := by
  have before := reply_eq (alone.each index conn found)
  have now := reply_eq ((alone.each index conn found).step ran)
  rw [replied_append, replies] at now
  have first : SocketClient.replied (observed (Event.connOf index) history) = [] := by
    apply List.eq_nil_of_length_eq_zero
    have once := now.2
    rw [List.length_append, List.length_cons] at once
    omega
  have only : rest = [] := by
    apply List.eq_nil_of_length_eq_zero
    have once := now.2
    rw [List.length_append, List.length_cons] at once
    omega
  have held : conn.task = .job ⟨conn.job, conn.id⟩ := if_pos (by rw [before.1, first]; rfl)
  have sent : Conn.task { conn with state := after } = .ended := by
    have gone : after.reply = false := by rw [now.1, first]; rfl
    simp only [Conn.task, gone, Bool.false_eq_true, if_false]
  have lookup : state.bridge.tasks[index + 1]? = some (.job ⟨conn.job, conn.id⟩) := by
    rw [holds.tasks, List.getElem?_cons_succ, List.getElem?_map, found, Option.map_some, held]
  cases AsyncBridge.step_shape answers with
  | @answered _ holder exchange _ holder' held' =>
      cases lookup.symm.trans holder'
      cases held'
      constructor
      · rw [holds.tasks, List.set_cons_succ, List.map_set, sent]
        rfl
      · intro other changed present
        rcases conns_set found present with ⟨old, earlier, id, job⟩
        rw [← id, ← job]
        exact List.mem_append_left _ (holds.received other old earlier)
      · intro task id out member
        rcases List.mem_append.mp member with earlier | latest
        · exact holds.answered_set alone found ran _ earlier
        · rcases List.mem_append.mp latest with mine | bridged
          · simp at mine
          · simp only [List.map_cons, List.map_nil, List.mem_singleton, Event.bridge.injEq,
              AsyncBridge.Event.answered.injEq] at bridged
            rcases bridged with ⟨rfl, rfl, rfl⟩
            refine ⟨index, { conn with state := after }, rfl, ?_, rfl, ?_⟩
            · rw [List.getElem?_set_self (List.getElem?_eq_some_iff.mp found).1]
            · rw [observed_append, observed_append, connOf_self, connOf_bridge,
                List.append_nil, replied_append, first, replies, only, List.nil_append]

theorem paired (reached : (socketDriver ws build parse).Reached state history) :
    Paired state history := by
  apply Machine.Reached.induction Paired ?start ?preserved reached
  case start => exact ⟨rfl, nofun, nofun⟩
  case preserved =>
    intro state history action next events reached holds stepped
    have alone := alone reached
    cases step_shape stepped with
    | configured => exact holds.quiet rfl rfl (fun _ => rfl) fun _ _ _ => nofun
    | bailed => exact holds.quiet rfl rfl (fun _ => rfl) (by simp)
    | called made called quiet =>
        have caller := caller_step (.inl ⟨_, rfl⟩) called
        refine holds.quiet caller.1 rfl ?_ ?_
        · intro index
          rw [observed_append, connOf_bridge]
          rcases quiet with rfl | ⟨url, err, rfl⟩ <;> rfl
        · intro task id out
          rcases quiet with rfl | ⟨url, err, rfl⟩ <;> simpa using caller.2 task id out
    | landed set resumed | resumed resumed =>
        have caller := caller_step (.inr (.inl ⟨_, rfl⟩)) resumed
        refine holds.quiet caller.1 rfl (fun index => connOf_bridge index _) ?_
        intro task id out
        simpa using caller.2 task id out
    | cancelled cancelled =>
        have caller := caller_step (.inr (.inr ⟨_, rfl⟩)) cancelled
        refine holds.quiet caller.1 rfl (fun index => connOf_bridge index _) ?_
        intro task id out
        simpa using caller.2 task id out
    | received first received => exact holds.receive first received
    | drove found allowed ran silent => exact holds.drive alone found ran silent
    | answered found allowed ran replies answers =>
        exact holds.answer alone found ran replies answers

/-! ## Connects and their sockets -/

/-- A secure job is made only where TLS is built in. -/
theorem connectJob_secure {url : Url} {job : ConnectJob}
    (made : connectJob build parse url = .ok job) (secure : job.secure = true) :
    build.secure = true := by
  rw [connectJob] at made
  cases resolved : resolveUrl build parse url with
  | error err =>
      rw [resolved] at made
      cases made
  | ok target =>
      have allowed : target.secure = true → build.secure = true := by
        rw [resolveUrl] at resolved
        intro wanted
        generalize (match url.authority, build.server with
          | some _, _ => Except.ok url
          | none, some target => parse (if hasScheme target then target else "ws://" ++ target)
          | none, none => .error NO_SERVER) = parsed at resolved
        cases parsed with
        | error err => cases resolved
        | ok parsed =>
            simp only [Except.bind] at resolved
            split at resolved
            case isTrue => cases resolved
            case isFalse guarded =>
              cases resolved
              simpa [wanted] using guarded
      rw [resolved] at made
      simp only [Except.bind] at made
      split at made
      case h_1 => cases made
      case h_2 =>
        cases made
        exact allowed secure

@[simp] theorem bridgeOf_bridge
    (happened : List (AsyncBridge.Event ConnectJob (Except BevyError Unit))) :
    (happened.map (Event.bridge : _ → Event ws)).filterMap Event.bridgeOf = happened := by
  simp [List.filterMap_map, Function.comp_def, Event.bridgeOf]

@[simp] theorem bridgeOf_conn (index : Nat) (said : List (SocketClient.Event ws)) :
    (said.map (Event.conn index)).filterMap Event.bridgeOf = [] := by
  simp [List.filterMap_map, Function.comp_def, Event.bridgeOf]

theorem bridge_follows (shape : Step build parse state next events) :
    connectBridge.Follows state.bridge next.bridge (events.filterMap Event.bridgeOf) := by
  cases shape with
  | configured | bailed => exact .inl ⟨rfl, rfl⟩
  | @called url job bridge happened bails made stepped quiet =>
      have none : bails.filterMap Event.bridgeOf = [] := by
        rcases quiet with rfl | ⟨url, err, rfl⟩ <;> rfl
      rw [List.filterMap_append, bridgeOf_bridge, none, List.append_nil]
      exact .inr ⟨_, stepped⟩
  | landed set stepped | resumed stepped | cancelled stepped | received first stepped =>
      rw [bridgeOf_bridge]
      exact .inr ⟨_, stepped⟩
  | drove => exact .inl ⟨rfl, bridgeOf_conn _ _⟩
  | answered found allowed ran replies answers =>
      rw [List.filterMap_append, bridgeOf_conn, bridgeOf_bridge, List.nil_append]
      exact .inr ⟨_, answers⟩

theorem bridge_reached (reached : (socketDriver ws build parse).Reached state history) :
    connectBridge.Reached state.bridge (observed Event.bridgeOf history) := by
  apply Machine.Reached.project State.bridge Event.bridgeOf _ _ reached
  · exact ⟨[.start .socketDriver], rfl⟩
  · exact fun stepped => bridge_follows (step_shape stepped)

theorem mem_bridgeOf {event : AsyncBridge.Event ConnectJob (Except BevyError Unit)} :
    event ∈ observed Event.bridgeOf history ↔ .bridge event ∈ history := by
  rw [mem_observed]
  constructor
  · rintro ⟨found, member, same⟩
    cases found <;> cases same
    exact member
  · exact fun member => ⟨_, member, rfl⟩

/-- A call that returned a `Socket` says so. -/
theorem landed (reached : (socketDriver ws build parse).Reached state history) :
    ∀ id ∈ state.sockets, .bridge (.returned id (.ok ())) ∈ history := by
  apply Machine.Reached.induction (fun state history => ∀ id ∈ state.sockets,
    .bridge (.returned id (.ok ())) ∈ history) ?start ?preserved reached
  case start => exact fun _ => nofun
  case preserved =>
    intro state history action next events _ holds stepped id member
    cases step_shape stepped with
    | landed set resumed =>
        rcases List.mem_append.mp member with earlier | now
        · exact List.mem_append_left _ (holds id earlier)
        · cases List.mem_singleton.mp now
          cases AsyncBridge.step_shape resumed with
          | returned waits answer =>
              cases set.symm.trans answer
              exact List.mem_append_right _ List.mem_cons_self
    | configured | bailed | called | resumed | cancelled | received | drove | answered =>
        exact List.mem_append_left _ (holds id member)

/-- Only the writer has a message accepted. -/
theorem writes_of_accepted {job : ConnectJob} {conn after : SocketClient.State ws}
    {action : SocketClient.Action ws} {said : List (SocketClient.Event ws)} {message : ws.Msg}
    (step : SocketClient.Step job conn action after said)
    (member : .accepted message ∈ said) : writes action = true := by
  have silent : ∀ {said : List (SocketClient.Event ws)}, SocketClient.Unsent said →
      .accepted message ∉ said := by
    intro said unsent inside
    have shown : message ∈ SocketClient.accepted said := (mem_observed _).mpr ⟨_, inside, rfl⟩
    rw [unsent.accepted] at shown
    cases shown
  cases step with
  | dialed => cases member
  | dialFailed | ended | flushedClose =>
      exact absurd member (silent (SocketClient.untouched_finish _ _).unsent)
  | broke =>
      rcases List.mem_cons.mp member with same | inside
      · cases same
      · exact absurd inside (silent (SocketClient.untouched_finish _ _).unsent)
  | responded reading responded =>
      rcases List.mem_cons.mp member with same | inside
      · cases same
      · exact absurd inside (silent (SocketClient.untouched_responded responded).unsent)
  | pumped selecting nonempty pumped =>
      rcases List.mem_cons.mp member with same | inside
      · cases same
      · exact absurd inside (silent (SocketClient.untouched_pumped pumped).unsent)
  | flushed flushing stays pumped =>
      exact absurd member (silent (SocketClient.untouched_pumped pumped).unsent)
  | took | wrote | blocked => simp at member
  | accepted socket sends => rcases sends with rfl | ⟨frame, rfl, -⟩ <;> rfl
  | woken | waited => rfl

/-- A message is accepted from a caller that has its `Socket`. -/
theorem Step.writes {front back : List (Event ws)} {index : Nat} {message : ws.Msg}
    (shape : Step build parse state next (front ++ .conn index (.accepted message) :: back)) :
    ∃ conn, state.conns[index]? = some conn ∧ conn.id ∈ state.sockets := by
  generalize produced : front ++ Event.conn index (.accepted message) :: back = events at shape
  have member : .conn index (.accepted message) ∈ events := by
    rw [← produced]
    simp
  cases shape with
  | configured | bailed => simp at member
  | called made stepped quiet => rcases quiet with rfl | ⟨url, err, rfl⟩ <;> simp at member
  | landed | resumed | cancelled | received => simp at member
  | drove found allowed ran silent =>
      simp only [List.mem_map, Event.conn.injEq] at member
      rcases member with ⟨event, inside, rfl, rfl⟩
      exact ⟨_, found, allowed (writes_of_accepted (SocketClient.step_shape ran) inside)⟩
  | answered found allowed ran replies answers =>
      simp only [List.mem_append, List.mem_map, Event.conn.injEq, reduceCtorEq, and_false,
        exists_false, or_false] at member
      rcases member with ⟨event, inside, rfl, rfl⟩
      exact ⟨_, found, allowed (writes_of_accepted (SocketClient.step_shape ran) inside)⟩

/-- Every job was made of a url. -/
theorem made (reached : (socketDriver ws build parse).Reached state history) :
    ∀ id job, .bridge (.accepted id job) ∈ history →
      ∃ url, connectJob build parse url = .ok job := by
  apply Machine.Reached.induction (fun _ history => ∀ id job,
    .bridge (.accepted id job) ∈ history → ∃ url, connectJob build parse url = .ok job)
    ?start ?preserved reached
  case start => exact fun _ _ => nofun
  case preserved =>
    intro state history action next events _ holds stepped id job accepted
    rcases List.mem_append.mp accepted with earlier | now
    · exact holds id job earlier
    · cases step_shape stepped with
      | configured | bailed => simp at now
      | @called url _ _ happened bails made called quiet =>
          have inside : .accepted id job ∈ happened := by
            rcases quiet with rfl | ⟨url, err, rfl⟩ <;> simpa using now
          cases AsyncBridge.call_of_accepted (AsyncBridge.step_shape called) inside
          exact ⟨url, made⟩
      | landed set ran | resumed ran | cancelled ran | received first ran =>
          cases AsyncBridge.call_of_accepted (AsyncBridge.step_shape ran) (by simpa using now)
      | drove => simp at now
      | answered found allowed ran replies answers =>
          cases AsyncBridge.call_of_accepted (AsyncBridge.step_shape answers)
            (by simpa using now)

/-- What a history shows of the connections: each runs as if it were alone, a connect
returns what the connection of its own job replied, and a `Socket` only once the handshake
of that connection was validated, and nothing is written to it before. A build without TLS
dials no `wss` url. -/
structure SocketsOwn (build : Build) (state : State ws) (history : List (Event ws)) :
    Prop where
  alone : ∀ index conn, state.conns[index]? = some conn →
    (driveConnection ws conn.job).Reached conn.state (observed (Event.connOf index) history) ∧
      .bridge (.received (index + 1) conn.id conn.job) ∈ history
  distinct : ∀ (index other : Nat) conn conn', state.conns[index]? = some conn →
    state.conns[other]? = some conn' → conn.id = conn'.id → index = other
  own : ∀ id result, .bridge (.returned id result) ∈ history →
    ∃ index conn, state.conns[index]? = some conn ∧ conn.id = id ∧
      SocketClient.replied (observed (Event.connOf index) history) = [result] ∧
      (result = .ok () →
        ∃ key, SocketClient.validated (observed (Event.connOf index) history) = [key])
  writes : ∀ before index message after,
    history = before ++ .conn index (.accepted message) :: after →
    ∃ id job, .bridge (.received (index + 1) id job) ∈ before ∧
      .bridge (.returned id (.ok ())) ∈ before
  refused : build.secure = false → ∀ (index : Nat) conn, state.conns[index]? = some conn →
    conn.job.secure = false

theorem validated_of_landed {job : ConnectJob} {conn : SocketClient.State ws}
    {said : List (SocketClient.Event ws)}
    (reached : (driveConnection ws job).Reached conn said)
    (replied : SocketClient.replied said = [.ok ()]) :
    ∃ key, SocketClient.validated said = [key] := by
  cases SocketClient.stage_of_reached reached with
  | dialing phase holds inbound socket quiet =>
      rw [quiet.replied] at replied
      cases replied
  | talking phase talking => exact talking.validated
  | refused err phase answered inbound socket refused =>
      rw [refused] at replied
      cases replied
  | finished result phase answered inbound socket replied pushed validated => exact validated

theorem sockets_own (reached : (socketDriver ws build parse).Reached state history) :
    SocketsOwn build state history := by
  have alone := alone reached
  have paired := paired reached
  have sound := AsyncBridge.sound (bridge_reached reached)
  constructor
  · exact fun index conn found => ⟨alone.each index conn found, paired.received index conn found⟩
  · intro index other conn conn' found found' same
    have received := mem_bridgeOf.mpr (paired.received index conn found)
    have received' := mem_bridgeOf.mpr (paired.received other conn' found')
    rw [← same] at received'
    exact Nat.succ.inj (sound.flow.receiver_eq received received')
  · intro id result returned
    rcases (sound.returning.returned id result (mem_bridgeOf.mpr returned)).2 with
      ⟨job, task, path⟩
    have answered : .answered task id result ∈ observed Event.bridgeOf history :=
      path.subset (by simp [AsyncBridge.returnedPath, AsyncBridge.answeredPath])
    rcases paired.answered task id result (mem_bridgeOf.mp answered) with
      ⟨index, conn, -, found, own, replied⟩
    refine ⟨index, conn, found, own, replied, ?_⟩
    rintro rfl
    exact validated_of_landed (alone.each index conn found) replied
  · intro before index message after split
    rcases reached.emitted split with
      ⟨source, prior, action, next, front, back, earlier, stepped, rfl⟩
    rcases (step_shape stepped).writes with ⟨conn, found, opened⟩
    exact ⟨conn.id, conn.job,
      List.mem_append_left _ ((SocketDriver.paired earlier).received index conn found),
      List.mem_append_left _ (landed earlier conn.id opened)⟩
  · intro insecure index conn found
    have received := mem_bridgeOf.mpr (paired.received index conn found)
    have accepted : .bridge (.accepted conn.id conn.job) ∈ history :=
      mem_bridgeOf.mp (sound.flow.accepted_of_received received)
    rcases made reached conn.id conn.job accepted with ⟨url, made⟩
    by_contra secure
    rw [connectJob_secure made (by simpa using secure)] at insecure
    cases insecure

end

open SocketClient in
/-- The second connection shakes hands while the first still looks its host up. -/
def sideBySide : List (Action shortFrames) :=
  [.connect ⟨false, some "robot", some "robot", none, "ws://robot"⟩,
    .connect ⟨false, some "[b]:81", some "[b]", some 81, "ws://[b]:81"⟩,
    .configUp, .receive, .receive] ++ shaking.map (.drive 1) ++
  [.drive 0 (.dnsQuery (.error "Failed")), .drive 1 (.read (.ok switchingProtocols)),
    .resume 1, .resume 0, .drive 1 (.send shout)]

open SocketClient in
theorem sockets_own_sideBySide :
    ∃ (state : State shortFrames) (history : List (Event shortFrames)),
      (socketDriver shortFrames ⟨false, none⟩ .error).Reached state history ∧
      AsyncBridge.returnedIds (observed Event.bridgeOf history) = [1, 0] ∧
      replied (observed (Event.connOf 0) history) =
        [.error "DNS lookup for `robot` failed: Failed"] ∧
      SocketClient.accepted (observed (Event.connOf 1) history) = [shout] ∧
      SocketsOwn ⟨false, none⟩ state history := by
  have shown : ((socketDriver shortFrames ⟨false, none⟩ .error).run sideBySide).map
      (fun last => (AsyncBridge.returnedIds (observed Event.bridgeOf last.2),
        replied (observed (Event.connOf 0) last.2),
        SocketClient.accepted (observed (Event.connOf 1) last.2))) =
      some ([1, 0], [.error "DNS lookup for `robot` failed: Failed"], [shout]) := by
    decide +kernel
  rcases Option.map_eq_some_iff.mp shown with ⟨⟨state, history⟩, ran, same⟩
  rcases Prod.mk.inj same with ⟨returned, same⟩
  rcases Prod.mk.inj same with ⟨failed, accepted⟩
  have reached : (socketDriver shortFrames ⟨false, none⟩ .error).Reached state history :=
    ⟨sideBySide, ran⟩
  exact ⟨state, history, reached, returned, failed, accepted, sockets_own reached⟩

end BeetEsp.Net.SocketDriver
