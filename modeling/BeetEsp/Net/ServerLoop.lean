import BeetEsp.Esp32Utils.AsyncBridgeMatching
import BeetEsp.Net.HttpServer

/-! # HTTP servers and their accept loops

`start_esp_server` runs for an `HttpServer` entity. Once the stack is there it spawns a
task with an accept loop, and when it ends or is dropped it raises the stop signal of that
task. The loops of all servers hand their requests over one `SERVER_BRIDGE`, from which the
world dispatches them.
-/

namespace BeetEsp.Net.HttpServer

open Foundation
open Esp32Utils

abbrev Entity := Nat

/-- What an accept loop uses of the HTTP functions of the framework. -/
structure ServerExt (Request Response : Type) where
  http : HttpExt
  parseHttpRequest : List UInt8 → Option Request
  serializeHttpResponse : Response → Option (List UInt8)

def BAD_REQUEST : List UInt8 :=
  SocketClient.utf8
    "HTTP/1.1 400 Bad Request\r\ncontent-length: 0\r\nconnection: close\r\n\r\n"

def SERVICE_UNAVAILABLE : List UInt8 :=
  SocketClient.utf8
    "HTTP/1.1 503 Service Unavailable\r\ncontent-length: 0\r\nconnection: close\r\n\r\n"

/-- `SERVER_BRIDGE` -/
abbrev serverBridge (Request Response : Type) := asyncBridge (Entity × Request) Response 4

/-- What an accept loop does on a connection. -/
inductive Said (Request Response : Type)
  | opened (entity : Entity)
  | read (result : Except Unit (List UInt8))
  | called (id : SignalId) (input : Entity × Request)
  /-- The queue of the bridge is full. -/
  | refused
  | replied (response : Response)
  /-- These bytes are handed to the socket. -/
  | wrote (bytes : List UInt8)
  | closed

inductive Event (Request Response : Type)
  | said (task : TaskId) (conn : Nat) (what : Said Request Response)
  | bridge (event : AsyncBridge.Event (Entity × Request) Response)

section

variable {Request Response : Type}

def Event.saidOn (conn : Nat) : Event Request Response → Option (Said Request Response)
  | .said _ other what => if other = conn then some what else none
  | .bridge _ => none

def Event.bridgeOf :
    Event Request Response → Option (AsyncBridge.Event (Entity × Request) Response)
  | .said .. => none
  | .bridge event => some event

/-- The call of a connection. -/
def Event.callOf : Event Request Response → Option (Nat × SignalId)
  | .said _ conn (.called id _) => some (conn, id)
  | _ => none

@[simp] theorem Event.saidOn_self (task : TaskId) (conn : Nat)
    (what : Said Request Response) : (said task conn what).saidOn conn = some what :=
  if_pos rfl

@[simp] theorem Event.saidOn_bridge (conn : Nat)
    (event : AsyncBridge.Event (Entity × Request) Response) :
    (bridge event).saidOn conn = none := rfl

@[simp] theorem Event.bridgeOf_said (task : TaskId) (conn : Nat)
    (what : Said Request Response) : (said task conn what).bridgeOf = none := rfl

@[simp] theorem Event.bridgeOf_bridge
    (event : AsyncBridge.Event (Entity × Request) Response) :
    (bridge event).bridgeOf = some event := rfl

theorem Event.saidOn_of_ne {conn other : Nat} (different : other ≠ conn) (task : TaskId)
    (what : Said Request Response) : (said task conn what).saidOn other = none :=
  if_neg different.symm

end

/-! ## An accept loop -/

/-- What the loop awaits, with the connection it is at. -/
inductive Loop
  | configuring
  | accepting
  | reading (conn : Nat) (buf : List UInt8)
  | calling (conn : Nat) (id : SignalId)
  | writing (conn : Nat)
  | flushing (conn : Nat)

def Loop.conn : Loop → Option Nat
  | configuring | accepting => none
  | reading conn _ | calling conn _ | writing conn | flushing conn => some conn

/-- What an await returns. -/
inductive Io
  | configUp
  | accepted (ok : Bool)
  | read (result : Except Unit (List UInt8))
  /-- The signal of the call is set. -/
  | replied
  | written (ok : Bool)
  | flushed (ok : Bool)

/-- What all loops share. -/
structure Shared (Request Response : Type) where
  bridge : AsyncBridge.State (Entity × Request) Response 4
  /-- The number of connections so far. -/
  conns : Nat

section

variable {Request Response : Type}

/-- `http_server_plugin` has added the drain. -/
def Shared.initial : Shared Request Response where
  bridge := { (serverBridge Request Response).initial with
    tasks := [.start .drainToAsync] }
  conns := 0

def Shared.onBridge (shared : Shared Request Response)
    (action : AsyncBridge.Action (Entity × Request) Response) :
    Option (Shared Request Response × List (Event Request Response)) :=
  ((serverBridge Request Response).step shared.bridge action).map fun (bridge, events) =>
    ({ shared with bridge }, events.map .bridge)

variable (ext : ServerExt Request Response) (profile : Profile) (task : TaskId)
  (entity : Entity)

/-- What the loop makes of the bytes that `read_http` returned. -/
def serveRequest (shared : Shared Request Response) (conn : Nat) (raw : List UInt8) :
    Option ((Shared Request Response × Loop) × List (Event Request Response)) :=
  match ext.parseHttpRequest raw with
  | none => some ((shared, .writing conn), [.said task conn (.wrote BAD_REQUEST)])
  | some request =>
      let input := (entity, request)
      let id := shared.bridge.signals.length
      (shared.onBridge (.call input)).map fun (next, events) =>
        match shared.bridge.queue.trySend { input, reply := id } with
        | .ok _ =>
            ((next, .calling conn id), events ++ [.said task conn (.called id input)])
        | .error _ =>
            ((next, .writing conn), events ++
              [.said task conn .refused, .said task conn (.wrote SERVICE_UNAVAILABLE)])

/-- What the loop makes of the response, once the signal of its call is set. -/
def sendResponse (shared : Shared Request Response) (conn : Nat) (id : SignalId) :
    Option ((Shared Request Response × Loop) × List (Event Request Response)) :=
  match shared.bridge.signals[id]? with
  | some (some response) =>
      (shared.onBridge (.resume id)).map fun (next, events) =>
        match ext.serializeHttpResponse response with
        | some bytes =>
            ((next, .writing conn), events ++
              [.said task conn (.replied response), .said task conn (.wrote bytes)])
        | none =>
            ((next, .accepting), events ++
              [.said task conn (.replied response), .said task conn .closed])
  | _ => none

/-- The loop from one await to the next. A write or flush that fails is at most logged. -/
def serverLoop : Shared Request Response × Loop → Io →
    Option ((Shared Request Response × Loop) × List (Event Request Response))
  | (shared, .configuring), .configUp => some ((shared, .accepting), [])
  | (shared, .accepting), .accepted ok =>
      if ok then
        some (({ shared with conns := shared.conns + 1 }, .reading shared.conns []),
          [.said task shared.conns (.opened entity)])
      else
        some ((shared, .accepting), [])
  | (shared, .reading conn buf), .read result =>
      match readLoop (ext.http.afterRead profile) buf [result] with
      | .waiting buf =>
          some ((shared, .reading conn buf), [.said task conn (.read result)])
      | .complete raw | .ended raw | .failed raw _ =>
          (serveRequest ext task entity shared conn raw).map fun (next, events) =>
            (next, .said task conn (.read result) :: events)
      | .panicked => none
  | (shared, .calling conn id), .replied => sendResponse ext task shared conn id
  | (shared, .writing conn), .written _ => some ((shared, .flushing conn), [])
  | (shared, .flushing conn), .flushed _ =>
      some ((shared, .accepting), [.said task conn .closed])
  | _, _ => none

def acceptLoop :
    Machine (Shared Request Response × Loop) Io (Event Request Response) where
  initial := (.initial, .configuring)
  step := serverLoop ext profile task entity

end

/-! ## Servers -/

/-- How far the future of `start_esp_server` is. -/
inductive Facet
  /-- It asks in every sync window for the stack. -/
  | starting
  | holding
  /-- Returned or dropped, with the stop signal raised, perhaps after it has asked. -/
  | finished (asked : Bool)
  deriving DecidableEq

namespace Facet

def isOver : Facet → Bool
  | finished _ => true
  | _ => false

/-- A window may still serve its access to the world. -/
def asks : Facet → Bool
  | starting | finished true => true
  | _ => false

def served (stack : Bool) : Facet → Facet
  | starting => if stack then holding else starting
  | holding => holding
  | finished _ => finished false

def ended : Facet → Facet
  | starting => finished true
  | holding => finished false
  | finished asked => finished asked

end Facet

structure Server where
  entity : Entity
  facet : Facet

/-- What `spawn_driver` runs for a server: its loop, until the stop signal drops it. -/
structure AcceptTask where
  server : Nat
  entity : Entity
  loop : Option Loop

/-- The loop that a task runs, with the entity it was started for. -/
def loopAt (tasks : List AcceptTask) (task : TaskId) : Option (Entity × Loop) :=
  tasks[task]?.bind fun running => running.loop.map (running.entity, ·)

structure State (Request Response : Type) where
  /-- `start_wifi` has published the stack. -/
  stack : Bool
  servers : List Server
  tasks : List AcceptTask
  shared : Shared Request Response

inductive Action (Response : Type)
  | publishStack
  | startFacet (entity : Entity)
  /-- A sync window serves the access of a server to the world. -/
  | window (server : Nat)
  /-- Shutdown, or a despawn that drops the future. -/
  | endFacet (server : Nat)
  /-- A task is polled, and its loop gets this far before it waits again. -/
  | poll (task : TaskId) (ios : List Io)
  /-- `drain_server_requests` takes a request off the queue. -/
  | drain
  /-- The dispatch of a request is done. -/
  | dispatched (job : TaskId) (response : Response)

section

variable {Request Response : Type}

/-- The signal of the call is given up with the loop. -/
def dropLoop (shared : Shared Request Response) :
    Loop → Option (Shared Request Response × List (Event Request Response))
  | .calling _ id => shared.onBridge (.cancel id)
  | _ => some (shared, [])

/-- The loop is polled first and then the stop signal. -/
def pollTask (ext : ServerExt Request Response) (profile : Profile) (task : TaskId)
    (entity : Entity) (stop : Bool) (shared : Shared Request Response) (loop : Loop)
    (ios : List Io) :
    Option ((Shared Request Response × Option Loop) × List (Event Request Response)) :=
  ((acceptLoop ext profile task entity).runFrom (shared, loop) ios).bind
    fun ((shared, loop), events) =>
      if stop then
        (dropLoop shared loop).map fun (shared, last) => ((shared, none), events ++ last)
      else
        some ((shared, some loop), events)

def step (ext : ServerExt Request Response) (profile : Profile)
    (state : State Request Response) :
    Action Response → Option (State Request Response × List (Event Request Response))
  | .publishStack => some ({ state with stack := true }, [])
  | .startFacet entity =>
      some ({ state with servers := state.servers ++ [⟨entity, .starting⟩] }, [])
  | .window server =>
      match state.servers[server]? with
      | some ⟨entity, facet⟩ =>
          if facet.asks then
            some ({ state with
              servers := state.servers.set server ⟨entity, facet.served state.stack⟩
              tasks :=
                if state.stack then state.tasks ++ [⟨server, entity, some .configuring⟩]
                else state.tasks }, [])
          else
            none
      | none => none
  | .endFacet server =>
      match state.servers[server]? with
      | some ⟨entity, facet⟩ =>
          if facet.isOver then none
          else some ({ state with
            servers := state.servers.set server ⟨entity, facet.ended⟩ }, [])
      | none => none
  | .poll task ios =>
      match state.tasks[task]? with
      | some ⟨index, entity, some loop⟩ =>
          state.servers[index]?.bind fun server =>
            (pollTask ext profile task entity server.facet.isOver state.shared loop ios).map
              fun ((shared, loop), events) =>
                ({ state with
                  shared
                  tasks := state.tasks.set task ⟨index, entity, loop⟩ }, events)
      | _ => none
  | .drain =>
      (state.shared.onBridge (.receive 0)).map fun (shared, events) =>
        ({ state with shared }, events)
  | .dispatched job response =>
      (state.shared.onBridge (.answer job response)).map fun (shared, events) =>
        ({ state with shared }, events)

def httpServers (ext : ServerExt Request Response) (profile : Profile) :
    Machine (State Request Response) (Action Response) (Event Request Response) where
  initial := { stack := false, servers := [], tasks := [], shared := .initial }
  step := step ext profile

end

/-! ## What a step can do -/

section

variable {Request Response : Type} {ext : ServerExt Request Response} {profile : Profile}
  {task : TaskId} {entity : Entity}

/-- What a loop returned from its reads, if it is done. -/
def rawOf {Error : Type} : Reading Error UInt8 → Option (List UInt8)
  | .complete raw | .ended raw | .failed raw _ => some raw
  | .waiting _ | .panicked => none

/-- What an accept loop can do from one await to the next. -/
inductive LoopStep (ext : ServerExt Request Response) (profile : Profile) (task : TaskId)
    (entity : Entity) (shared : Shared Request Response) :
    Loop → Shared Request Response → Loop → List (Event Request Response) → Prop
  | configured : LoopStep ext profile task entity shared .configuring shared .accepting []
  | failed : LoopStep ext profile task entity shared .accepting shared .accepting []
  | opened :
      LoopStep ext profile task entity shared .accepting
        { shared with conns := shared.conns + 1 } (.reading shared.conns [])
        [.said task shared.conns (.opened entity)]
  | kept {conn buf result kept}
      (waits : readLoop (ext.http.afterRead profile) buf [result] = .waiting kept) :
      LoopStep ext profile task entity shared (.reading conn buf) shared
        (.reading conn kept) [.said task conn (.read result)]
  | malformed {conn buf result raw}
      (whole : rawOf (readLoop (ext.http.afterRead profile) buf [result]) = some raw)
      (unparsed : ext.parseHttpRequest raw = none) :
      LoopStep ext profile task entity shared (.reading conn buf) shared (.writing conn)
        [.said task conn (.read result), .said task conn (.wrote BAD_REQUEST)]
  | called {conn buf result raw request bridge id}
      (whole : rawOf (readLoop (ext.http.afterRead profile) buf [result]) = some raw)
      (parsed : ext.parseHttpRequest raw = some request)
      (stepped : (serverBridge Request Response).step shared.bridge
        (.call (entity, request)) =
          some (bridge, [.called id (entity, request), .accepted id (entity, request)])) :
      LoopStep ext profile task entity shared (.reading conn buf)
        { shared with bridge } (.calling conn id)
        [.said task conn (.read result), .bridge (.called id (entity, request)),
          .bridge (.accepted id (entity, request)),
          .said task conn (.called id (entity, request))]
  | refused {conn buf result raw request bridge id}
      (whole : rawOf (readLoop (ext.http.afterRead profile) buf [result]) = some raw)
      (parsed : ext.parseHttpRequest raw = some request)
      (stepped : (serverBridge Request Response).step shared.bridge
        (.call (entity, request)) =
          some (bridge, [.called id (entity, request), .rejected id (entity, request)])) :
      LoopStep ext profile task entity shared (.reading conn buf)
        { shared with bridge } (.writing conn)
        [.said task conn (.read result), .bridge (.called id (entity, request)),
          .bridge (.rejected id (entity, request)), .said task conn .refused,
          .said task conn (.wrote SERVICE_UNAVAILABLE)]
  | replied {conn id response bridge bytes}
      (stepped : (serverBridge Request Response).step shared.bridge (.resume id) =
        some (bridge, [.returned id response]))
      (serialized : ext.serializeHttpResponse response = some bytes) :
      LoopStep ext profile task entity shared (.calling conn id)
        { shared with bridge } (.writing conn)
        [.bridge (.returned id response), .said task conn (.replied response),
          .said task conn (.wrote bytes)]
  | unserialized {conn id response bridge}
      (stepped : (serverBridge Request Response).step shared.bridge (.resume id) =
        some (bridge, [.returned id response]))
      (failed : ext.serializeHttpResponse response = none) :
      LoopStep ext profile task entity shared (.calling conn id)
        { shared with bridge } .accepting
        [.bridge (.returned id response), .said task conn (.replied response),
          .said task conn .closed]
  | written {conn} :
      LoopStep ext profile task entity shared (.writing conn) shared (.flushing conn) []
  | flushed {conn} :
      LoopStep ext profile task entity shared (.flushing conn) shared .accepting
        [.said task conn .closed]

theorem onBridge_eq_some {shared next : Shared Request Response}
    {action : AsyncBridge.Action (Entity × Request) Response}
    {events : List (Event Request Response)}
    (stepped : shared.onBridge action = some (next, events)) :
    ∃ bridge happened,
      (serverBridge Request Response).step shared.bridge action = some (bridge, happened) ∧
        next = { shared with bridge } ∧ events = happened.map .bridge := by
  rw [Shared.onBridge, Option.map_eq_some_iff] at stepped
  rcases stepped with ⟨⟨bridge, happened⟩, stepped, equal⟩
  cases equal
  exact ⟨bridge, happened, stepped, rfl, rfl⟩

theorem serveRequest_eq_some {shared : Shared Request Response} {conn : Nat}
    {buf raw : List UInt8} {result : Except Unit (List UInt8)}
    {next : Shared Request Response × Loop} {events : List (Event Request Response)}
    (whole : rawOf (readLoop (ext.http.afterRead profile) buf [result]) = some raw)
    (served : serveRequest ext task entity shared conn raw = some (next, events)) :
    LoopStep ext profile task entity shared (.reading conn buf) next.1 next.2
      (.said task conn (.read result) :: events) := by
  rw [serveRequest] at served
  split at served
  case h_1 unparsed =>
    cases served
    exact .malformed whole unparsed
  case h_2 request parsed =>
    simp only [Option.map_eq_some_iff] at served
    rcases served with ⟨⟨called, happened⟩, stepped, equal⟩
    rcases onBridge_eq_some stepped with ⟨bridge, calls, calling, rfl, rfl⟩
    have computed := calling
    change AsyncBridge.step shared.bridge (.call (entity, request)) = _ at computed
    simp only [AsyncBridge.step] at computed
    split at equal
    case h_1 queue sent =>
      rw [sent] at computed
      cases computed
      cases equal
      exact .called whole parsed calling
    case h_2 exchange rejected =>
      rw [rejected] at computed
      rcases BoundedQueue.trySend_eq_error rejected with ⟨-, rfl⟩
      cases computed
      cases equal
      exact .refused whole parsed calling

theorem sendResponse_eq_some {shared : Shared Request Response} {conn : Nat} {id : SignalId}
    {next : Shared Request Response × Loop} {events : List (Event Request Response)}
    (sent : sendResponse ext task shared conn id = some (next, events)) :
    LoopStep ext profile task entity shared (.calling conn id) next.1 next.2 events := by
  rw [sendResponse] at sent
  split at sent
  case h_1 response answer =>
    simp only [Option.map_eq_some_iff] at sent
    rcases sent with ⟨⟨resumed, happened⟩, stepped, equal⟩
    rcases onBridge_eq_some stepped with ⟨bridge, returns, resuming, rfl, rfl⟩
    have computed := resuming
    change AsyncBridge.step shared.bridge (.resume id) = _ at computed
    simp only [AsyncBridge.step, answer] at computed
    split at computed
    case isTrue =>
      cases computed
      split at equal
      case h_1 bytes serialized =>
        cases equal
        exact .replied resuming serialized
      case h_2 failed =>
        cases equal
        exact .unserialized resuming failed
    case isFalse => cases computed
  case h_2 => cases sent

theorem loopStep_of_step {shared : Shared Request Response} {loop : Loop} {io : Io}
    {next : Shared Request Response × Loop} {events : List (Event Request Response)}
    (stepped : (acceptLoop ext profile task entity).step (shared, loop) io =
      some (next, events)) :
    LoopStep ext profile task entity shared loop next.1 next.2 events := by
  change serverLoop ext profile task entity (shared, loop) io = some (next, events)
    at stepped
  cases loop <;> cases io <;> simp only [serverLoop, reduceCtorEq] at stepped
  case configuring.configUp =>
    cases stepped
    exact .configured
  case accepting.accepted ok =>
    split at stepped <;> cases stepped
    · exact .opened
    · exact .failed
  case reading.read conn buf result =>
    have whole : ∀ raw,
        rawOf (readLoop (ext.http.afterRead profile) buf [result]) = some raw →
        (serveRequest ext task entity shared conn raw).map
          (fun served => (served.1, .said task conn (.read result) :: served.2)) =
            some (next, events) →
        LoopStep ext profile task entity shared (.reading conn buf) next.1 next.2 events := by
      intro raw whole stepped
      rw [Option.map_eq_some_iff] at stepped
      rcases stepped with ⟨⟨reached, happened⟩, served, equal⟩
      cases equal
      exact serveRequest_eq_some whole served
    split at stepped
    case h_1 kept waits =>
      cases stepped
      exact .kept waits
    case h_2 raw reading => exact whole raw (by rw [reading]; rfl) stepped
    case h_3 raw reading => exact whole raw (by rw [reading]; rfl) stepped
    case h_4 raw error reading => exact whole raw (by rw [reading]; rfl) stepped
    case h_5 => cases stepped
  case calling.replied => exact sendResponse_eq_some stepped
  case writing.written =>
    cases stepped
    exact .written
  case flushing.flushed =>
    cases stepped
    exact .flushed

theorem dropLoop_eq_some {shared next : Shared Request Response} {loop : Loop}
    {events : List (Event Request Response)}
    (drops : dropLoop shared loop = some (next, events)) :
    (next = shared ∧ events = [] ∧ ∀ conn id, loop ≠ .calling conn id) ∨
      ∃ conn id bridge, loop = .calling conn id ∧
        (serverBridge Request Response).step shared.bridge (.cancel id) =
          some (bridge, [.cancelled id]) ∧
        next = { shared with bridge } ∧ events = [.bridge (.cancelled id)] := by
  cases loop with
  | calling conn id =>
      rcases onBridge_eq_some drops with ⟨bridge, happened, cancels, rfl, rfl⟩
      have shape := AsyncBridge.step_shape cancels
      cases shape
      exact .inr ⟨conn, id, _, rfl, cancels, rfl, rfl⟩
  | configuring | accepting | reading | writing | flushing =>
      cases drops
      exact .inl ⟨rfl, rfl, nofun⟩

/-- What a step of the servers can do. -/
inductive ServerStep (ext : ServerExt Request Response) (profile : Profile)
    (state : State Request Response) :
    Action Response → State Request Response → List (Event Request Response) → Prop
  | published : ServerStep ext profile state .publishStack { state with stack := true } []
  | started {entity : Entity} :
      ServerStep ext profile state (.startFacet entity)
        { state with servers := state.servers ++ [⟨entity, .starting⟩] } []
  | unserved {server : Nat} {entity : Entity} {facet : Facet}
      (found : state.servers[server]? = some ⟨entity, facet⟩) (asks : facet.asks = true)
      (down : ¬state.stack = true) :
      ServerStep ext profile state (.window server)
        { state with
          servers := state.servers.set server ⟨entity, facet.served state.stack⟩ } []
  | served {server : Nat} {entity : Entity} {facet : Facet}
      (found : state.servers[server]? = some ⟨entity, facet⟩) (asks : facet.asks = true)
      (up : state.stack = true) :
      ServerStep ext profile state (.window server)
        { state with
          servers := state.servers.set server ⟨entity, facet.served state.stack⟩
          tasks := state.tasks ++ [⟨server, entity, some .configuring⟩] } []
  | ended {server : Nat} {entity : Entity} {facet : Facet}
      (found : state.servers[server]? = some ⟨entity, facet⟩)
      (running : facet.isOver = false) :
      ServerStep ext profile state (.endFacet server)
        { state with servers := state.servers.set server ⟨entity, facet.ended⟩ } []
  | polled {task : TaskId} {entity : Entity} {ios index loop server shared next events}
      (found : state.tasks[task]? = some ⟨index, entity, some loop⟩)
      (owner : state.servers[index]? = some server) (running : server.facet.isOver = false)
      (ran : (acceptLoop ext profile task entity).runFrom (state.shared, loop) ios =
        some ((shared, next), events)) :
      ServerStep ext profile state (.poll task ios)
        { state with shared, tasks := state.tasks.set task ⟨index, entity, some next⟩ }
        events
  | stopped {task : TaskId} {entity : Entity}
      {ios index loop server shared next events dropped last}
      (found : state.tasks[task]? = some ⟨index, entity, some loop⟩)
      (owner : state.servers[index]? = some server) (finished : server.facet.isOver = true)
      (ran : (acceptLoop ext profile task entity).runFrom (state.shared, loop) ios =
        some ((shared, next), events))
      (drops : dropLoop shared next = some (dropped, last)) :
      ServerStep ext profile state (.poll task ios)
        { state with
          shared := dropped
          tasks := state.tasks.set task ⟨index, entity, none⟩ } (events ++ last)
  | drained {bridge happened}
      (stepped : (serverBridge Request Response).step state.shared.bridge (.receive 0) =
        some (bridge, happened)) :
      ServerStep ext profile state .drain
        { state with shared := { state.shared with bridge } } (happened.map .bridge)
  | dispatched {job response bridge happened}
      (stepped : (serverBridge Request Response).step state.shared.bridge
        (.answer job response) = some (bridge, happened)) :
      ServerStep ext profile state (.dispatched job response)
        { state with shared := { state.shared with bridge } } (happened.map .bridge)

theorem step_shape {state next : State Request Response} {action : Action Response}
    {events : List (Event Request Response)}
    (stepped : (httpServers ext profile).step state action = some (next, events)) :
    ServerStep ext profile state action next events := by
  change step ext profile state action = some (next, events) at stepped
  cases action with
  | publishStack =>
      cases stepped
      exact .published
  | startFacet entity =>
      cases stepped
      exact .started
  | window server =>
      simp only [step] at stepped
      split at stepped
      case h_1 entity facet found =>
        split at stepped
        case isTrue asks =>
          by_cases up : state.stack = true
          · rw [if_pos up] at stepped
            cases stepped
            exact .served found asks up
          · rw [if_neg up] at stepped
            cases stepped
            exact .unserved found asks up
        case isFalse => cases stepped
      case h_2 => cases stepped
  | endFacet server =>
      simp only [step] at stepped
      split at stepped
      case h_1 entity facet found =>
        split at stepped
        case isTrue => cases stepped
        case isFalse running =>
          cases stepped
          exact .ended found (Bool.not_eq_true _ ▸ running)
      case h_2 => cases stepped
  | poll task ios =>
      simp only [step] at stepped
      split at stepped
      case h_1 index entity loop found =>
        simp only [Option.bind_eq_some_iff, Option.map_eq_some_iff, pollTask] at stepped
        rcases stepped with ⟨server, owner, ⟨polled, happened⟩,
          ⟨⟨⟨shared, reached⟩, said⟩, ran, stops⟩, equal⟩
        split at stops
        case isTrue finished =>
          rw [Option.map_eq_some_iff] at stops
          rcases stops with ⟨⟨dropped, last⟩, drops, same⟩
          cases same
          cases equal
          exact .stopped found owner finished ran drops
        case isFalse running =>
          cases stops
          cases equal
          exact .polled found owner (Bool.not_eq_true _ ▸ running) ran
      case h_2 => cases stepped
  | drain =>
      simp only [step, Option.map_eq_some_iff] at stepped
      rcases stepped with ⟨⟨shared, said⟩, stepped, equal⟩
      rcases onBridge_eq_some stepped with ⟨bridge, happened, serves, rfl, rfl⟩
      cases equal
      exact .drained serves
  | dispatched job response =>
      simp only [step, Option.map_eq_some_iff] at stepped
      rcases stepped with ⟨⟨shared, said⟩, stepped, equal⟩
      rcases onBridge_eq_some stepped with ⟨bridge, happened, serves, rfl, rfl⟩
      cases equal
      exact .dispatched serves

end

end BeetEsp.Net.HttpServer
