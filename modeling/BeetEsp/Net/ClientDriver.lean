import BeetEsp.Esp32Utils.AsyncBridgeMatching
import BeetEsp.Net.ClientRequest
import BeetEsp.Net.HttpExchange

/-! # The driver of the HTTP client

`esp_send` hands its job over `CLIENT_BRIDGE` to `client_driver`, which waits for an address
of its own and then serves one job at a time: it looks the host up, connects, opens a TLS
session for an `https` job, writes the request and reads to the end of the stream. What the
lookup, the stack and the TLS session answer are actions, errors given by their `{:?}` text.
-/

namespace BeetEsp.Net.ClientDriver

open Foundation
open Esp32Utils
open SocketClient (BevyError IpEndpoint dnsFailed noDnsResults connectFailed)
open HttpClient (Request ClientExt Features clientJob clientBridge lookupFailed
  toEndOfStream)

def QUEUE_FULL : BevyError := "Wi-Fi client queue full"

/-- What the driver awaits. -/
inductive Phase
  /-- `wait_config_up` -/
  | configuring
  | listening
  | resolving (job : ClientJob)
  | connecting (job : ClientJob) (remote : IpEndpoint)
  | handshaking (job : ClientJob)
  | writing (job : ClientJob)
  | flushing (job : ClientJob)
  | reading (job : ClientJob) (raw : List UInt8)

/-- The job that is under way. -/
def Phase.job : Phase → Option ClientJob
  | configuring | listening => none
  | resolving job | connecting job _ | handshaking job | writing job | flushing job
  | reading job _ => some job

/-- What an await returns. -/
inductive Io
  | configUp
  | receive
  /-- `mdns::resolve` -/
  | resolved (answer : Option Ipv4Address)
  | queried (result : Except String (List Ipv4Address))
  | connected (result : Except String Unit)
  /-- `tls_client::connect` -/
  | secured (result : Except BevyError Unit)
  | written (result : Except String Unit)
  | flushed (result : Except String Unit)
  | read (result : Except String (List UInt8))

/-- What the driver does on the network. -/
inductive Said
  | configured
  /-- A lookup of this host, over mDNS or DNS. -/
  | asked (host : String) (mdns : Bool)
  | found (addrs : List Ipv4Address)
  | connecting (remote : IpEndpoint)
  | secured
  /-- These bytes are handed to the TLS session or to the plain socket. -/
  | wrote (tls : Bool) (bytes : List UInt8)
  | read (result : Except String (List UInt8))

inductive Event (Parts Response : Type)
  /-- `esp_send` returns without a reply. -/
  | bailed (request : Request Parts) (error : BevyError)
  | queued (id : SignalId) (request : Request Parts) (body : Except BevyError (List UInt8))
  | bridge (event : AsyncBridge.Event ClientJob (Except BevyError Response))
  | said (what : Said)

structure State (Response : Type) where
  bridge : AsyncBridge.State ClientJob (Except BevyError Response) 4
  phase : Phase

inductive Action (Parts : Type)
  /-- `esp_send`, once the body is collected. -/
  | send (request : Request Parts) (body : Except BevyError (List UInt8))
  | resume (id : SignalId)
  | cancel (id : SignalId)
  | io (io : Io)

variable {Parts Response : Type}

def Event.bridgeOf : Event Parts Response →
    Option (AsyncBridge.Event ClientJob (Except BevyError Response))
  | bridge event => some event
  | _ => none

/-- Whether the host is looked up over mDNS. -/
def viaMdns (features : Features) (job : ClientJob) : Bool :=
  features.mdns && job.isLocal

def notFound (features : Features) (job : ClientJob) : BevyError :=
  if viaMdns features job then lookupFailed job else noDnsResults job.host

namespace State

def onBridge (state : State Response)
    (action : AsyncBridge.Action ClientJob (Except BevyError Response)) :
    Option (State Response × List (Event Parts Response)) :=
  ((clientBridge Response).step state.bridge action).map fun (bridge, events) =>
    ({ state with bridge }, events.map .bridge)

/-- The exchange returns this result, and the driver goes back to its loop. -/
def reply (state : State Response) (said : List Said)
    (result : Except BevyError Response) :
    Option (State Response × List (Event Parts Response)) :=
  (state.onBridge (.answer 0 result)).map fun (next, events) =>
    ({ next with phase := .listening }, said.map .said ++ events)

/-- The exchange goes on to its next await. -/
def goOn (state : State Response) (phase : Phase) (said : List Said) :
    Option (State Response × List (Event Parts Response)) :=
  some ({ state with phase }, said.map .said)

section

variable (features : Features) (ext : ClientExt Parts Response)

def send (state : State Response) (request : Request Parts)
    (body : Except BevyError (List UInt8)) :
    Option (State Response × List (Event Parts Response)) :=
  match clientJob features ext request body with
  | .error err => some (state, [.bailed request err])
  | .ok job =>
      let id := state.bridge.signals.length
      (state.onBridge (.call job)).map fun (next, events) =>
        match state.bridge.queue.trySend { input := job, reply := id } with
        | .ok _ => (next, .queued id request body :: events)
        | .error _ => (next, events ++ [.bailed request QUEUE_FULL])

/-- `exchange` with the addresses that the lookup found. -/
def lookedUp (state : State Response) (job : ClientJob) :
    List Ipv4Address → Option (State Response × List (Event Parts Response))
  | [] => state.reply [.found []] (.error (notFound features job))
  | address :: others =>
      let remote := { address, port := job.port }
      state.goOn (.connecting job remote) [.found (address :: others), .connecting remote]

/-- `run_worker` with `exchange`, from one await to the next. -/
def drive (state : State Response) (io : Io) :
    Option (State Response × List (Event Parts Response)) :=
  match state.phase, io with
  | .configuring, .configUp => state.goOn .listening [.configured]
  | .listening, .receive =>
      match state.bridge.queue.items with
      | call :: _ =>
          let job := call.input
          (state.onBridge (.receive 0)).map fun (next, events) =>
            ({ next with phase := .resolving job },
              events ++ [.said (.asked job.host (viaMdns features job))])
      | [] => none
  | .resolving job, .resolved answer =>
      if viaMdns features job then state.lookedUp features job answer.toList else none
  | .resolving job, .queried result =>
      if viaMdns features job then none
      else
        match result with
        | .error err => state.reply [] (.error (dnsFailed job.host err))
        | .ok addrs => state.lookedUp features job addrs
  | .connecting job _, .connected result =>
      match result with
      | .error err => state.reply [] (.error (connectFailed job.host err))
      | .ok () =>
          if job.secure then state.goOn (.handshaking job) []
          else state.goOn (.writing job) [.wrote false job.bytes]
  | .handshaking job, .secured result =>
      match result with
      | .error err => state.reply [] (.error err)
      | .ok () => state.goOn (.writing job) [.secured, .wrote true job.bytes]
  | .writing job, .written result =>
      match result with
      | .error err => state.reply [] (.error ("write failed: " ++ err))
      | .ok () => state.goOn (.flushing job) []
  | .flushing job, .flushed result =>
      match result with
      | .error err => state.reply [] (.error ("flush failed: " ++ err))
      | .ok () => state.goOn (.reading job []) []
  | .reading job raw, .read result =>
      match readLoop toEndOfStream raw [result] with
      | .waiting raw => state.goOn (.reading job raw) [.read result]
      | .ended raw | .failed raw _ => state.reply [.read result] (ext.parseResponse raw)
      | _ => none
  | _, _ => none

def step (state : State Response) :
    Action Parts → Option (State Response × List (Event Parts Response))
  | .send request body => state.send features ext request body
  | .resume id => state.onBridge (.resume id)
  | .cancel id => state.onBridge (.cancel id)
  | .io io => state.drive features ext io

end

end State

/-- `client_driver` as `start_wifi` spawns it, and `Request::send`. -/
def wifiClient (features : Features) (ext : ClientExt Parts Response) :
    Machine (State Response) (Action Parts) (Event Parts Response) where
  initial := {
    bridge := { queue := .empty, signals := [], awaiting := []
                tasks := [.start .runWorker] }
    phase := .configuring }
  step := State.step features ext

/-! ## Steps -/

section

variable (features : Features) (ext : ClientExt Parts Response) (job : ClientJob)

/-- An await of the exchange that leads to the next one. -/
inductive GoesOn : Phase → Phase → List Said → Prop
  | found {address others} :
      GoesOn (.resolving job) (.connecting job ⟨address, job.port⟩)
        [.found (address :: others), .connecting ⟨address, job.port⟩]
  | connectedSecure {remote} (secure : job.secure = true) :
      GoesOn (.connecting job remote) (.handshaking job) []
  | connectedPlain {remote} (plain : job.secure = false) :
      GoesOn (.connecting job remote) (.writing job) [.wrote false job.bytes]
  | secured : GoesOn (.handshaking job) (.writing job) [.secured, .wrote true job.bytes]
  | written : GoesOn (.writing job) (.flushing job) []
  | flushed : GoesOn (.flushing job) (.reading job []) []
  | read {raw result kept} (waits : readLoop toEndOfStream raw [result] = .waiting kept) :
      GoesOn (.reading job raw) (.reading job kept) [.read result]

/-- An await that ends the exchange. -/
inductive Ends : Phase → List Said → Except BevyError Response → Prop
  | dnsFailed {err} (unicast : viaMdns features job = false) :
      Ends (.resolving job) [] (.error (dnsFailed job.host err))
  | notFound : Ends (.resolving job) [.found []] (.error (notFound features job))
  | unconnected {remote err} :
      Ends (.connecting job remote) [] (.error (connectFailed job.host err))
  | insecure {err} : Ends (.handshaking job) [] (.error err)
  | unwritten {err} : Ends (.writing job) [] (.error ("write failed: " ++ err))
  | unflushed {err} : Ends (.flushing job) [] (.error ("flush failed: " ++ err))
  | ended {raw result whole}
      (ends : readLoop toEndOfStream raw [result] = .ended whole) :
      Ends (.reading job raw) [.read result] (ext.parseResponse whole)
  | failed {raw result whole error}
      (fails : readLoop toEndOfStream raw [result] = .failed whole error) :
      Ends (.reading job raw) [.read result] (ext.parseResponse whole)

end

section

variable {features : Features} {ext : ClientExt Parts Response}

variable (features ext) in
/-- What a step can do. -/
inductive Step (state : State Response) : State Response → List (Event Parts Response) → Prop
  | bailed {request body err} (unprepared : clientJob features ext request body = .error err) :
      Step state state [.bailed request err]
  | queued {request body job bridge}
      (prepared : clientJob features ext request body = .ok job)
      (accepted : (clientBridge Response).step state.bridge (.call job) = some (bridge,
        [.called state.bridge.signals.length job, .accepted state.bridge.signals.length job])) :
      Step state { state with bridge }
        [.queued state.bridge.signals.length request body,
          .bridge (.called state.bridge.signals.length job),
          .bridge (.accepted state.bridge.signals.length job)]
  | full {request body job bridge}
      (prepared : clientJob features ext request body = .ok job)
      (rejected : (clientBridge Response).step state.bridge (.call job) = some (bridge,
        [.called state.bridge.signals.length job, .rejected state.bridge.signals.length job])) :
      Step state { state with bridge }
        [.bridge (.called state.bridge.signals.length job),
          .bridge (.rejected state.bridge.signals.length job), .bailed request QUEUE_FULL]
  | resumed {id bridge events}
      (stepped : (clientBridge Response).step state.bridge (.resume id) =
        some (bridge, events)) :
      Step state { state with bridge } (events.map .bridge)
  | cancelled {id bridge events}
      (stepped : (clientBridge Response).step state.bridge (.cancel id) =
        some (bridge, events)) :
      Step state { state with bridge } (events.map .bridge)
  | configured (waits : state.phase = .configuring) :
      Step state { state with phase := .listening } [.said .configured]
  | received {call rest bridge events} (listens : state.phase = .listening)
      (first : state.bridge.queue.items = call :: rest)
      (taken : (clientBridge Response).step state.bridge (.receive 0) =
        some (bridge, events)) :
      Step state ⟨bridge, .resolving call.input⟩
        (events.map .bridge ++
          [.said (.asked call.input.host (viaMdns features call.input))])
  | wentOn {job phase said} (goesOn : GoesOn job state.phase phase said) :
      Step state { state with phase } (said.map .said)
  | replied {job said result bridge events}
      (ends : Ends features ext job state.phase said result)
      (answered : (clientBridge Response).step state.bridge (.answer 0 result) =
        some (bridge, events)) :
      Step state ⟨bridge, .listening⟩ (said.map .said ++ events.map .bridge)

theorem onBridge_eq_some {state next : State Response} {events : List (Event Parts Response)}
    {action : AsyncBridge.Action ClientJob (Except BevyError Response)}
    (stepped : state.onBridge action = some (next, events)) :
    ∃ bridge own, (clientBridge Response).step state.bridge action = some (bridge, own) ∧
      next = { state with bridge } ∧ events = own.map .bridge := by
  rcases Option.map_eq_some_iff.mp stepped with ⟨⟨bridge, own⟩, inner, equal⟩
  cases equal
  exact ⟨bridge, own, inner, rfl, rfl⟩

variable {state next : State Response} {events : List (Event Parts Response)}

theorem Step.ofReply {job : ClientJob} {phase : Phase} {said : List Said}
    {result : Except BevyError Response} (waits : state.phase = phase)
    (replies : state.reply said result = some (next, events))
    (ends : Ends features ext job phase said result) :
    Step features ext state next events := by
  subst waits
  rcases Option.map_eq_some_iff.mp replies with ⟨⟨middle, own⟩, inner, equal⟩
  cases equal
  rcases onBridge_eq_some inner with ⟨bridge, own, answered, rfl, rfl⟩
  exact .replied ends answered

theorem Step.ofGoOn {job : ClientJob} {phase after : Phase} {said : List Said}
    (waits : state.phase = phase) (goes : state.goOn after said = some (next, events))
    (goesOn : GoesOn job phase after said) : Step features ext state next events := by
  subst waits
  cases goes
  exact .wentOn goesOn

theorem Step.ofLookedUp {job : ClientJob} {addrs : List Ipv4Address}
    (waits : state.phase = .resolving job)
    (looked : state.lookedUp features job addrs = some (next, events)) :
    Step features ext state next events := by
  cases addrs with
  | nil => exact .ofReply waits looked .notFound
  | cons address others => exact .ofGoOn waits looked .found

theorem step_of_send {request : Request Parts} {body : Except BevyError (List UInt8)}
    (stepped : state.send features ext request body = some (next, events)) :
    Step features ext state next events := by
  rw [State.send] at stepped
  cases prepared : clientJob features ext request body with
  | error err =>
      rw [prepared] at stepped
      cases stepped
      exact .bailed prepared
  | ok job =>
      rw [prepared] at stepped
      rcases Option.map_eq_some_iff.mp stepped with ⟨⟨middle, own⟩, inner, equal⟩
      rcases onBridge_eq_some inner with ⟨bridge, own, called, rfl, rfl⟩
      have produced := called
      simp only [asyncBridge, AsyncBridge.step] at produced
      split at produced
      case h_1 queue sent =>
        simp only [sent] at equal
        cases equal
        cases produced
        exact .queued prepared called
      case h_2 exchange rejected =>
        simp only [rejected] at equal
        cases equal
        cases produced
        rcases BoundedQueue.trySend_eq_error rejected with ⟨-, rfl⟩
        exact .full prepared called

theorem step_of_drive {io : Io} (stepped : state.drive features ext io = some (next, events)) :
    Step features ext state next events := by
  unfold State.drive at stepped
  split at stepped
  case h_1 waits =>
    cases stepped
    exact .configured waits
  case h_2 listens =>
    split at stepped
    case h_1 call rest first =>
      rcases Option.map_eq_some_iff.mp stepped with ⟨⟨middle, own⟩, inner, equal⟩
      rcases onBridge_eq_some inner with ⟨bridge, own, taken, rfl, rfl⟩
      cases equal
      exact .received listens first taken
    case h_2 => cases stepped
  case h_3 job answer waits =>
    split at stepped
    case isTrue => exact .ofLookedUp waits stepped
    case isFalse => cases stepped
  case h_4 job result waits =>
    split at stepped
    case isTrue => cases stepped
    case isFalse unicast =>
      split at stepped
      · exact .ofReply waits stepped (.dnsFailed (by simpa using unicast))
      · exact .ofLookedUp waits stepped
  case h_5 job remote result waits =>
    split at stepped
    · exact .ofReply waits stepped .unconnected
    · split at stepped
      case isTrue secure => exact .ofGoOn waits stepped (.connectedSecure secure)
      case isFalse plain =>
        exact .ofGoOn waits stepped (.connectedPlain (by simpa using plain))
  case h_6 job result waits =>
    split at stepped
    · exact .ofReply waits stepped .insecure
    · exact .ofGoOn waits stepped .secured
  case h_7 job result waits =>
    split at stepped
    · exact .ofReply waits stepped .unwritten
    · exact .ofGoOn waits stepped .written
  case h_8 job result waits =>
    split at stepped
    · exact .ofReply waits stepped .unflushed
    · exact .ofGoOn waits stepped .flushed
  case h_9 job raw result waits =>
    split at stepped
    case h_1 kept keeps => exact .ofGoOn waits stepped (.read keeps)
    case h_2 whole ends => exact .ofReply waits stepped (.ended ends)
    case h_3 whole error fails => exact .ofReply waits stepped (.failed fails)
    case h_4 => cases stepped
  case h_10 => cases stepped

theorem step_shape {action : Action Parts}
    (stepped : (wifiClient features ext).step state action = some (next, events)) :
    Step features ext state next events := by
  change State.step features ext state action = some (next, events) at stepped
  cases action with
  | send request body => exact step_of_send stepped
  | resume id =>
      rcases onBridge_eq_some stepped with ⟨bridge, own, resumed, rfl, rfl⟩
      exact .resumed resumed
  | cancel id =>
      rcases onBridge_eq_some stepped with ⟨bridge, own, cancelled, rfl, rfl⟩
      exact .cancelled cancelled
  | io io => exact step_of_drive stepped

end

end BeetEsp.Net.ClientDriver
