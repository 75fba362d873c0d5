import BeetEsp.Esp32Utils.AsyncBridgeOrphans
import Mathlib.Data.List.DropRight

/-! # The HTTP client and the resolver behind it

`client_driver` answers the calls of `CLIENT_BRIDGE` one at a time. For a `.local`
host its worker is a caller itself, of the `RESOLVER` bridge that `mdns_task`
serves while an HTTP server advertises its name.
-/

namespace BeetEsp.Net

open Foundation
open Esp32Utils

abbrev Ipv4Address := UInt32

def LOCAL_SUFFIX : String := ".local"

structure ClientJob where
  host : String
  port : UInt16
  secure : Bool
  bytes : List UInt8

def ClientJob.isLocal (job : ClientJob) : Bool :=
  LOCAL_SUFFIX.toList.isSuffixOf job.host.toList

/-- The bare name `resolve` asks for. -/
def ClientJob.label (job : ClientJob) : String :=
  if job.isLocal then
    String.ofList (job.host.toList.rdrop LOCAL_SUFFIX.toList.length)
  else job.host

/-- What `client_driver` awaits. -/
inductive Driver
  /-- The next call. -/
  | listening
  /-- The reply of the resolver, on this signal. -/
  | resolving (job : ClientJob) (id : SignalId)
  /-- Nothing: `resolve` returned `None` and the exchange is about to fail. -/
  | unresolved (job : ClientJob)
  /-- Unicast DNS, or the exchange with the server itself. -/
  | exchanging

/-- What the exchange makes of the answer of `resolve`. -/
def Driver.afterResolve (job : ClientJob) : Option Ipv4Address → Driver
  | some _ => .exchanging
  | none => .unresolved job

namespace HttpClient

/-- `CLIENT_BRIDGE`. -/
abbrev clientBridge (Response : Type) := asyncBridge ClientJob (Except String Response) 4

/-- `RESOLVER`. -/
abbrev resolverBridge := asyncBridge String (Option Ipv4Address) 2

structure State (Response : Type) where
  client : AsyncBridge.State ClientJob (Except String Response) 4
  resolver : AsyncBridge.State String (Option Ipv4Address) 2
  driver : Driver

inductive Action (Response : Type)
  /-- `esp_send` queues a request. -/
  | send (job : ClientJob)
  | resume (id : SignalId)
  | cancel (id : SignalId)
  /-- An HTTP server with an `MDns` component spawns its task. -/
  | startMdns
  | bindMdns (task : TaskId)
  | receiveMdns (task : TaskId)
  | answerMdns (task : TaskId) (answer : Option Ipv4Address)
  | finishMdns (task : TaskId)
  /-- `client_driver` takes the next job and starts its exchange. -/
  | receive
  /-- `resolve` returns to the exchange. -/
  | resolved
  /-- The exchange returns, for a failed lookup without further ado. -/
  | reply (result : Except String Response)

inductive Event (Response : Type)
  | client (event : AsyncBridge.Event ClientJob (Except String Response))
  | resolver (event : AsyncBridge.Event String (Option Ipv4Address))

variable {Response : Type}

def State.onClient (state : State Response)
    (action : AsyncBridge.Action ClientJob (Except String Response)) :
    Option (State Response × List (Event Response)) :=
  ((clientBridge Response).step state.client action).map fun (client, events) =>
    ({ state with client }, events.map .client)

def State.onResolver (state : State Response)
    (action : AsyncBridge.Action String (Option Ipv4Address)) :
    Option (State Response × List (Event Response)) :=
  (resolverBridge.step state.resolver action).map fun (resolver, events) =>
    ({ state with resolver }, events.map .resolver)

/-- `exchange` up to its first await. -/
def State.exchange (state : State Response) (job : ClientJob) :
    Option (State Response × List (Event Response)) :=
  if job.isLocal then
    let id := state.resolver.signals.length
    let driver := match state.resolver.queue.trySend ⟨job.label, id⟩ with
      | .ok _ => .resolving job id
      -- Queue full (the mDNS task is busy or absent): no reply will arrive.
      | .error _ => .unresolved job
    (state.onResolver (.call job.label)).map fun (next, events) =>
      ({ next with driver }, events)
  else
    some ({ state with driver := .exchanging }, [])

def lookupFailed (job : ClientJob) : String :=
  "mDNS lookup for `" ++ job.host ++ "` failed (no answer)"

def State.step (state : State Response) :
    Action Response → Option (State Response × List (Event Response))
  | .send job => state.onClient (.call job)
  | .resume id => state.onClient (.resume id)
  | .cancel id => state.onClient (.cancel id)
  | .startMdns => state.onResolver (.start .mdnsTask)
  | .bindMdns task => state.onResolver (.bind task)
  | .receiveMdns task => state.onResolver (.receive task)
  | .answerMdns task answer => state.onResolver (.answer task answer)
  | .finishMdns task => state.onResolver (.finish task)
  | .receive =>
      match state.driver, state.client.queue.items with
      | .listening, call :: _ =>
          (state.onClient (.receive 0)).bind fun (taken, received) =>
            (taken.exchange call.input).map fun (next, events) =>
              (next, received ++ events)
      | _, _ => none
  | .resolved =>
      match state.driver with
      | .resolving job id =>
          match state.resolver.signals[id]? with
          | some (some answer) =>
              (state.onResolver (.resume id)).map fun (next, events) =>
                ({ next with driver := .afterResolve job answer }, events)
          | _ => none
      | _ => none
  | .reply result =>
      match state.driver with
      | .exchanging =>
          (state.onClient (.answer 0 result)).map fun (next, events) =>
            ({ next with driver := .listening }, events)
      | .unresolved job =>
          (state.onClient (.answer 0 (.error (lookupFailed job)))).map
            fun (next, events) => ({ next with driver := .listening }, events)
      | _ => none

end HttpClient

open HttpClient in
/-- `client_driver` as `start_wifi` spawns it, before any request. -/
def httpClient (Response : Type) :
    Machine (State Response) (Action Response) (Event Response) where
  initial := {
    client := { queue := .empty, signals := [], awaiting := []
                tasks := [.listening .runWorker] }
    resolver := resolverBridge.initial
    driver := .listening }
  step := State.step

namespace HttpClient

variable {Response : Type}

/-! ## Steps -/

/-- What an application does at the client bridge. -/
def Action.asCaller : Action Response →
    Option (AsyncBridge.Action ClientJob (Except String Response))
  | .send job => some (.call job)
  | .resume id => some (.resume id)
  | .cancel id => some (.cancel id)
  | _ => none

/-- What an mDNS task does at the resolver bridge. -/
def Action.asMdns : Action Response →
    Option (AsyncBridge.Action String (Option Ipv4Address))
  | .startMdns => some (.start .mdnsTask)
  | .bindMdns task => some (.bind task)
  | .receiveMdns task => some (.receive task)
  | .answerMdns task answer => some (.answer task answer)
  | .finishMdns task => some (.finish task)
  | _ => none

inductive Step (state : State Response) :
    Action Response → State Response → List (Event Response) → Prop
  | caller {action own client events} (asCaller : action.asCaller = some own)
      (stepped : (clientBridge Response).step state.client own = some (client, events)) :
      Step state action { state with client } (events.map .client)
  | mdns {action own resolver events} (asMdns : action.asMdns = some own)
      (stepped : resolverBridge.step state.resolver own = some (resolver, events)) :
      Step state action { state with resolver } (events.map .resolver)
  | lookup {job : ClientJob} {client received resolver events driver}
      (listens : state.driver = .listening)
      (taken : (clientBridge Response).step state.client (.receive 0) =
        some (client, received))
      (asked : resolverBridge.step state.resolver (.call job.label) =
        some (resolver, events))
      (waits : ∀ job id, driver = .resolving job id → id ∈ resolver.awaiting) :
      Step state .receive ⟨client, resolver, driver⟩
        (received.map .client ++ events.map .resolver)
  | direct {client received} (listens : state.driver = .listening)
      (taken : (clientBridge Response).step state.client (.receive 0) =
        some (client, received)) :
      Step state .receive ⟨client, state.resolver, .exchanging⟩ (received.map .client)
  | resolved {job id answer resolver events} (waits : state.driver = .resolving job id)
      (set : state.resolver.signals[id]? = some (some answer))
      (stepped : resolverBridge.step state.resolver (.resume id) =
        some (resolver, events)) :
      Step state .resolved ⟨state.client, resolver, .afterResolve job answer⟩
        (events.map .resolver)
  | replied {result own client events} (busy : ∀ job id, state.driver ≠ .resolving job id)
      (stepped : (clientBridge Response).step state.client (.answer 0 own) =
        some (client, events)) :
      Step state (.reply result) ⟨client, state.resolver, .listening⟩
        (events.map .client)

theorem onClient_eq_some {state next : State Response} {events : List (Event Response)}
    {action : AsyncBridge.Action ClientJob (Except String Response)}
    (stepped : state.onClient action = some (next, events)) :
    ∃ client own, (clientBridge Response).step state.client action = some (client, own) ∧
      next = { state with client } ∧ events = own.map .client := by
  rcases Option.map_eq_some_iff.mp stepped with ⟨⟨client, own⟩, inner, equal⟩
  cases equal
  exact ⟨client, own, inner, rfl, rfl⟩

theorem onResolver_eq_some {state next : State Response} {events : List (Event Response)}
    {action : AsyncBridge.Action String (Option Ipv4Address)}
    (stepped : state.onResolver action = some (next, events)) :
    ∃ resolver own, resolverBridge.step state.resolver action = some (resolver, own) ∧
      next = { state with resolver } ∧ events = own.map .resolver := by
  rcases Option.map_eq_some_iff.mp stepped with ⟨⟨resolver, own⟩, inner, equal⟩
  cases equal
  exact ⟨resolver, own, inner, rfl, rfl⟩

theorem Step.ofCaller {state next : State Response} {action : Action Response}
    {own : AsyncBridge.Action ClientJob (Except String Response)}
    {events : List (Event Response)} (asCaller : action.asCaller = some own)
    (stepped : state.onClient own = some (next, events)) :
    Step state action next events := by
  rcases onClient_eq_some stepped with ⟨client, own, inner, rfl, rfl⟩
  exact .caller asCaller inner

theorem Step.ofMdns {state next : State Response} {action : Action Response}
    {own : AsyncBridge.Action String (Option Ipv4Address)}
    {events : List (Event Response)} (asMdns : action.asMdns = some own)
    (stepped : state.onResolver own = some (next, events)) :
    Step state action next events := by
  rcases onResolver_eq_some stepped with ⟨resolver, own, inner, rfl, rfl⟩
  exact .mdns asMdns inner

/-- An accepted lookup is waited for. -/
theorem awaiting_of_call {state next : AsyncBridge.State String (Option Ipv4Address) 2}
    {input : String} {events : List (AsyncBridge.Event String (Option Ipv4Address))}
    {queue : BoundedQueue (Exchange String) 2}
    (called : resolverBridge.step state (.call input) = some (next, events))
    (sent : state.queue.trySend ⟨input, state.signals.length⟩ = .ok queue) :
    state.signals.length ∈ next.awaiting := by
  simp only [asyncBridge, AsyncBridge.step, sent, Option.some.injEq,
    Prod.mk.injEq] at called
  rw [← called.1]
  exact List.mem_append_right _ (List.mem_singleton.mpr rfl)

theorem step_receive {state next : State Response} {events : List (Event Response)}
    (stepped : state.step .receive = some (next, events)) :
    Step state .receive next events := by
  simp only [State.step] at stepped
  split at stepped
  case h_2 => cases stepped
  case h_1 call calls listens queued =>
    rcases Option.bind_eq_some_iff.mp stepped with ⟨⟨taken, received⟩, first, rest⟩
    rcases Option.map_eq_some_iff.mp rest with ⟨⟨last, asked⟩, second, equal⟩
    cases equal
    rcases onClient_eq_some first with ⟨client, own, inner, rfl, rfl⟩
    simp only [State.exchange] at second
    split at second
    case isFalse =>
      cases second
      rw [List.append_nil]
      exact .direct listens inner
    case isTrue =>
      rcases Option.map_eq_some_iff.mp second with ⟨⟨middle, produced⟩, third, equal⟩
      cases equal
      rcases onResolver_eq_some third with ⟨resolver, own', called, rfl, rfl⟩
      refine .lookup listens inner called ?_
      intro job id waits
      split at waits
      case h_1 sent =>
        cases waits
        exact awaiting_of_call called sent
      case h_2 => cases waits

theorem step_shape {state next : State Response} {action : Action Response}
    {events : List (Event Response)}
    (stepped : (httpClient Response).step state action = some (next, events)) :
    Step state action next events := by
  change state.step action = some (next, events) at stepped
  cases action with
  | send job => exact .ofCaller rfl stepped
  | resume id => exact .ofCaller rfl stepped
  | cancel id => exact .ofCaller rfl stepped
  | startMdns => exact .ofMdns rfl stepped
  | bindMdns task => exact .ofMdns rfl stepped
  | receiveMdns task => exact .ofMdns rfl stepped
  | answerMdns task answer => exact .ofMdns rfl stepped
  | finishMdns task => exact .ofMdns rfl stepped
  | receive => exact step_receive stepped
  | resolved =>
      simp only [State.step] at stepped
      split at stepped
      case h_2 => cases stepped
      case h_1 job id waits =>
        split at stepped
        case h_2 => cases stepped
        case h_1 answer set =>
          rcases Option.map_eq_some_iff.mp stepped with ⟨⟨middle, own⟩, inner, equal⟩
          cases equal
          rcases onResolver_eq_some inner with ⟨resolver, own, called, rfl, rfl⟩
          exact .resolved waits set called
  | reply result =>
      simp only [State.step] at stepped
      split at stepped
      case h_3 => cases stepped
      case h_1 busy =>
        rcases Option.map_eq_some_iff.mp stepped with ⟨⟨middle, own⟩, inner, equal⟩
        cases equal
        rcases onClient_eq_some inner with ⟨client, own, answered, rfl, rfl⟩
        exact .replied (by simp [busy]) answered
      case h_2 job busy =>
        rcases Option.map_eq_some_iff.mp stepped with ⟨⟨middle, own⟩, inner, equal⟩
        cases equal
        rcases onClient_eq_some inner with ⟨client, own, answered, rfl, rfl⟩
        exact .replied (by simp [busy]) answered

end HttpClient

end BeetEsp.Net
