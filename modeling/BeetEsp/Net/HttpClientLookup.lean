import BeetEsp.Net.HttpClient

/-! # Lookups of the HTTP client

The nested bridges behave as the bridge on its own does, so what is known of one
bridge holds of both. A lookup that nobody answers blocks the client for good.
-/

namespace BeetEsp.Net.HttpClient

open Foundation
open Esp32Utils

variable {Response : Type}

def Event.asClient : Event Response →
    Option (AsyncBridge.Event ClientJob (Except String Response))
  | client event => some event
  | resolver _ => none

def Event.asResolver : Event Response →
    Option (AsyncBridge.Event String (Option Ipv4Address))
  | client _ => none
  | resolver event => some event

@[simp] theorem asClient_client
    (events : List (AsyncBridge.Event ClientJob (Except String Response))) :
    (events.map Event.client).filterMap Event.asClient = events := by
  simp [List.filterMap_map, Function.comp_def, Event.asClient]

@[simp] theorem asClient_resolver
    (events : List (AsyncBridge.Event String (Option Ipv4Address))) :
    (events.map (Event.resolver : _ → Event Response)).filterMap Event.asClient = [] := by
  simp [List.filterMap_map, Function.comp_def, Event.asClient]

@[simp] theorem asResolver_resolver
    (events : List (AsyncBridge.Event String (Option Ipv4Address))) :
    (events.map (Event.resolver : _ → Event Response)).filterMap Event.asResolver =
      events := by
  simp [List.filterMap_map, Function.comp_def, Event.asResolver]

@[simp] theorem asResolver_client
    (events : List (AsyncBridge.Event ClientJob (Except String Response))) :
    (events.map Event.client).filterMap Event.asResolver = [] := by
  simp [List.filterMap_map, Function.comp_def, Event.asResolver]

/-! ## The bridges on their own -/

theorem client_follows {state next : State Response} {action : Action Response}
    {events : List (Event Response)} (shape : Step state action next events) :
    (clientBridge Response).Follows state.client next.client
      (events.filterMap Event.asClient) := by
  cases shape with
  | caller asCaller stepped =>
      rw [asClient_client]
      exact .inr ⟨_, stepped⟩
  | mdns => exact .inl ⟨rfl, asClient_resolver _⟩
  | lookup listens taken =>
      rw [List.filterMap_append, asClient_client, asClient_resolver, List.append_nil]
      exact .inr ⟨_, taken⟩
  | direct listens taken =>
      rw [asClient_client]
      exact .inr ⟨_, taken⟩
  | resolved => exact .inl ⟨rfl, asClient_resolver _⟩
  | replied busy stepped =>
      rw [asClient_client]
      exact .inr ⟨_, stepped⟩

theorem resolver_follows {state next : State Response} {action : Action Response}
    {events : List (Event Response)} (shape : Step state action next events) :
    resolverBridge.Follows state.resolver next.resolver
      (events.filterMap Event.asResolver) := by
  cases shape with
  | caller => exact .inl ⟨rfl, asResolver_client _⟩
  | mdns asMdns stepped =>
      rw [asResolver_resolver]
      exact .inr ⟨_, stepped⟩
  | lookup listens taken asked =>
      rw [List.filterMap_append, asResolver_client, asResolver_resolver,
        List.nil_append]
      exact .inr ⟨_, asked⟩
  | direct => exact .inl ⟨rfl, asResolver_client _⟩
  | resolved waits set stepped =>
      rw [asResolver_resolver]
      exact .inr ⟨_, stepped⟩
  | replied => exact .inl ⟨rfl, asResolver_client _⟩

/-- The client bridge with `client_driver` as its one worker. -/
theorem client_reached {state : State Response} {history : List (Event Response)}
    (reached : (httpClient Response).Reached state history) :
    (clientBridge Response).Reached state.client (history.filterMap Event.asClient) := by
  apply Machine.Reached.project State.client Event.asClient _ _ reached
  · exact ⟨[.start .runWorker], rfl⟩
  · exact fun stepped => client_follows (step_shape stepped)

/-- The resolver bridge with `client_driver` as its one caller. -/
theorem resolver_reached {state : State Response} {history : List (Event Response)}
    (reached : (httpClient Response).Reached state history) :
    resolverBridge.Reached state.resolver (history.filterMap Event.asResolver) := by
  apply Machine.Reached.project State.resolver Event.asResolver _ _ reached
  · exact resolverBridge.reached_initial
  · exact fun stepped => resolver_follows (step_shape stepped)

/-- A request gets the response that was sent for its own job. -/
theorem response_own {state : State Response} {history : List (Event Response)}
    {id : SignalId} {result : Except String Response}
    (reached : (httpClient Response).Reached state history)
    (returned : .client (.returned id result) ∈ history) :
    ∃ job task, (AsyncBridge.returnedPath id job task result).Sublist
      (history.filterMap Event.asClient) := by
  have member : .returned id result ∈ history.filterMap Event.asClient :=
    List.mem_filterMap.mpr ⟨_, returned, rfl⟩
  exact ((AsyncBridge.sound (client_reached reached)).returning.returned _ _ member).2

/-! ## Waiting for a lookup -/

/-- What `client_driver` waits for is a call of the resolver bridge. -/
def Waits (state : State Response) : Prop :=
  ∀ job id, state.driver = .resolving job id → id ∈ state.resolver.awaiting

/-- An mDNS task neither starts nor ends the waiting of a caller. -/
theorem awaiting_of_mdns {state : State Response} {action : Action Response}
    {own : AsyncBridge.Action String (Option Ipv4Address)}
    {next : AsyncBridge.State String (Option Ipv4Address) 2}
    {events : List (AsyncBridge.Event String (Option Ipv4Address))}
    (asMdns : action.asMdns = some own)
    (stepped : resolverBridge.step state.resolver own = some (next, events)) :
    next.awaiting = state.resolver.awaiting := by
  have shape := AsyncBridge.step_shape stepped
  cases action <;> cases asMdns <;> cases shape <;> rfl

theorem waits {state : State Response} {history : List (Event Response)}
    (reached : (httpClient Response).Reached state history) : Waits state := by
  apply Machine.Reached.induction (fun state _ => Waits state) ?start ?preserved reached
  case start => exact fun job id waits => nomatch waits
  case preserved =>
    intro state history action next events _ holds stepped
    cases step_shape stepped with
    | caller => exact holds
    | mdns asMdns inner =>
        intro job id waits
        rw [awaiting_of_mdns asMdns inner]
        exact holds job id waits
    | lookup listens taken asked waits => exact waits
    | direct => exact fun job id waits => nomatch waits
    | @resolved job id answer resolver events waits set stepped =>
        cases answer <;> exact fun job id waits => nomatch waits
    | replied => exact fun job id waits => nomatch waits

/-- While the resolver bridge has no orphans, `client_driver` does not wait in
vain. -/
theorem lookup_answerable {state : State Response} {history : List (Event Response)}
    {job : ClientJob} {id : SignalId}
    (reached : (httpClient Response).Reached state history)
    (noOrphans : AsyncBridge.NoOrphans state.resolver)
    (resolving : state.driver = .resolving job id) :
    AsyncBridge.Answerable state.resolver id :=
  noOrphans id (waits reached job id resolving)

/-! ## A lookup that blocks -/

/-- Every mDNS task is gone and the lookup was not answered. -/
structure Blocked (state : State Response) (job : ClientJob) (id : SignalId) : Prop where
  driver : state.driver = .resolving job id
  unanswered : state.resolver.signals[id]? = some none
  gone : ∀ task ∈ state.resolver.tasks, task = .ended

/-- A task that is gone does nothing. -/
theorem no_step_of_gone {state next : AsyncBridge.State String (Option Ipv4Address) 2}
    {action : Action Response} {own : AsyncBridge.Action String (Option Ipv4Address)}
    {events : List (AsyncBridge.Event String (Option Ipv4Address))}
    (gone : ∀ task ∈ state.tasks, task = .ended) (noTask : action ≠ .startMdns)
    (asMdns : action.asMdns = some own) :
    ¬ AsyncBridge.Step state own next events := by
  intro inner
  have ended := fun index found (lookup : state.tasks[index]? = some found) =>
    gone found (List.mem_of_getElem? lookup)
  cases inner with
  | started =>
      cases action <;> cases asMdns
      exact noTask rfl
  | bound starting => exact nomatch ended _ _ starting
  | spawned listens => exact nomatch ended _ _ listens
  | served listens => exact nomatch ended _ _ listens
  | answered holds held =>
      cases ended _ _ holds
      cases held
  | finished runs live =>
      cases ended _ _ runs
      cases live
  | accepted | rejected | returned | cancelled => cases action <;> cases asMdns

/-- Only a new mDNS task could get `client_driver` on. -/
theorem Blocked.step {state next : State Response} {action : Action Response}
    {events : List (Event Response)} {job : ClientJob} {id : SignalId}
    (blocked : Blocked state job id) (noTask : action ≠ .startMdns)
    (shape : Step state action next events) :
    Blocked next job id ∧ AsyncBridge.answeredIds (events.filterMap Event.asClient) = [] := by
  cases shape with
  | caller asCaller stepped =>
      refine ⟨⟨blocked.driver, blocked.unanswered, blocked.gone⟩, ?_⟩
      rw [asClient_client]
      have inner := AsyncBridge.step_shape stepped
      cases action <;> cases asCaller <;> cases inner <;> rfl
  | mdns asMdns stepped =>
      have inner := AsyncBridge.step_shape stepped
      exact absurd inner (no_step_of_gone blocked.gone noTask asMdns)
  | lookup listens => exact absurd (blocked.driver.symm.trans listens) nofun
  | direct listens => exact absurd (blocked.driver.symm.trans listens) nofun
  | resolved waits set =>
      cases blocked.driver.symm.trans waits
      rw [blocked.unanswered] at set
      cases set
  | replied busy => exact absurd blocked.driver (busy job id)

/-- A blocked client stays blocked in every run that starts no mDNS task, and
answers no request any more. -/
theorem Blocked.run {state final : State Response} {actions : List (Action Response)}
    {events : List (Event Response)} {job : ClientJob} {id : SignalId}
    (blocked : Blocked state job id) (noTask : .startMdns ∉ actions)
    (ran : (httpClient Response).runFrom state actions = some (final, events)) :
    Blocked final job id ∧
      AsyncBridge.answeredIds (events.filterMap Event.asClient) = [] := by
  induction actions generalizing state events with
  | nil =>
      cases ran
      exact ⟨blocked, rfl⟩
  | cons action actions induction =>
      rcases (httpClient Response).runFrom_cons_eq_some ran with
        ⟨next, first, rest, stepped, continued, rfl⟩
      have now := blocked.step (Ne.symm (List.ne_of_not_mem_cons noTask))
        (step_shape stepped)
      have later := induction now.1 (List.not_mem_of_not_mem_cons noTask) continued
      refine ⟨later.1, ?_⟩
      rw [List.filterMap_append, AsyncBridge.answeredIds_append, now.2, later.2]
      rfl

/-- A lookup that no task is there to answer is accepted all the same. -/
theorem blocked_of_receive {state next : State Response} {events : List (Event Response)}
    {call : Exchange ClientJob} {calls : List (Exchange ClientJob)}
    (listens : state.driver = .listening)
    (queued : state.client.queue.items = call :: calls)
    (isLocal : call.input.isLocal = true)
    (room : state.resolver.queue.items.length < 2)
    (gone : ∀ task ∈ state.resolver.tasks, task = .ended)
    (received : state.step .receive = some (next, events)) :
    Blocked next call.input state.resolver.signals.length ∧
      AsyncBridge.answeredIds (events.filterMap Event.asClient) = [] := by
  simp only [State.step, listens, queued] at received
  rcases Option.bind_eq_some_iff.mp received with ⟨⟨taken, asked⟩, first, rest⟩
  rcases Option.map_eq_some_iff.mp rest with ⟨⟨last, answers⟩, second, equal⟩
  cases equal
  rcases onClient_eq_some first with ⟨client, own, inner, rfl, rfl⟩
  simp only [State.exchange, if_pos isLocal] at second
  rcases Option.map_eq_some_iff.mp second with ⟨⟨middle, produced⟩, third, equal⟩
  cases equal
  rcases onResolver_eq_some third with ⟨resolver, own', called, rfl, rfl⟩
  rcases BoundedQueue.trySend_of_room room
    ⟨call.input.label, state.resolver.signals.length⟩ with ⟨queue, sent, -⟩
  simp only [asyncBridge, AsyncBridge.step, sent, Option.some.injEq,
    Prod.mk.injEq] at called
  rcases called with ⟨rfl, rfl⟩
  constructor
  · refine ⟨?_, List.getElem?_concat_length, gone⟩
    simp only [sent]
  · rw [List.filterMap_append, asClient_client, asClient_resolver, List.append_nil]
    cases AsyncBridge.step_shape inner <;> rfl

/-- With no mDNS task, a request to a `.local` host is the last one `client_driver`
ever works on. -/
theorem local_request_blocks {state final : State Response}
    {actions : List (Action Response)} {events : List (Event Response)}
    {call : Exchange ClientJob} {calls : List (Exchange ClientJob)}
    (listens : state.driver = .listening)
    (queued : state.client.queue.items = call :: calls)
    (isLocal : call.input.isLocal = true)
    (room : state.resolver.queue.items.length < 2)
    (gone : ∀ task ∈ state.resolver.tasks, task = .ended)
    (noTask : .startMdns ∉ actions)
    (ran : (httpClient Response).runFrom state (.receive :: actions) =
      some (final, events)) :
    Blocked final call.input state.resolver.signals.length ∧
      AsyncBridge.answeredIds (events.filterMap Event.asClient) = [] := by
  rcases (httpClient Response).runFrom_cons_eq_some ran with
    ⟨next, first, rest, received, continued, rfl⟩
  have now := blocked_of_receive listens queued isLocal room gone received
  have later := now.1.run noTask continued
  refine ⟨later.1, ?_⟩
  rw [List.filterMap_append, AsyncBridge.answeredIds_append, now.2, later.2]
  rfl

/-- Such a request, straight after boot. -/
example : ∃ state history call calls,
    (httpClient Unit).run [.send ⟨"printer.local", 80, false, []⟩] =
      some (state, history) ∧
    state.driver = .listening ∧ state.client.queue.items = call :: calls ∧
    call.input.isLocal = true ∧ state.resolver = resolverBridge.initial :=
  ⟨_, _, _, _, rfl, rfl, rfl, by decide, rfl⟩

end BeetEsp.Net.HttpClient
