import BeetEsp.Net.ClientDriver

/-! # What the client says for a request

The driver serves the jobs of the bridge in turn. What it says on the network for a job is
a lookup of its host, a connection to what was found and its bytes, and the reply tells how
far that went.
-/

namespace BeetEsp.Net.ClientDriver

open Foundation
open Esp32Utils
open SocketClient (BevyError IpEndpoint dnsFailed noDnsResults connectFailed)
open HttpClient (Request ClientExt Features clientJob clientBridge lookupFailed
  toEndOfStream sendRequest Transport)

variable {Parts Response : Type} {features : Features} {ext : ClientExt Parts Response}

/-- What is seen of the jobs between the bridge and the network. -/
inductive Served (Response : Type)
  | received (id : SignalId) (job : ClientJob)
  | said (what : Said)
  | answered (id : SignalId) (result : Except BevyError Response)

def Event.served : Event Parts Response → Option (Served Response)
  | bridge (.received _ id job) => some (.received id job)
  | bridge (.answered _ id result) => some (.answered id result)
  | said what => some (.said what)
  | _ => none

/-! ## The dialogue for a job -/

section

variable (features : Features) (job : ClientJob)

def asking : List Said := [.asked job.host (viaMdns features job)]

/-- The connection goes to the first address that was found, at the port of the job. -/
def opening (address : Ipv4Address) (others : List Ipv4Address) : List Said :=
  asking features job ++
    [.found (address :: others), .connecting ⟨address, job.port⟩]

/-- The bytes of a secure job are handed to its TLS session. -/
def sending (address : Ipv4Address) (others : List Ipv4Address) : List Said :=
  opening features job address others ++ (if job.secure then [.secured] else []) ++
    [.wrote job.secure job.bytes]

/-- What is said for the job up to an await. -/
inductive Progress : Phase → List Said → Prop
  | resolving : Progress (.resolving job) (asking features job)
  | connecting {address others} :
      Progress (.connecting job ⟨address, job.port⟩) (opening features job address others)
  | handshaking {address others} (secure : job.secure = true) :
      Progress (.handshaking job) (opening features job address others)
  | writing {address others} :
      Progress (.writing job) (sending features job address others)
  | flushing {address others} :
      Progress (.flushing job) (sending features job address others)
  | reading {address others reads raw}
      (waits : readLoop toEndOfStream [] reads = .waiting raw) :
      Progress (.reading job raw) (sending features job address others ++ reads.map .read)

variable (ext : ClientExt Parts Response)

/-- What is said for the job and what the reply is. -/
inductive Outcome : List Said → Except BevyError Response → Prop
  | dnsFailed {err} (unicast : viaMdns features job = false) :
      Outcome (asking features job) (.error (dnsFailed job.host err))
  | notFound :
      Outcome (asking features job ++ [.found []]) (.error (notFound features job))
  | unconnected {address others err} :
      Outcome (opening features job address others) (.error (connectFailed job.host err))
  | insecure {address others err} (secure : job.secure = true) :
      Outcome (opening features job address others) (.error err)
  | exchanged {address others result} (socket : Transport String)
      (sent : sendRequest id ext.parseResponse socket job.bytes = some result) :
      Outcome (sending features job address others ++ socket.reads.map .read) result

end

theorem Progress.job {job : ClientJob} {phase : Phase} {said : List Said}
    (progress : Progress features job phase said) : phase.job = some job := by
  cases progress <;> rfl

theorem GoesOn.job {job : ClientJob} {phase after : Phase} {more : List Said}
    (goesOn : GoesOn job phase after more) : phase.job = some job := by
  cases goesOn <;> rfl

theorem Ends.job {job : ClientJob} {phase : Phase} {more : List Said}
    {result : Except BevyError Response} (ends : Ends features ext job phase more result) :
    phase.job = some job := by
  cases ends <;> rfl

theorem Progress.goOn {job : ClientJob} {phase after : Phase} {said more : List Said}
    (progress : Progress features job phase said) (goesOn : GoesOn job phase after more) :
    Progress features job after (said ++ more) := by
  cases goesOn with
  | found =>
      cases progress
      exact .connecting
  | connectedSecure secure =>
      cases progress
      rw [List.append_nil]
      exact .handshaking secure
  | connectedPlain plain =>
      cases progress with
      | @connecting address others =>
          have same : sending features job address others =
              opening features job address others ++ [.wrote false job.bytes] := by
            simp [sending, plain]
          rw [← same]
          exact .writing
  | secured =>
      cases progress with
      | @handshaking address others secure =>
          have same : sending features job address others =
              opening features job address others ++ [.secured, .wrote true job.bytes] := by
            simp [sending, secure]
          rw [← same]
          exact .writing
  | written =>
      cases progress
      rw [List.append_nil]
      exact .flushing
  | flushed =>
      cases progress with
      | @flushing address others =>
          have none : readLoop toEndOfStream [] ([] : List (Except String _)) = .waiting [] :=
            rfl
          exact .reading none
  | read waits =>
      cases progress with
      | @reading address others reads raw waited =>
          rw [List.append_assoc, ← List.map_singleton, ← List.map_append]
          exact .reading ((readLoop_append waited _).trans waits)

/-- The results of the reads, on a socket that takes the request. -/
def taking (reads : List (Except String (List UInt8))) : Transport String where
  writeAll _ := .ok ()
  flush := .ok ()
  reads

theorem Progress.ends {job : ClientJob} {phase : Phase} {said more : List Said}
    {result : Except BevyError Response} (progress : Progress features job phase said)
    (ends : Ends features ext job phase more result) :
    Outcome features job ext (said ++ more) result := by
  cases ends with
  | dnsFailed unicast =>
      cases progress
      rw [List.append_nil]
      exact .dnsFailed unicast
  | notFound =>
      cases progress
      exact .notFound
  | unconnected =>
      cases progress
      rw [List.append_nil]
      exact .unconnected
  | insecure =>
      cases progress with
      | handshaking secure =>
          rw [List.append_nil]
          exact .insecure secure
  | @unwritten err =>
      cases progress
      exact .exchanged ⟨fun _ => .error err, .ok (), []⟩ rfl
  | @unflushed err =>
      cases progress
      exact .exchanged ⟨fun _ => .ok (), .error err, []⟩ rfl
  | ended ends =>
      cases progress with
      | @reading address others reads raw waited =>
          rw [List.append_assoc, ← List.map_singleton, ← List.map_append]
          apply Outcome.exchanged (taking (reads ++ _))
          simp only [sendRequest, taking, readLoop_append waited, ends]
  | failed fails =>
      cases progress with
      | @reading address others reads raw waited =>
          rw [List.append_assoc, ← List.map_singleton, ← List.map_append]
          apply Outcome.exchanged (taking (reads ++ _))
          simp only [sendRequest, taking, readLoop_append waited, fails]

/-! ## One job after the other -/

/-- A job from the bridge to its reply. -/
structure Turn (Response : Type) where
  id : SignalId
  job : ClientJob
  said : List Said
  result : Except BevyError Response

/-- A turn without its reply. -/
def begun (id : SignalId) (job : ClientJob) (said : List Said) : List (Served Response) :=
  .received id job :: said.map .said

theorem begun_append (id : SignalId) (job : ClientJob) (said more : List Said) :
    begun id job (said ++ more) =
      (begun id job said ++ more.map .said : List (Served Response)) := by
  rw [begun, begun, List.map_append, List.cons_append]

def Turn.events (turn : Turn Response) : List (Served Response) :=
  begun turn.id turn.job turn.said ++ [.answered turn.id turn.result]

def Turns (features : Features) (ext : ClientExt Parts Response)
    (turns : List (Turn Response)) : Prop :=
  ∀ turn ∈ turns, Outcome features turn.job ext turn.said turn.result

/-- The turns so far, with the driver waiting here and its task at the bridge. -/
inductive Serving (features : Features) (ext : ClientExt Parts Response) :
    Phase → Esp32Utils.Task ClientJob → List (Served Response) → Prop
  | configuring : Serving features ext .configuring (.listening .runWorker) []
  | listening {turns} (done : Turns features ext turns) :
      Serving features ext .listening (.listening .runWorker)
        (.said .configured :: turns.flatMap Turn.events)
  | busy {phase job id said turns} (done : Turns features ext turns)
      (progress : Progress features job phase said) :
      Serving features ext phase (.serving .runWorker ⟨job, id⟩)
        (.said .configured :: turns.flatMap Turn.events ++ begun id job said)

def ServesInTurn (features : Features) (ext : ClientExt Parts Response)
    (state : State Response) (history : List (Event Parts Response)) : Prop :=
  ∃ task, state.bridge.tasks = [task] ∧
    Serving features ext state.phase task (observed Event.served history)

theorem Turns.snoc {turns : List (Turn Response)} (done : Turns features ext turns)
    (turn : Turn Response)
    (outcome : Outcome features turn.job ext turn.said turn.result) :
    Turns features ext (turns ++ [turn]) := by
  intro other member
  rcases List.mem_append.mp member with earlier | now
  · exact done other earlier
  · cases List.mem_singleton.mp now
    exact outcome

@[simp] theorem served_said (said : List Said) :
    observed Event.served (said.map (Event.said : _ → Event Parts Response)) =
      said.map .said :=
  observed_map Event.served (fun _ => rfl) said

/-! ### The task of the driver -/

section

variable {bridge after : AsyncBridge.State ClientJob (Except BevyError Response) 4}
  {happened : List (AsyncBridge.Event ClientJob (Except BevyError Response))}

/-- What a caller does changes no task and is not seen between bridge and network. -/
theorem served_of_caller (Parts : Type)
    {action : AsyncBridge.Action ClientJob (Except BevyError Response)}
    (caller : (∃ job, action = .call job) ∨ (∃ id, action = .resume id) ∨
      ∃ id, action = .cancel id)
    (stepped : (clientBridge Response).step bridge action = some (after, happened)) :
    after.tasks = bridge.tasks ∧
      observed Event.served (happened.map (Event.bridge : _ → Event Parts Response)) = [] := by
  have shape := AsyncBridge.step_shape stepped
  rcases caller with ⟨job, rfl⟩ | ⟨id, rfl⟩ | ⟨id, rfl⟩ <;> cases shape <;> exact ⟨rfl, rfl⟩

theorem receive_listening (alone : bridge.tasks = [.listening .runWorker])
    (stepped : (clientBridge Response).step bridge (.receive 0) = some (after, happened)) :
    ∃ exchange rest, bridge.queue.items = exchange :: rest ∧
      after.tasks = [.serving .runWorker exchange] ∧
      happened = [.received 0 exchange.reply exchange.input] := by
  have lookup : bridge.tasks[0]? = some (.listening .runWorker) := by rw [alone]; rfl
  simp only [asyncBridge, AsyncBridge.step, lookup] at stepped
  cases received : bridge.queue.tryReceive with
  | none =>
      simp only [received] at stepped
      cases stepped
  | some taken =>
      rcases taken with ⟨exchange, queue⟩
      simp only [received, Responder.spawnsJobs, Bool.false_eq_true, if_false,
        Option.some.injEq, Prod.mk.injEq] at stepped
      rcases stepped with ⟨rfl, rfl⟩
      exact ⟨exchange, queue.items, BoundedQueue.tryReceive_eq_some received,
        by rw [alone]; rfl, rfl⟩

theorem answer_serving {exchange : Exchange ClientJob} {result : Except BevyError Response}
    (alone : bridge.tasks = [.serving .runWorker exchange])
    (stepped : (clientBridge Response).step bridge (.answer 0 result) =
      some (after, happened)) :
    after.tasks = [.listening .runWorker] ∧
      happened = [.answered 0 exchange.reply result] := by
  cases AsyncBridge.step_shape stepped with
  | answered holds held =>
      rw [alone] at holds
      cases holds
      cases held
      exact ⟨by rw [alone]; rfl, rfl⟩

end

theorem ServesInTurn.quiet {state next : State Response}
    {history events : List (Event Parts Response)}
    (holds : ServesInTurn features ext state history) (phase : next.phase = state.phase)
    (tasks : next.bridge.tasks = state.bridge.tasks)
    (none : observed Event.served events = []) :
    ServesInTurn features ext next (history ++ events) := by
  rcases holds with ⟨task, alone, serving⟩
  refine ⟨task, tasks.trans alone, ?_⟩
  rw [observed_append, none, List.append_nil, phase]
  exact serving

theorem ServesInTurn.step {state next : State Response}
    {history events : List (Event Parts Response)}
    (holds : ServesInTurn features ext state history)
    (shape : Step features ext state next events) :
    ServesInTurn features ext next (history ++ events) := by
  cases shape with
  | bailed => exact holds.quiet rfl rfl rfl
  | queued prepared accepted =>
      have seen := served_of_caller Parts (.inl ⟨_, rfl⟩) accepted
      exact holds.quiet rfl seen.1 rfl
  | full prepared rejected =>
      have seen := served_of_caller Parts (.inl ⟨_, rfl⟩) rejected
      exact holds.quiet rfl seen.1 rfl
  | resumed stepped =>
      have seen := served_of_caller Parts (.inr (.inl ⟨_, rfl⟩)) stepped
      exact holds.quiet rfl seen.1 seen.2
  | cancelled stepped =>
      have seen := served_of_caller Parts (.inr (.inr ⟨_, rfl⟩)) stepped
      exact holds.quiet rfl seen.1 seen.2
  | configured waits =>
      rcases holds with ⟨task, alone, serving⟩
      rw [waits] at serving
      generalize stream : observed Event.served history = served at serving
      cases serving with
      | configuring =>
          refine ⟨_, alone, ?_⟩
          rw [observed_append, stream]
          have none : Turns features ext [] := nofun
          exact .listening none
      | busy done progress => cases progress
  | received listens first taken =>
      rcases holds with ⟨task, alone, serving⟩
      rw [listens] at serving
      generalize stream : observed Event.served history = served at serving
      cases serving with
      | busy done progress => cases progress
      | listening done =>
          rcases receive_listening alone taken with ⟨exchange, rest, queued, tasks, rfl⟩
          cases first.symm.trans queued
          refine ⟨_, tasks, ?_⟩
          rw [observed_append, stream]
          exact .busy done .resolving
  | wentOn goesOn =>
      rcases holds with ⟨task, alone, serving⟩
      generalize stream : observed Event.served history = served at serving
      generalize waits : state.phase = phase at serving goesOn
      cases serving with
      | configuring | listening => cases goesOn
      | busy done progress =>
          cases progress.job.symm.trans goesOn.job
          refine ⟨_, alone, ?_⟩
          rw [observed_append, stream, served_said, List.append_assoc, ← begun_append]
          exact .busy done (progress.goOn goesOn)
  | replied ends answered =>
      rcases holds with ⟨task, alone, serving⟩
      generalize stream : observed Event.served history = served at serving
      generalize waits : state.phase = phase at serving ends
      cases serving with
      | configuring | listening => cases ends
      | @busy _ job id said turns done progress =>
          cases progress.job.symm.trans ends.job
          rcases answer_serving alone answered with ⟨tasks, rfl⟩
          refine ⟨_, tasks, ?_⟩
          have shown := Serving.listening (done.snoc ⟨id, _, _, _⟩ (progress.ends ends))
          rw [List.flatMap_append, List.flatMap_singleton, Turn.events, begun_append] at shown
          rw [observed_append, stream, observed_append, served_said]
          simpa [Event.served] using shown

theorem servesInTurn {state : State Response} {history : List (Event Parts Response)}
    (reached : (wifiClient features ext).Reached state history) :
    ServesInTurn features ext state history := by
  apply Machine.Reached.induction (ServesInTurn features ext) ?start ?preserved reached
  case start => exact ⟨_, rfl, .configuring⟩
  case preserved => exact fun _ holds stepped => holds.step (step_shape stepped)

/-! ## Requests and their replies -/

@[simp] theorem bridgeOf_said (said : List Said) :
    (said.map (Event.said : _ → Event Parts Response)).filterMap Event.bridgeOf = [] := by
  simp [List.filterMap_map, Function.comp_def, Event.bridgeOf]

@[simp] theorem bridgeOf_bridge
    (events : List (AsyncBridge.Event ClientJob (Except BevyError Response))) :
    (events.map (Event.bridge : _ → Event Parts Response)).filterMap Event.bridgeOf =
      events := by
  simp [List.filterMap_map, Function.comp_def, Event.bridgeOf]

theorem bridge_follows {state next : State Response} {events : List (Event Parts Response)}
    (shape : Step features ext state next events) :
    (clientBridge Response).Follows state.bridge next.bridge
      (events.filterMap Event.bridgeOf) := by
  cases shape with
  | bailed | configured => exact .inl ⟨rfl, rfl⟩
  | queued prepared called | full prepared called => exact .inr ⟨_, called⟩
  | resumed stepped | cancelled stepped =>
      rw [bridgeOf_bridge]
      exact .inr ⟨_, stepped⟩
  | received listens first taken =>
      refine .inr ⟨.receive 0, ?_⟩
      rw [taken, List.filterMap_append, bridgeOf_bridge]
      simp [Event.bridgeOf]
  | wentOn => exact .inl ⟨rfl, bridgeOf_said _⟩
  | replied ends answered =>
      rw [List.filterMap_append, bridgeOf_said, bridgeOf_bridge, List.nil_append]
      exact .inr ⟨_, answered⟩

theorem mem_bridgeOf {history : List (Event Parts Response)}
    {event : AsyncBridge.Event ClientJob (Except BevyError Response)} :
    event ∈ observed Event.bridgeOf history ↔ .bridge event ∈ history := by
  rw [mem_observed]
  constructor
  · rintro ⟨found, member, same⟩
    cases found <;> cases same
    exact member
  · exact fun member => ⟨_, member, rfl⟩

/-- The bridge with the driver as its one worker. -/
theorem bridge_reached {state : State Response} {history : List (Event Parts Response)}
    (reached : (wifiClient features ext).Reached state history) :
    (clientBridge Response).Reached state.bridge (observed Event.bridgeOf history) := by
  apply Machine.Reached.project State.bridge Event.bridgeOf _ _ reached
  · exact ⟨[.start .runWorker], rfl⟩
  · exact fun stepped => bridge_follows (step_shape stepped)

/-- The job of a request, once it is queued. -/
def Prepared (features : Features) (ext : ClientExt Parts Response)
    (history : List (Event Parts Response)) (id : SignalId) (job : ClientJob) : Prop :=
  ∃ request body, .queued id request body ∈ history ∧
    clientJob features ext request body = .ok job

theorem Prepared.later {history : List (Event Parts Response)} {id : SignalId}
    {job : ClientJob} (prepared : Prepared features ext history id job)
    (events : List (Event Parts Response)) :
    Prepared features ext (history ++ events) id job := by
  rcases prepared with ⟨request, body, queued, made⟩
  exact ⟨request, body, List.mem_append_left _ queued, made⟩

/-- Only a prepared job is accepted. -/
theorem Step.accepted {state next : State Response} {events : List (Event Parts Response)}
    {id : SignalId} {job : ClientJob} (shape : Step features ext state next events)
    (accepted : .bridge (.accepted id job) ∈ events) : Prepared features ext events id job := by
  cases shape with
  | @queued request body made bridge prepared called =>
      simp only [List.mem_cons, reduceCtorEq, Event.bridge.injEq,
        AsyncBridge.Event.accepted.injEq, false_or, List.not_mem_nil, or_false] at accepted
      rcases accepted with ⟨rfl, rfl⟩
      exact ⟨request, body, List.mem_cons_self, prepared⟩
  | bailed | configured | full => simp at accepted
  | resumed stepped | cancelled stepped =>
      cases AsyncBridge.call_of_accepted (AsyncBridge.step_shape stepped)
        (by simpa using accepted)
  | received listens first taken =>
      cases AsyncBridge.call_of_accepted (AsyncBridge.step_shape taken)
        (by simpa using accepted)
  | wentOn => simp at accepted
  | replied ends answered =>
      cases AsyncBridge.call_of_accepted (AsyncBridge.step_shape answered)
        (by simpa using accepted)

theorem prepared {state : State Response} {history : List (Event Parts Response)}
    (reached : (wifiClient features ext).Reached state history) :
    ∀ id job, .bridge (.accepted id job) ∈ history → Prepared features ext history id job := by
  apply Machine.Reached.induction (fun _ history => ∀ id job,
    .bridge (.accepted id job) ∈ history → Prepared features ext history id job)
    ?start ?preserved reached
  case start => exact fun _ _ => nofun
  case preserved =>
    intro state history action next events _ holds stepped id job accepted
    rcases List.mem_append.mp accepted with earlier | now
    · exact (holds id job earlier).later events
    · rcases (step_shape stepped).accepted now with ⟨request, body, queued, made⟩
      exact ⟨request, body, List.mem_append_right _ queued, made⟩

/-- The jobs that the driver took, with the calls they came with. -/
def Served.receipt : Served Response → Option (SignalId × ClientJob)
  | received id job => some (id, job)
  | _ => none

theorem receipts_served (history : List (Event Parts Response)) :
    observed Served.receipt (observed Event.served history) =
      (AsyncBridge.receipts (observed Event.bridgeOf history)).map Prod.snd := by
  induction history with
  | nil => rfl
  | cons event history induction =>
      rw [observed_cons, observed_append, induction, observed_cons, AsyncBridge.receipts_append,
        List.map_append]
      congr 1
      cases event with
      | bridge event => cases event <;> rfl
      | bailed | queued | said => rfl

/-- The turns so far, and what is said for the job under way. -/
inductive Conversation (features : Features) (turns : List (Turn Response)) :
    List (Served Response) → Prop
  | silent (none : turns = []) : Conversation features turns []
  | between : Conversation features turns (.said .configured :: turns.flatMap Turn.events)
  | during {phase job id said} (progress : Progress features job phase said) :
      Conversation features turns
        (.said .configured :: turns.flatMap Turn.events ++ begun id job said)

theorem Serving.conversation {phase : Phase} {task : Esp32Utils.Task ClientJob}
    {served : List (Served Response)} (serving : Serving features ext phase task served) :
    ∃ turns, Turns features ext turns ∧ Conversation features turns served := by
  cases serving with
  | configuring => exact ⟨[], nofun, .silent rfl⟩
  | listening done => exact ⟨_, done, .between⟩
  | busy done progress => exact ⟨_, done, .during progress⟩

theorem answered_notMem_begun {id other : SignalId} {job : ClientJob} {said : List Said}
    {result : Except BevyError Response} : .answered id result ∉ begun other job said := by
  simp [begun]

/-- A reply ends a turn. -/
theorem Conversation.turn {turns : List (Turn Response)} {served : List (Served Response)}
    {id : SignalId} {result : Except BevyError Response}
    (conversation : Conversation features turns served)
    (answered : .answered id result ∈ served) :
    ∃ turn ∈ turns, turn.id = id ∧ turn.result = result := by
  have inTurn : .answered id result ∈ turns.flatMap Turn.events := by
    cases conversation with
    | silent => cases answered
    | between => simpa using answered
    | during => simpa [answered_notMem_begun] using answered
  rcases List.mem_flatMap.mp inTurn with ⟨turn, member, shown⟩
  rcases List.mem_append.mp shown with early | last
  · exact absurd early answered_notMem_begun
  · cases List.mem_singleton.mp last
    exact ⟨turn, member, rfl, rfl⟩

/-- What a history shows of the requests: the driver serves their jobs one after the
other, each with its own dialogue, in the order in which the bridge accepted them, and
a request gets the reply of its own turn. -/
structure RequestsExchanged (features : Features) (ext : ClientExt Parts Response)
    (history : List (Event Parts Response)) : Prop where
  turns : ∃ turns, Turns features ext turns ∧
    Conversation features turns (observed Event.served history) ∧
    ∀ id result, .bridge (.returned id result) ∈ history →
      ∃ turn ∈ turns, turn.id = id ∧ turn.result = result
  inOrder : observed Served.receipt (observed Event.served history) <+:
    AsyncBridge.acceptedCalls (observed Event.bridgeOf history)
  prepared : ∀ id job, .bridge (.accepted id job) ∈ history →
    Prepared features ext history id job

theorem requests_exchanged {state : State Response} {history : List (Event Parts Response)}
    (reached : (wifiClient features ext).Reached state history) :
    RequestsExchanged features ext history := by
  have sound := AsyncBridge.sound (bridge_reached reached)
  rcases servesInTurn reached with ⟨task, -, serving⟩
  rcases serving.conversation with ⟨turns, done, conversation⟩
  refine ⟨⟨turns, done, conversation, ?_⟩, ?_, prepared reached⟩
  · intro id result returned
    rcases (sound.returning.returned id result (mem_bridgeOf.mpr returned)).2 with
      ⟨job, task, path⟩
    have answered : .answered task id result ∈ observed Event.bridgeOf history :=
      path.subset (by simp [AsyncBridge.returnedPath, AsyncBridge.answeredPath])
    exact conversation.turn ((mem_observed _).mpr ⟨_, mem_bridgeOf.mp answered, rfl⟩)
  · rw [receipts_served, sound.flow.queued]
    exact List.prefix_append _ _

/-- Requests are written with their body, and every response is its bytes. -/
def plainBytes : ClientExt (List UInt8) (List UInt8) where
  encodeRequest parts body := .ok (parts ++ body)
  parseResponse := .ok

/-- A request that is answered, and one whose name nobody answers. -/
theorem requests_exchanged_two :
    ∃ (state : State (List UInt8)) (history : List (Event (List UInt8) (List UInt8))),
      (wifiClient ⟨true, true⟩ plainBytes).Reached state history ∧
      RequestsExchanged ⟨true, true⟩ plainBytes history ∧
      observed Event.served history =
        [.said .configured,
          .received 0 ⟨"a", 81, false, [1, 2]⟩, .said (.asked "a" false),
          .said (.found [7, 8]), .said (.connecting ⟨7, 81⟩), .said (.wrote false [1, 2]),
          .said (.read (.ok [5])), .said (.read (.ok [])), .answered 0 (.ok [5]),
          .received 1 ⟨"b.local", 443, true, [3]⟩, .said (.asked "b.local" true),
          .said (.found []),
          .answered 1 (.error "mDNS lookup for `b.local` failed (no answer)")] :=
  have reached : (wifiClient ⟨true, true⟩ plainBytes).Reached _ _ :=
    ⟨[.send ⟨false, "a:81", "http://a:81", [1]⟩ (.ok [2]),
      .send ⟨true, "b.local", "https://b.local", [3]⟩ (.ok []), .io .configUp, .io .receive,
      .io (.queried (.ok [7, 8])), .io (.connected (.ok ())), .io (.written (.ok ())),
      .io (.flushed (.ok ())), .io (.read (.ok [5])), .io (.read (.ok [])), .resume 0,
      .io .receive, .io (.resolved none), .resume 1], rfl⟩
  ⟨_, _, reached, requests_exchanged reached, rfl⟩

/-! ## Secure requests -/

theorem wrote_mem_sending {job : ClientJob} {address : Ipv4Address}
    {others : List Ipv4Address} {tls : Bool} {bytes : List UInt8}
    (wrote : .wrote tls bytes ∈ sending features job address others) :
    job.secure = tls ∧ job.bytes = bytes := by
  have last : .wrote tls bytes ∉ opening features job address others := by
    simp [opening, asking]
  cases secure : job.secure <;> simpa [sending, secure, last, eq_comm] using wrote

theorem Progress.wrote {job : ClientJob} {phase : Phase} {said : List Said} {tls : Bool}
    {bytes : List UInt8} (progress : Progress features job phase said)
    (wrote : .wrote tls bytes ∈ said) : job.secure = tls ∧ job.bytes = bytes := by
  cases progress with
  | resolving => simp [asking] at wrote
  | connecting | handshaking => simp [opening, asking] at wrote
  | writing | flushing => exact wrote_mem_sending wrote
  | reading => exact wrote_mem_sending (by simpa using wrote)

theorem Outcome.wrote {job : ClientJob} {said : List Said} {tls : Bool}
    {bytes : List UInt8} {result : Except BevyError Response}
    (outcome : Outcome features job ext said result) (wrote : .wrote tls bytes ∈ said) :
    job.secure = tls ∧ job.bytes = bytes := by
  cases outcome with
  | dnsFailed | notFound => simp [asking] at wrote
  | unconnected | insecure => simp [opening, asking] at wrote
  | exchanged => exact wrote_mem_sending (by simpa using wrote)

theorem said_mem_begun {id : SignalId} {job : ClientJob} {said : List Said} {what : Said} :
    .said what ∈ (begun id job said : List (Served Response)) ↔ what ∈ said := by
  simp [begun]

theorem Turn.wrote {turn : Turn Response} {tls : Bool} {bytes : List UInt8}
    (outcome : Outcome features turn.job ext turn.said turn.result)
    (wrote : .said (.wrote tls bytes) ∈ turn.events) :
    turn.job.secure = tls ∧ turn.job.bytes = bytes := by
  rcases List.mem_append.mp wrote with inside | last
  · exact outcome.wrote (said_mem_begun.mp inside)
  · simp at last

/-- What is written is written for a job that the driver took. -/
theorem Conversation.wrote {turns : List (Turn Response)} {served : List (Served Response)}
    {tls : Bool} {bytes : List UInt8} (done : Turns features ext turns)
    (conversation : Conversation features turns served)
    (wrote : .said (.wrote tls bytes) ∈ served) :
    ∃ id job, .received id job ∈ served ∧ job.secure = tls ∧ job.bytes = bytes := by
  have ofTurn : .said (.wrote tls bytes) ∈ turns.flatMap Turn.events →
      ∃ id job, .received id job ∈ turns.flatMap Turn.events ∧ job.secure = tls ∧
        job.bytes = bytes := by
    intro member
    rcases List.mem_flatMap.mp member with ⟨turn, inside, shown⟩
    exact ⟨turn.id, turn.job, List.mem_flatMap.mpr ⟨turn, inside, List.mem_cons_self⟩,
      Turn.wrote (done turn inside) shown⟩
  cases conversation with
  | silent => cases wrote
  | between =>
      rcases ofTurn (by simpa using wrote) with ⟨id, job, received, own⟩
      exact ⟨id, job, List.mem_cons_of_mem _ received, own⟩
  | during progress =>
      rcases List.mem_append.mp wrote with earlier | now
      · rcases ofTurn (by simpa using earlier) with ⟨id, job, received, own⟩
        exact ⟨id, job, List.mem_append_left _ (List.mem_cons_of_mem _ received), own⟩
      · exact ⟨_, _, List.mem_append_right _ List.mem_cons_self,
          progress.wrote (said_mem_begun.mp now)⟩

/-- A job that the driver took was accepted. -/
theorem accepted_of_received {state : State Response}
    {history : List (Event Parts Response)} {id : SignalId} {job : ClientJob}
    (reached : (wifiClient features ext).Reached state history)
    (received : .received id job ∈ observed Event.served history) :
    .bridge (.accepted id job) ∈ history := by
  have flow := (AsyncBridge.sound (bridge_reached reached)).flow
  rcases (mem_observed _).mp received with ⟨event, member, shown⟩
  match event with
  | .bridge (.received task id job) =>
      cases shown
      exact mem_bridgeOf.mp (flow.accepted_of_received (mem_bridgeOf.mpr member))

/-- A TLS session is opened right before it is written to. -/
theorem Step.session {state next : State Response} {front back : List (Event Parts Response)}
    {bytes : List UInt8}
    (shape : Step features ext state next (front ++ .said (.wrote true bytes) :: back)) :
    front = [.said .secured] := by
  generalize produced : front ++ Event.said (.wrote true bytes) :: back = events at shape
  have member : .said (.wrote true bytes) ∈ events := by
    rw [← produced]
    simp
  cases shape with
  | bailed | queued | full | configured | resumed | cancelled | received => simp at member
  | replied ends =>
      generalize state.phase = phase at ends
      cases ends <;> simp at member
  | wentOn goesOn =>
      generalize state.phase = phase at goesOn
      cases goesOn with
      | found | connectedSecure | connectedPlain | written | flushed | read =>
          simp at member
      | secured =>
          match front with
          | [] => cases produced
          | [first] =>
              cases produced
              rfl
          | first :: second :: rest => simp at produced

/-- The bytes of an `https` request are written to a TLS session only, and those of an
`http` request to a plain socket only. A build without TLS takes no `https` request. -/
structure NeverPlain (features : Features) (ext : ClientExt Parts Response)
    (history : List (Event Parts Response)) : Prop where
  wrote : ∀ tls bytes, .said (.wrote tls bytes) ∈ history →
    ∃ id request body job, .queued id request body ∈ history ∧
      clientJob features ext request body = .ok job ∧ job.bytes = bytes ∧
      request.secure = tls
  session : ∀ before bytes after, history = before ++ .said (.wrote true bytes) :: after →
    ∃ front, before = front ++ [.said .secured]
  refused : features.secure = false → ∀ id job, .bridge (.accepted id job) ∈ history →
    job.secure = false

theorem never_plain {state : State Response} {history : List (Event Parts Response)}
    (reached : (wifiClient features ext).Reached state history) :
    NeverPlain features ext history := by
  constructor
  · intro tls bytes wrote
    rcases servesInTurn reached with ⟨task, -, serving⟩
    rcases serving.conversation with ⟨turns, done, conversation⟩
    rcases conversation.wrote done ((mem_observed _).mpr ⟨_, wrote, rfl⟩) with
      ⟨id, job, received, secure, own⟩
    rcases prepared reached id job (accepted_of_received reached received) with
      ⟨request, body, queued, made⟩
    refine ⟨id, request, body, job, queued, made, own, ?_⟩
    rw [← (HttpClient.clientJob_eq_ok made).1, secure]
  · intro before bytes after split
    rcases reached.emitted split with
      ⟨source, prior, action, next, front, back, -, stepped, rfl⟩
    exact ⟨prior, by rw [(step_shape stepped).session]⟩
  · intro insecure id job accepted
    rcases prepared reached id job accepted with ⟨request, body, -, made⟩
    have made := HttpClient.clientJob_eq_ok made
    by_contra secure
    have allowed := made.2.1 (by rw [← made.1]; simpa using secure)
    rw [insecure] at allowed
    cases allowed

/-- A secure request is written after the handshake, and a plain one after it. -/
theorem never_plain_both :
    ∃ (state : State (List UInt8)) (history : List (Event (List UInt8) (List UInt8))),
      (wifiClient ⟨true, false⟩ plainBytes).Reached state history ∧
      NeverPlain ⟨true, false⟩ plainBytes history ∧
      observed Event.served history =
        [.said .configured,
          .received 0 ⟨"a", 443, true, [1]⟩, .said (.asked "a" false),
          .said (.found [7]), .said (.connecting ⟨7, 443⟩), .said .secured,
          .said (.wrote true [1]), .answered 0 (.error "write failed: ConnectionReset"),
          .received 1 ⟨"b", 80, false, [2]⟩, .said (.asked "b" false),
          .said (.found [8]), .said (.connecting ⟨8, 80⟩), .said (.wrote false [2])] :=
  have reached : (wifiClient ⟨true, false⟩ plainBytes).Reached _ _ :=
    ⟨[.send ⟨true, "a", "https://a", [1]⟩ (.ok []), .send ⟨false, "b", "http://b", [2]⟩ (.ok []),
      .io .configUp, .io .receive, .io (.queried (.ok [7])), .io (.connected (.ok ())),
      .io (.secured (.ok ())), .io (.written (.error "ConnectionReset")), .io .receive,
      .io (.queried (.ok [8])), .io (.connected (.ok ()))], rfl⟩
  ⟨_, _, reached, never_plain reached, rfl⟩

end BeetEsp.Net.ClientDriver
