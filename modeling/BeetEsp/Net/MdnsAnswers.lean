import BeetEsp.Net.MdnsRoundtrip
import BeetEsp.Net.MdnsTask

/-! # Every query is answered and every job replied to

Over every interleaving of jobs, packets, failures and timeouts: the answers sent
are those to the queries received, by whichever loop; the jobs accepted are the
jobs replied to, the one in flight and those queued; and each reply has its cause
in the wait of its own job.
-/

namespace BeetEsp.Net.MdnsTask

open Foundation
open Mdns

/-! ## Histories -/

@[simp] def Event.acceptedOf : Event → Option Job
  | accepted job => some job
  | _ => none

@[simp] def Event.repliedOf : Event → Option Job
  | replied job _ _ => some job
  | _ => none

@[simp] def Event.receivedOf : Event → Option (List UInt8 × Option Ipv4Address)
  | received pkt address => some (pkt, address)
  | _ => none

@[simp] def Event.answeredOf : Event → Option (List UInt8)
  | answered answer => some answer
  | _ => none

/-- An answer given to the socket, sent or not. -/
@[simp] def Event.attemptedOf : Event → Option (List UInt8)
  | answered answer => some answer
  | answerFailed answer => some answer
  | _ => none

/-- The jobs `RESOLVER` accepted, in order. -/
abbrev accepted : List Event → List Job := observed Event.acceptedOf

/-- The jobs replied to, in order. -/
abbrev replied : List Event → List Job := observed Event.repliedOf

/-- The packets received, with the address of the stack at that time. -/
abbrev received : List Event → List (List UInt8 × Option Ipv4Address) :=
  observed Event.receivedOf

/-- The multicast answers sent. -/
abbrev answered : List Event → List (List UInt8) := observed Event.answeredOf

abbrev attempted : List Event → List (List UInt8) := observed Event.attemptedOf

/-! ## The two loops -/

theorem of_listener {phase : Phase} {caller : Option (Job × Nat)}
    (listens : phase.listener = some caller) :
    phase.waiting = caller ∧ phase.job = caller.map Prod.fst ∧ phase.answer = none := by
  cases phase <;> cases listens <;> exact ⟨rfl, rfl, rfl⟩

theorem of_resume (caller : Option (Job × Nat)) :
    (resume caller).waiting = caller ∧ (resume caller).job = caller.map Prod.fst ∧
      (resume caller).answer = none := by
  cases caller <;> exact ⟨rfl, rfl, rfl⟩

/-- The answer `handle_inbound` sends for a packet. -/
def answerTo (hostname : Str) (pkt : List UInt8) (address : Option Ipv4Address) :
    Option (List UInt8) :=
  if isQueryFor pkt hostname then
    address.bind fun ip =>
      (buildAnswer packetBuffer hostname ip).map fun (len, answer) => answer.take len
  else none

/-- `handle_inbound` either sends the answer or returns. -/
theorem handleInbound_shape (pkt : List UInt8) (hostname : Str)
    (address : Option Ipv4Address) (caller : Option (Job × Nat)) :
    (answerTo hostname pkt address = none ∧
      handleInbound pkt hostname address caller = resume caller) ∨
    ∃ answer, answerTo hostname pkt address = some answer ∧
      handleInbound pkt hostname address caller = .answering answer caller := by
  unfold handleInbound answerTo
  cases isQueryFor pkt hostname with
  | false => exact .inl ⟨rfl, rfl⟩
  | true =>
      cases address with
      | none => exact .inl ⟨rfl, rfl⟩
      | some ip =>
          simp only [Bool.not_true, Bool.false_eq_true, ↓reduceIte, Option.bind_some]
          cases buildAnswer packetBuffer hostname ip with
          | none => exact .inl ⟨rfl, rfl⟩
          | some built => exact .inr ⟨_, rfl, rfl⟩

/-- Both loops treat a packet the same way, and are back where they called from. -/
theorem of_handleInbound (pkt : List UInt8) (hostname : Str) (address : Option Ipv4Address)
    (caller : Option (Job × Nat)) :
    (handleInbound pkt hostname address caller).waiting = caller ∧
      (handleInbound pkt hostname address caller).job = caller.map Prod.fst ∧
      (handleInbound pkt hostname address caller).answer = answerTo hostname pkt address := by
  rcases handleInbound_shape pkt hostname address caller with
    ⟨unanswered, returned⟩ | ⟨answer, sends, answering⟩
  · rw [returned, unanswered]
    exact of_resume caller
  · rw [answering, sends]
    exact ⟨rfl, rfl, rfl⟩

/-! ## Jobs -/

/-- The jobs that still wait for their reply, the next one first. -/
def State.owed (state : State) : List Job :=
  state.phase.job.toList ++ state.resolver.items

/-- Each step moves jobs forward in line: at most one joins at the end, and at most
one leaves at the front, with its reply. -/
theorem owed_step {hostname : Str} {state next : State} {action : Action}
    {events : List Event} (step : Step hostname state action next events) :
    state.owed ++ accepted events = replied events ++ next.owed := by
  cases step with
  | accepted room items => simp [State.owed, items]
  | rejected full => simp [State.owed]
  | took idle head built => simp [State.owed, idle, head, Phase.job, Phase.waiting]
  | refused idle head built => simp [State.owed, idle, head, Phase.job, Phase.waiting]
  | served idle empty => simp [State.owed, idle, Phase.job, Phase.waiting]
  | listened resolving early => simp [State.owed, resolving, Phase.job, Phase.waiting]
  | gaveUp past waiting =>
      rcases waiting with ⟨-, resolving⟩ | ⟨-, awaiting⟩
      · simp [State.owed, resolving, Phase.job, Phase.waiting]
      · simp [State.owed, awaiting, Phase.job, Phase.waiting]
  | queried querying => simp [State.owed, querying, Phase.job, Phase.waiting]
  | queryFailed querying => simp [State.owed, querying, Phase.job, Phase.waiting]
  | resolved awaiting found => simp [State.owed, awaiting, Phase.job, Phase.waiting]
  | handled listens =>
      simp [State.owed, (of_listener listens).2.1, (of_handleInbound ..).2.1]
  | receiveFailed listens =>
      simp [State.owed, (of_listener listens).2.1, (of_resume _).2.1]
  | polled serving => simp [State.owed, serving, Phase.job, Phase.waiting]
  | answered sending =>
      rw [State.owed, State.owed, (of_resume _).2.1, sending]
      simp [Phase.job, Phase.waiting]
  | answerFailed sending =>
      rw [State.owed, State.owed, (of_resume _).2.1, sending]
      simp [Phase.job, Phase.waiting]
  | elapsed => simp [State.owed]
  | configured => simp [State.owed]

/-- Every reply handle given out belongs to one accepted job. -/
theorem replies_step {hostname : Str} {state next : State} {action : Action}
    {events : List Event} (step : Step hostname state action next events) :
    List.range state.replies ++ (accepted events).map Job.reply =
      List.range next.replies := by
  cases step with
  | accepted room items => simp [List.range_succ]
  | _ => simp

/-- No job is lost, duplicated or overtaken. -/
structure Jobs (state : State) (history : List Event) : Prop where
  accounted : accepted history = replied history ++ state.owed
  numbered : (accepted history).map Job.reply = List.range state.replies

theorem jobs_of_reached {hostname : Str} {address : Option Ipv4Address} {state : State}
    {history : List Event} (reached : (mdnsTask hostname address).Reached state history) :
    Jobs state history := by
  apply Machine.Reached.induction Jobs ?start ?preserved reached
  case start => exact ⟨rfl, rfl⟩
  case preserved =>
    intro state history action next events _ jobs stepped
    have step := step_shape stepped
    constructor
    · calc accepted (history ++ events)
          = replied history ++ (state.owed ++ accepted events) := by
            simp only [observed_append, jobs.accounted, List.append_assoc]
        _ = replied (history ++ events) ++ next.owed := by
            simp only [owed_step step, observed_append, List.append_assoc]
    · simp only [observed_append, List.map_append, jobs.numbered, replies_step step]

/-! ## Answers -/

/-- The answers to packets received while the stack had these addresses. -/
abbrev answersTo (hostname : Str) :
    List (List UInt8 × Option Ipv4Address) → List (List UInt8) :=
  observed fun entry => answerTo hostname entry.1 entry.2

/-- Each step takes up the answers to what it receives, and is done with one when
it was given to the socket. -/
theorem answer_step {hostname : Str} {state next : State} {action : Action}
    {events : List Event} (step : Step hostname state action next events) :
    state.phase.answer.toList ++ answersTo hostname (received events) =
      attempted events ++ next.phase.answer.toList := by
  cases step with
  | accepted room items => simp [answersTo]
  | rejected full => simp [answersTo]
  | took idle head built => simp [answersTo, idle, Phase.answer]
  | refused idle head built => simp [answersTo, idle, Phase.answer]
  | served idle empty => simp [answersTo, idle, Phase.answer]
  | listened resolving early => simp [answersTo, resolving, Phase.answer]
  | gaveUp past waiting =>
      rcases waiting with ⟨-, resolving⟩ | ⟨-, awaiting⟩
      · simp [answersTo, resolving, Phase.answer]
      · simp [answersTo, awaiting, Phase.answer]
  | queried querying => simp [answersTo, querying, Phase.answer]
  | queryFailed querying => simp [answersTo, querying, Phase.answer]
  | resolved awaiting found =>
      simp [answersTo, answerTo, awaiting, Phase.answer, isQueryFor_of_parseAnswer found]
  | handled listens =>
      rw [(of_listener listens).2.2, (of_handleInbound ..).2.2]
      simp
  | receiveFailed listens =>
      simp [answersTo, (of_listener listens).2.2, (of_resume _).2.2]
  | polled serving => simp [answersTo, serving, Phase.answer]
  | answered sending =>
      rw [(of_resume _).2.2, sending]
      simp [answersTo, Phase.answer]
  | answerFailed sending =>
      rw [(of_resume _).2.2, sending]
      simp [answersTo, Phase.answer]
  | elapsed => simp [answersTo]
  | configured => simp [answersTo]

theorem answers_of_reached {hostname : Str} {address : Option Ipv4Address} {state : State}
    {history : List Event} (reached : (mdnsTask hostname address).Reached state history) :
    attempted history ++ state.phase.answer.toList =
      answersTo hostname (received history) := by
  apply Machine.Reached.induction (fun state history =>
    attempted history ++ state.phase.answer.toList = answersTo hostname (received history))
    ?start ?preserved reached
  case start => rfl
  case preserved =>
    intro state history action next events _ holds stepped
    calc attempted (history ++ events) ++ next.phase.answer.toList
        = attempted history ++ (attempted events ++ next.phase.answer.toList) := by
          simp only [observed_append, List.append_assoc]
      _ = (attempted history ++ state.phase.answer.toList) ++
            answersTo hostname (received events) := by
          rw [← answer_step (step_shape stepped), List.append_assoc]
      _ = answersTo hostname (received (history ++ events)) := by
          rw [holds]
          simp only [observed_append]

/-- The task keeps its address and every answer it sends goes out. -/
def Connected (action : Action) : Prop :=
  action ≠ .configure none ∧ action ≠ .answerSent false

/-- What is so of a task that stays connected. -/
structure Online (state : State) (history : List Event) : Prop where
  configured : state.address.isSome = true
  addressed : ∀ entry ∈ received history, entry.2.isSome = true
  sent : answered history = attempted history

theorem online_run {hostname : Str} {address : Option Ipv4Address}
    {actions : List Action} {state : State} {history : List Event}
    (configured : address.isSome = true) (connected : ∀ action ∈ actions, Connected action)
    (ran : (mdnsTask hostname address).run actions = some (state, history)) :
    Online state history := by
  have meets : (mdnsTask hostname address).Meets (fun _ action => Connected action) actions :=
    Machine.meets_of_forall connected
  apply Machine.Meets.induction ?start ?preserved meets ran
  case start => exact ⟨configured, by simp, rfl⟩
  case preserved =>
    intro state history action next events _ holds connected stepped
    rcases holds with ⟨configured, addressed, sent⟩
    rcases connected with ⟨keeps, sends⟩
    cases step_shape stepped with
    | @configured address =>
        refine ⟨?_, by simpa using addressed, by simpa using sent⟩
        cases address with
        | none => exact absurd rfl keeps
        | some ip => rfl
    | answerFailed sending => exact absurd rfl sends
    | resolved awaiting found =>
        refine ⟨configured, ?_, by simpa using sent⟩
        intro entry seen
        simp only [observed_append, List.mem_append] at seen
        rcases seen with earlier | now
        · exact addressed entry earlier
        · simp at now
          rwa [now]
    | handled listens =>
        refine ⟨configured, ?_, by simpa using sent⟩
        intro entry seen
        simp only [observed_append, List.mem_append] at seen
        rcases seen with earlier | now
        · exact addressed entry earlier
        · simp at now
          rwa [now]
    | _ =>
        exact ⟨configured, by simpa using addressed, by simpa using sent⟩

/-! ## Causes of replies -/

/-- What can have led to a reply at a time: for an address, a packet received since
the query of the job was sent; for none, a label that cannot be asked for, a query
that did not go out, or the end of the wait. -/
def Justified (before : List Event) (job : Job) (now : Nat) : Option Ipv4Address → Prop
  | some ip => ∃ asked since wait pkt address,
      before = asked ++ .querySent job true since :: wait ∧
      .received pkt address ∈ wait ∧ parseAnswer pkt job.label = some ip
  | none =>
      ¬ (1 ≤ job.label.length ∧ job.label.length ≤ 63) ∨
      .querySent job false now ∈ before ∨
      ∃ since, .querySent job true since ∈ before ∧ since + RESOLVE_TIMEOUT ≤ now

/-- A job waits since its query was sent. -/
def Waits (state : State) (history : List Event) : Prop :=
  ∀ job deadline, state.phase.waiting = some (job, deadline) →
    ∃ asked since wait, history = asked ++ .querySent job true since :: wait ∧
      deadline = since + RESOLVE_TIMEOUT

theorem waiting_step {hostname : Str} {state next : State} {action : Action}
    {events : List Event} (step : Step hostname state action next events) :
    next.phase.waiting = none ∨ next.phase.waiting = state.phase.waiting ∨
      ∃ job, events = [.querySent job true state.now] ∧
        next.phase.waiting = some (job, state.now + RESOLVE_TIMEOUT) := by
  cases step with
  | accepted | rejected | elapsed | configured => exact .inr (.inl rfl)
  | took | refused | served | gaveUp | queryFailed | resolved | polled => exact .inl rfl
  | listened resolving early => exact .inr (.inl (by rw [resolving]; rfl))
  | @queried job query querying => exact .inr (.inr ⟨job, rfl, rfl⟩)
  | @handled pkt caller listens =>
      have handled := (of_handleInbound pkt hostname state.address caller).1
      exact .inr (.inl (handled.trans (of_listener listens).1.symm))
  | receiveFailed listens =>
      exact .inr (.inl ((of_resume _).1.trans (of_listener listens).1.symm))
  | answered sending | answerFailed sending =>
      exact .inr (.inl ((of_resume _).1.trans (by rw [sending]; rfl)))

theorem waits_of_reached {hostname : Str} {address : Option Ipv4Address} {state : State}
    {history : List Event} (reached : (mdnsTask hostname address).Reached state history) :
    Waits state history := by
  apply Machine.Reached.induction Waits ?start ?preserved reached
  case start =>
    intro job deadline waiting
    cases waiting
  case preserved =>
    intro state history action next events _ waits stepped job deadline waiting
    rcases waiting_step (step_shape stepped) with none | same | ⟨asked, rfl, started⟩
    · rw [none] at waiting
      cases waiting
    · rcases waits job deadline (same ▸ waiting) with ⟨asked, since, wait, rfl, deadline⟩
      exact ⟨asked, since, wait ++ events, by simp, deadline⟩
    · rw [started] at waiting
      rcases Prod.mk.inj (Option.some.inj waiting) with ⟨rfl, rfl⟩
      exact ⟨history, state.now, [], rfl, rfl⟩

theorem not_split_of_quiet {events front back : List Event} {job : Job}
    {answer : Option Ipv4Address} {now : Nat} (quiet : replied events = []) :
    events ≠ front ++ .replied job answer now :: back := by
  intro same
  subst same
  simp at quiet

/-- A reply that is the last event of a step is its only one when no other event of
the step is a reply. -/
theorem split_last {before front back : List Event} {event : Event} {job : Job}
    {answer : Option Ipv4Address} {now : Nat} (quiet : replied before = [])
    (split : before ++ [event] = front ++ .replied job answer now :: back) :
    front = before ∧ event = .replied job answer now := by
  rcases Machine.snoc_split split with ⟨same, equal, -⟩ | ⟨_, -, wrong⟩
  · exact ⟨same.symm, equal⟩
  · exact absurd wrong (not_split_of_quiet quiet)

/-- The steps that reply, and what each replies. -/
theorem reply_step {hostname : Str} {state next : State} {action : Action}
    {events front back : List Event} {job : Job} {answer : Option Ipv4Address} {now : Nat}
    (step : Step hostname state action next events)
    (split : events = front ++ .replied job answer now :: back) :
    (answer = none ∧ buildQuery packetBuffer job.label = none) ∨
    (answer = none ∧ .querySent job false now ∈ front) ∨
    ∃ deadline, state.phase.waiting = some (job, deadline) ∧
      ((answer = none ∧ deadline ≤ now) ∨
        ∃ pkt address ip, answer = some ip ∧ .received pkt address ∈ front ∧
          parseAnswer pkt job.label = some ip) := by
  cases step with
  | gaveUp past waiting =>
      rcases split_last rfl (show [] ++ [_] = _ from split) with ⟨rfl, equal⟩
      cases equal
      refine .inr (.inr ⟨_, ?_, .inl ⟨rfl, past⟩⟩)
      rcases waiting with ⟨-, resolving⟩ | ⟨-, awaiting⟩
      · rw [resolving]
        rfl
      · rw [awaiting]
        rfl
  | refused idle head built =>
      rcases split_last rfl (show [_] ++ [_] = _ from split) with ⟨rfl, equal⟩
      cases equal
      exact .inl ⟨rfl, built⟩
  | queryFailed querying =>
      rcases split_last rfl (show [_] ++ [_] = _ from split) with ⟨rfl, equal⟩
      cases equal
      exact .inr (.inl ⟨rfl, List.mem_singleton.mpr rfl⟩)
  | resolved awaiting found =>
      rcases split_last rfl (show [_] ++ [_] = _ from split) with ⟨rfl, equal⟩
      cases equal
      exact .inr (.inr ⟨_, by rw [awaiting]; rfl,
        .inr ⟨_, _, _, rfl, List.mem_singleton.mpr rfl, found⟩⟩)
  | _ => exact absurd split (not_split_of_quiet rfl)

theorem justified_of_reached {hostname : Str} {address : Option Ipv4Address} {state : State}
    {history before after : List Event} {job : Job} {answer : Option Ipv4Address} {now : Nat}
    (reached : (mdnsTask hostname address).Reached state history)
    (split : history = before ++ .replied job answer now :: after) :
    Justified before job now answer := by
  rcases reached.emitted split with
    ⟨source, prior, action, next, front, back, reachedSource, stepped, rfl⟩
  rcases reply_step (step_shape stepped) rfl with
    ⟨rfl, refused⟩ | ⟨rfl, failed⟩ | ⟨deadline, waiting, cause⟩
  · apply Or.inl
    intro allowed
    have room : ∀ label : Str, label.length ≤ 63 →
        (queryPacket label).length ≤ packetBuffer.length := by
      intro label short
      rw [length_queryPacket, packetBuffer, List.length_replicate]
      omega
    have built := (finish_isSome_iff fails_query writes_query (room job.label)).mpr allowed
    change (buildQuery packetBuffer job.label).isSome = true at built
    rw [refused] at built
    cases built
  · exact .inr (.inl (List.mem_append_right prior failed))
  · rcases waits_of_reached reachedSource job deadline waiting with ⟨asked, since, wait, rfl, rfl⟩
    rcases cause with ⟨rfl, past⟩ | ⟨pkt, seen, ip, rfl, packet, found⟩
    · exact .inr (.inr ⟨since, by simp, past⟩)
    · exact ⟨asked, since, wait ++ front, pkt, seen, by simp, List.mem_append_right wait packet,
        found⟩

/-! ## Progress -/

/-- The steps of the task itself; the others are its callers' and the stack's. -/
def Action.own : Action → Bool
  | .call _ | .elapse _ | .configure _ => false
  | _ => true

/-- Steps of the task up to the next turn of the loop it is in. -/
def Phase.cost : Phase → Nat
  | .idle | .querying .. | .resolving .. => 1
  | .answering .. => 2
  | .serving _ | .awaiting .. => 3

theorem cost_resume (caller : Option (Job × Nat)) : (resume caller).cost = 1 := by
  cases caller <;> rfl

theorem cost_handleInbound (pkt : List UInt8) (hostname : Str)
    (address : Option Ipv4Address) (caller : Option (Job × Nat)) :
    (handleInbound pkt hostname address caller).cost ≤ 2 := by
  rcases handleInbound_shape pkt hostname address caller with
    ⟨-, returned⟩ | ⟨answer, -, answering⟩
  · rw [returned, cost_resume]
    decide
  · rw [answering]
    exact Nat.le_refl 2

theorem cost_of_listener {phase : Phase} {caller : Option (Job × Nat)}
    (listens : phase.listener = some caller) : phase.cost = 3 := by
  cases phase <;> cases listens <;> rfl

theorem cost_positive (phase : Phase) : 0 < phase.cost := by
  cases phase <;> exact Nat.succ_pos _

theorem cost_handled {state : State} {caller : Option (Job × Nat)}
    (listens : state.phase.listener = some caller) (pkt : List UInt8) (hostname : Str) :
    (handleInbound pkt hostname state.address caller).cost + 1 ≤ state.phase.cost := by
  rw [cost_of_listener listens]
  exact Nat.succ_le_succ (cost_handleInbound pkt hostname state.address caller)

/-- The deadline of a job is over. -/
def Overdue (job : Job) (state : State) : Prop :=
  ∃ deadline, state.phase.waiting = some (job, deadline) ∧ deadline ≤ state.now

theorem overdue_step {hostname : Str} {state next : State} {action : Action}
    {events : List Event} {job : Job} (overdue : Overdue job state)
    (step : Step hostname state action next events) :
    (∃ event ∈ events, ∃ answer now, event = .replied job answer now) ∨
      Overdue job next ∧
        next.phase.cost + (if action.own then 1 else 0) ≤ state.phase.cost := by
  rcases overdue with ⟨deadline, waiting, past⟩
  cases step with
  | accepted | rejected | configured =>
      exact .inr ⟨⟨deadline, waiting, past⟩, Nat.le_refl _⟩
  | elapsed =>
      exact .inr ⟨⟨deadline, waiting, Nat.le_add_right_of_le past⟩, Nat.le_refl _⟩
  | took idle | refused idle | served idle =>
      rw [idle] at waiting
      cases waiting
  | queried querying | queryFailed querying =>
      rw [querying] at waiting
      cases waiting
  | polled serving =>
      rw [serving] at waiting
      cases waiting
  | listened resolving early =>
      rw [resolving] at waiting
      cases waiting
      exact absurd past (Nat.not_le.mpr early)
  | gaveUp late phase =>
      rcases phase with ⟨-, phase⟩ | ⟨-, phase⟩
      · rw [phase] at waiting
        cases waiting
        exact .inl ⟨_, List.mem_singleton.mpr rfl, _, _, rfl⟩
      · rw [phase] at waiting
        cases waiting
        exact .inl ⟨_, List.mem_singleton.mpr rfl, _, _, rfl⟩
  | resolved awaiting found =>
      rw [awaiting] at waiting
      cases waiting
      exact .inl ⟨_, List.mem_cons_of_mem _ (List.mem_singleton.mpr rfl), _, _, rfl⟩
  | @handled pkt caller listens =>
      have same := (of_handleInbound pkt hostname state.address caller).1
      rw [(of_listener listens).1] at waiting
      simp only [Action.own, ↓reduceIte]
      exact .inr ⟨⟨deadline, same.trans waiting, past⟩, cost_handled listens pkt hostname⟩
  | @receiveFailed caller listens =>
      rw [(of_listener listens).1] at waiting
      refine .inr ⟨⟨deadline, (of_resume caller).1.trans waiting, past⟩, ?_⟩
      rw [cost_resume, cost_of_listener listens]
      decide
  | @answered answer caller sending | @answerFailed answer caller sending =>
      rw [sending] at waiting
      refine .inr ⟨⟨deadline, (of_resume caller).1.trans waiting, past⟩, ?_⟩
      rw [cost_resume, sending]
      exact Nat.le_refl 2

/-- The next job in line, while none is in flight. -/
def Next (job : Job) (state : State) : Prop :=
  state.phase.job = none ∧ ∃ rest, state.resolver.items = job :: rest

theorem next_step {hostname : Str} {state next : State} {action : Action}
    {events : List Event} {job : Job} (first : Next job state)
    (step : Step hostname state action next events) :
    (∃ event ∈ events, event = .taken job) ∨
      Next job next ∧
        next.phase.cost + (if action.own then 1 else 0) ≤ state.phase.cost := by
  rcases first with ⟨free, rest, line⟩
  cases step with
  | @accepted label resolver room items =>
      refine .inr ⟨⟨free, rest ++ [{ reply := state.replies, label }], ?_⟩, Nat.le_refl _⟩
      rw [items, line]
      rfl
  | rejected | configured | elapsed =>
      exact .inr ⟨⟨free, rest, line⟩, Nat.le_refl _⟩
  | took idle head | refused idle head =>
      rw [head] at line
      cases line
      exact .inl ⟨_, List.mem_cons_self, rfl⟩
  | served idle empty =>
      rw [empty] at line
      cases line
  | queried querying | queryFailed querying =>
      rw [querying] at free
      cases free
  | listened resolving early =>
      rw [resolving] at free
      cases free
  | gaveUp late phase =>
      rcases phase with ⟨-, phase⟩ | ⟨-, phase⟩
      · rw [phase] at free
        cases free
      · rw [phase] at free
        cases free
  | resolved awaiting found =>
      rw [awaiting] at free
      cases free
  | polled serving =>
      rw [serving]
      exact .inr ⟨⟨rfl, rest, line⟩, Nat.le_succ 2⟩
  | @handled pkt caller listens =>
      have same := (of_handleInbound pkt hostname state.address caller).2.1
      rw [(of_listener listens).2.1] at free
      simp only [Action.own, ↓reduceIte]
      exact .inr ⟨⟨same.trans free, rest, line⟩, cost_handled listens pkt hostname⟩
  | @receiveFailed caller listens =>
      rw [(of_listener listens).2.1] at free
      refine .inr ⟨⟨(of_resume caller).2.1.trans free, rest, line⟩, ?_⟩
      rw [cost_resume, cost_of_listener listens]
      decide
  | @answered answer caller sending | @answerFailed answer caller sending =>
      rw [sending] at free
      refine .inr ⟨⟨(of_resume caller).2.1.trans free, rest, line⟩, ?_⟩
      rw [cost_resume, sending]
      exact Nat.le_refl 2

/-- What the task still does from a state, in any schedule of its own steps with
those of the others: it can always step once time passes, it takes the next job,
sends its query, and replies when its deadline is over. -/
structure Progress (hostname : Str) (address : Option Ipv4Address) (state : State) : Prop where
  moves : ∃ ms action next events, action.own = true ∧ (∀ pkt, action ≠ .receive pkt) ∧
    (mdnsTask hostname address).runFrom state [.elapse ms, action] = some (next, events)
  takes : ∀ job rest final events, Next job state →
    (mdnsTask hostname address).runFrom state rest = some (final, events) →
    3 ≤ rest.countP Action.own → .taken job ∈ events
  asks : ∀ job query rest final events, state.phase = .querying job query →
    (mdnsTask hostname address).runFrom state rest = some (final, events) →
    1 ≤ rest.countP Action.own → ∃ ok now, .querySent job ok now ∈ events
  replies : ∀ job rest final events, Overdue job state →
    (mdnsTask hostname address).runFrom state rest = some (final, events) →
    3 ≤ rest.countP Action.own → ∃ answer now, .replied job answer now ∈ events

theorem cost_le_three (phase : Phase) : phase.cost ≤ 3 := by
  cases phase <;> simp [Phase.cost]

theorem querying_step {hostname : Str} {state next : State} {action : Action}
    {events : List Event} {job : Job}
    (querying : ∃ query, state.phase = .querying job query)
    (step : Step hostname state action next events) :
    (∃ event ∈ events, ∃ ok now, event = .querySent job ok now) ∨
      (∃ query, next.phase = .querying job query) ∧
        next.phase.cost + (if action.own then 1 else 0) ≤ state.phase.cost := by
  rcases querying with ⟨query, querying⟩
  cases step with
  | accepted | rejected | configured | elapsed =>
      exact .inr ⟨⟨query, querying⟩, Nat.le_refl _⟩
  | queried asked | queryFailed asked =>
      rw [querying] at asked
      cases asked
      exact .inl ⟨_, List.mem_cons_self, _, _, rfl⟩
  | took other | refused other | served other | listened other | resolved other
  | polled other | answered other | answerFailed other =>
      rw [querying] at other
      cases other
  | handled listens | receiveFailed listens =>
      rw [querying] at listens
      cases listens
  | gaveUp late phase =>
      rw [querying] at phase
      rcases phase with ⟨-, phase⟩ | ⟨-, phase⟩ <;> cases phase

/-- The task waits for its own sends, for packets or for the clock, and for nothing
else. -/
theorem moves (hostname : Str) (address : Option Ipv4Address) (state : State) :
    ∃ ms action next events, action.own = true ∧ (∀ pkt, action ≠ .receive pkt) ∧
      (mdnsTask hostname address).runFrom state [.elapse ms, action] = some (next, events) := by
  suffices waited : ∃ ms action next events, action.own = true ∧
      (∀ pkt, action ≠ .receive pkt) ∧
      step hostname { state with now := state.now + ms } action = some (next, events) by
    rcases waited with ⟨ms, action, next, events, own, other, stepped⟩
    have acted : (mdnsTask hostname address).step { state with now := state.now + ms } action =
        some (next, events) := stepped
    exact ⟨ms, action, next, [] ++ (events ++ []), own, other,
      Machine.runFrom_cons_of_step rfl (Machine.runFrom_cons_of_step acted rfl)⟩
  cases phase : state.phase with
  | idle =>
      refine ⟨0, .turn, ?_⟩
      simp only [step]
      split <;> exact ⟨_, _, rfl, (by intro pkt equal; cases equal), rfl⟩
  | serving wake =>
      refine ⟨wake, .timeout, ?_⟩
      simp only [step, Nat.le_add_left, if_true]
      exact ⟨_, _, rfl, (by intro pkt equal; cases equal), rfl⟩
  | querying job query =>
      refine ⟨0, .querySent true, ?_⟩
      simp only [step]
      exact ⟨_, _, rfl, (by intro pkt equal; cases equal), rfl⟩
  | resolving job deadline =>
      refine ⟨0, .turn, ?_⟩
      simp only [step]
      split <;> exact ⟨_, _, rfl, (by intro pkt equal; cases equal), rfl⟩
  | awaiting job deadline =>
      refine ⟨deadline, .timeout, ?_⟩
      simp only [step, Nat.le_add_left, if_true]
      exact ⟨_, _, rfl, (by intro pkt equal; cases equal), rfl⟩
  | answering answer caller =>
      refine ⟨0, .answerSent true, ?_⟩
      simp only [step]
      exact ⟨_, _, rfl, (by intro pkt equal; cases equal), rfl⟩

theorem progress (hostname : Str) (address : Option Ipv4Address) (state : State) :
    Progress hostname address state where
  moves := moves hostname address state
  takes := by
    intro job rest final events first ran enough
    rcases Machine.emits_within Action.own (fun state => state.phase.cost)
      (fun _ => cost_positive _) (fun pending stepped => next_step pending (step_shape stepped))
      first ran ((cost_le_three _).trans enough) with ⟨event, seen, rfl⟩
    exact seen
  asks := by
    intro job query rest final events querying ran enough
    have one : state.phase.cost = 1 := by rw [querying]; rfl
    rcases Machine.emits_within Action.own (fun state => state.phase.cost)
        (fun _ => cost_positive _)
        (fun pending stepped => querying_step pending (step_shape stepped))
        ⟨query, querying⟩ ran (one.trans_le enough) with ⟨event, seen, ok, now, rfl⟩
    exact ⟨ok, now, seen⟩
  replies := by
    intro job rest final events overdue ran enough
    rcases Machine.emits_within Action.own (fun state => state.phase.cost)
        (fun _ => cost_positive _)
        (fun pending stepped => overdue_step pending (step_shape stepped))
        overdue ran ((cost_le_three _).trans enough) with ⟨event, seen, answer, now, rfl⟩
    exact ⟨answer, now, seen⟩

/-! ## The task as a whole -/

/-- A hostname that can be advertised, or that no packet can ask for, gets every
query answered. -/
theorem answerTo_eq {hostname : Str} (servable : hostname.length ≤ 63 ∨ 191 < hostname.length)
    (pkt : List UInt8) (ip : Ipv4Address) :
    answerTo hostname pkt (some ip) =
      if isQueryFor pkt hostname then some (answerPacket hostname ip) else none := by
  unfold answerTo
  cases query : isQueryFor pkt hostname with
  | false => rfl
  | true =>
      rcases length_of_isQueryFor query with ⟨nonempty, plain⟩
      have short : hostname.length ≤ 63 := servable.resolve_right (Nat.not_lt.mpr plain)
      have fits : (answerPacket hostname ip).length ≤ packetBuffer.length := by
        rw [length_answerPacket, packetBuffer, List.length_replicate]
        omega
      have built := buildAnswer_eq (List.length_pos_iff.mp nonempty) short ip fits
      simp only [↓reduceIte, Option.bind_some, built, Option.map_some, List.take_left]

theorem answersTo_eq {hostname : Str}
    (servable : hostname.length ≤ 63 ∨ 191 < hostname.length)
    {packets : List (List UInt8 × Option Ipv4Address)}
    (addressed : ∀ entry ∈ packets, entry.2.isSome = true) :
    (answersTo hostname packets).map some =
      (packets.filter fun entry => isQueryFor entry.1 hostname).map
        fun entry => entry.2.map (answerPacket hostname) := by
  induction packets with
  | nil => rfl
  | cons entry packets induction =>
      rcases entry with ⟨pkt, address⟩
      rcases Option.isSome_iff_exists.mp (addressed _ List.mem_cons_self) with ⟨ip, rfl⟩
      have rest := induction fun other member => addressed other (List.mem_cons_of_mem _ member)
      simp only [observed_cons, List.map_append, rest, answerTo_eq servable]
      cases query : isQueryFor pkt hostname with
      | false => simp [query]
      | true => simp [query]

/-- Every query is answered once, in order, by whichever loop receives it; every job
is replied to once, in order, and without delay once its deadline is over; and every
reply has its cause in the wait of its job. -/
theorem queries_and_jobs_answered (hostname : Str) (address : Option Ipv4Address)
    {actions : List Action} {state : State} {history : List Event}
    (ran : (mdnsTask hostname address).run actions = some (state, history)) :
    ((hostname.length ≤ 63 ∨ 191 < hostname.length) → address.isSome = true →
      (∀ action ∈ actions, Connected action) →
      (answered history ++ state.phase.answer.toList).map some =
        ((received history).filter fun entry => isQueryFor entry.1 hostname).map
          fun entry => entry.2.map (answerPacket hostname)) ∧
    (accepted history = replied history ++ state.owed ∧ (accepted history).Nodup ∧
      Progress hostname address state) ∧
    ∀ before after job answer now,
      history = before ++ .replied job answer now :: after →
        Justified before job now answer := by
  have reached : (mdnsTask hostname address).Reached state history := ⟨actions, ran⟩
  have jobs := jobs_of_reached reached
  refine ⟨?_, ⟨jobs.accounted, ?_, progress hostname address state⟩, ?_⟩
  · intro servable configured connected
    have online := online_run configured connected ran
    rw [← answersTo_eq servable online.addressed, ← answers_of_reached reached]
    rw [online.sent]
  · apply List.Nodup.of_map Job.reply
    rw [jobs.numbered]
    exact List.nodup_range
  · intro before after job answer now split
    exact justified_of_reached reached split

/-- `beet-esp` -/
def beetEsp : Str := [0x62, 0x65, 0x65, 0x74, 0x2d, 0x65, 0x73, 0x70]

/-- A query for `beet-esp` reaches the task while it resolves `a`. -/
def crossed : List Action :=
  [.call [0x61], .turn, .querySent true, .turn, .receive (queryPacket beetEsp),
    .answerSent true, .turn, .receive (answerPacket [0x61] 0xc0a80105)]

theorem queries_and_jobs_answered_crossed :
    ∃ state history, (mdnsTask beetEsp (some 0xc0a8012a)).run crossed = some (state, history) ∧
      answered history = [answerPacket beetEsp 0xc0a8012a] ∧
      (answered history ++ state.phase.answer.toList).map some =
        ((received history).filter fun entry => isQueryFor entry.1 beetEsp).map
          (fun entry => entry.2.map (answerPacket beetEsp)) ∧
      replied history = [⟨0, [0x61]⟩] ∧ accepted history = replied history ++ state.owed := by
  have shown : ((mdnsTask beetEsp (some 0xc0a8012a)).run crossed).map
      (fun last => (answered last.2, replied last.2)) =
        some ([answerPacket beetEsp 0xc0a8012a], [⟨0, [0x61]⟩]) := by
    decide +kernel
  rcases Option.map_eq_some_iff.mp shown with ⟨⟨state, history⟩, ran, same⟩
  rcases Prod.mk.inj same with ⟨sent, answered⟩
  rcases queries_and_jobs_answered beetEsp (some 0xc0a8012a) ran with
    ⟨queries, ⟨accounted, -, -⟩, -⟩
  have connected : ∀ action ∈ crossed, Connected action := by
    simp [crossed, Connected]
  exact ⟨state, history, ran, sent, queries (.inl (by decide)) rfl connected, answered,
    accounted⟩

/-- 64 bytes, one more than a label may have. -/
def longHostname : Str := List.replicate 64 0x61

/-- A query for such a name is taken for one for the task, but no answer can be
built for it. -/
theorem long_hostname_unanswered :
    ∃ state history, (mdnsTask longHostname (some 0xc0a8012a)).run
        [.turn, .receive (queryPacket longHostname)] = some (state, history) ∧
      (∀ action ∈ [Action.turn, .receive (queryPacket longHostname)], Connected action) ∧
      received history = [(queryPacket longHostname, some 0xc0a8012a)] ∧
      isQueryFor (queryPacket longHostname) longHostname = true ∧
      answered history = [] ∧ state.phase = .idle := by
  have query : isQueryFor (queryPacket longHostname) longHostname = true := by
    rw [isQueryFor_queryPacket (by decide) (by decide)]
    decide
  have shown : ((mdnsTask longHostname (some 0xc0a8012a)).run
      [.turn, .receive (queryPacket longHostname)]).map
      (fun last => (received last.2, answered last.2, last.1.phase)) =
        some ([(queryPacket longHostname, some 0xc0a8012a)], [], .idle) := by
    decide +kernel
  rcases Option.map_eq_some_iff.mp shown with ⟨⟨state, history⟩, ran, same⟩
  rcases Prod.mk.inj same with ⟨packets, same⟩
  rcases Prod.mk.inj same with ⟨silent, idle⟩
  have connected : ∀ action ∈ [Action.turn, .receive (queryPacket longHostname)],
      Connected action := by
    simp [Connected]
  exact ⟨state, history, ran, connected, packets, query, silent, idle⟩

end BeetEsp.Net.MdnsTask
