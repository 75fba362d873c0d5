import BeetEsp.Foundation.BoundedQueue
import BeetEsp.Foundation.Machine
import BeetEsp.Net.Mdns

/-! # The mDNS task

One task owns the multicast socket. Its idle loop alternates between the jobs of
`RESOLVER` and inbound packets; a job runs `do_resolve`, a second loop over the
same socket. Both loops hand a packet that is no answer for them to
`handle_inbound`. Jobs, packets, failing sends and receives, the clock and the
address of the stack change in any order.
-/

namespace BeetEsp.Net

open Foundation
open Mdns (Str isQueryFor parseAnswer buildQuery buildAnswer)

namespace MdnsTask

/-- `RESOLVE_TIMEOUT`, in milliseconds. -/
def RESOLVE_TIMEOUT : Nat := 2000

/-- The task re-checks `RESOLVER` this often. -/
def POLL_TIMEOUT : Nat := 250

/-- `[0u8; 256]` -/
@[irreducible] def packetBuffer : List UInt8 := List.replicate 256 0

/-- A call of `resolve`, with the reply handle it waits on. -/
structure Job where
  reply : Nat
  label : Str
deriving DecidableEq

/-- `RESOLVER` -/
abbrev Resolver := BoundedQueue Job 2

/-- Where the task is between two of its steps. -/
inductive Phase
  /-- The head of the loop of `mdns_task`. -/
  | idle
  /-- In `recv_from` of the idle loop. -/
  | serving (wake : Nat)
  /-- In `send_to` of the query. -/
  | querying (job : Job) (query : List UInt8)
  /-- The head of the loop of `do_resolve`. -/
  | resolving (job : Job) (deadline : Nat)
  /-- In `recv_from` of `do_resolve`. -/
  | awaiting (job : Job) (deadline : Nat)
  /-- In `send_to` of an answer, called from the idle loop or from `do_resolve`. -/
  | answering (answer : List UInt8) (caller : Option (Job × Nat))
deriving DecidableEq

structure State where
  resolver : Resolver
  phase : Phase
  now : Nat
  /-- `current_ipv4` -/
  address : Option Ipv4Address
  /-- Reply handles given out so far. -/
  replies : Nat

inductive Action
  /-- `resolve` puts a label into `RESOLVER`. -/
  | call (label : Str)
  /-- The head of a loop, up to its next await. -/
  | turn
  | querySent (ok : Bool)
  | receive (pkt : List UInt8)
  | receiveFailed
  | timeout
  | answerSent (ok : Bool)
  | elapse (ms : Nat)
  | configure (address : Option Ipv4Address)

inductive Event
  | accepted (job : Job)
  | rejected (label : Str)
  | taken (job : Job)
  | querySent (job : Job) (ok : Bool) (now : Nat)
  | received (pkt : List UInt8) (address : Option Ipv4Address)
  | answered (answer : List UInt8)
  | answerFailed (answer : List UInt8)
  | replied (job : Job) (answer : Option Ipv4Address) (now : Nat)

/-- Back to the loop that called `handle_inbound`. -/
def resume : Option (Job × Nat) → Phase
  | none => .idle
  | some (job, deadline) => .resolving job deadline

def handleInbound (pkt : List UInt8) (hostname : Str) (address : Option Ipv4Address)
    (caller : Option (Job × Nat)) : Phase :=
  if !isQueryFor pkt hostname then resume caller
  else
    match address with
    | none => resume caller
    | some ip =>
      match buildAnswer packetBuffer hostname ip with
      | some (len, answer) => .answering (answer.take len) caller
      | none => resume caller

/-- The start of `do_resolve`, up to `send_to`. -/
def startResolve (state : State) (job : Job) : State × List Event :=
  match buildQuery packetBuffer job.label with
  | some (len, query) => ({ state with phase := .querying job (query.take len) }, [.taken job])
  | none => ({ state with phase := .idle }, [.taken job, .replied job none state.now])

def step (hostname : Str) (state : State) : Action → Option (State × List Event)
  | .call label =>
      let job : Job := { reply := state.replies, label }
      match state.resolver.trySend job with
      | .ok resolver =>
          some ({ state with resolver, replies := state.replies + 1 }, [.accepted job])
      | .error _ => some (state, [.rejected label])
  | .turn =>
      match state.phase with
      | .idle =>
          match state.resolver.tryReceive with
          | some (job, resolver) => some (startResolve { state with resolver } job)
          | none => some ({ state with phase := .serving (state.now + POLL_TIMEOUT) }, [])
      | .resolving job deadline =>
          if deadline ≤ state.now then
            some ({ state with phase := .idle }, [.replied job none state.now])
          else
            some ({ state with phase := .awaiting job deadline }, [])
      | _ => none
  | .querySent ok =>
      match state.phase with
      | .querying job _ =>
          if ok then
            some ({ state with phase := .resolving job (state.now + RESOLVE_TIMEOUT) },
              [.querySent job true state.now])
          else
            some ({ state with phase := .idle },
              [.querySent job false state.now, .replied job none state.now])
      | _ => none
  | .receive pkt =>
      -- `recv` holds 1536 bytes; a longer packet is a failed receive.
      if 1536 < pkt.length then none
      else
        match state.phase with
        | .serving _ =>
            some ({ state with phase := handleInbound pkt hostname state.address none },
              [.received pkt state.address])
        | .awaiting job deadline =>
            match parseAnswer pkt job.label with
            | some ip =>
                some ({ state with phase := .idle },
                  [.received pkt state.address, .replied job (some ip) state.now])
            | none =>
                some ({ state with
                    phase := handleInbound pkt hostname state.address (some (job, deadline)) },
                  [.received pkt state.address])
        | _ => none
  | .receiveFailed =>
      match state.phase with
      | .serving _ => some ({ state with phase := .idle }, [])
      | .awaiting job deadline => some ({ state with phase := .resolving job deadline }, [])
      | _ => none
  | .timeout =>
      match state.phase with
      | .serving wake =>
          if wake ≤ state.now then some ({ state with phase := .idle }, []) else none
      | .awaiting job deadline =>
          if deadline ≤ state.now then
            some ({ state with phase := .idle }, [.replied job none state.now])
          else none
      | _ => none
  | .answerSent ok =>
      match state.phase with
      | .answering answer caller =>
          some ({ state with phase := resume caller },
            [if ok then .answered answer else .answerFailed answer])
      | _ => none
  | .elapse ms => some ({ state with now := state.now + ms }, [])
  | .configure address => some ({ state with address }, [])

end MdnsTask

open MdnsTask in
/-- `mdns_task` with its socket bound, on a stack with this address. -/
def mdnsTask (hostname : Str) (address : Option Ipv4Address) :
    Machine State Action Event where
  initial := {
    resolver := .empty
    phase := .idle
    now := 0
    address
    replies := 0 }
  step := step hostname

namespace MdnsTask

/-- The caller of a receive, in the phases that wait for a packet. -/
def Phase.listener : Phase → Option (Option (Job × Nat))
  | .serving _ => some none
  | .awaiting job deadline => some (some (job, deadline))
  | _ => none

/-- The job that waits for its answer, and until when. -/
def Phase.waiting : Phase → Option (Job × Nat)
  | .resolving job deadline => some (job, deadline)
  | .awaiting job deadline => some (job, deadline)
  | .answering _ caller => caller
  | _ => none

/-- The job taken from `RESOLVER` and not yet replied to. -/
def Phase.job : Phase → Option Job
  | .querying job _ => some job
  | phase => phase.waiting.map Prod.fst

/-- The answer that is being sent. -/
def Phase.answer : Phase → Option (List UInt8)
  | .answering answer _ => some answer
  | _ => none

/-- What a step can do. -/
inductive Step (hostname : Str) (state : State) : Action → State → List Event → Prop
  | accepted {label resolver} (room : state.resolver.items.length < 2)
      (items : resolver.items =
        state.resolver.items ++ [{ reply := state.replies, label }]) :
      Step hostname state (.call label)
        { state with resolver, replies := state.replies + 1 }
        [.accepted { reply := state.replies, label }]
  | rejected {label} (full : state.resolver.items.length = 2) :
      Step hostname state (.call label) state [.rejected label]
  | took {job resolver len query} (idle : state.phase = .idle)
      (head : state.resolver.items = job :: resolver.items)
      (built : buildQuery packetBuffer job.label = some (len, query)) :
      Step hostname state .turn
        { state with resolver, phase := .querying job (query.take len) } [.taken job]
  | refused {job resolver} (idle : state.phase = .idle)
      (head : state.resolver.items = job :: resolver.items)
      (built : buildQuery packetBuffer job.label = none) :
      Step hostname state .turn { state with resolver, phase := .idle }
        [.taken job, .replied job none state.now]
  | served (idle : state.phase = .idle) (empty : state.resolver.items = []) :
      Step hostname state .turn
        { state with phase := .serving (state.now + POLL_TIMEOUT) } []
  | listened {job deadline} (resolving : state.phase = .resolving job deadline)
      (early : state.now < deadline) :
      Step hostname state .turn { state with phase := .awaiting job deadline } []
  | gaveUp {action job deadline} (past : deadline ≤ state.now)
      (waiting : (action = .turn ∧ state.phase = .resolving job deadline) ∨
        (action = .timeout ∧ state.phase = .awaiting job deadline)) :
      Step hostname state action { state with phase := .idle }
        [.replied job none state.now]
  | queried {job query} (querying : state.phase = .querying job query) :
      Step hostname state (.querySent true)
        { state with phase := .resolving job (state.now + RESOLVE_TIMEOUT) }
        [.querySent job true state.now]
  | queryFailed {job query} (querying : state.phase = .querying job query) :
      Step hostname state (.querySent false) { state with phase := .idle }
        [.querySent job false state.now, .replied job none state.now]
  | resolved {pkt job deadline ip} (awaiting : state.phase = .awaiting job deadline)
      (found : parseAnswer pkt job.label = some ip) :
      Step hostname state (.receive pkt) { state with phase := .idle }
        [.received pkt state.address, .replied job (some ip) state.now]
  | handled {pkt caller} (listens : state.phase.listener = some caller) :
      Step hostname state (.receive pkt)
        { state with phase := handleInbound pkt hostname state.address caller }
        [.received pkt state.address]
  | receiveFailed {caller} (listens : state.phase.listener = some caller) :
      Step hostname state .receiveFailed { state with phase := resume caller } []
  | polled {wake} (serving : state.phase = .serving wake) :
      Step hostname state .timeout { state with phase := .idle } []
  | answered {answer caller} (sending : state.phase = .answering answer caller) :
      Step hostname state (.answerSent true) { state with phase := resume caller }
        [.answered answer]
  | answerFailed {answer caller} (sending : state.phase = .answering answer caller) :
      Step hostname state (.answerSent false) { state with phase := resume caller }
        [.answerFailed answer]
  | elapsed {ms} :
      Step hostname state (.elapse ms) { state with now := state.now + ms } []
  | configured {address} :
      Step hostname state (.configure address) { state with address } []

theorem turn_shape {hostname : Str} {state next : State} {events : List Event}
    (stepped : step hostname state .turn = some (next, events)) :
    Step hostname state .turn next events := by
  simp only [step] at stepped
  split at stepped
  case h_1 idle =>
    split at stepped
    case h_1 job resolver received =>
      have head := BoundedQueue.tryReceive_eq_some received
      unfold startResolve at stepped
      rw [Option.some.injEq] at stepped
      split at stepped
      case h_1 len query built =>
        cases stepped
        exact .took idle head built
      case h_2 built =>
        cases stepped
        exact .refused idle head built
    case h_2 empty =>
      cases stepped
      exact .served idle (BoundedQueue.tryReceive_eq_none empty)
  case h_2 job deadline resolving =>
    split at stepped
    case isTrue past =>
      cases stepped
      exact .gaveUp past (.inl ⟨rfl, resolving⟩)
    case isFalse early =>
      cases stepped
      exact .listened resolving (Nat.lt_of_not_le early)
  case h_3 => cases stepped

theorem receive_shape {hostname : Str} {state next : State} {events : List Event} {pkt : List UInt8}
    (stepped : step hostname state (.receive pkt) = some (next, events)) :
    Step hostname state (.receive pkt) next events := by
  simp only [step] at stepped
  split at stepped
  case isTrue => cases stepped
  case isFalse =>
    split at stepped
    case h_1 wake serving =>
      cases stepped
      exact .handled (by rw [serving]; rfl)
    case h_2 job deadline awaiting =>
      split at stepped
      case h_1 ip found =>
        cases stepped
        exact .resolved awaiting found
      case h_2 =>
        cases stepped
        exact .handled (by rw [awaiting]; rfl)
    case h_3 => cases stepped

theorem timeout_shape {hostname : Str} {state next : State} {events : List Event}
    (stepped : step hostname state .timeout = some (next, events)) :
    Step hostname state .timeout next events := by
  simp only [step] at stepped
  split at stepped
  case h_1 wake serving =>
    split at stepped
    case isTrue =>
      cases stepped
      exact .polled serving
    case isFalse => cases stepped
  case h_2 job deadline awaiting =>
    split at stepped
    case isTrue past =>
      cases stepped
      exact .gaveUp past (.inr ⟨rfl, awaiting⟩)
    case isFalse => cases stepped
  case h_3 => cases stepped

/-- Every step has one of these shapes. -/
theorem step_shape {hostname : Str} {address : Option Ipv4Address} {state next : State}
    {action : Action} {events : List Event}
    (stepped : (mdnsTask hostname address).step state action = some (next, events)) :
    Step hostname state action next events := by
  change step hostname state action = some (next, events) at stepped
  cases action with
  | call label =>
      simp only [step] at stepped
      split at stepped
      case h_1 resolver sent =>
        cases stepped
        have spec := BoundedQueue.trySend_eq_ok sent
        exact .accepted spec.1 spec.2
      case h_2 returned full =>
        cases stepped
        exact .rejected (BoundedQueue.trySend_eq_error full).1
  | turn => exact turn_shape stepped
  | querySent ok =>
      simp only [step] at stepped
      split at stepped
      case h_1 job query querying =>
        cases ok with
        | true =>
            cases stepped
            exact .queried querying
        | false =>
            cases stepped
            exact .queryFailed querying
      case h_2 => cases stepped
  | receive pkt => exact receive_shape stepped
  | receiveFailed =>
      simp only [step] at stepped
      split at stepped
      case h_1 wake serving =>
        cases stepped
        exact .receiveFailed (by rw [serving]; rfl)
      case h_2 job deadline awaiting =>
        cases stepped
        exact .receiveFailed (by rw [awaiting]; rfl)
      case h_3 => cases stepped
  | timeout => exact timeout_shape stepped
  | answerSent ok =>
      simp only [step] at stepped
      split at stepped
      case h_1 answer caller sending =>
        cases ok with
        | true =>
            cases stepped
            exact .answered sending
        | false =>
            cases stepped
            exact .answerFailed sending
      case h_2 => cases stepped
  | elapse ms =>
      cases stepped
      exact .elapsed
  | configure address =>
      cases stepped
      exact .configured

end MdnsTask

end BeetEsp.Net
