import BeetEsp.Foundation.BoundedQueue
import BeetEsp.Foundation.Latest
import BeetEsp.Foundation.Machine
import BeetEsp.Net.HttpClient

/-! # The mDNS browser task

After the initial query, `browser_task` races a receive against `QUERY_INTERVAL` in a
loop. Sending and handling a datagram take no time here, and the clock does not pass the
end of a timeout that has not been handled. Datagrams and failing receives come at any
time, and the ECS drains `PACKETS` once per frame. Times are in microseconds from the
initial query on.
-/

namespace BeetEsp.Net

open Foundation

namespace MdnsBrowser

/-- `Duration::from_secs(5)` -/
def QUERY_INTERVAL : Nat := 5000000

structure UdpPacket where
  /-- `from`, the sender's address and port. -/
  sender : Ipv4Address × UInt16
  bytes : List UInt8
  deriving DecidableEq

/-- `PACKETS` -/
abbrev Packets := BoundedQueue UdpPacket 8

structure State where
  now : Nat
  /-- The end of the timeout of the receive under way. -/
  deadline : Nat
  packets : Packets

inductive Action
  | elapse (time : Nat)
  | receive (packet : UdpPacket)
  | receiveFailed
  /-- The interval is over, and the query is sent again or fails to be. -/
  | timeout (sent : Bool)
  | drain

inductive Event
  | queried (now : Nat)
  | queryFailed (now : Nat)
  | dropped (packet : UdpPacket) (now : Nat)
  /-- `handle_udp_packet` is triggered with each of the packets. -/
  | drained (packets : List UdpPacket)
  deriving DecidableEq

def Event.queriedAt : Event → Option Nat
  | queried now => some now
  | _ => none

/-- The time of the last query. -/
def lastQuery (history : List Event) : Nat :=
  (latest Event.queriedAt history).getD 0

/-- The head of the loop, up to its await. -/
def State.rearm (state : State) : State :=
  { state with deadline := state.now + QUERY_INTERVAL }

def step (state : State) : Action → Option (State × List Event)
  | .elapse time =>
      if state.now + time ≤ state.deadline then
        some ({ state with now := state.now + time }, [])
      else none
  | .receive packet =>
      -- `recv` holds 1536 bytes; a longer packet is a failed receive.
      if 1536 < packet.bytes.length then none
      else
        match state.packets.trySend packet with
        | .ok packets => some ({ state with packets }.rearm, [])
        | .error packet => some (state.rearm, [.dropped packet state.now])
  | .receiveFailed => some (state.rearm, [])
  | .timeout sent =>
      if state.deadline ≤ state.now then
        some (state.rearm, [if sent then .queried state.now else .queryFailed state.now])
      else none
  | .drain =>
      some ({ state with packets := .empty }, [.drained state.packets.items])

end MdnsBrowser

open MdnsBrowser in
/-- `browser_task` from its initial query on, and `drain_browser_packets`. -/
def browserTask : Machine State Action Event where
  initial := { now := 0, deadline := QUERY_INTERVAL, packets := .empty }
  step := step

namespace MdnsBrowser

@[simp] theorem State.rearm_now (state : State) : state.rearm.now = state.now := rfl

@[simp] theorem State.rearm_deadline (state : State) :
    state.rearm.deadline = state.now + QUERY_INTERVAL := rfl

/-- A receive returns before its timeout. -/
def Action.Receives : Action → Prop
  | receive _ => True
  | receiveFailed => True
  | _ => False

/-- What a step can do: time passes up to the deadline, a receive that returns starts
the next one, or the interval is over; a frame leaves the task alone. -/
theorem step_cases {state next : State} {action : Action} {events : List Event}
    (stepped : step state action = some (next, events)) :
    (∃ time, action = .elapse time ∧ state.now + time ≤ state.deadline ∧
      next = { state with now := state.now + time } ∧ events = []) ∨
    (action.Receives ∧ ∃ packets, next = { state with packets }.rearm ∧
      (events = [] ∨ ∃ packet, events = [.dropped packet state.now])) ∨
    (∃ sent, action = .timeout sent ∧ state.deadline ≤ state.now ∧ next = state.rearm ∧
      events = [if sent then .queried state.now else .queryFailed state.now]) ∨
    (action = .drain ∧ next = { state with packets := .empty } ∧
      events = [.drained state.packets.items]) := by
  cases action with
  | elapse time =>
      simp only [step] at stepped
      split at stepped <;> cases stepped
      exact .inl ⟨time, rfl, ‹_›, rfl, rfl⟩
  | receive packet =>
      simp only [step] at stepped
      split at stepped
      case isTrue => cases stepped
      case isFalse =>
        split at stepped <;> cases stepped
        case h_1 packets _ =>
          exact .inr (.inl ⟨trivial, packets, rfl, .inl rfl⟩)
        case h_2 packet _ =>
          exact .inr (.inl ⟨trivial, state.packets, rfl, .inr ⟨packet, rfl⟩⟩)
  | receiveFailed =>
      cases stepped
      exact .inr (.inl ⟨trivial, state.packets, rfl, .inl rfl⟩)
  | timeout sent =>
      simp only [step] at stepped
      split at stepped <;> cases stepped
      exact .inr (.inr (.inl ⟨sent, rfl, ‹_›, rfl, rfl⟩))
  | drain =>
      cases stepped
      exact .inr (.inr (.inr ⟨rfl, rfl, rfl⟩))

/-! ## The timer and the past -/

theorem lastQuery_append_of_none {history events : List Event}
    (others : ∀ event ∈ events, event.queriedAt = none) :
    lastQuery (history ++ events) = lastQuery history := by
  rw [lastQuery, latest_append_of_none others, lastQuery]

theorem lastQuery_queried (history : List Event) (now : Nat) :
    lastQuery (history ++ [.queried now]) = now := by
  rw [lastQuery, latest_snoc]
  rfl

/-- After the initial query, the last query is in the history. -/
theorem queried_lastQuery {history : List Event} (later : 0 < lastQuery history) :
    .queried (lastQuery history) ∈ history := by
  rw [lastQuery] at later ⊢
  cases shown : latest Event.queriedAt history with
  | none => simp [shown] at later
  | some asked =>
      rcases List.mem_filterMap.mp (List.mem_of_getLast? shown) with ⟨event, member, carried⟩
      cases event with
      | queried now =>
          cases carried
          exact member
      | queryFailed => cases carried
      | dropped => cases carried
      | drained => cases carried

/-- The timer was armed no earlier than the last query and than any drop, and no more
than an interval ago. -/
structure Armed (state : State) (history : List Event) : Prop where
  inTime : state.now ≤ state.deadline
  recent : state.deadline ≤ state.now + QUERY_INTERVAL
  query : lastQuery history + QUERY_INTERVAL ≤ state.deadline
  drop : ∀ packet time, .dropped packet time ∈ history →
    time + QUERY_INTERVAL ≤ state.deadline

theorem Armed.step {state next : State} {action : Action} {history events : List Event}
    (armed : Armed state history) (stepped : step state action = some (next, events)) :
    Armed next (history ++ events) := by
  have inTime := armed.inTime
  have recent := armed.recent
  have query := armed.query
  rcases step_cases stepped with
    ⟨time, rfl, room, rfl, rfl⟩ | ⟨-, packets, rfl, rfl | ⟨packet, rfl⟩⟩ |
    ⟨sent, rfl, due, rfl, rfl⟩ | ⟨rfl, rfl, rfl⟩
  · rw [List.append_nil]
    exact ⟨room, by simp only; omega, query, armed.drop⟩
  · rw [List.append_nil]
    refine ⟨Nat.le_add_right _ _, Nat.le_refl _, Nat.le_trans query recent, ?_⟩
    intro packet time dropped
    exact Nat.le_trans (armed.drop packet time dropped) recent
  · refine ⟨Nat.le_add_right _ _, Nat.le_refl _, ?_, ?_⟩
    · rw [lastQuery_append_of_none (by simp [Event.queriedAt])]
      exact Nat.le_trans query recent
    · intro other time dropped
      rcases List.mem_append.mp dropped with earlier | now
      · exact Nat.le_trans (armed.drop other time earlier) recent
      · cases List.mem_singleton.mp now
        exact Nat.le_refl _
  · refine ⟨Nat.le_add_right _ _, Nat.le_refl _, ?_, ?_⟩
    · cases sent with
      | true =>
          rw [if_pos rfl, lastQuery_queried]
          exact Nat.le_refl _
      | false =>
          rw [lastQuery_append_of_none (by simp [Event.queriedAt])]
          exact Nat.le_trans query recent
    · intro packet time dropped
      have earlier : .dropped packet time ∈ history := by
        cases sent <;> simpa using dropped
      exact Nat.le_trans (armed.drop packet time earlier) recent
  · refine ⟨inTime, recent, ?_, ?_⟩
    · rw [lastQuery_append_of_none (by simp [Event.queriedAt])]
      exact query
    · intro packet time dropped
      exact armed.drop packet time (by simpa using dropped)

theorem reached_armed {state : State} {history : List Event}
    (reached : browserTask.Reached state history) : Armed state history := by
  refine reached.induction Armed ?start ?preserved
  case start => exact ⟨Nat.zero_le _, by decide, by decide, by simp⟩
  case preserved => exact fun _ armed stepped => armed.step stepped

/-! ## Periodic queries -/

/-- The browser re-queries periodically: however long the task goes on waiting, the last
query is no more than an interval ago, and a dropped packet is asked for again within an
interval of the drop. -/
structure Periodic (state : State) (history : List Event) : Prop where
  recent : ∀ time next events, step state (.elapse time) = some (next, events) →
    next.now ≤ lastQuery (history ++ events) + QUERY_INTERVAL
  recovered : ∀ packet time, .dropped packet time ∈ history →
    state.now ≤ time + QUERY_INTERVAL ∨
      ∃ asked, .queried asked ∈ history ∧ time < asked ∧ asked ≤ time + QUERY_INTERVAL

/-- The last query stays recent while the task waits exactly when the timer runs out an
interval after it. -/
theorem recent_iff {state : State} {history : List Event}
    (inTime : state.now ≤ state.deadline) :
    (∀ time next events, step state (.elapse time) = some (next, events) →
      next.now ≤ lastQuery (history ++ events) + QUERY_INTERVAL) ↔
    state.deadline ≤ lastQuery history + QUERY_INTERVAL := by
  constructor
  · intro waiting
    have room : state.now + (state.deadline - state.now) = state.deadline := by omega
    have last := waiting (state.deadline - state.now)
      { state with now := state.now + (state.deadline - state.now) } []
      (if_pos (Nat.le_of_eq room))
    rwa [room, List.append_nil] at last
  · intro timely time next events stepped
    simp only [step] at stepped
    split at stepped <;> cases stepped
    rw [List.append_nil]
    exact Nat.le_trans ‹_› timely

/-- What the task needs of a step: a receive that returns does so at once, before any of
the interval has passed, and the query that is due is sent. -/
def State.Quiet (state : State) : Action → Prop
  | .receive _ => state.deadline = state.now + QUERY_INTERVAL
  | .receiveFailed => state.deadline = state.now + QUERY_INTERVAL
  | .timeout sent => sent = true
  | _ => True

theorem quiet_of_receives {state : State} {action : Action} (receives : action.Receives) :
    state.Quiet action ↔ state.deadline = state.now + QUERY_INTERVAL := by
  cases action with
  | receive packet => rfl
  | receiveFailed => rfl
  | elapse time => cases receives
  | timeout sent => cases receives
  | drain => cases receives

/-- The timer of the next state against the next history, step by step. -/
theorem timely_iff_quiet {state next : State} {action : Action}
    {history events : List Event} (armed : Armed state history)
    (timely : state.deadline ≤ lastQuery history + QUERY_INTERVAL)
    (stepped : step state action = some (next, events)) :
    next.deadline ≤ lastQuery (history ++ events) + QUERY_INTERVAL ↔
      state.Quiet action := by
  have same : state.deadline = lastQuery history + QUERY_INTERVAL :=
    Nat.le_antisymm timely armed.query
  rcases step_cases stepped with
    ⟨time, rfl, -, rfl, rfl⟩ | ⟨receives, packets, rfl, kind⟩ |
    ⟨sent, rfl, due, rfl, rfl⟩ | ⟨rfl, rfl, rfl⟩
  · rw [List.append_nil]
    exact iff_of_true timely trivial
  · have unasked : lastQuery (history ++ events) = lastQuery history := by
      apply lastQuery_append_of_none
      rcases kind with rfl | ⟨packet, rfl⟩ <;> simp [Event.queriedAt]
    have recent := armed.recent
    rw [quiet_of_receives receives, unasked, ← same, State.rearm_deadline]
    exact ⟨fun early => Nat.le_antisymm recent early, fun fresh => Nat.le_of_eq fresh.symm⟩
  · cases sent with
    | true =>
        rw [if_pos rfl, lastQuery_queried]
        exact iff_of_true (Nat.le_refl _) rfl
    | false =>
        rw [lastQuery_append_of_none (by simp [Event.queriedAt]), ← same,
          State.rearm_deadline]
        refine iff_of_false ?_ (fun sent => by cases sent)
        have interval : 0 < QUERY_INTERVAL := by decide
        omega
  · rw [lastQuery_append_of_none (by simp [Event.queriedAt])]
    exact iff_of_true timely trivial

/-- A drop that the next state is more than an interval away from has been asked for
again. -/
theorem recovered_step {state next : State} {action : Action}
    {history events : List Event} (armed : Armed state history)
    (timely : state.deadline ≤ lastQuery history + QUERY_INTERVAL)
    (periodic : Periodic state history)
    (stepped : step state action = some (next, events)) :
    ∀ packet time, .dropped packet time ∈ history ++ events →
      next.now ≤ time + QUERY_INTERVAL ∨ ∃ asked, .queried asked ∈ history ++ events ∧
        time < asked ∧ asked ≤ time + QUERY_INTERVAL := by
  intro packet time dropped
  rcases List.mem_append.mp dropped with earlier | now
  case inr =>
    -- A drop of this very step.
    rcases step_cases stepped with
      ⟨_, rfl, -, rfl, rfl⟩ | ⟨-, packets, rfl, rfl | ⟨other, rfl⟩⟩ |
      ⟨sent, rfl, -, rfl, rfl⟩ | ⟨rfl, rfl, rfl⟩
    · cases now
    · cases now
    · cases List.mem_singleton.mp now
      exact .inl (Nat.le_add_right _ _)
    · cases sent <;> simp at now
    · simp at now
  case inl =>
    rcases periodic.recovered packet time earlier with inside | ⟨asked, member, range⟩
    case inr => exact .inr ⟨asked, List.mem_append_left _ member, range⟩
    case inl =>
      have recent := armed.recent
      have query := armed.query
      have drop := armed.drop packet time earlier
      have interval : 0 < QUERY_INTERVAL := by decide
      rcases step_cases stepped with
        ⟨waited, rfl, room, rfl, rfl⟩ | ⟨-, packets, rfl, -⟩ |
        ⟨sent, rfl, due, rfl, rfl⟩ | ⟨rfl, rfl, rfl⟩
      · by_cases still : state.now + waited ≤ time + QUERY_INTERVAL
        · exact .inl still
        · -- The wait has passed the interval, so the last query came after the drop.
          have after : time < lastQuery history := by omega
          refine .inr ⟨lastQuery history, ?_, after, by omega⟩
          exact List.mem_append_left _ (queried_lastQuery (Nat.zero_lt_of_lt after))
      · exact .inl inside
      · exact .inl inside
      · exact .inl inside

theorem periodic_step_iff {state next : State} {action : Action}
    {history events : List Event} (reached : browserTask.Reached state history)
    (periodic : Periodic state history)
    (stepped : step state action = some (next, events)) :
    Periodic next (history ++ events) ↔ state.Quiet action := by
  have armed := reached_armed reached
  have inTime := (armed.step stepped).inTime
  have timely := (recent_iff armed.inTime).mp periodic.recent
  rw [← timely_iff_quiet armed timely stepped, ← recent_iff inTime]
  exact ⟨Periodic.recent, fun recent =>
    ⟨recent, recovered_step armed timely periodic stepped⟩⟩

theorem initial_periodic : Periodic browserTask.initial [] where
  recent := (recent_iff (Nat.zero_le _)).mpr (Nat.le_refl _)
  recovered := by simp

/-- Over any run, the browser re-queries periodically if and only if no receive that has
waited returns before its timeout, and every query that is due is sent. -/
theorem periodic_iff_quiet {actions : List Action} {state : State} {history : List Event}
    (ran : browserTask.run actions = some (state, history)) :
    browserTask.AlwaysAlong Periodic actions ↔ browserTask.Meets State.Quiet actions :=
  Machine.always_iff_meets browserTask initial_periodic
    (fun reached periodic stepped => periodic_step_iff reached periodic stepped) ran

/-- Two quiet intervals, and an answer that comes right after the second query. -/
theorem periodic_iff_quiet_answered :
    let actions : List Action :=
      [.elapse 2000000, .drain, .elapse 3000000, .timeout true, .elapse 5000000,
        .timeout true, .receive ⟨(0xC0A80142, 5353), [0x00]⟩, .elapse 20000, .drain]
    browserTask.AlwaysAlong Periodic actions ↔ browserTask.Meets State.Quiet actions :=
  periodic_iff_quiet rfl

/-- A burst of nine answers between two frames, three seconds after the query, and then
one datagram of chatter every four seconds. -/
def chatter : List Action :=
  let answer : UdpPacket := ⟨(0xC0A80142, 5353), [0x00]⟩
  [.elapse 3000000] ++ List.replicate 9 (.receive answer) ++
    [.drain, .elapse 4000000, .receive answer, .drain, .elapse 4000000]

/-- The ninth answer is lost, and eight seconds later nothing has asked for it again. -/
theorem chatter_silences_browser :
    (∃ state history, browserTask.run chatter = some (state, history) ∧
      .dropped ⟨(0xC0A80142, 5353), [0x00]⟩ 3000000 ∈ history ∧
      observed Event.queriedAt history = [] ∧ state.now = 11000000) ∧
    ¬browserTask.AlwaysAlong Periodic chatter := by
  have runs : ∃ state history, browserTask.run chatter = some (state, history) ∧
      .dropped ⟨(0xC0A80142, 5353), [0x00]⟩ 3000000 ∈ history ∧
      observed Event.queriedAt history = [] ∧ state.now = 11000000 :=
    ⟨_, _, rfl, by decide, rfl, rfl⟩
  refine ⟨runs, ?_⟩
  intro always
  rcases runs with ⟨state, history, ran, dropped, unasked, late⟩
  have periodic := always chatter [] (by simp) state history ran
  rcases periodic.recovered _ _ dropped with inside | ⟨asked, member, -⟩
  · rw [late] at inside
    exact absurd inside (by decide)
  · have seen := (mem_observed Event.queriedAt).mpr ⟨_, member, rfl⟩
    rw [unasked] at seen
    cases seen

end MdnsBrowser

end BeetEsp.Net
