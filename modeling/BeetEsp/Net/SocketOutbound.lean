import BeetEsp.Net.SocketReplies

/-! # What becomes of outbound messages

The outbound channel outlives the task that drains it. What was sent is written in
order, one frame each; but once the driver has returned nothing takes a message off
the channel, and a send still finds its room there, or waits for it in vain. Exactly
the runs that send nothing to a connection that has ended, and that end it while no
send waits, keep every message they accept.
-/

namespace BeetEsp.Net.SocketClient

open Foundation

variable {ws : WsExt}

/-! ## Histories -/

@[simp] def Event.acceptedOf : Event ws → Option ws.Msg
  | accepted message => some message
  | _ => none

@[simp] def Event.takenOf : Event ws → Option ws.Msg
  | taken message => some message
  | _ => none

@[simp] def Event.wroteOf : Event ws → Option (ws.Msg × List UInt8)
  | wrote message frame => some (message, frame)
  | _ => none

/-- The messages whose send returned `Ok`. -/
abbrev accepted (history : List (Event ws)) : List ws.Msg := observed Event.acceptedOf history

abbrev taken (history : List (Event ws)) : List ws.Msg := observed Event.takenOf history

/-- The messages that were written, each with its frame. -/
abbrev wrote (history : List (Event ws)) : List (ws.Msg × List UInt8) :=
  observed Event.wroteOf history

/-- Events that say nothing of outbound messages. -/
structure Unsent (events : List (Event ws)) : Prop where
  accepted : accepted events = []
  taken : taken events = []
  wrote : wrote events = []

theorem Unsent.append {front back : List (Event ws)} (first : Unsent front)
    (second : Unsent back) : Unsent (front ++ back) where
  accepted := by simp only [observed_append, first.accepted, second.accepted, List.append_nil]
  taken := by simp only [observed_append, first.taken, second.taken, List.append_nil]
  wrote := by simp only [observed_append, first.wrote, second.wrote, List.append_nil]

theorem unsent_pushes (messages : List ws.Msg) : Unsent (pushes messages) where
  accepted := observed_map_eq_nil _ (fun _ => rfl) messages
  taken := observed_map_eq_nil _ (fun _ => rfl) messages
  wrote := observed_map_eq_nil _ (fun _ => rfl) messages

/-! ## Steps of the driver

A step of the driver other than taking or writing a message leaves the channel alone. -/

/-- The channel is as it was, and nothing is being written. -/
structure Untouched (state next : State ws) (events : List (Event ws)) : Prop where
  outbound : next.outbound = state.outbound
  blocked : next.blocked = state.blocked
  unsent : Unsent events

theorem Untouched.trans {state middle next : State ws} {front back : List (Event ws)}
    (first : Untouched state middle front) (second : Untouched middle next back) :
    Untouched state next (front ++ back) where
  outbound := second.outbound.trans first.outbound
  blocked := second.blocked.trans first.blocked
  unsent := first.unsent.append second.unsent

theorem untouched_answer (state : State ws) (result : Except BevyError Unit) :
    Untouched state (answer state result).1 (answer state result).2 := by
  rw [answer]
  split <;> exact ⟨rfl, rfl, rfl, rfl, rfl⟩

theorem untouched_finish (state : State ws) (result : Except BevyError Unit) :
    Untouched state (finish state result).1 (finish state result).2 := by
  cases held : state.reply with
  | true =>
      rw [finish_holding held]
      exact ⟨rfl, rfl, rfl, rfl, rfl⟩
  | false =>
      rw [finish_answered held]
      cases result <;> exact ⟨rfl, rfl, rfl, rfl, rfl⟩

theorem untouched_pumped {state next : State ws} {decodeBuf : List UInt8}
    {events : List (Event ws)} (pumped : Pumped state decodeBuf next events) :
    Untouched state next events := by
  cases pumped with
  | waiting drained => exact ⟨rfl, rfl, unsent_pushes _⟩
  | ended drained | malformed drained =>
      have pushed : Untouched state state (pushes (ws.drain decodeBuf).1) :=
        ⟨rfl, rfl, unsent_pushes _⟩
      exact pushed.trans (untouched_finish _ _)

theorem untouched_responded {state next : State ws} {key : String} {response : List UInt8}
    {events : List (Event ws)} (responded : Responded state key response next events) :
    Untouched state next events := by
  cases responded with
  | more absent => exact ⟨rfl, rfl, rfl, rfl, rfl⟩
  | refused found refused => exact untouched_finish _ _
  | landed found valid pumped =>
      have validated : Untouched state state [.validated key] := ⟨rfl, rfl, rfl, rfl, rfl⟩
      exact (validated.trans (untouched_answer _ _)).trans (untouched_pumped pumped)

/-- What a phase is writing. -/
def Phase.writing : Phase ws → List (ws.Msg × List UInt8)
  | .writingFrame message frame _ => [(message, frame)]
  | _ => []

theorem writing_pumped {state next : State ws} {decodeBuf : List UInt8}
    {events : List (Event ws)} (pumped : Pumped state decodeBuf next events) :
    next.phase.writing = [] := by
  cases pumped <;> rfl

theorem writing_responded {state next : State ws} {key : String} {response : List UInt8}
    {events : List (Event ws)} (responded : Responded state key response next events) :
    next.phase.writing = [] := by
  cases responded with
  | more absent | refused found refused => rfl
  | landed found valid pumped => exact writing_pumped pumped

theorem writing_of_dialing {phase : Phase ws} (dialing : phase.dialing = true) :
    phase.writing = [] := by
  cases phase with
  | writingFrame => cases dialing
  | _ => rfl

theorem Phase.running_of_dialing {phase : Phase ws} (dialing : phase.dialing = true) :
    phase ≠ .returned := by
  intro same
  subst same
  cases dialing

theorem Phase.running_of_pumping {phase : Phase ws} {decodeBuf : List UInt8}
    (pumping : phase.decodeBuf = some decodeBuf) : phase ≠ .returned := by
  intro same
  subst same
  cases pumping

theorem Phase.undialed_of_pumping {phase : Phase ws} {decodeBuf : List UInt8}
    (pumping : phase.decodeBuf = some decodeBuf) : phase.dialing = false := by
  cases phase with
  | selecting | writingFrame | flushingFrame | returned => rfl
  | _ => cases pumping

theorem Phase.dialing_or_pumping {phase : Phase ws} (running : phase ≠ .returned) :
    phase.dialing = true ∨ ∃ decodeBuf, phase.decodeBuf = some decodeBuf := by
  cases phase with
  | returned => exact absurd rfl running
  | selecting | writingFrame | flushingFrame => exact .inr ⟨_, rfl⟩
  | _ => exact .inl rfl

theorem undialed_of_pumped {state next : State ws} {decodeBuf : List UInt8}
    {events : List (Event ws)} (pumped : Pumped state decodeBuf next events) :
    next.phase.dialing = false := by
  cases pumped <;> rfl

/-- A writer starts to send. -/
def Action.sends : Action ws → Bool
  | .send _ | .close _ => true
  | _ => false

/-- What a step does to the outbound channel. -/
inductive Carries (state : State ws) (action : Action ws) (next : State ws) :
    List (Event ws) → Prop
  /-- What was being written is lost if the driver returns. -/
  | driver {events} (running : state.phase ≠ .returned) (untouched : Untouched state next events)
      (dialing : next.phase.dialing = true → state.phase.dialing = true)
      (left : state.phase.writing = [] ∨ next.phase = .returned)
      (idle : next.phase.writing = []) : Carries state action next events
  | took {decodeBuf message mask} (selecting : state.phase = .selecting decodeBuf)
      (head : state.outbound.items = message :: next.outbound.items)
      (after : next.phase = .writingFrame message (ws.encodeFrame message mask) decodeBuf)
      (blocked : next.blocked = state.blocked) : Carries state action next [.taken message]
  | wrote {message frame decodeBuf} (writing : state.phase = .writingFrame message frame decodeBuf)
      (after : next.phase = .flushingFrame message decodeBuf)
      (outbound : next.outbound = state.outbound)
      (blocked : next.blocked = state.blocked) :
      Carries state action next [.wrote message frame]
  | accepted {message} (sends : action.sends = true ∨ state.blocked ≠ [])
      (phase : next.phase = state.phase)
      (items : next.outbound.items = state.outbound.items ++ [message])
      (blocked : next.blocked.Sublist state.blocked) :
      Carries state action next [.accepted message]
  | blocked {message} (sends : action.sends = true) (socket : state.socket = true)
      (phase : next.phase = state.phase) (outbound : next.outbound = state.outbound)
      (blocked : next.blocked = state.blocked ++ [message]) :
      Carries state action next [.blocked message]
  | waited (idle : action.sends = false) (same : next = state) : Carries state action next []

theorem Action.sends_of_send {action : Action ws} {message : ws.Msg}
    (sends : action = .send message ∨ ∃ frame, action = .close frame ∧ message = .close frame) :
    action.sends = true := by
  rcases sends with rfl | ⟨frame, rfl, -⟩ <;> rfl

theorem carries_of_step {job : ConnectJob} {state next : State ws} {action : Action ws}
    {events : List (Event ws)} (step : Step job state action next events) :
    Carries state action next events := by
  cases step with
  | dialed before silent after empty =>
      exact .driver (Phase.running_of_dialing before) ⟨rfl, rfl, rfl, rfl, rfl⟩ (fun _ => before)
        (.inl (writing_of_dialing before)) (writing_of_dialing after)
  | dialFailed fault =>
      exact .driver (Phase.running_of_dialing fault.dialing) (untouched_finish _ _)
        (fun _ => fault.dialing) (.inr rfl) rfl
  | @responded key response bytes next events reading responded =>
      have read : Untouched state state [.received bytes] := ⟨rfl, rfl, rfl, rfl, rfl⟩
      have dialing : state.phase.dialing = true := by rw [reading]; rfl
      exact .driver (Phase.running_of_dialing dialing)
        (read.trans (untouched_responded responded)) (fun _ => dialing)
        (.inl (writing_of_dialing dialing)) (writing_responded responded)
  | @pumped decodeBuf bytes next events selecting nonempty pumped =>
      have read : Untouched state state [.received bytes] := ⟨rfl, rfl, rfl, rfl, rfl⟩
      apply Carries.driver ?_ (read.trans (untouched_pumped pumped)) ?_ (.inl ?_)
        (writing_pumped pumped)
      · simp [selecting]
      · simp [undialed_of_pumped pumped]
      · rw [selecting]
        rfl
  | ended selecting =>
      apply Carries.driver ?_ (untouched_finish _ _) ?_ (.inr rfl) rfl
      · simp [selecting]
      · rintro ⟨⟩
  | @broke action err fault =>
      rcases fault.pumping with ⟨decodeBuf, pumping⟩
      have failed : Untouched state state [.transportFailed] := ⟨rfl, rfl, rfl, rfl, rfl⟩
      apply Carries.driver (Phase.running_of_pumping pumping)
        (failed.trans (untouched_finish state (.error err))) ?_ (.inr rfl) rfl
      rintro ⟨⟩
  | took selecting head => exact .took selecting head rfl rfl
  | wrote writing => exact .wrote writing rfl rfl rfl
  | flushedClose flushing closes =>
      apply Carries.driver ?_ (untouched_finish _ _) ?_ (.inr rfl) rfl
      · simp [flushing]
      · rintro ⟨⟩
  | flushed flushing stays pumped =>
      apply Carries.driver ?_ (untouched_pumped pumped) ?_ (.inl ?_) (writing_pumped pumped)
      · simp [flushing]
      · simp [undialed_of_pumped pumped]
      · rw [flushing]
        rfl
  | accepted socket sends room items =>
      exact .accepted (.inl (Action.sends_of_send sends)) rfl items (List.Sublist.refl _)
  | blocked socket sends full =>
      exact .blocked (Action.sends_of_send sends) socket rfl rfl rfl
  | woken waits items =>
      have some : state.blocked ≠ [] := by
        intro none
        simp [none] at waits
      exact .accepted (.inr some) rfl items (List.eraseIdx_sublist _ _)
  | waited waits => exact .waited rfl rfl

/-! ## The order of messages -/

/-- What was accepted, was taken or is in the channel; what was taken, was written or
is being written, or was lost as the driver returned. -/
structure Ordered (state : State ws) (history : List (Event ws)) : Prop where
  queued : accepted history = taken history ++ state.outbound.items
  left : ∃ lost, taken history = (wrote history ++ state.phase.writing).map Prod.fst ++ lost ∧
    (lost ≠ [] → state.phase = .returned)
  framed : ∀ pair ∈ wrote history ++ state.phase.writing,
    ∃ mask, pair.2 = ws.encodeFrame pair.1 mask

/-- While the driver runs, nothing is lost. -/
theorem Ordered.of_running {state : State ws} {history : List (Event ws)}
    (ordered : Ordered state history) (running : state.phase ≠ .returned) :
    taken history = (wrote history ++ state.phase.writing).map Prod.fst := by
  rcases ordered.left with ⟨lost, left, gone⟩
  have none : lost = [] := by
    by_contra some
    exact running (gone some)
  rw [left, none, List.append_nil]

theorem ordered_step {state next : State ws} {action : Action ws}
    {history events : List (Event ws)} (ordered : Ordered state history)
    (carries : Carries state action next events) :
    Ordered next (history ++ events) := by
  have queued := ordered.queued
  have framed := ordered.framed
  cases carries with
  | driver running untouched dialing gone idle =>
      have quiet := untouched.unsent
      constructor
      · simp only [observed_append, queued, quiet.accepted, quiet.taken, untouched.outbound,
          List.append_nil]
      · refine ⟨state.phase.writing.map Prod.fst, ?_, ?_⟩
        · simp only [observed_append, ordered.of_running running, quiet.taken, quiet.wrote, idle,
            List.append_nil, List.map_append]
        · intro some
          rcases gone with before | after
          · rw [before] at some
            exact absurd rfl some
          · exact after
      · intro pair member
        simp only [observed_append, quiet.wrote, idle, List.append_nil] at member
        exact framed pair (List.mem_append_left _ member)
  | @took decodeBuf message mask selecting head then_ blocked =>
      have after : next.phase.writing = [(message, ws.encodeFrame message mask)] := by
        rw [then_, Phase.writing]
      have left := ordered.of_running (by rw [selecting]; rintro ⟨⟩)
      have idle : state.phase.writing = [] := by rw [selecting]; rfl
      rw [idle] at left framed
      constructor
      · simp [queued, head]
      · refine ⟨[], ?_, fun some => absurd rfl some⟩
        simp [left, after]
      · intro pair member
        simp only [observed_append, observed_cons, observed_nil, Event.wroteOf, after] at member
        rcases List.mem_append.mp member with earlier | now
        · exact framed pair (by simpa using earlier)
        · cases List.mem_singleton.mp now
          exact ⟨mask, rfl⟩
  | @wrote message frame decodeBuf writing then_ outbound blocked =>
      have after : next.phase.writing = [] := by rw [then_]; rfl
      have left := ordered.of_running (by rw [writing]; rintro ⟨⟩)
      have now : state.phase.writing = [(message, frame)] := by rw [writing]; rfl
      rw [now] at left framed
      constructor
      · simp [queued, outbound]
      · refine ⟨[], ?_, fun some => absurd rfl some⟩
        simp [left, after]
      · simpa [after] using framed
  | accepted sends phase items blocked =>
      constructor
      · simp [queued, items]
      · simpa [phase] using ordered.left
      · simpa [phase] using framed
  | blocked sends socket phase outbound blocked =>
      constructor
      · simp [queued, outbound]
      · simpa [phase] using ordered.left
      · simpa [phase] using framed
  | waited idle same =>
      rw [same, List.append_nil]
      exact ordered

theorem ordered_of_reached {job : ConnectJob} {state : State ws} {history : List (Event ws)}
    (reached : (driveConnection ws job).Reached state history) : Ordered state history := by
  apply Machine.Reached.induction Ordered ?start ?preserved reached
  case start =>
    refine ⟨rfl, ⟨[], rfl, fun some => absurd rfl some⟩, ?_⟩
    intro pair member
    cases member
  case preserved =>
    intro state history action next events _ ordered stepped
    exact ordered_step ordered (carries_of_step (step_shape stepped))

/-- What was written was accepted, in this order and before anything else. -/
theorem Ordered.written_prefix {state : State ws} {history : List (Event ws)}
    (ordered : Ordered state history) : (wrote history).map Prod.fst <+: accepted history := by
  rcases ordered.left with ⟨lost, left, -⟩
  rw [ordered.queued, left, List.map_append, List.append_assoc, List.append_assoc]
  exact List.prefix_append _ _

/-! ## The end of the driver -/

/-- The outcomes that end the pump. -/
inductive Ends : Phase ws → Action ws → Prop
  | broke {phase action err} (fault : TransportFault phase action err) : Ends phase action
  | eof {decodeBuf} : Ends (.selecting decodeBuf) (.read (.ok []))
  | last {decodeBuf bytes}
      (stops : ∀ rest, (ws.drain (decodeBuf ++ bytes)).2 ≠ .waiting rest) :
      Ends (.selecting decodeBuf) (.read (.ok bytes))
  | closed {message decodeBuf} (closes : message.isClose = true) :
      Ends (.flushingFrame message decodeBuf) (.flush (.ok ()))

theorem Pumped.returned_iff {state next : State ws} {decodeBuf : List UInt8}
    {events : List (Event ws)} (pumped : Pumped state decodeBuf next events) :
    next.phase = .returned ↔ ∀ rest, (ws.drain decodeBuf).2 ≠ .waiting rest := by
  cases pumped with
  | waiting drained => simp [drained]
  | ended drained => simp [drained, finish]
  | malformed drained => simp [drained, finish]

theorem Stage.returned_iff {state : State ws} {history : List (Event ws)}
    (stage : Stage state history) : returned history ≠ [] ↔ state.phase = .returned := by
  cases stage with
  | dialing phase holds inbound socket quiet =>
      exact iff_of_false (fun some => some quiet.returned) (Phase.running_of_dialing phase)
  | talking phase talking =>
      exact iff_of_false (fun some => some talking.returned) (Phase.running_of_pumping phase)
  | refused err phase answered inbound socket replied pushed validated returned =>
      exact iff_of_true (by rw [returned]; exact List.cons_ne_nil _ _) phase
  | finished result phase answered inbound socket replied pushed validated returned =>
      exact iff_of_true (by rw [returned]; exact List.cons_ne_nil _ _) phase

/-- Writers do not end the pump. -/
theorem Ends.of_driver {phase : Phase ws} {action : Action ws} (ends : Ends phase action) :
    (∀ message, action ≠ .send message) ∧ (∀ frame, action ≠ .close frame) ∧
      ∀ index, action ≠ .retry index := by
  cases ends with
  | broke fault => cases fault <;> simp
  | eof | last | closed => simp

/-- The pump ends with the outcomes that end it, and with no others. -/
theorem ends_iff {job : ConnectJob} {state next : State ws} {action : Action ws}
    {events : List (Event ws)} {decodeBuf : List UInt8} (settled : Settled state)
    (pumping : state.phase.decodeBuf = some decodeBuf)
    (step : Step job state action next events) :
    next.phase = .returned ↔ Ends state.phase action := by
  have running := Phase.running_of_pumping pumping
  have undialed := Phase.undialed_of_pumping pumping
  cases step with
  | dialed before =>
      rw [undialed] at before
      cases before
  | dialFailed fault =>
      rw [fault.dialing] at undialed
      cases undialed
  | responded reading =>
      rw [reading] at undialed
      cases undialed
  | pumped selecting nonempty pumped =>
      rw [selecting, pumped.returned_iff]
      constructor
      · exact .last
      · intro ends
        cases ends with
        | broke fault => cases fault
        | eof => exact absurd rfl nonempty
        | last stops => exact stops
  | ended selecting =>
      rw [selecting]
      exact iff_of_true rfl .eof
  | broke fault => exact iff_of_true rfl (.broke fault)
  | flushedClose flushing closes =>
      rw [flushing]
      exact iff_of_true rfl (.closed closes)
  | @flushed message decodeBuf next events flushing stays pumped =>
      have left := settled decodeBuf (by rw [flushing]; rfl)
      rw [flushing, pumped.returned_iff, left]
      apply iff_of_false (fun stops => stops decodeBuf rfl)
      intro ends
      cases ends with
      | broke fault => cases fault
      | closed closes =>
          rw [stays] at closes
          cases closes
  | took selecting =>
      rw [selecting]
      apply iff_of_false (by rintro ⟨⟩)
      rintro (⟨⟨⟩⟩ | _ | _ | _)
  | wrote writing =>
      rw [writing]
      apply iff_of_false (by rintro ⟨⟩)
      rintro (⟨⟨⟩⟩ | _ | _ | _)
  | accepted socket sends | blocked socket sends =>
      apply iff_of_false running
      intro ends
      rcases sends with rfl | ⟨frame, rfl, -⟩
      · exact ends.of_driver.1 _ rfl
      · exact ends.of_driver.2.1 _ rfl
  | woken | waited => exact iff_of_false running fun ends => ends.of_driver.2.2 _ rfl

theorem Ends.pumping {phase : Phase ws} {action : Action ws} (ends : Ends phase action) :
    ∃ decodeBuf, phase.decodeBuf = some decodeBuf := by
  cases ends with
  | broke fault => exact fault.pumping
  | eof | last | closed => exact ⟨_, rfl⟩

/-- Before the handshake has landed no writer waits. -/
theorem unblocked_of_reached {job : ConnectJob} {state : State ws} {history : List (Event ws)}
    (reached : (driveConnection ws job).Reached state history) :
    state.phase.dialing = true → state.blocked = [] := by
  apply Machine.Reached.induction
    (fun state _ => state.phase.dialing = true → state.blocked = []) ?start ?preserved reached
  case start => exact fun _ => rfl
  case preserved =>
    intro state history action next events reached free stepped dialing
    cases carries_of_step (step_shape stepped) with
    | driver running untouched before =>
        rw [untouched.blocked]
        exact free (before dialing)
    | took selecting head after | wrote writing after =>
        rw [after] at dialing
        cases dialing
    | accepted sends phase items blocked =>
        rw [phase] at dialing
        rw [free dialing] at blocked
        exact List.sublist_nil.mp blocked
    | blocked sends socket phase =>
        rw [phase] at dialing
        rw [((stage_of_reached reached).of_dialing dialing).2.2.1] at socket
        cases socket
    | waited idle same =>
        subst same
        exact free dialing

/-! ## What a connection does with its messages -/

/-- What is written was accepted, in this order, before anything later and as one
frame; what was accepted was accepted while the driver ran; and no send waits for a
driver that has returned. -/
structure Served (state : State ws) (history : List (Event ws)) : Prop where
  written : (wrote history).map Prod.fst <+: accepted history
  framed : ∀ pair ∈ wrote history, ∃ mask, pair.2 = ws.encodeFrame pair.1 mask
  running : ∀ before message after, history = before ++ .accepted message :: after →
    returned before = []
  free : state.phase = .returned → state.blocked = []

/-- Nothing is sent to a connection that has ended, and it ends while no send waits. -/
structure Orderly (state : State ws) (action : Action ws) : Prop where
  running : action.sends = true → state.phase ≠ .returned
  drained : Ends state.phase action → state.blocked = []

/-- A step accepts a message while the driver runs. -/
theorem running_of_accepted {state next : State ws} {action : Action ws}
    {history events front back : List (Event ws)} {message : ws.Msg}
    (served : Served state history) (orderly : Orderly state action)
    (carries : Carries state action next events)
    (split : events = front ++ .accepted message :: back) :
    front = [] ∧ state.phase ≠ .returned := by
  cases carries with
  | driver running untouched =>
      have silent := untouched.unsent.accepted
      rw [split] at silent
      simp at silent
  | accepted sends =>
      have alone : front = [] := by
        cases front with
        | nil => rfl
        | cons event front => simp at split
      refine ⟨alone, ?_⟩
      rcases sends with sends | waits
      · exact orderly.running sends
      · exact fun ended => waits (served.free ended)
  | took | wrote | blocked | waited => simp [List.cons_eq_append_iff] at split

theorem unblocked_of_orderly {job : ConnectJob} {state next : State ws} {action : Action ws}
    {history events : List (Event ws)} (reached : (driveConnection ws job).Reached state history)
    (served : Served state history) (orderly : Orderly state action)
    (step : Step job state action next events) (ended : next.phase = .returned) :
    next.blocked = [] := by
  have carries := carries_of_step step
  by_cases running : state.phase = .returned
  · have free := served.free running
    cases carries with
    | driver running' => exact absurd running running'
    | took selecting | wrote selecting =>
        rw [selecting] at running
        cases running
    | accepted sends phase items blocked =>
        rw [free] at blocked
        exact List.sublist_nil.mp blocked
    | blocked sends => exact absurd running (orderly.running sends)
    | waited idle same => exact same ▸ free
  · have none : state.blocked = [] := by
      rcases Phase.dialing_or_pumping running with dialing | ⟨decodeBuf, pumping⟩
      · exact unblocked_of_reached reached dialing
      · exact orderly.drained ((ends_iff (settled_of_reached reached) pumping step).mp ended)
    cases carries with
    | driver running' untouched => exact untouched.blocked.trans none
    | took selecting head after blocked => exact blocked.trans none
    | wrote writing after outbound blocked => exact blocked.trans none
    | accepted sends phase => exact absurd (phase ▸ ended) running
    | blocked sends socket phase => exact absurd (phase ▸ ended) running
    | waited idle same => exact absurd (same ▸ ended) running

theorem served_of_orderly {job : ConnectJob} {state next : State ws} {action : Action ws}
    {history events : List (Event ws)} (reached : (driveConnection ws job).Reached state history)
    (served : Served state history)
    (stepped : (driveConnection ws job).step state action = some (next, events))
    (orderly : Orderly state action) : Served next (history ++ events) := by
  have ordered := ordered_of_reached (reached.step stepped)
  have step := step_shape stepped
  constructor
  · exact ordered.written_prefix
  · exact fun pair member => ordered.framed pair (List.mem_append_left _ member)
  · intro before message after split
    rcases List.append_eq_append_iff.mp split with ⟨front, rfl, accepts⟩ | ⟨middle, rfl, tail⟩
    · rcases running_of_accepted served orderly (carries_of_step step) accepts with ⟨alone, running⟩
      rw [alone, List.append_nil]
      by_contra some
      exact running ((stage_of_reached reached).returned_iff.mp some)
    · cases middle with
      | nil =>
          rcases running_of_accepted served orderly (carries_of_step step)
              (show events = [] ++ .accepted message :: after from tail.symm) with ⟨-, running⟩
          rw [List.append_nil] at reached
          by_contra some
          exact running ((stage_of_reached reached).returned_iff.mp some)
      | cons event middle =>
          rw [List.cons_append, List.cons.injEq] at tail
          rcases tail with ⟨rfl, -⟩
          exact served.running before message middle rfl
  · exact unblocked_of_orderly reached served orderly step

theorem orderly_of_served {job : ConnectJob} {state next : State ws} {action : Action ws}
    {history events : List (Event ws)} (reached : (driveConnection ws job).Reached state history)
    (stepped : (driveConnection ws job).step state action = some (next, events))
    (served : Served next (history ++ events)) : Orderly state action := by
  have step := step_shape stepped
  have carries := carries_of_step step
  constructor
  · intro sends ended
    have spoken := (stage_of_reached reached).returned_iff.mpr ended
    cases carries with
    | driver running => exact running ended
    | took selecting | wrote selecting =>
        rw [selecting] at ended
        cases ended
    | accepted sends => exact spoken (served.running history _ [] rfl)
    | blocked sends socket phase outbound blocked =>
        have none := served.free (phase.trans ended)
        rw [blocked] at none
        simp at none
    | waited idle =>
        rw [idle] at sends
        cases sends
  · intro ends
    rcases ends.pumping with ⟨decodeBuf, pumping⟩
    have running := Phase.running_of_pumping pumping
    have ended := (ends_iff (settled_of_reached reached) pumping step).mpr ends
    have none := served.free ended
    cases carries with
    | driver running' untouched => exact untouched.blocked.symm.trans none
    | took selecting head after blocked => exact blocked.symm.trans none
    | wrote writing after outbound blocked => exact blocked.symm.trans none
    | accepted sends phase => exact absurd (phase ▸ ended) running
    | blocked sends socket phase => exact absurd (phase ▸ ended) running
    | waited idle same => exact absurd (same ▸ ended) running

/-- A connection serves its messages all along a run exactly when nothing is sent to
it once it has ended, and it ends while no send waits. -/
theorem outbound_served {job : ConnectJob} {actions : List (Action ws)} {state : State ws}
    {history : List (Event ws)}
    (ran : (driveConnection ws job).run actions = some (state, history)) :
    (driveConnection ws job).AlwaysAlong Served actions ↔
      (driveConnection ws job).Meets Orderly actions := by
  apply Machine.always_iff_meets _ ?start ?exact ran
  case start =>
    constructor
    · exact List.prefix_refl _
    · exact fun pair member => by cases member
    · exact fun before message after split => by simp at split
    · exact fun _ => rfl
  case exact =>
    intro state history action next events reached served stepped
    constructor
    · exact orderly_of_served reached stepped
    · exact served_of_orderly reached served stepped

/-- `!` -/
def shout : shortFrames.Msg := .data [0x21]

/-- The connection sends a message and then a `Close` of its own. -/
def hangingUp : List (Action shortFrames) :=
  shaking ++ [.read (.ok switchingProtocols), .send shout, .close none,
    .receive [1, 2, 3, 4], .writeAll (.ok ()), .flush (.ok ()),
    .receive [5, 6, 7, 8], .writeAll (.ok ()), .flush (.ok ())]

theorem outbound_served_hangingUp :
    ∃ state history,
      (driveConnection shortFrames localJob).run hangingUp = some (state, history) ∧
      wrote history = [(shout, [0x81, 0x81, 1, 2, 3, 4, 0x20]),
        (.close none, [0x88, 0x80, 5, 6, 7, 8])] ∧
      ((driveConnection shortFrames localJob).AlwaysAlong Served hangingUp ↔
        (driveConnection shortFrames localJob).Meets Orderly hangingUp) := by
  have shown : ((driveConnection shortFrames localJob).run hangingUp).map
      (fun last => wrote last.2) = some [(shout, [0x81, 0x81, 1, 2, 3, 4, 0x20]),
        (.close none, [0x88, 0x80, 5, 6, 7, 8])] := by
    decide +kernel
  rcases Option.map_eq_some_iff.mp shown with ⟨⟨state, history⟩, ran, wrote⟩
  exact ⟨state, history, ran, wrote, outbound_served ran⟩

/-- The server has closed; eight sends find their room in the channel, the ninth waits
for the driver, which has returned. -/
theorem closed_connection_swallows :
    ∃ state history,
      (driveConnection shortFrames localJob).run (greeted ++ List.replicate 9 (.send shout)) =
        some (state, history) ∧
      state.phase = .returned ∧ accepted history = List.replicate 8 shout ∧
      wrote history = [] ∧ state.blocked = [shout] ∧ ¬ Served state history := by
  have shown : ((driveConnection shortFrames localJob).run
      (greeted ++ List.replicate 9 (.send shout))).map
      (fun last => decide (last.1.phase = .returned ∧ accepted last.2 = List.replicate 8 shout ∧
        wrote last.2 = [] ∧ last.1.blocked = [shout])) = some true := by
    decide +kernel
  rcases Option.map_eq_some_iff.mp shown with ⟨⟨state, history⟩, ran, same⟩
  rcases of_decide_eq_true same with ⟨ended, accepted, wrote, blocked⟩
  refine ⟨state, history, ran, ended, accepted, wrote, blocked, ?_⟩
  intro served
  have none := served.free ended
  rw [blocked] at none
  cases none

end BeetEsp.Net.SocketClient
