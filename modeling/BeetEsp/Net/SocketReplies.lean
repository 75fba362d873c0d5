import BeetEsp.Net.SocketClient

/-! # Every connect is answered once

Wherever a connection stops, the caller of `connect` gets one reply, the outcome of
the handshake; what fails after that goes to the inbound stream, as its last item.
-/

namespace BeetEsp.Net.SocketClient

open Foundation

variable {ws : WsExt}

/-! ## Histories -/

@[simp] def Event.repliedOf : Event ws → Option (Except BevyError Unit)
  | replied result => some result
  | _ => none

@[simp] def Event.pushedOf : Event ws → Option (Except BevyError ws.Msg)
  | pushed item => some item
  | _ => none

@[simp] def Event.validatedOf : Event ws → Option String
  | validated key => some key
  | _ => none

@[simp] def Event.returnedOf : Event ws → Option (Except BevyError Unit)
  | returned result => some result
  | _ => none

/-- What the `Reply` was sent. -/
abbrev replied (history : List (Event ws)) : List (Except BevyError Unit) :=
  observed Event.repliedOf history

/-- What the inbound sender was sent. -/
abbrev pushed (history : List (Event ws)) : List (Except BevyError ws.Msg) :=
  observed Event.pushedOf history

/-- The keys of the handshakes that were validated. -/
abbrev validated (history : List (Event ws)) : List String :=
  observed Event.validatedOf history

abbrev returned (history : List (Event ws)) : List (Except BevyError Unit) :=
  observed Event.returnedOf history

/-- Events that neither party to the connection sees. -/
structure Quiet (events : List (Event ws)) : Prop where
  replied : replied events = []
  pushed : pushed events = []
  validated : validated events = []
  returned : returned events = []

theorem pushed_pushes (messages : List ws.Msg) :
    pushed (pushes messages) = messages.map .ok := by
  apply observed_map
  exact fun _ => rfl

/-! ## The stages of a connection -/

/-- The handshake has landed and the pump runs. -/
structure Talking (state : State ws) (history : List (Event ws)) : Prop where
  answered : state.reply = false
  inbound : state.inbound = true
  socket : state.socket = true
  replied : replied history = [.ok ()]
  pushed : ∃ messages : List ws.Msg, pushed history = messages.map .ok
  validated : ∃ key, validated history = [key]
  returned : returned history = []

inductive Stage (state : State ws) (history : List (Event ws)) : Prop
  | dialing (phase : state.phase.dialing = true) (holds : state.reply = true)
      (inbound : state.inbound = true) (socket : state.socket = false) (quiet : Quiet history)
  | talking {decodeBuf} (phase : state.phase.decodeBuf = some decodeBuf)
      (talking : Talking state history)
  | refused (err : BevyError) (phase : state.phase = .returned) (answered : state.reply = false)
      (inbound : state.inbound = false) (socket : state.socket = false)
      (replied : replied history = [.error err]) (pushed : pushed history = [])
      (validated : validated history = []) (returned : returned history = [.error err])
  | finished (result : Except BevyError Unit) (phase : state.phase = .returned)
      (answered : state.reply = false)
      (inbound : state.inbound = false) (socket : state.socket = true)
      (replied : replied history = [.ok ()])
      (pushed : ∃ messages : List ws.Msg,
        pushed history = messages.map .ok ++ pushedFailure result)
      (validated : ∃ key, validated history = [key]) (returned : returned history = [result])

theorem Talking.quiet {state next : State ws} {history events : List (Event ws)}
    (talking : Talking state history) (reply : next.reply = state.reply)
    (inbound : next.inbound = state.inbound) (socket : next.socket = state.socket)
    (quiet : Quiet events) : Talking next (history ++ events) where
  answered := reply.trans talking.answered
  inbound := inbound.trans talking.inbound
  socket := socket.trans talking.socket
  replied := by simp only [observed_append, talking.replied, quiet.replied, List.append_nil]
  pushed := by
    rcases talking.pushed with ⟨messages, pushed⟩
    exact ⟨messages, by simp only [observed_append, pushed, quiet.pushed, List.append_nil]⟩
  validated := by
    rcases talking.validated with ⟨key, validated⟩
    exact ⟨key, by simp only [observed_append, validated, quiet.validated, List.append_nil]⟩
  returned := by simp only [observed_append, talking.returned, quiet.returned, List.append_nil]

theorem Talking.pushes {state : State ws} {history : List (Event ws)}
    (talking : Talking state history) (messages : List ws.Msg) :
    Talking state (history ++ pushes messages) where
  answered := talking.answered
  inbound := talking.inbound
  socket := talking.socket
  replied := by
    have none : SocketClient.replied (SocketClient.pushes messages) = [] :=
      observed_map_eq_nil _ (fun _ => rfl) messages
    simp only [observed_append, talking.replied, none, List.append_nil]
  pushed := by
    rcases talking.pushed with ⟨earlier, pushed⟩
    refine ⟨earlier ++ messages, ?_⟩
    simp only [observed_append, pushed, pushed_pushes, List.map_append]
  validated := by
    rcases talking.validated with ⟨key, validated⟩
    have none : SocketClient.validated (SocketClient.pushes messages) = [] :=
      observed_map_eq_nil _ (fun _ => rfl) messages
    refine ⟨key, ?_⟩
    simp only [observed_append, validated, none, List.append_nil]
  returned := by
    have none : SocketClient.returned (SocketClient.pushes messages) = [] :=
      observed_map_eq_nil _ (fun _ => rfl) messages
    simp only [observed_append, talking.returned, none, List.append_nil]

/-- The pump ends: its result is pushed if it is a failure. -/
theorem Talking.finish {state : State ws} {history : List (Event ws)}
    (talking : Talking state history) (result : Except BevyError Unit) :
    Stage (finish state result).1 (history ++ (finish state result).2) := by
  rcases talking.pushed with ⟨messages, pushed⟩
  rcases talking.validated with ⟨key, validated⟩
  rw [finish_answered talking.answered]
  refine .finished result rfl rfl rfl talking.socket ?_ ?_ ?_ ?_
  · cases result <;> simp [talking.replied, pushedFailure]
  · cases result <;> exact ⟨messages, by simp [pushed, pushedFailure]⟩
  · cases result <;> exact ⟨key, by simp [validated, pushedFailure]⟩
  · cases result <;> simp [talking.returned, pushedFailure]

theorem Talking.pumped {state next : State ws} {history events : List (Event ws)}
    {decodeBuf : List UInt8} (talking : Talking state history)
    (pumped : Pumped state decodeBuf next events) : Stage next (history ++ events) := by
  have pushing := talking.pushes (ws.drain decodeBuf).1
  cases pumped with
  | waiting drained => exact .talking rfl { pushing with }
  | ended drained =>
      rw [← List.append_assoc]
      exact pushing.finish _
  | malformed drained =>
      rw [← List.append_assoc]
      exact pushing.finish _

/-- The dial ends before the handshake has landed: its error is the reply. -/
theorem refused_of_finish {state : State ws} {history : List (Event ws)}
    (holds : state.reply = true) (quiet : Quiet history) (err : BevyError) :
    Stage (finish state (.error err)).1 (history ++ (finish state (.error err)).2) := by
  rw [finish_holding holds]
  apply Stage.refused err rfl rfl rfl rfl
  · simp [quiet.replied]
  · simp [quiet.pushed]
  · simp [quiet.validated]
  · simp [quiet.returned]

theorem Quiet.append {front back : List (Event ws)} (first : Quiet front)
    (second : Quiet back) : Quiet (front ++ back) where
  replied := by simp only [observed_append, first.replied, second.replied, List.append_nil]
  pushed := by simp only [observed_append, first.pushed, second.pushed, List.append_nil]
  validated := by
    simp only [observed_append, first.validated, second.validated, List.append_nil]
  returned := by simp only [observed_append, first.returned, second.returned, List.append_nil]

theorem stage_of_responded {state next : State ws} {history events : List (Event ws)}
    {key : String} {response : List UInt8} (holds : state.reply = true)
    (inbound : state.inbound = true) (socket : state.socket = false) (quiet : Quiet history)
    (responded : Responded state key response next events) :
    Stage next (history ++ events) := by
  cases responded with
  | more absent =>
      rw [List.append_nil]
      exact .dialing rfl holds inbound socket quiet
  | refused found refused => exact refused_of_finish holds quiet _
  | @landed stop next events found valid pumped =>
      rw [answer_holding holds] at pumped ⊢
      have started : Talking { state with reply := false, socket := true }
          (history ++ [.validated key, .replied (.ok ())]) := {
        answered := rfl
        inbound := inbound
        socket := rfl
        replied := by simp [quiet.replied]
        pushed := ⟨[], by simp [quiet.pushed]⟩
        validated := ⟨key, by simp [quiet.validated]⟩
        returned := by simp [quiet.returned] }
      have running := started.pumped pumped
      rwa [List.append_assoc] at running

/-! ## Steps between stages -/

theorem DialFault.dialing {job : ConnectJob} {phase : Phase ws} {action : Action ws}
    {err : BevyError} (fault : DialFault job phase action err) : phase.dialing = true := by
  cases fault with
  | request opens => exact opens.dialing.1
  | _ => rfl

theorem TransportFault.pumping {phase : Phase ws} {action : Action ws} {err : BevyError}
    (fault : TransportFault phase action err) : ∃ decodeBuf, phase.decodeBuf = some decodeBuf := by
  cases fault <;> exact ⟨_, rfl⟩

theorem Stage.of_dialing {state : State ws} {history : List (Event ws)}
    (stage : Stage state history) (dialing : state.phase.dialing = true) :
    state.reply = true ∧ state.inbound = true ∧ state.socket = false ∧ Quiet history := by
  cases stage with
  | dialing phase holds inbound socket quiet => exact ⟨holds, inbound, socket, quiet⟩
  | talking phase talking =>
      rw [Phase.decodeBuf_of_dialing dialing] at phase
      cases phase
  | refused err phase =>
      rw [phase] at dialing
      cases dialing
  | finished result phase =>
      rw [phase] at dialing
      cases dialing

theorem Stage.of_pumping {state : State ws} {history : List (Event ws)}
    (stage : Stage state history) (decodeBuf : List UInt8)
    (pumping : state.phase.decodeBuf = some decodeBuf) : Talking state history := by
  cases stage with
  | dialing phase =>
      rw [Phase.decodeBuf_of_dialing phase] at pumping
      cases pumping
  | talking phase talking => exact talking
  | refused err phase =>
      rw [phase] at pumping
      cases pumping
  | finished result phase =>
      rw [phase] at pumping
      cases pumping

/-- What only concerns the outbound channel leaves the stage as it is. -/
theorem Stage.quiet {state next : State ws} {history events : List (Event ws)}
    (stage : Stage state history) (phase : next.phase = state.phase)
    (reply : next.reply = state.reply) (inbound : next.inbound = state.inbound)
    (socket : next.socket = state.socket) (quiet : Quiet events) :
    Stage next (history ++ events) := by
  cases stage with
  | dialing dialing holds open_ none earlier =>
      exact .dialing (phase ▸ dialing) (reply.trans holds) (inbound.trans open_)
        (socket.trans none) (earlier.append quiet)
  | talking pumping talking =>
      exact .talking (phase ▸ pumping) (talking.quiet reply inbound socket quiet)
  | refused err ended answered closed none replied pushed validated returned =>
      apply Stage.refused err (phase.trans ended) (reply.trans answered)
        (inbound.trans closed) (socket.trans none)
      · simp only [observed_append, replied, quiet.replied, List.append_nil]
      · simp only [observed_append, pushed, quiet.pushed, List.append_nil]
      · simp only [observed_append, validated, quiet.validated, List.append_nil]
      · simp only [observed_append, returned, quiet.returned, List.append_nil]
  | finished result ended answered closed some replied pushed validated returned =>
      apply Stage.finished result (phase.trans ended) (reply.trans answered)
        (inbound.trans closed) (socket.trans some)
      · simp only [observed_append, replied, quiet.replied, List.append_nil]
      · simpa only [observed_append, quiet.pushed, List.append_nil] using pushed
      · simpa only [observed_append, quiet.validated, List.append_nil] using validated
      · simp only [observed_append, returned, quiet.returned, List.append_nil]

theorem stage_step {job : ConnectJob} {state next : State ws} {action : Action ws}
    {history events : List (Event ws)} (stage : Stage state history)
    (step : Step job state action next events) : Stage next (history ++ events) := by
  cases step with
  | dialed before silent after empty =>
      rcases stage.of_dialing before with ⟨holds, inbound, socket, quiet⟩
      rw [List.append_nil]
      exact .dialing after holds inbound socket quiet
  | @dialFailed action err fault =>
      rcases stage.of_dialing fault.dialing with ⟨holds, inbound, socket, quiet⟩
      exact refused_of_finish holds quiet err
  | @responded key response bytes next events reading responded =>
      rcases stage.of_dialing (by rw [reading]; rfl) with ⟨holds, inbound, socket, quiet⟩
      have received : Quiet (history ++ [.received bytes]) :=
        quiet.append ⟨rfl, rfl, rfl, rfl⟩
      have stage := stage_of_responded holds inbound socket received responded
      rwa [List.append_assoc] at stage
  | @pumped decodeBuf bytes next events selecting nonempty pumped =>
      have talking := stage.of_pumping decodeBuf (by rw [selecting]; rfl)
      have received : Talking state (history ++ [.received bytes]) :=
        talking.quiet rfl rfl rfl ⟨rfl, rfl, rfl, rfl⟩
      have running := received.pumped pumped
      rwa [List.append_assoc] at running
  | @ended decodeBuf selecting =>
      have talking := stage.of_pumping decodeBuf (by rw [selecting]; rfl)
      exact talking.finish _
  | @broke action err fault =>
      rcases fault.pumping with ⟨decodeBuf, pumping⟩
      have failed : Talking state (history ++ [.transportFailed]) :=
        (stage.of_pumping decodeBuf pumping).quiet rfl rfl rfl ⟨rfl, rfl, rfl, rfl⟩
      have finished := failed.finish (.error err)
      rwa [List.append_assoc] at finished
  | @took decodeBuf message outbound mask selecting head =>
      have talking := stage.of_pumping decodeBuf (by rw [selecting]; rfl)
      exact .talking rfl (talking.quiet rfl rfl rfl ⟨rfl, rfl, rfl, rfl⟩)
  | @wrote message frame decodeBuf writing =>
      have talking := stage.of_pumping decodeBuf (by rw [writing]; rfl)
      exact .talking rfl (talking.quiet rfl rfl rfl ⟨rfl, rfl, rfl, rfl⟩)
  | @flushedClose message decodeBuf flushing closes =>
      have talking := stage.of_pumping decodeBuf (by rw [flushing]; rfl)
      exact talking.finish _
  | @flushed message decodeBuf next events flushing stays pumped =>
      have talking := stage.of_pumping decodeBuf (by rw [flushing]; rfl)
      exact talking.pumped pumped
  | accepted | blocked | woken | waited =>
      exact stage.quiet rfl rfl rfl rfl ⟨rfl, rfl, rfl, rfl⟩

theorem stage_of_reached {job : ConnectJob} {state : State ws} {history : List (Event ws)}
    (reached : (driveConnection ws job).Reached state history) : Stage state history := by
  apply Machine.Reached.induction Stage ?start ?preserved reached
  case start => exact .dialing rfl rfl rfl rfl ⟨rfl, rfl, rfl, rfl⟩
  case preserved =>
    intro state history action next events _ stage stepped
    exact stage_step stage (step_shape stepped)

/-! ## What stops a connection -/

/-- No whole frame waits in `decode_buf` between two steps. -/
def Settled (state : State ws) : Prop :=
  ∀ decodeBuf, state.phase.decodeBuf = some decodeBuf →
    ws.drain decodeBuf = ([], .waiting decodeBuf)

theorem settled_of_dialing {state : State ws} (dialing : state.phase.dialing = true) :
    Settled state := by
  intro decodeBuf pumping
  rw [Phase.decodeBuf_of_dialing dialing] at pumping
  cases pumping

theorem settled_of_finish (state : State ws) (result : Except BevyError Unit) :
    Settled (finish state result).1 := by
  intro decodeBuf pumping
  cases pumping

theorem settled_of_pumped {state next : State ws} {decodeBuf : List UInt8}
    {events : List (Event ws)} (pumped : Pumped state decodeBuf next events) :
    Settled next := by
  cases pumped with
  | waiting drained =>
      rintro rest ⟨⟩
      exact FrameParser.drain_waiting drained
  | ended | malformed => exact settled_of_finish _ _

theorem settled_of_responded {state next : State ws} {key : String} {response : List UInt8}
    {events : List (Event ws)} (responded : Responded state key response next events) :
    Settled next := by
  cases responded with
  | more absent => exact settled_of_dialing rfl
  | refused found refused => exact settled_of_finish _ _
  | landed found valid pumped => exact settled_of_pumped pumped

theorem settled_of_reached {job : ConnectJob} {state : State ws} {history : List (Event ws)}
    (reached : (driveConnection ws job).Reached state history) : Settled state := by
  apply Machine.Reached.induction (fun state _ => Settled state) ?start ?preserved reached
  case start => exact settled_of_dialing rfl
  case preserved =>
    intro state history action next events _ settled stepped
    cases step_shape stepped with
    | dialed before silent after empty => exact settled_of_dialing after
    | dialFailed | ended | broke | flushedClose => exact settled_of_finish _ _
    | responded reading responded => exact settled_of_responded responded
    | pumped selecting nonempty pumped => exact settled_of_pumped pumped
    | took selecting head =>
        rintro decodeBuf ⟨⟩
        exact settled _ (by rw [selecting]; rfl)
    | wrote writing =>
        rintro decodeBuf ⟨⟩
        exact settled _ (by rw [writing]; rfl)
    | flushed flushing stays pumped => exact settled_of_pumped pumped
    | accepted | blocked | woken | waited => exact settled

/-- The actions that stop a connection, each with the error it stops it with. -/
inductive Stops (job : ConnectJob) (state : State ws) : Action ws → BevyError → Prop
  | dial {action err} (fault : DialFault job state.phase action err) :
      Stops job state action err
  | handshake {key response bytes stop err}
      (reading : state.phase = .readingResponse key response)
      (found : ws.findHeaderEnd (response ++ bytes) = some stop)
      (refused : ws.validateHandshakeResponse ((response ++ bytes).take stop) key =
        .error err) :
      Stops job state (.read (.ok bytes)) err
  | leftover {key response bytes stop err}
      (reading : state.phase = .readingResponse key response)
      (found : ws.findHeaderEnd (response ++ bytes) = some stop)
      (malformed : (ws.drain ((response ++ bytes).drop stop)).2 = .malformed err) :
      Stops job state (.read (.ok bytes)) err
  | frame {decodeBuf bytes err} (selecting : state.phase = .selecting decodeBuf)
      (malformed : (ws.drain (decodeBuf ++ bytes)).2 = .malformed err) :
      Stops job state (.read (.ok bytes)) err
  | transport {action err} (fault : TransportFault state.phase action err) :
      Stops job state action err

/-- The server says `hi` with its response, and closes. -/
def greeted : List (Action shortFrames) :=
  shaking ++ [.read (.ok (switchingProtocols ++ textFrame)), .read (.ok [0x88, 0])]

end BeetEsp.Net.SocketClient
