import BeetEsp.Foundation.BoundedQueue
import BeetEsp.Foundation.FrameStream
import BeetEsp.Foundation.Machine
import BeetEsp.Net.HttpClient

/-! # One WebSocket connection

`drive_connection` dials, shakes hands and pumps frames for one `ConnectJob`, from
`net/socket_client.rs`, together with the `OutboundWriter` its caller holds. Each
await of the driver ends in an outcome that the network chooses; writers send in
between, before and after. Beet's WebSocket functions, TLS, DNS and sockets are
upstream.
-/

namespace BeetEsp.Net

open Foundation

namespace SocketClient

/-- The text of a `BevyError`. -/
abbrev BevyError := String

/-- `Message`, whose variants other than `Close` the transport treats alike. -/
inductive Message (Payload CloseFrame : Type)
  | data (payload : Payload)
  | close (frame : Option CloseFrame)
deriving DecidableEq

def Message.isClose {Payload CloseFrame : Type} : Message Payload CloseFrame → Bool
  | close _ => true
  | data _ => false

/-- `ws_ext` and `http_ext`. -/
structure WsExt where
  Payload : Type
  CloseFrame : Type
  encodeClientKey : List UInt8 → String
  encodeHandshakeRequest : String → String → String → Except BevyError (List UInt8)
  validateHandshakeResponse : List UInt8 → String → Except BevyError Unit
  findHeaderEnd : List UInt8 → Option Nat
  /-- `parse_frame` -/
  frames : FrameParser UInt8 (Message Payload CloseFrame) BevyError
  encodeFrame : Message Payload CloseFrame → List UInt8 → List UInt8

abbrev WsExt.Msg (ws : WsExt) := Message ws.Payload ws.CloseFrame

/-- The frames to push, up to the first `Close`. -/
def WsExt.drain (ws : WsExt) (decodeBuf : List UInt8) : List ws.Msg × Drained UInt8 BevyError :=
  ws.frames.drain Message.isClose decodeBuf

structure ConnectJob where
  authority : String
  host : String
  port : UInt16
  secure : Bool

structure IpEndpoint where
  address : Ipv4Address
  port : UInt16

/-! ## Errors -/

def dnsFailed (host err : String) : BevyError := s!"DNS lookup for `{host}` failed: {err}"

def noDnsResults (host : String) : BevyError := s!"no DNS results for `{host}`"

def connectTimedOut (authority : String) : BevyError :=
  s!"connect to {authority} timed out (server unreachable or firewalled?)"

def connectFailed (authority err : String) : BevyError :=
  s!"connect to {authority} failed: {err}"

def handshakeWriteFailed (err : String) : BevyError := s!"handshake write failed: {err}"

def handshakeFlushFailed (err : String) : BevyError := s!"handshake flush failed: {err}"

def handshakeReadFailed (err : String) : BevyError := s!"handshake read failed: {err}"

def closedDuringHandshake : BevyError := "server closed the connection during the handshake"

def socketReadFailed (err : String) : BevyError := s!"socket read failed: {err}"

def socketWriteFailed (err : String) : BevyError := s!"socket write failed: {err}"

def socketFlushFailed (err : String) : BevyError := s!"socket flush failed: {err}"

/-! ## States and steps -/

/-- The await the driver is in. -/
inductive Phase (ws : WsExt)
  | resolving
  | connecting (remote : IpEndpoint)
  | openingTls
  | writingHandshake (key : String) (request : List UInt8)
  | flushingHandshake (key : String)
  | readingResponse (key : String) (response : List UInt8)
  /-- The `select` of `run_duplex`. -/
  | selecting (decodeBuf : List UInt8)
  | writingFrame (message : ws.Msg) (frame decodeBuf : List UInt8)
  | flushingFrame (message : ws.Msg) (decodeBuf : List UInt8)
  | returned

structure State (ws : WsExt) where
  phase : Phase ws
  /-- The `Reply` is still in the driver's `Option`. -/
  reply : Bool
  /-- The driver still holds the inbound sender. -/
  inbound : Bool
  /-- `connect` was answered `Ok`: its caller has the `Socket`. -/
  socket : Bool
  /-- `OutboundChannel` -/
  outbound : BoundedQueue ws.Msg 8
  /-- Sends that wait for room in the channel. -/
  blocked : List ws.Msg

inductive ConnectOutcome
  | timedOut
  | failed (err : String)
  /-- Connected; the random bytes are drawn next when no TLS session is opened. -/
  | established (random : List UInt8)

inductive Action (ws : WsExt)
  | dnsQuery (result : Except String (List Ipv4Address))
  | connect (outcome : ConnectOutcome)
  /-- A TLS session, and the random bytes drawn next. -/
  | tlsOpen (result : Except BevyError (List UInt8))
  | writeAll (result : Except String Unit)
  | flush (result : Except String Unit)
  /-- No bytes mean the end of the stream. -/
  | read (result : Except String (List UInt8))
  /-- The `select` gives a message of the channel, and its mask is drawn. -/
  | receive (mask : List UInt8)
  /-- `send_boxed` -/
  | send (message : ws.Msg)
  /-- `close_boxed` -/
  | close (frame : Option ws.CloseFrame)
  /-- A send that waits tries again. -/
  | retry (index : Nat)

inductive Event (ws : WsExt)
  | received (bytes : List UInt8)
  | validated (key : String)
  | transportFailed
  | replied (result : Except BevyError Unit)
  | pushed (item : Except BevyError ws.Msg)
  | taken (message : ws.Msg)
  /-- The message was written whole, as this frame. -/
  | wrote (message : ws.Msg) (frame : List UInt8)
  /-- A send returned `Ok`. -/
  | accepted (message : ws.Msg)
  | blocked (message : ws.Msg)
  /-- `handle_connection` ended with this result and `drive_connection` returned. -/
  | returned (result : Except BevyError Unit)

variable {ws : WsExt}

/-- Take the `Reply`, if it is still there, and send the result. -/
def answer (state : State ws) (result : Except BevyError Unit) : State ws × List (Event ws) :=
  if state.reply then
    ({ state with reply := false, socket := result.isOk }, [.replied result])
  else
    (state, [])

/-- The end of `drive_connection`. -/
def finish (state : State ws) (result : Except BevyError Unit) : State ws × List (Event ws) :=
  let (answered, replies) := answer state result
  let pushes := match state.reply, result with
    | false, .error err => [.pushed (.error err)]
    | _, _ => []
  ({ answered with phase := .returned, inbound := false },
    replies ++ pushes ++ [.returned result])

/-- `run_socket` up to its first await. -/
def runSocket (job : ConnectJob) (state : State ws) (random : List UInt8) :
    State ws × List (Event ws) :=
  let key := ws.encodeClientKey random
  match ws.encodeHandshakeRequest job.authority "/" key with
  | .error err => finish state (.error err)
  | .ok request => ({ state with phase := .writingHandshake key request }, [])

/-- `run_duplex` from the head of its loop to the `select`. -/
def runDuplex (state : State ws) (decodeBuf : List UInt8) : State ws × List (Event ws) :=
  let (messages, drained) := ws.drain decodeBuf
  let (next, events) := match drained with
    | .waiting rest => ({ state with phase := .selecting rest }, [])
    | .ended => finish state (.ok ())
    | .malformed err => finish state (.error err)
  (next, messages.map (fun message => .pushed (.ok message)) ++ events)

/-- `read_handshake_response` after a read, and what follows up to the next await. -/
def readResponse (state : State ws) (key : String) (response : List UInt8) :
    State ws × List (Event ws) :=
  match ws.findHeaderEnd response with
  | none => ({ state with phase := .readingResponse key response }, [])
  | some stop =>
    match ws.validateHandshakeResponse (response.take stop) key with
    | .error err => finish state (.error err)
    | .ok () =>
      let (answered, replies) := answer state (.ok ())
      let (next, events) := runDuplex answered (response.drop stop)
      (next, .validated key :: replies ++ events)

/-- A failing read, write or flush of `run_duplex`. -/
def failTransport (state : State ws) (err : BevyError) : State ws × List (Event ws) :=
  let (next, events) := finish state (.error err)
  (next, .transportFailed :: events)

/-- `outbound.send(msg).await` -/
def sendOutbound (state : State ws) (message : ws.Msg) : State ws × List (Event ws) :=
  match state.outbound.trySend message with
  | .ok outbound => ({ state with outbound }, [.accepted message])
  | .error message =>
      ({ state with blocked := state.blocked ++ [message] }, [.blocked message])

def step (job : ConnectJob) (state : State ws) :
    Action ws → Option (State ws × List (Event ws))
  | .dnsQuery result =>
      match state.phase, result with
      | .resolving, .error err => some (finish state (.error (dnsFailed job.host err)))
      | .resolving, .ok [] => some (finish state (.error (noDnsResults job.host)))
      | .resolving, .ok (address :: _) =>
          some ({ state with phase := .connecting ⟨address, job.port⟩ }, [])
      | _, _ => none
  | .connect outcome =>
      match state.phase, outcome with
      | .connecting _, .timedOut =>
          some (finish state (.error (connectTimedOut job.authority)))
      | .connecting _, .failed err =>
          some (finish state (.error (connectFailed job.authority err)))
      | .connecting _, .established random =>
          if job.secure then some ({ state with phase := .openingTls }, [])
          else some (runSocket job state random)
      | _, _ => none
  | .tlsOpen result =>
      match state.phase, result with
      | .openingTls, .error err => some (finish state (.error err))
      | .openingTls, .ok random => some (runSocket job state random)
      | _, _ => none
  | .writeAll result =>
      match state.phase, result with
      | .writingHandshake _ _, .error err =>
          some (finish state (.error (handshakeWriteFailed err)))
      | .writingHandshake key _, .ok () =>
          some ({ state with phase := .flushingHandshake key }, [])
      | .writingFrame _ _ _, .error err => some (failTransport state (socketWriteFailed err))
      | .writingFrame message frame decodeBuf, .ok () =>
          some ({ state with phase := .flushingFrame message decodeBuf },
            [.wrote message frame])
      | _, _ => none
  | .flush result =>
      match state.phase, result with
      | .flushingHandshake _, .error err =>
          some (finish state (.error (handshakeFlushFailed err)))
      | .flushingHandshake key, .ok () =>
          some ({ state with phase := .readingResponse key [] }, [])
      | .flushingFrame _ _, .error err => some (failTransport state (socketFlushFailed err))
      | .flushingFrame message decodeBuf, .ok () =>
          if message.isClose then some (finish state (.ok ()))
          else some (runDuplex state decodeBuf)
      | _, _ => none
  | .read result =>
      match state.phase, result with
      | .readingResponse _ _, .error err =>
          some (finish state (.error (handshakeReadFailed err)))
      | .readingResponse _ _, .ok [] => some (finish state (.error closedDuringHandshake))
      | .readingResponse key response, .ok bytes =>
          -- Both loops read into a buffer of 512 bytes.
          if 512 < bytes.length then none
          else
            let (next, events) := readResponse state key (response ++ bytes)
            some (next, .received bytes :: events)
      | .selecting _, .error err => some (failTransport state (socketReadFailed err))
      | .selecting _, .ok [] => some (finish state (.ok ()))
      | .selecting decodeBuf, .ok bytes =>
          if 512 < bytes.length then none
          else
            let (next, events) := runDuplex state (decodeBuf ++ bytes)
            some (next, .received bytes :: events)
      | _, _ => none
  | .receive mask =>
      match state.phase, state.outbound.tryReceive with
      | .selecting decodeBuf, some (message, outbound) =>
          some ({ state with
              outbound
              phase := .writingFrame message (ws.encodeFrame message mask) decodeBuf },
            [.taken message])
      | _, _ => none
  | .send message => if state.socket then some (sendOutbound state message) else none
  | .close frame => if state.socket then some (sendOutbound state (.close frame)) else none
  | .retry index =>
      match state.blocked[index]? with
      | none => none
      | some message =>
        match state.outbound.trySend message with
        | .ok outbound =>
            some ({ state with outbound, blocked := state.blocked.eraseIdx index },
              [.accepted message])
        | .error _ => some (state, [])

end SocketClient

open SocketClient in
/-- `drive_connection` for a job, and the writer of its `Socket`. -/
def driveConnection (ws : WsExt) (job : ConnectJob) :
    Machine (State ws) (Action ws) (Event ws) where
  initial := {
    phase := .resolving
    reply := true
    inbound := true
    socket := false
    outbound := .empty
    blocked := [] }
  step := step job

namespace SocketClient

variable {ws : WsExt}

theorem step_send (job : ConnectJob) (state : State ws) (message : ws.Msg) :
    step job state (.send message) =
      if state.socket then some (sendOutbound state message) else none := by
  simp only [step]

theorem step_close (job : ConnectJob) (state : State ws) (frame : Option ws.CloseFrame) :
    step job state (.close frame) =
      if state.socket then some (sendOutbound state (.close frame)) else none := by
  simp only [step]

/-- Before the handshake has landed. -/
def Phase.dialing : Phase ws → Bool
  | .resolving | .connecting _ | .openingTls | .writingHandshake _ _ | .flushingHandshake _
  | .readingResponse _ _ => true
  | _ => false

/-- The part of the response read so far. -/
def Phase.response : Phase ws → List UInt8
  | .readingResponse _ response => response
  | _ => []

/-- `decode_buf`, in the loop of `run_duplex`. -/
def Phase.decodeBuf : Phase ws → Option (List UInt8)
  | .selecting decodeBuf | .writingFrame _ _ decodeBuf | .flushingFrame _ decodeBuf =>
      some decodeBuf
  | _ => none

/-- There is no `decode_buf` before the handshake has landed. -/
theorem Phase.decodeBuf_of_dialing {phase : Phase ws} (dialing : phase.dialing = true) :
    phase.decodeBuf = none := by
  cases phase <;> simp_all [Phase.dialing, Phase.decodeBuf]

instance (phase : Phase ws) : Decidable (phase = .returned) :=
  match phase with
  | .returned => isTrue rfl
  | .resolving | .connecting _ | .openingTls | .writingHandshake _ _ | .flushingHandshake _
  | .readingResponse _ _ | .selecting _ | .writingFrame _ _ _ | .flushingFrame _ _ =>
      isFalse (fun same => by cases same)

/-- The transport is open, with these random bytes for the key of the handshake. -/
inductive Opens (job : ConnectJob) : Phase ws → Action ws → List UInt8 → Prop
  | plain {remote random} (insecure : job.secure = false) :
      Opens job (.connecting remote) (.connect (.established random)) random
  | tls {random} : Opens job .openingTls (.tlsOpen (.ok random)) random

/-- What stops a connection before the response is read, and the error it gives. -/
inductive DialFault (job : ConnectJob) : Phase ws → Action ws → BevyError → Prop
  | dns {err} : DialFault job .resolving (.dnsQuery (.error err)) (dnsFailed job.host err)
  | noResults : DialFault job .resolving (.dnsQuery (.ok [])) (noDnsResults job.host)
  | timedOut {remote} : DialFault job (.connecting remote) (.connect .timedOut)
      (connectTimedOut job.authority)
  | failed {remote err} : DialFault job (.connecting remote) (.connect (.failed err))
      (connectFailed job.authority err)
  | tls {err} : DialFault job .openingTls (.tlsOpen (.error err)) err
  | request {phase action random err} (opens : Opens job phase action random)
      (refused : ws.encodeHandshakeRequest job.authority "/" (ws.encodeClientKey random) =
        .error err) :
      DialFault job phase action err
  | write {key request err} : DialFault job (.writingHandshake key request)
      (.writeAll (.error err)) (handshakeWriteFailed err)
  | flush {key err} : DialFault job (.flushingHandshake key) (.flush (.error err))
      (handshakeFlushFailed err)
  | read {key response err} : DialFault job (.readingResponse key response)
      (.read (.error err)) (handshakeReadFailed err)
  | closed {key response} : DialFault job (.readingResponse key response) (.read (.ok []))
      closedDuringHandshake

/-- What stops the pump from outside, and the error it gives. -/
inductive TransportFault : Phase ws → Action ws → BevyError → Prop
  | read {decodeBuf err} : TransportFault (.selecting decodeBuf) (.read (.error err))
      (socketReadFailed err)
  | write {message frame decodeBuf err} :
      TransportFault (.writingFrame message frame decodeBuf) (.writeAll (.error err))
        (socketWriteFailed err)
  | flush {message decodeBuf err} : TransportFault (.flushingFrame message decodeBuf)
      (.flush (.error err)) (socketFlushFailed err)

/-- The messages a pump has pushed. -/
def pushes (messages : List ws.Msg) : List (Event ws) :=
  messages.map fun message => .pushed (.ok message)

/-- What the pump does with its buffer. -/
inductive Pumped (state : State ws) (decodeBuf : List UInt8) :
    State ws → List (Event ws) → Prop
  | waiting {rest} (drained : (ws.drain decodeBuf).2 = .waiting rest) :
      Pumped state decodeBuf { state with phase := .selecting rest }
        (pushes (ws.drain decodeBuf).1)
  | ended (drained : (ws.drain decodeBuf).2 = .ended) :
      Pumped state decodeBuf (finish state (.ok ())).1
        (pushes (ws.drain decodeBuf).1 ++ (finish state (.ok ())).2)
  | malformed {err} (drained : (ws.drain decodeBuf).2 = .malformed err) :
      Pumped state decodeBuf (finish state (.error err)).1
        (pushes (ws.drain decodeBuf).1 ++ (finish state (.error err)).2)

theorem runDuplex_shape (state : State ws) (decodeBuf : List UInt8) :
    Pumped state decodeBuf (runDuplex state decodeBuf).1 (runDuplex state decodeBuf).2 := by
  cases drained : (ws.drain decodeBuf).2 with
  | waiting rest =>
      have shape : Pumped state decodeBuf _ _ := .waiting drained
      simpa only [runDuplex, drained, pushes, List.append_nil] using shape
  | ended =>
      have shape : Pumped state decodeBuf _ _ := .ended drained
      simpa only [runDuplex, drained, pushes] using shape
  | malformed err =>
      have shape : Pumped state decodeBuf _ _ := .malformed drained
      simpa only [runDuplex, drained, pushes] using shape

/-- What a read of the response comes to. -/
inductive Responded (state : State ws) (key : String) (response : List UInt8) :
    State ws → List (Event ws) → Prop
  | more (absent : ws.findHeaderEnd response = none) :
      Responded state key response { state with phase := .readingResponse key response } []
  | refused {stop err} (found : ws.findHeaderEnd response = some stop)
      (refused : ws.validateHandshakeResponse (response.take stop) key = .error err) :
      Responded state key response (finish state (.error err)).1 (finish state (.error err)).2
  | landed {stop next events} (found : ws.findHeaderEnd response = some stop)
      (valid : ws.validateHandshakeResponse (response.take stop) key = .ok ())
      (pumped : Pumped (answer state (.ok ())).1 (response.drop stop) next events) :
      Responded state key response next
        (.validated key :: (answer state (.ok ())).2 ++ events)

theorem readResponse_shape (state : State ws) (key : String) (response : List UInt8) :
    Responded state key response (readResponse state key response).1
      (readResponse state key response).2 := by
  unfold readResponse
  cases found : ws.findHeaderEnd response with
  | none => exact .more found
  | some stop =>
      simp only
      cases valid : ws.validateHandshakeResponse (response.take stop) key with
      | error err => exact .refused found valid
      | ok done => exact .landed found valid (runDuplex_shape _ _)

/-- What a step can do. -/
inductive Step (job : ConnectJob) (state : State ws) :
    Action ws → State ws → List (Event ws) → Prop
  | dialed {action phase} (before : state.phase.dialing = true)
      (silent : state.phase.response = []) (after : phase.dialing = true)
      (empty : phase.response = []) :
      Step job state action { state with phase } []
  | dialFailed {action err} (fault : DialFault job state.phase action err) :
      Step job state action (finish state (.error err)).1 (finish state (.error err)).2
  | responded {key response bytes next events}
      (reading : state.phase = .readingResponse key response)
      (responded : Responded state key (response ++ bytes) next events) :
      Step job state (.read (.ok bytes)) next (.received bytes :: events)
  | pumped {decodeBuf bytes next events} (selecting : state.phase = .selecting decodeBuf)
      (nonempty : bytes ≠ []) (pumped : Pumped state (decodeBuf ++ bytes) next events) :
      Step job state (.read (.ok bytes)) next (.received bytes :: events)
  | ended {decodeBuf} (selecting : state.phase = .selecting decodeBuf) :
      Step job state (.read (.ok [])) (finish state (.ok ())).1 (finish state (.ok ())).2
  | broke {action err} (fault : TransportFault state.phase action err) :
      Step job state action (failTransport state err).1 (failTransport state err).2
  | took {decodeBuf message outbound mask} (selecting : state.phase = .selecting decodeBuf)
      (head : state.outbound.items = message :: outbound.items) :
      Step job state (.receive mask)
        { state with
          outbound
          phase := .writingFrame message (ws.encodeFrame message mask) decodeBuf }
        [.taken message]
  | wrote {message frame decodeBuf}
      (writing : state.phase = .writingFrame message frame decodeBuf) :
      Step job state (.writeAll (.ok ()))
        { state with phase := .flushingFrame message decodeBuf } [.wrote message frame]
  | flushedClose {message decodeBuf}
      (flushing : state.phase = .flushingFrame message decodeBuf)
      (closes : message.isClose = true) :
      Step job state (.flush (.ok ())) (finish state (.ok ())).1 (finish state (.ok ())).2
  | flushed {message decodeBuf next events}
      (flushing : state.phase = .flushingFrame message decodeBuf)
      (stays : message.isClose = false) (pumped : Pumped state decodeBuf next events) :
      Step job state (.flush (.ok ())) next events
  | accepted {action message outbound} (socket : state.socket = true)
      (sends : action = .send message ∨ ∃ frame, action = .close frame ∧ message = .close frame)
      (room : state.outbound.items.length < 8)
      (items : outbound.items = state.outbound.items ++ [message]) :
      Step job state action { state with outbound } [.accepted message]
  | blocked {action message} (socket : state.socket = true)
      (sends : action = .send message ∨ ∃ frame, action = .close frame ∧ message = .close frame)
      (full : state.outbound.items.length = 8) :
      Step job state action { state with blocked := state.blocked ++ [message] }
        [.blocked message]
  | woken {index message outbound} (waits : state.blocked[index]? = some message)
      (items : outbound.items = state.outbound.items ++ [message]) :
      Step job state (.retry index)
        { state with outbound, blocked := state.blocked.eraseIdx index } [.accepted message]
  | waited {index message} (waits : state.blocked[index]? = some message) :
      Step job state (.retry index) state []

theorem Opens.dialing {job : ConnectJob} {phase : Phase ws} {action : Action ws}
    {random : List UInt8} (opens : Opens job phase action random) :
    phase.dialing = true ∧ phase.response = [] := by
  cases opens <;> exact ⟨rfl, rfl⟩

theorem sendOutbound_shape {job : ConnectJob} {state : State ws} {action : Action ws}
    {message : ws.Msg} (socket : state.socket = true)
    (sends : action = .send message ∨ ∃ frame, action = .close frame ∧ message = .close frame) :
    Step job state action (sendOutbound state message).1 (sendOutbound state message).2 := by
  rw [sendOutbound]
  cases sent : state.outbound.trySend message with
  | ok outbound =>
      have spec := BoundedQueue.trySend_eq_ok sent
      exact .accepted socket sends spec.1 spec.2
  | error returned =>
      rcases BoundedQueue.trySend_eq_error sent with ⟨full, rfl⟩
      exact .blocked socket sends full

theorem runSocket_shape {job : ConnectJob} {state : State ws} {action : Action ws}
    {random : List UInt8} (opens : Opens job state.phase action random) :
    Step job state action (runSocket job state random).1 (runSocket job state random).2 := by
  unfold runSocket
  simp only
  split
  case h_1 err refused => exact .dialFailed (.request opens refused)
  case h_2 request built =>
    exact .dialed opens.dialing.1 opens.dialing.2 rfl rfl

theorem Step.of_some {job : ConnectJob} {state next : State ws} {action : Action ws}
    {events : List (Event ws)} {result : State ws × List (Event ws)}
    (shape : Step job state action result.1 result.2)
    (stepped : some result = some (next, events)) : Step job state action next events := by
  rw [Option.some.inj stepped] at shape
  exact shape

theorem dnsQuery_shape {job : ConnectJob} {state next : State ws} {events : List (Event ws)}
    {result : Except String (List Ipv4Address)}
    (stepped : step job state (.dnsQuery result) = some (next, events)) :
    Step job state (.dnsQuery result) next events := by
  simp only [step] at stepped
  split at stepped
  case h_1 err phase =>
    cases stepped
    exact .dialFailed (phase ▸ .dns)
  case h_2 phase =>
    cases stepped
    exact .dialFailed (phase ▸ .noResults)
  case h_3 address rest phase =>
    cases stepped
    exact .dialed (phase ▸ rfl) (phase ▸ rfl) rfl rfl
  case h_4 => cases stepped

theorem connect_shape {job : ConnectJob} {state next : State ws} {events : List (Event ws)}
    {outcome : ConnectOutcome}
    (stepped : step job state (.connect outcome) = some (next, events)) :
    Step job state (.connect outcome) next events := by
  simp only [step] at stepped
  split at stepped
  case h_1 remote phase =>
    cases stepped
    exact .dialFailed (phase ▸ .timedOut)
  case h_2 remote err phase =>
    cases stepped
    exact .dialFailed (phase ▸ .failed)
  case h_3 remote random phase =>
    split at stepped
    case isTrue secure =>
      cases stepped
      exact .dialed (phase ▸ rfl) (phase ▸ rfl) rfl rfl
    case isFalse insecure =>
      exact (runSocket_shape (phase ▸ .plain (Bool.eq_false_iff.mpr insecure))).of_some stepped
  case h_4 => cases stepped

theorem tlsOpen_shape {job : ConnectJob} {state next : State ws} {events : List (Event ws)}
    {result : Except BevyError (List UInt8)}
    (stepped : step job state (.tlsOpen result) = some (next, events)) :
    Step job state (.tlsOpen result) next events := by
  simp only [step] at stepped
  split at stepped
  case h_1 err phase =>
    cases stepped
    exact .dialFailed (phase ▸ .tls)
  case h_2 random phase =>
    exact (runSocket_shape (phase ▸ .tls)).of_some stepped
  case h_3 => cases stepped

theorem writeAll_shape {job : ConnectJob} {state next : State ws} {events : List (Event ws)}
    {result : Except String Unit}
    (stepped : step job state (.writeAll result) = some (next, events)) :
    Step job state (.writeAll result) next events := by
  simp only [step] at stepped
  split at stepped
  case h_1 key request err phase =>
    cases stepped
    exact .dialFailed (phase ▸ .write)
  case h_2 key request phase =>
    cases stepped
    exact .dialed (phase ▸ rfl) (phase ▸ rfl) rfl rfl
  case h_3 message frame decodeBuf err phase =>
    cases stepped
    exact .broke (phase ▸ .write)
  case h_4 message frame decodeBuf phase =>
    cases stepped
    exact .wrote phase
  case h_5 => cases stepped

theorem flush_shape {job : ConnectJob} {state next : State ws} {events : List (Event ws)}
    {result : Except String Unit}
    (stepped : step job state (.flush result) = some (next, events)) :
    Step job state (.flush result) next events := by
  simp only [step] at stepped
  split at stepped
  case h_1 key err phase =>
    cases stepped
    exact .dialFailed (phase ▸ .flush)
  case h_2 key phase =>
    cases stepped
    exact .dialed (phase ▸ rfl) (phase ▸ rfl) rfl rfl
  case h_3 message decodeBuf err phase =>
    cases stepped
    exact .broke (phase ▸ .flush)
  case h_4 message decodeBuf phase =>
    split at stepped
    case isTrue closes =>
      cases stepped
      exact .flushedClose phase closes
    case isFalse stays =>
      have shape := runDuplex_shape state decodeBuf
      rw [Option.some.inj stepped] at shape
      exact .flushed phase (Bool.eq_false_iff.mpr stays) shape
  case h_5 => cases stepped

theorem read_shape {job : ConnectJob} {state next : State ws} {events : List (Event ws)}
    {result : Except String (List UInt8)}
    (stepped : step job state (.read result) = some (next, events)) :
    Step job state (.read result) next events := by
  simp only [step] at stepped
  split at stepped
  case h_1 key response err phase =>
    cases stepped
    exact .dialFailed (phase ▸ .read)
  case h_2 key response phase =>
    cases stepped
    exact .dialFailed (phase ▸ .closed)
  case h_3 key response bytes nonempty phase =>
    split at stepped
    case isTrue => cases stepped
    case isFalse =>
      cases stepped
      exact .responded phase (readResponse_shape _ _ _)
  case h_4 decodeBuf err phase =>
    cases stepped
    exact .broke (phase ▸ .read)
  case h_5 decodeBuf phase =>
    cases stepped
    exact .ended phase
  case h_6 decodeBuf bytes nonempty phase =>
    split at stepped
    case isTrue => cases stepped
    case isFalse =>
      cases stepped
      exact .pumped phase (fun none => nonempty none) (runDuplex_shape _ _)
  case h_7 => cases stepped

/-- Every step has one of these shapes. -/
theorem step_shape {job : ConnectJob} {state next : State ws} {action : Action ws}
    {events : List (Event ws)}
    (stepped : (driveConnection ws job).step state action = some (next, events)) :
    Step job state action next events := by
  change step job state action = some (next, events) at stepped
  cases action with
  | dnsQuery result => exact dnsQuery_shape stepped
  | connect outcome => exact connect_shape stepped
  | tlsOpen result => exact tlsOpen_shape stepped
  | writeAll result => exact writeAll_shape stepped
  | flush result => exact flush_shape stepped
  | read result => exact read_shape stepped
  | receive mask =>
      simp only [step] at stepped
      split at stepped
      case h_1 decodeBuf message outbound phase received =>
        cases stepped
        exact .took phase (BoundedQueue.tryReceive_eq_some received)
      case h_2 => cases stepped
  | send message =>
      rw [step_send] at stepped
      split at stepped
      case isTrue socket =>
        exact (sendOutbound_shape socket (.inl rfl)).of_some stepped
      case isFalse => cases stepped
  | close frame =>
      rw [step_close] at stepped
      split at stepped
      case isTrue socket =>
        exact (sendOutbound_shape socket (.inr ⟨frame, rfl, rfl⟩)).of_some stepped
      case isFalse => cases stepped
  | retry index =>
      simp only [step] at stepped
      split at stepped
      case h_1 => cases stepped
      case h_2 message waits =>
        split at stepped
        case h_1 outbound sent =>
          cases stepped
          exact .woken waits (BoundedQueue.trySend_eq_ok sent).2
        case h_2 =>
          cases stepped
          exact .waited waits

/-! ## What the pieces of a step do -/

theorem finish_holding {state : State ws} (holds : state.reply = true)
    (result : Except BevyError Unit) :
    finish state result =
      ({ state with
          phase := .returned, reply := false, inbound := false, socket := result.isOk },
        [.replied result, .returned result]) := by
  simp only [finish, answer, holds, ↓reduceIte]
  rfl

theorem answer_holding {state : State ws} (holds : state.reply = true)
    (result : Except BevyError Unit) :
    answer state result =
      ({ state with reply := false, socket := result.isOk }, [.replied result]) := by
  simp only [answer, holds, ↓reduceIte]

/-- The failures that are pushed when the reply is gone. -/
def pushedFailure : Except BevyError Unit → List (Except BevyError ws.Msg)
  | .error err => [.error err]
  | .ok () => []

theorem finish_answered {state : State ws} (answered : state.reply = false)
    (result : Except BevyError Unit) :
    finish state result =
      ({ state with phase := .returned, inbound := false, reply := false },
        (pushedFailure result).map .pushed ++ [.returned result]) := by
  rcases state with ⟨phase, reply, inbound, socket, outbound, blocked⟩
  cases answered
  cases result <;> rfl

/-! ## Short frames

The upstream functions on what a server says that sends unmasked frames of at most
125 bytes, and as the random bytes are all zero. -/

/-- `"\r\n\r\n"` -/
def TERMINATOR : List UInt8 := [13, 10, 13, 10]

/-- Just past the first terminator. -/
def findTerminator : List UInt8 → Option Nat
  | [] => none
  | byte :: rest =>
      if TERMINATOR <+: byte :: rest then some TERMINATOR.length
      else (findTerminator rest).map (· + 1)

abbrev ShortMsg := Message (List UInt8) (List UInt8)

/-- An unmasked frame: its opcode, its length and its payload. -/
def parseShort : List UInt8 → Except BevyError (Option (ShortMsg × Nat))
  | opcode :: size :: rest =>
      let payload := rest.take size.toNat
      if 125 < size.toNat then .error "long frame"
      else if rest.length < size.toNat then .ok none
      else if opcode = 0x81 then .ok (some (.data payload, size.toNat + 2))
      else if opcode = 0x88 then
        .ok (some (.close (if payload.isEmpty then none else some payload), size.toNat + 2))
      else .error "unknown opcode"
  | _ => .ok none

theorem parseShort_consumed {input : List UInt8} {frame : ShortMsg} {size : Nat}
    (found : parseShort input = .ok (some (frame, size))) :
    0 < size ∧ size ≤ input.length := by
  match input with
  | [] | [_] => cases found
  | opcode :: length :: rest =>
      simp only [parseShort] at found
      split_ifs at found with long short <;> cases found
      all_goals
        simp only [List.length_cons]
        omega

def maskPayload (payload mask : List UInt8) : List UInt8 :=
  payload.mapIdx fun index byte => byte ^^^ mask.getD (index % 4) 0

def encodeShort (message : ShortMsg) (mask : List UInt8) : List UInt8 :=
  let (opcode, payload) : UInt8 × List UInt8 := match message with
    | .data payload => (0x81, payload)
    | .close frame => (0x88, frame.getD [])
  opcode :: (0x80 ||| UInt8.ofNat payload.length) :: mask ++ maskPayload payload mask

def utf8 (text : String) : List UInt8 := text.toUTF8.data.toList

/-- The response that accepts the key of 16 zero bytes. -/
def switchingProtocols : List UInt8 :=
  utf8 ("HTTP/1.1 101 Switching Protocols\r\nUpgrade: websocket\r\n" ++
    "Connection: Upgrade\r\nSec-WebSocket-Accept: ICX+Yqv66kxgM0FcWaLWlFLwTAI=\r\n\r\n")

abbrev shortFrames : WsExt where
  Payload := List UInt8
  CloseFrame := List UInt8
  encodeClientKey _ := "AAAAAAAAAAAAAAAAAAAAAA=="
  encodeHandshakeRequest authority path key :=
    .ok (utf8 ("GET " ++ path ++ " HTTP/1.1\r\nHost: " ++ authority ++
      "\r\nUpgrade: websocket\r\nConnection: Upgrade\r\nSec-WebSocket-Key: " ++ key ++
      "\r\nSec-WebSocket-Version: 13\r\n\r\n"))
  validateHandshakeResponse head _ :=
    if head = switchingProtocols then .ok () else .error "bad handshake"
  findHeaderEnd := findTerminator
  frames := ⟨parseShort, parseShort_consumed⟩
  encodeFrame := encodeShort

instance : DecidableEq shortFrames.Msg := inferInstanceAs (DecidableEq ShortMsg)

def localJob : ConnectJob := ⟨"10.0.0.2:8337", "10.0.0.2", 8337, false⟩

/-- `hi` -/
def textFrame : List UInt8 := [0x81, 2, 0x68, 0x69]

/-- A connection up to its request. -/
def shaking : List (Action shortFrames) :=
  [.dnsQuery (.ok [0x0a000002]), .connect (.established (List.replicate 16 0)),
    .writeAll (.ok ()), .flush (.ok ())]

end SocketClient

end BeetEsp.Net
