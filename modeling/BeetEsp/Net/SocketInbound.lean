import BeetEsp.Net.SocketReplies
import Mathlib.Data.List.Infix

/-! # The inbound stream does not depend on segmentation

However the bytes of the server are cut into reads, with the response and the first
frames in one read or the header end in the middle of one, and whatever is sent in
between: what is pushed are the frames of the bytes after the header end, up to the
first `Close`, and then a failure exactly when the bytes go on malformed or the
transport failed.
-/

namespace BeetEsp.Net.SocketClient

open Foundation

variable {ws : WsExt}

/-- Just past the first header terminator. -/
def HeaderEnds (bytes : List UInt8) (stop : Nat) : Prop :=
  stop ≤ bytes.length ∧ TERMINATOR <:+ bytes.take stop ∧
    ∀ earlier < stop, ¬ TERMINATOR <:+ bytes.take earlier

theorem HeaderEnds.append {bytes : List UInt8} {stop : Nat} (ends : HeaderEnds bytes stop)
    (more : List UInt8) : HeaderEnds (bytes ++ more) stop := by
  rcases ends with ⟨inside, terminated, first⟩
  have same : ∀ earlier ≤ stop, (bytes ++ more).take earlier = bytes.take earlier :=
    fun earlier before => List.take_append_of_le_length (before.trans inside)
  refine ⟨?_, ?_, ?_⟩
  · rw [List.length_append]
    exact Nat.le_add_right_of_le inside
  · rw [same stop (Nat.le_refl stop)]
    exact terminated
  · intro earlier before
    rw [same earlier (Nat.le_of_lt before)]
    exact first earlier before

theorem headerEnds_unique {bytes : List UInt8} {stop other : Nat}
    (ends : HeaderEnds bytes stop) (same : HeaderEnds bytes other) : stop = other := by
  rcases Nat.lt_trichotomy stop other with less | equal | greater
  · exact absurd ends.2.1 (same.2.2 stop less)
  · exact equal
  · exact absurd same.2.1 (ends.2.2 other greater)

/-- What the documentation of `find_header_end` and `parse_frame` promises. -/
structure Documented (ws : WsExt) : Prop where
  headerEnd : ∀ bytes stop, ws.findHeaderEnd bytes = some stop ↔ HeaderEnds bytes stop
  frames : ws.frames.Streaming

/-! ## Histories -/

@[simp] def Event.receivedOf : Event ws → Option (List UInt8)
  | received bytes => some bytes
  | _ => none

@[simp] def Event.faultOf : Event ws → Option Unit
  | transportFailed => some ()
  | _ => none

/-- The bytes read since the connection was opened. -/
def received (history : List (Event ws)) : List UInt8 :=
  (observed Event.receivedOf history).flatten

abbrev faults (history : List (Event ws)) : List Unit := observed Event.faultOf history

theorem received_append (front back : List (Event ws)) :
    received (front ++ back) = received front ++ received back := by
  simp only [received, observed_append, List.flatten_append]

theorem mem_transportFailed {history : List (Event ws)} :
    .transportFailed ∈ history ↔ faults history ≠ [] := by
  constructor
  · intro member empty
    have seen : () ∈ faults history := (mem_observed _).mpr ⟨_, member, rfl⟩
    rw [empty] at seen
    cases seen
  · intro some
    rcases List.exists_mem_of_ne_nil _ some with ⟨⟨⟩, seen⟩
    rcases (mem_observed _).mp seen with ⟨event, member, shown⟩
    cases event with
    | transportFailed => exact member
    | _ => cases shown

/-! ## The stream and what was pushed of it -/

/-- The handshake that landed: where the stream of frames starts. -/
structure Landed (history : List (Event ws)) (stop : Nat) (key : String) : Prop where
  found : HeaderEnds (received history) stop
  valid : ws.validateHandshakeResponse ((received history).take stop) key = .ok ()
  validated : validated history = [key]

/-- What ends a stream that has been drained, and with what result. -/
inductive Ending : Drained UInt8 BevyError → List Unit → Except BevyError Unit → Prop
  | closed : Ending .ended [] (.ok ())
  | malformed {err} : Ending (.malformed err) [] (.error err)
  | transport {rest fault err} : Ending (.waiting rest) [fault] (.error err)
  | quit {rest} : Ending (.waiting rest) [] (.ok ())

inductive Inbound (state : State ws) (history : List (Event ws)) : Prop
  | dialing (phase : state.phase.dialing = true)
      (read : received history = state.phase.response) (sound : faults history = [])
  | pumping {decodeBuf messages} (stop : Nat) (key : String)
      (phase : state.phase.decodeBuf = some decodeBuf) (landed : Landed history stop key)
      (drained : ws.drain ((received history).drop stop) = (messages, .waiting decodeBuf))
      (pushed : pushed history = messages.map .ok) (sound : faults history = [])
  | refused (phase : state.phase = .returned) (unlanded : validated history = [])
  | finished (stop : Nat) (key : String) (result : Except BevyError Unit)
      (phase : state.phase = .returned) (landed : Landed history stop key)
      (ending : Ending (ws.drain ((received history).drop stop)).2 (faults history) result)
      (pushed : pushed history = (ws.drain ((received history).drop stop)).1.map .ok ++
        pushedFailure result)

/-- Events that neither bring bytes nor change what is known of the transport. -/
structure Unheard (events : List (Event ws)) : Prop where
  received : received events = []
  validated : validated events = []
  faults : faults events = []

theorem unheard_pushes (messages : List ws.Msg) : Unheard (pushes messages) where
  received := by
    have none : observed Event.receivedOf (pushes messages) = [] :=
      observed_map_eq_nil _ (fun _ => rfl) messages
    rw [SocketClient.received, none]
    rfl
  validated := observed_map_eq_nil _ (fun _ => rfl) messages
  faults := observed_map_eq_nil _ (fun _ => rfl) messages

theorem Unheard.append {front back : List (Event ws)} (first : Unheard front)
    (second : Unheard back) : Unheard (front ++ back) where
  received := by rw [received_append, first.received, second.received, List.append_nil]
  validated := by
    simp only [observed_append, first.validated, second.validated, List.append_nil]
  faults := by simp only [observed_append, first.faults, second.faults, List.append_nil]

/-- How a pump ends: with its failure pushed. -/
theorem finish_of_talking {state : State ws} (answered : state.reply = false)
    (result : Except BevyError Unit) :
    (finish state result).1.phase = .returned ∧ Unheard (finish state result).2 ∧
      pushed (finish state result).2 = pushedFailure result := by
  rw [finish_answered answered]
  cases result <;> exact ⟨rfl, ⟨rfl, rfl, rfl⟩, rfl⟩

theorem landed_of_same {history later : List (Event ws)} {stop : Nat} {key : String}
    (landed : Landed history stop key) (read : received later = received history)
    (keys : validated later = validated history) : Landed later stop key where
  found := read ▸ landed.found
  valid := read ▸ landed.valid
  validated := keys.trans landed.validated

theorem Landed.unheard {history events : List (Event ws)} {stop : Nat} {key : String}
    (landed : Landed history stop key) (unheard : Unheard events) :
    Landed (history ++ events) stop key := by
  apply landed_of_same landed
  · rw [received_append, unheard.received, List.append_nil]
  · simp only [observed_append, unheard.validated, List.append_nil]

/-- The pump is over: with what was drained pushed, and this result. -/
theorem finished_of_finish {state : State ws} {history : List (Event ws)} {stop : Nat}
    {key : String} (result : Except BevyError Unit) (answered : state.reply = false)
    (landed : Landed history stop key)
    (ending : Ending (ws.drain ((received history).drop stop)).2 (faults history) result)
    (earlier : pushed history = (ws.drain ((received history).drop stop)).1.map .ok) :
    Inbound (finish state result).1 (history ++ (finish state result).2) := by
  rcases finish_of_talking answered result with ⟨returned, unheard, failure⟩
  have same : received (history ++ (finish state result).2) = received history := by
    rw [received_append, unheard.received, List.append_nil]
  apply Inbound.finished stop key result returned (landed.unheard unheard)
  · simpa only [same, observed_append, unheard.faults, List.append_nil] using ending
  · simp only [same, observed_append, earlier, failure]

/-- A pump whose pushes so far and buffer are what all that was read drains to. -/
theorem inbound_of_pumped {state next : State ws} {history events : List (Event ws)}
    {decodeBuf : List UInt8} {messages : List ws.Msg} {stop : Nat} {key : String}
    (answered : state.reply = false) (landed : Landed history stop key)
    (drained : ws.drain ((received history).drop stop) =
      (messages ++ (ws.drain decodeBuf).1, (ws.drain decodeBuf).2))
    (earlier : pushed history = messages.map .ok) (sound : faults history = [])
    (pumped : Pumped state decodeBuf next events) : Inbound next (history ++ events) := by
  have unheard := unheard_pushes (ws.drain decodeBuf).1
  have same : received (history ++ pushes (ws.drain decodeBuf).1) = received history := by
    rw [received_append, unheard.received, List.append_nil]
  have sent : pushed (history ++ pushes (ws.drain decodeBuf).1) =
      (messages ++ (ws.drain decodeBuf).1).map .ok := by
    simp only [observed_append, earlier, pushed_pushes, List.map_append]
  have silent : faults (history ++ pushes (ws.drain decodeBuf).1) = [] := by
    simp only [observed_append, sound, unheard.faults, List.append_nil]
  have stays := landed.unheard unheard
  cases pumped with
  | waiting left =>
      rw [left] at drained
      exact .pumping stop key rfl stays (same ▸ drained) sent silent
  | ended left =>
      rw [← List.append_assoc]
      apply finished_of_finish _ answered stays
      · rw [same, silent, drained, left]
        exact .closed
      · rw [same, drained, sent]
  | malformed left =>
      rw [← List.append_assoc]
      apply finished_of_finish _ answered stays
      · rw [same, silent, drained, left]
        exact .malformed
      · rw [same, drained, sent]

/-- The frames that are drained tile the bytes up to the first `Close`, or to where
`parse_frame` finds no whole frame. -/
theorem drain_iff {bytes : List UInt8} {messages : List ws.Msg}
    {left : Drained UInt8 BevyError} :
    ws.drain bytes = (messages, left) ↔
      ∃ tiles rest, ws.frames.Tiling Message.isClose bytes tiles rest ∧
        ws.frames.Stops Message.isClose tiles rest left ∧ tiles.map Prod.fst = messages :=
  FrameParser.drain_iff

/-- More bytes are drained as if they had been there from the start. -/
theorem drain_received (documented : Documented ws) {stream decodeBuf : List UInt8}
    {messages : List ws.Msg} (drained : ws.drain stream = (messages, .waiting decodeBuf))
    (bytes : List UInt8) :
    ws.drain (stream ++ bytes) =
      (messages ++ (ws.drain (decodeBuf ++ bytes)).1, (ws.drain (decodeBuf ++ bytes)).2) := by
  have continues : FrameParser.Continues ws.frames Message.isClose bytes (ws.drain stream)
      (ws.drain (stream ++ bytes)) :=
    FrameParser.drain_append documented.frames stream bytes
  rw [drained] at continues
  generalize ws.drain (stream ++ bytes) = whole at continues ⊢
  cases continues
  rfl

theorem Landed.received {history : List (Event ws)} {stop : Nat} {key : String}
    (landed : Landed history stop key) (bytes : List UInt8) :
    Landed (history ++ [.received bytes]) stop key ∧
      (received (history ++ [.received bytes])).drop stop =
        (received history).drop stop ++ bytes := by
  rcases landed with ⟨found, valid, validated⟩
  have more : SocketClient.received (history ++ [.received bytes]) =
      SocketClient.received history ++ bytes := by
    simp [SocketClient.received]
  constructor
  · constructor
    · rw [more]
      exact found.append bytes
    · rwa [more, List.take_append_of_le_length found.1]
    · simpa using validated
  · rw [more, List.drop_append_of_le_length found.1]

/-! ## Steps -/

theorem Inbound.of_dialing {state : State ws} {history : List (Event ws)}
    (inbound : Inbound state history) (dialing : state.phase.dialing = true) :
    received history = state.phase.response ∧ faults history = [] := by
  cases inbound with
  | dialing phase read sound => exact ⟨read, sound⟩
  | pumping stop key phase =>
      rw [Phase.decodeBuf_of_dialing dialing] at phase
      cases phase
  | refused phase | finished stop key result phase =>
      rw [phase] at dialing
      cases dialing

theorem Inbound.of_pumping {state : State ws} {history : List (Event ws)}
    (inbound : Inbound state history) (decodeBuf : List UInt8)
    (pumping : state.phase.decodeBuf = some decodeBuf) :
    ∃ messages stop key, Landed history stop key ∧
      ws.drain ((received history).drop stop) = (messages, .waiting decodeBuf) ∧
      pushed history = messages.map .ok ∧ faults history = [] := by
  cases inbound with
  | dialing phase =>
      rw [Phase.decodeBuf_of_dialing phase] at pumping
      cases pumping
  | pumping stop key phase landed drained pushed sound =>
      cases phase.symm.trans pumping
      exact ⟨_, stop, key, landed, drained, pushed, sound⟩
  | refused phase | finished stop key result phase =>
      rw [phase] at pumping
      cases pumping

/-- Writers leave the stream as it is. -/
theorem Inbound.unheard {state next : State ws} {history events : List (Event ws)}
    (inbound : Inbound state history) (phase : next.phase = state.phase)
    (unheard : Unheard events) (silent : pushed events = []) :
    Inbound next (history ++ events) := by
  have same : received (history ++ events) = received history := by
    rw [received_append, unheard.received, List.append_nil]
  have quiet : pushed (history ++ events) = pushed history := by
    simp only [observed_append, silent, List.append_nil]
  have safe : faults (history ++ events) = faults history := by
    simp only [observed_append, unheard.faults, List.append_nil]
  cases inbound with
  | dialing dialing read sound =>
      exact .dialing (phase ▸ dialing) (by rw [same, read, phase]) (safe.trans sound)
  | pumping stop key pumping landed drained earlier sound =>
      exact .pumping stop key (phase ▸ pumping) (landed.unheard unheard) (same ▸ drained)
        (quiet.trans earlier) (safe.trans sound)
  | refused returned unlanded =>
      apply Inbound.refused (phase.trans returned)
      simp only [observed_append, unlanded, unheard.validated, List.append_nil]
  | finished stop key result returned landed ending earlier =>
      apply Inbound.finished stop key result (phase.trans returned) (landed.unheard unheard)
      · rw [same, safe]
        exact ending
      · rw [same]
        exact quiet.trans earlier

/-- The driver turns to a message of its own, with its buffer as it is. -/
theorem Inbound.writing {state next : State ws} {history events : List (Event ws)}
    {decodeBuf : List UInt8} (inbound : Inbound state history)
    (pumping : state.phase.decodeBuf = some decodeBuf)
    (still : next.phase.decodeBuf = some decodeBuf) (unheard : Unheard events)
    (silent : pushed events = []) : Inbound next (history ++ events) := by
  rcases inbound.of_pumping decodeBuf pumping with
    ⟨messages, stop, key, landed, drained, earlier, sound⟩
  apply Inbound.pumping stop key still (landed.unheard unheard)
  · rw [received_append, unheard.received, List.append_nil, drained]
  · simp only [observed_append, earlier, silent, List.append_nil]
  · simp only [observed_append, sound, unheard.faults, List.append_nil]

/-- The pump ends without a failure, between two messages. -/
theorem finished_of_quit {state : State ws} {history : List (Event ws)}
    {decodeBuf : List UInt8} (stage : Stage state history) (inbound : Inbound state history)
    (pumping : state.phase.decodeBuf = some decodeBuf) :
    Inbound (finish state (.ok ())).1 (history ++ (finish state (.ok ())).2) := by
  rcases inbound.of_pumping decodeBuf pumping with
    ⟨messages, stop, key, landed, drained, earlier, sound⟩
  apply finished_of_finish _ (stage.of_pumping decodeBuf pumping).answered landed
  · rw [drained, sound]
    exact .quit
  · rw [drained, earlier]

/-- The pump ends with a failure of the transport. -/
theorem finished_of_fault {state : State ws} {history : List (Event ws)}
    {decodeBuf : List UInt8} (stage : Stage state history) (inbound : Inbound state history)
    (pumping : state.phase.decodeBuf = some decodeBuf) (err : BevyError) :
    Inbound (failTransport state err).1 (history ++ (failTransport state err).2) := by
  rcases inbound.of_pumping decodeBuf pumping with
    ⟨messages, stop, key, landed, drained, earlier, sound⟩
  have same : received (history ++ [.transportFailed]) = received history := by
    rw [received_append]
    exact List.append_nil _
  have heard : Inbound (finish state (.error err)).1
      ((history ++ [.transportFailed]) ++ (finish state (.error err)).2) := by
    apply finished_of_finish _ (stage.of_pumping decodeBuf pumping).answered
      (landed_of_same landed same (by simp))
    · rw [same, drained]
      simp only [observed_append, sound]
      exact .transport
    · rw [same, drained]
      simp [earlier]
  rwa [List.append_assoc] at heard

/-- The dial ends: no handshake has landed. -/
theorem refused_of_dialing {state : State ws} {history : List (Event ws)}
    (holds : state.reply = true) (quiet : Quiet history) (err : BevyError) :
    Inbound (finish state (.error err)).1 (history ++ (finish state (.error err)).2) := by
  rw [finish_holding holds]
  apply Inbound.refused rfl
  simp [quiet.validated]

/-- A read of the response; the frames that came with it are the first of the stream. -/
theorem inbound_of_responded (documented : Documented ws) {state next : State ws}
    {history events : List (Event ws)} {key : String} {response : List UInt8}
    (holds : state.reply = true) (quiet : Quiet history)
    (read : received history = response) (sound : faults history = [])
    (responded : Responded state key response next events) :
    Inbound next (history ++ events) := by
  cases responded with
  | more absent =>
      rw [List.append_nil]
      exact .dialing rfl read sound
  | refused found refused => exact refused_of_dialing holds quiet _
  | @landed stop next events found valid pumped =>
      rw [answer_holding holds] at pumped ⊢
      have reads : received (history ++ [.validated key, .replied (.ok ())]) = response := by
        rw [received_append, read]
        exact List.append_nil _
      have landed : Landed (history ++ [.validated key, .replied (.ok ())]) stop key := by
        constructor
        · rw [reads]
          exact (documented.headerEnd _ _).mp found
        · rwa [reads]
        · simp [quiet.validated]
      have drained : ws.drain ((received (history ++ [.validated key, .replied (.ok ())])).drop
          stop) = ([] ++ (ws.drain (response.drop stop)).1, (ws.drain (response.drop stop)).2) := by
        rw [reads]
        rfl
      have started := inbound_of_pumped rfl landed drained (by simp [quiet.pushed])
        (by simp [sound]) pumped
      rwa [List.append_assoc] at started

theorem inbound_step (documented : Documented ws) {job : ConnectJob} {state next : State ws}
    {action : Action ws} {history events : List (Event ws)} (stage : Stage state history)
    (settled : Settled state) (inbound : Inbound state history)
    (step : Step job state action next events) : Inbound next (history ++ events) := by
  cases step with
  | @dialed action phase before silent after empty =>
      have so := inbound.of_dialing before
      rw [List.append_nil]
      exact .dialing after (by rw [so.1, silent, empty]) so.2
  | dialFailed fault =>
      have so := stage.of_dialing fault.dialing
      exact refused_of_dialing so.1 so.2.2.2 _
  | @responded key response bytes next events reading responded =>
      have dialing : state.phase.dialing = true := by rw [reading]; rfl
      rcases stage.of_dialing dialing with ⟨holds, -, -, quiet⟩
      rcases inbound.of_dialing dialing with ⟨read, sound⟩
      have reads : received (history ++ [.received bytes]) = response ++ bytes := by
        rw [received_append, read, reading]
        simp [received, Phase.response]
      have more : Quiet (history ++ [.received bytes]) :=
        quiet.append ⟨rfl, rfl, rfl, rfl⟩
      have heard := inbound_of_responded documented holds more reads (by simp [sound]) responded
      rwa [List.append_assoc] at heard
  | @pumped decodeBuf bytes next events selecting nonempty pumped =>
      have pumping : state.phase.decodeBuf = some decodeBuf := by rw [selecting]; rfl
      rcases inbound.of_pumping decodeBuf pumping with
        ⟨messages, stop, key, landed, drained, earlier, sound⟩
      rcases landed.received bytes with ⟨stays, stream⟩
      have whole := drain_received documented drained bytes
      rw [← stream] at whole
      have heard := inbound_of_pumped (stage.of_pumping decodeBuf pumping).answered stays whole
        (by simp [earlier]) (by simp [sound]) pumped
      rwa [List.append_assoc] at heard
  | @flushed message decodeBuf next events flushing stays pumped =>
      have pumping : state.phase.decodeBuf = some decodeBuf := by rw [flushing]; rfl
      rcases inbound.of_pumping decodeBuf pumping with
        ⟨messages, stop, key, landed, drained, earlier, sound⟩
      have whole : ws.drain ((received history).drop stop) =
          (messages ++ (ws.drain decodeBuf).1, (ws.drain decodeBuf).2) := by
        rw [drained, settled decodeBuf pumping, List.append_nil]
      exact inbound_of_pumped (stage.of_pumping decodeBuf pumping).answered landed whole earlier
        sound pumped
  | ended selecting => exact finished_of_quit stage inbound (by rw [selecting]; rfl)
  | flushedClose flushing => exact finished_of_quit stage inbound (by rw [flushing]; rfl)
  | broke fault =>
      rcases fault.pumping with ⟨decodeBuf, pumping⟩
      exact finished_of_fault stage inbound pumping _
  | took selecting =>
      exact inbound.writing (by rw [selecting]; rfl) rfl ⟨rfl, rfl, rfl⟩ rfl
  | wrote writing =>
      exact inbound.writing (by rw [writing]; rfl) rfl ⟨rfl, rfl, rfl⟩ rfl
  | accepted | blocked | woken | waited => exact inbound.unheard rfl ⟨rfl, rfl, rfl⟩ rfl

theorem inbound_of_reached (documented : Documented ws) {job : ConnectJob} {state : State ws}
    {history : List (Event ws)} (reached : (driveConnection ws job).Reached state history) :
    Inbound state history := by
  apply Machine.Reached.induction Inbound ?start ?preserved reached
  case start => exact .dialing rfl rfl rfl
  case preserved =>
    intro state history action next events reached inbound stepped
    exact inbound_step documented (stage_of_reached reached) (settled_of_reached reached)
      inbound (step_shape stepped)

/-! ## The stream as a whole -/

/-- Once the handshake has landed, what was pushed are the frames of the bytes after
the header end, up to the first `Close`, and after them a failure exactly when the
next bytes are malformed or the transport failed. -/
theorem pushed_of_received (documented : Documented ws) {job : ConnectJob} {state : State ws}
    {history : List (Event ws)} {key : String}
    (reached : (driveConnection ws job).Reached state history)
    (landed : validated history = [key]) :
    ∃ stop, HeaderEnds (received history) stop ∧
      ws.validateHandshakeResponse ((received history).take stop) key = .ok () ∧
      ∃ failures, pushed history =
          (ws.drain ((received history).drop stop)).1.map .ok ++ failures ∧
        (failures = [] ∨ ∃ err, failures = [.error err]) ∧
        (failures ≠ [] ↔
          (∃ err, (ws.drain ((received history).drop stop)).2 = .malformed err) ∨
            .transportFailed ∈ history) := by
  rw [mem_transportFailed]
  cases inbound_of_reached documented reached with
  | dialing phase read sound =>
      have quiet := ((stage_of_reached reached).of_dialing phase).2.2.2
      rw [quiet.validated] at landed
      cases landed
  | pumping stop key' phase start drained pushed sound =>
      cases start.validated.symm.trans landed
      refine ⟨stop, start.found, start.valid, [], ?_, .inl rfl, ?_⟩
      · rw [drained, pushed, List.append_nil]
      · simp [drained, sound]
  | refused phase unlanded =>
      rw [unlanded] at landed
      cases landed
  | finished stop key' result phase start ending pushed =>
      cases start.validated.symm.trans landed
      refine ⟨stop, start.found, start.valid, pushedFailure result, pushed, ?_, ?_⟩
      · cases result with
        | ok done => exact .inl rfl
        | error err => exact .inr ⟨err, rfl⟩
      · generalize (ws.drain ((received history).drop stop)).2 = rest at ending
        generalize faults history = failed at ending
        cases ending <;> simp [pushedFailure]

/-! ## Short frames -/

theorem headerEnds_cons {byte : UInt8} {rest : List UInt8} {stop : Nat}
    (later : ¬ TERMINATOR <+: byte :: rest) :
    HeaderEnds (byte :: rest) (stop + 1) ↔ HeaderEnds rest stop := by
  have shifted : ∀ length, TERMINATOR <:+ (byte :: rest).take (length + 1) ↔
      TERMINATOR <:+ rest.take length := by
    intro length
    rw [List.take_succ_cons, List.suffix_cons_iff, or_iff_right]
    intro whole
    apply later
    rw [whole]
    exact List.cons_prefix_cons.mpr ⟨rfl, List.take_prefix _ _⟩
  constructor
  · intro holds
    rcases holds with ⟨inside, terminated, first⟩
    refine ⟨Nat.le_of_succ_le_succ inside, (shifted stop).mp terminated, ?_⟩
    intro earlier before ends
    exact first (earlier + 1) (Nat.succ_lt_succ before) ((shifted earlier).mpr ends)
  · intro holds
    rcases holds with ⟨inside, terminated, first⟩
    refine ⟨Nat.succ_le_succ inside, (shifted stop).mpr terminated, ?_⟩
    intro earlier before ends
    cases earlier with
    | zero => cases List.suffix_nil.mp ends
    | succ earlier =>
        exact first earlier (Nat.lt_of_succ_lt_succ before) ((shifted earlier).mp ends)

theorem headerEnds_at_start {bytes : List UInt8} {stop : Nat}
    (starts : TERMINATOR <+: bytes) : HeaderEnds bytes stop ↔ stop = TERMINATOR.length := by
  have reaches : ∀ {length}, TERMINATOR <:+ bytes.take length → TERMINATOR.length ≤ length :=
    fun ends => ends.length_le.trans (List.length_take_le _ _)
  have ends : TERMINATOR <:+ bytes.take TERMINATOR.length := by
    rw [← List.prefix_iff_eq_take.mp starts]
  constructor
  · intro holds
    rcases holds with ⟨-, terminated, first⟩
    by_contra other
    exact first _ (Nat.lt_of_le_of_ne (reaches terminated) (Ne.symm other)) ends
  · intro same
    subst same
    refine ⟨starts.length_le, ends, ?_⟩
    intro earlier before terminated
    exact absurd (reaches terminated) (Nat.not_le.mpr before)

theorem findTerminator_eq_some (bytes : List UInt8) (stop : Nat) :
    findTerminator bytes = some stop ↔ HeaderEnds bytes stop := by
  induction bytes generalizing stop with
  | nil =>
      constructor
      · rintro ⟨⟩
      · intro holds
        rcases holds with ⟨-, terminated, -⟩
        rw [List.take_nil] at terminated
        cases List.suffix_nil.mp terminated
  | cons byte rest induction =>
      rw [findTerminator]
      split
      case isTrue starts =>
        rw [headerEnds_at_start starts, Option.some.injEq, eq_comm]
      case isFalse later =>
        cases stop with
        | zero =>
            constructor
            · simp
            · intro holds
              rcases holds with ⟨-, terminated, -⟩
              cases List.suffix_nil.mp terminated
        | succ stop => simp [headerEnds_cons later, induction]

theorem parseShort_complete {input : List UInt8} {frame : ShortMsg} {size : Nat}
    (found : parseShort input = .ok (some (frame, size))) (more : List UInt8) :
    parseShort (input ++ more) = .ok (some (frame, size)) := by
  match input with
  | [] | [_] => cases found
  | opcode :: length :: rest =>
      simp only [parseShort, List.cons_append] at found ⊢
      by_cases short : rest.length < length.toNat
      · rw [if_pos short] at found
        split_ifs at found
        cases found
      · have inside : length.toNat ≤ rest.length := Nat.le_of_not_lt short
        have still : ¬ (rest ++ more).length < length.toNat := by
          rw [List.length_append]
          omega
        rw [if_neg short] at found
        rwa [List.take_append_of_le_length inside, if_neg still]

theorem parseShort_malformed {input : List UInt8} {error : BevyError}
    (found : parseShort input = .error error) (more : List UInt8) :
    ∃ error, parseShort (input ++ more) = .error error := by
  match input with
  | [] | [_] => cases found
  | opcode :: length :: rest =>
      simp only [parseShort, List.cons_append] at found ⊢
      split_ifs at found with long short text close
      · exact ⟨_, if_pos long⟩
      · have inside : ¬ (rest ++ more).length < length.toNat := by
          rw [List.length_append]
          omega
        exact ⟨_, by rw [if_neg long, if_neg inside, if_neg text, if_neg close]⟩

theorem documented_shortFrames : Documented shortFrames where
  headerEnd := findTerminator_eq_some
  frames := ⟨parseShort_complete, parseShort_malformed⟩

/-- `yo` -/
def replyFrame : List UInt8 := [0x81, 2, 0x79, 0x6f]

/-- The response is cut inside of its terminator and the second frame in two, with a
frame of our own in between; then the transport fails. -/
def segmented : List (Action shortFrames) :=
  shaking ++ [.read (.ok (switchingProtocols.take 127)),
    .read (.ok (switchingProtocols.drop 127 ++ textFrame ++ replyFrame.take 1)),
    .send (.data [0x21]), .receive [1, 2, 3, 4], .writeAll (.ok ()), .flush (.ok ()),
    .read (.ok (replyFrame.drop 1)), .read (.error "ConnectionReset")]

/-- The two frames tile what follows the response. -/
theorem drain_segmented : (shortFrames.drain (textFrame ++ replyFrame)).1 =
    [.data [0x68, 0x69], .data [0x79, 0x6f]] := by
  have drained : shortFrames.drain (textFrame ++ replyFrame) =
      ([.data [0x68, 0x69], .data [0x79, 0x6f]], .waiting []) := by
    refine drain_iff.mpr ⟨[(.data [0x68, 0x69], textFrame), (.data [0x79, 0x6f], replyFrame)],
      [], ?_, .waiting (by decide) rfl, rfl⟩
    refine FrameParser.tiling_cons.mpr ⟨replyFrame, rfl, rfl, nofun, ?_⟩
    exact FrameParser.tiling_cons.mpr ⟨[], rfl, rfl, nofun, FrameParser.tiling_nil.mpr rfl⟩
  rw [drained]

theorem pushed_of_received_segmented :
    ∃ state history,
      (driveConnection shortFrames localJob).run segmented = some (state, history) ∧
      received history = switchingProtocols ++ (textFrame ++ replyFrame) ∧
      ∃ stop err, HeaderEnds (received history) stop ∧
        (received history).take stop = switchingProtocols ∧
        pushed history =
          [.ok (.data [0x68, 0x69]), .ok (.data [0x79, 0x6f]), .error err] := by
  have shown : ((driveConnection shortFrames localJob).run segmented).map
      (fun last => (validated last.2, received last.2, faults last.2)) =
        some (["AAAAAAAAAAAAAAAAAAAAAA=="], switchingProtocols ++ (textFrame ++ replyFrame),
          [()]) := by
    decide +kernel
  rcases Option.map_eq_some_iff.mp shown with ⟨⟨state, history⟩, ran, same⟩
  rcases Prod.mk.inj same with ⟨landed, same⟩
  rcases Prod.mk.inj same with ⟨read, failed⟩
  rcases pushed_of_received documented_shortFrames ⟨segmented, ran⟩ landed with
    ⟨stop, found, valid, failures, frames, few, failing⟩
  have accepted : (received history).take stop = switchingProtocols := by
    by_contra other
    rw [show shortFrames.validateHandshakeResponse ((received history).take stop) _ = _ from
      if_neg other] at valid
    cases valid
  have follows : (received history).drop stop = textFrame ++ replyFrame := by
    have whole := List.take_append_drop stop (received history)
    rw [accepted] at whole
    exact List.append_cancel_left (whole.trans read)
  have broke : .transportFailed ∈ history := by
    rw [mem_transportFailed, failed]
    exact List.cons_ne_nil _ _
  rcases few with none | ⟨err, rfl⟩
  · exact absurd none (failing.mpr (.inr broke))
  · rw [follows, drain_segmented] at frames
    exact ⟨state, history, ran, read, stop, err, found, accepted, frames⟩

end BeetEsp.Net.SocketClient
