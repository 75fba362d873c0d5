import BeetEsp.Net.ServerLoop
import Mathlib.Logic.Function.Basic

/-! # What is said on a connection

Whatever the other connections and servers do, the bytes written on a connection answer
the request that was read on it.
-/

namespace BeetEsp.Net.HttpServer

open Foundation
open Esp32Utils
open AsyncBridge (returnedPath)

variable {Request Response : Type} {ext : ServerExt Request Response} {profile : Profile}

/-- How far the dialogue on a connection is. -/
inductive Phase
  | silent
  | reading (entity : Entity) (buf : List UInt8)
  | calling (id : SignalId)
  | answered
  | closed

def Loop.phase (entity : Entity) : Loop → Phase
  | configuring | accepting => .silent
  | reading _ buf => .reading entity buf
  | calling _ id => .calling id
  | writing _ | flushing _ => .answered

def opening (Request Response : Type) (entity : Entity)
    (reads : List (Except Unit (List UInt8))) : List (Said Request Response) :=
  .opened entity :: reads.map .read

/-- What may be said on a connection, with these calls of the bridge. -/
inductive Dialogue (ext : ServerExt Request Response) (profile : Profile)
    (calls : List (AsyncBridge.Event (Entity × Request) Response)) :
    Phase → List (Said Request Response) → Prop
  | silent : Dialogue ext profile calls .silent []
  | reading {entity reads buf}
      (waits : readLoop (ext.http.afterRead profile) [] reads = .waiting buf) :
      Dialogue ext profile calls (.reading entity buf) (opening _ _ entity reads)
  | malformed {entity reads raw} (whole : readHttp ext.http profile reads = .returned raw)
      (unparsed : ext.parseHttpRequest raw = none) :
      Dialogue ext profile calls .answered
        (opening _ _ entity reads ++ [.wrote BAD_REQUEST])
  | refused {entity reads raw request id}
      (whole : readHttp ext.http profile reads = .returned raw)
      (parsed : ext.parseHttpRequest raw = some request)
      (rejected : .rejected id (entity, request) ∈ calls) :
      Dialogue ext profile calls .answered
        (opening _ _ entity reads ++ [.refused, .wrote SERVICE_UNAVAILABLE])
  | calling {entity reads raw request id}
      (whole : readHttp ext.http profile reads = .returned raw)
      (parsed : ext.parseHttpRequest raw = some request)
      (accepted : .accepted id (entity, request) ∈ calls) :
      Dialogue ext profile calls (.calling id)
        (opening _ _ entity reads ++ [.called id (entity, request)])
  | replied {entity reads raw request id job response bytes}
      (whole : readHttp ext.http profile reads = .returned raw)
      (parsed : ext.parseHttpRequest raw = some request)
      (path : (returnedPath id (entity, request) job response).Sublist calls)
      (serialized : ext.serializeHttpResponse response = some bytes) :
      Dialogue ext profile calls .answered
        (opening _ _ entity reads ++
          [.called id (entity, request), .replied response, .wrote bytes])
  | unserialized {entity reads raw request id job response}
      (whole : readHttp ext.http profile reads = .returned raw)
      (parsed : ext.parseHttpRequest raw = some request)
      (path : (returnedPath id (entity, request) job response).Sublist calls)
      (failed : ext.serializeHttpResponse response = none) :
      Dialogue ext profile calls .closed
        (opening _ _ entity reads ++
          [.called id (entity, request), .replied response, .closed])
  | closed {said} (answered : Dialogue ext profile calls .answered said) :
      Dialogue ext profile calls .closed (said ++ [.closed])

/-- More calls leave what was said allowed. -/
theorem Dialogue.later {calls : List (AsyncBridge.Event (Entity × Request) Response)}
    {phase : Phase} {said : List (Said Request Response)}
    (dialogue : Dialogue ext profile calls phase said)
    (more : List (AsyncBridge.Event (Entity × Request) Response)) :
    Dialogue ext profile (calls ++ more) phase said := by
  induction dialogue with
  | silent => exact .silent
  | reading waits => exact .reading waits
  | malformed whole unparsed => exact .malformed whole unparsed
  | refused whole parsed rejected =>
      exact .refused whole parsed (List.mem_append_left _ rejected)
  | calling whole parsed accepted =>
      exact .calling whole parsed (List.mem_append_left _ accepted)
  | replied whole parsed path serialized =>
      exact .replied whole parsed (AsyncBridge.sublist_later path _) serialized
  | unserialized whole parsed path failed =>
      exact .unserialized whole parsed (AsyncBridge.sublist_later path _) failed
  | closed _ answered => exact .closed answered

theorem Dialogue.of_reading
    {calls : List (AsyncBridge.Event (Entity × Request) Response)} {entity : Entity}
    {buf : List UInt8} {said : List (Said Request Response)}
    (dialogue : Dialogue ext profile calls (.reading entity buf) said) :
    ∃ reads, said = opening _ _ entity reads ∧
      readLoop (ext.http.afterRead profile) [] reads = .waiting buf := by
  cases dialogue with
  | reading waits => exact ⟨_, rfl, waits⟩

theorem Dialogue.of_calling
    {calls : List (AsyncBridge.Event (Entity × Request) Response)} {id : SignalId}
    {said : List (Said Request Response)}
    (dialogue : Dialogue ext profile calls (.calling id) said) :
    ∃ entity reads raw request,
      said = opening _ _ entity reads ++ [.called id (entity, request)] ∧
        readHttp ext.http profile reads = .returned raw ∧
        ext.parseHttpRequest raw = some request ∧
        .accepted id (entity, request) ∈ calls := by
  cases dialogue with
  | calling whole parsed accepted => exact ⟨_, _, _, _, rfl, whole, parsed, accepted⟩

/-! ## A step of one loop -/

/-- The loops of the tasks, each with the entity of its server, and what the history shows
of their connections. -/
structure Conversing (ext : ServerExt Request Response) (profile : Profile)
    (loops : TaskId → Option (Entity × Loop)) (shared : Shared Request Response)
    (history : List (Event Request Response)) : Prop where
  bridge : (serverBridge Request Response).Reached shared.bridge
    (observed Event.bridgeOf history)
  fresh : ∀ conn, shared.conns ≤ conn → observed (Event.saidOn conn) history = []
  dialogue : ∀ conn, ∃ phase, Dialogue ext profile (observed Event.bridgeOf history) phase
    (observed (Event.saidOn conn) history)
  current : ∀ task entity loop conn, loops task = some (entity, loop) →
    loop.conn = some conn → conn < shared.conns ∧
      Dialogue ext profile (observed Event.bridgeOf history) (loop.phase entity)
        (observed (Event.saidOn conn) history)
  apart : ∀ task other entity entity' loop loop' conn, loops task = some (entity, loop) →
    loops other = some (entity', loop') → loop.conn = some conn → loop'.conn = some conn →
    task = other

variable {loops : TaskId → Option (Entity × Loop)} {shared next : Shared Request Response}
  {history events : List (Event Request Response)} {task : TaskId} {entity : Entity}
  {loop after : Loop}

/-- A loop speaks on its connection, or on a new one. -/
theorem Conversing.speak (conn : Nat) (phase : Phase)
    (holds : Conversing ext profile (Function.update loops task (some (entity, loop)))
      shared history)
    (bridge : (serverBridge Request Response).Reached next.bridge
      (observed Event.bridgeOf (history ++ events)))
    (own : loop.conn = some conn ∨ shared.conns ≤ conn)
    (stays : after.conn = none ∨ after.conn = some conn ∧ phase = after.phase entity)
    (inside : conn < next.conns) (grows : shared.conns ≤ next.conns)
    (quiet : ∀ other, other ≠ conn → observed (Event.saidOn other) events = [])
    (spoken : Dialogue ext profile (observed Event.bridgeOf (history ++ events)) phase
      (observed (Event.saidOn conn) (history ++ events))) :
    Conversing ext profile (Function.update loops task (some (entity, after))) next
      (history ++ events) := by
  have unchanged : ∀ other, other ≠ conn →
      observed (Event.saidOn other) (history ++ events) =
        observed (Event.saidOn other) history := by
    intro other different
    rw [observed_append, quiet other different, List.append_nil]
  -- The connections of the other loops are others.
  have elsewhere : ∀ index found reached other, index ≠ task →
      loops index = some (found, reached) → reached.conn = some other → other ≠ conn := by
    rintro index found reached other different lookup at_ rfl
    have before : Function.update loops task (some (entity, loop)) index =
        some (found, reached) := by
      rw [Function.update_of_ne different]
      exact lookup
    rcases own with own | new
    · exact different (holds.apart index task _ _ _ _ other before
        (Function.update_self task _ loops) at_ own)
    · exact Nat.not_lt.mpr new (holds.current index _ _ other before at_).1
  constructor
  · exact bridge
  · intro other outside
    rw [unchanged other (by omega)]
    exact holds.fresh other (Nat.le_trans grows outside)
  · intro other
    by_cases same : other = conn
    · rw [same]
      exact ⟨phase, spoken⟩
    · rcases holds.dialogue other with ⟨earlier, dialogue⟩
      rw [unchanged other same, observed_append]
      exact ⟨earlier, dialogue.later _⟩
  · intro index found reached other lookup at_
    by_cases same : index = task
    · rw [same, Function.update_self, Option.some.injEq, Prod.mk.injEq] at lookup
      rcases lookup with ⟨rfl, rfl⟩
      rcases stays with none | ⟨stays, rfl⟩
      · rw [none] at at_
        cases at_
      · rw [stays, Option.some.injEq] at at_
        rw [← at_]
        exact ⟨inside, spoken⟩
    · rw [Function.update_of_ne same] at lookup
      rw [unchanged other (elsewhere index _ _ other same lookup at_), observed_append]
      have before := holds.current index found reached other
        (by rw [Function.update_of_ne same]; exact lookup) at_
      exact ⟨Nat.lt_of_lt_of_le before.1 grows, before.2.later _⟩
  · intro index other found found' reached reached' shared' lookup lookup' at_ at_'
    by_cases same : index = task <;> by_cases same' : other = task
    · rw [same, same']
    · rw [same, Function.update_self, Option.some.injEq, Prod.mk.injEq] at lookup
      rcases lookup with ⟨rfl, rfl⟩
      rw [Function.update_of_ne same'] at lookup'
      rcases stays with none | ⟨stays, -⟩
      · rw [none] at at_
        cases at_
      · rw [stays, Option.some.injEq] at at_
        exact absurd at_.symm (elsewhere other _ _ shared' same' lookup' at_')
    · rw [same', Function.update_self, Option.some.injEq, Prod.mk.injEq] at lookup'
      rcases lookup' with ⟨rfl, rfl⟩
      rw [Function.update_of_ne same] at lookup
      rcases stays with none | ⟨stays, -⟩
      · rw [none] at at_'
        cases at_'
      · rw [stays, Option.some.injEq] at at_'
        exact absurd at_'.symm (elsewhere index _ _ shared' same lookup at_)
    · rw [Function.update_of_ne same] at lookup
      rw [Function.update_of_ne same'] at lookup'
      exact holds.apart index other _ _ _ _ shared'
        (by rw [Function.update_of_ne same]; exact lookup)
        (by rw [Function.update_of_ne same']; exact lookup') at_ at_'

/-- Nothing is said, and no task comes to a connection. -/
theorem Conversing.quiet {before later : TaskId → Option (Entity × Loop)}
    (holds : Conversing ext profile before shared history)
    (bridge : (serverBridge Request Response).Reached next.bridge
      (observed Event.bridgeOf (history ++ events)))
    (same : next.conns = shared.conns)
    (silent : ∀ conn, observed (Event.saidOn conn) events = [])
    (fewer : ∀ task entity loop conn, later task = some (entity, loop) →
      loop.conn = some conn → before task = some (entity, loop)) :
    Conversing ext profile later next (history ++ events) := by
  have unchanged : ∀ conn, observed (Event.saidOn conn) (history ++ events) =
      observed (Event.saidOn conn) history := by
    intro conn
    rw [observed_append, silent, List.append_nil]
  constructor
  · exact bridge
  · intro conn outside
    rw [unchanged]
    exact holds.fresh conn (same ▸ outside)
  · intro conn
    rcases holds.dialogue conn with ⟨phase, dialogue⟩
    rw [unchanged, observed_append]
    exact ⟨phase, dialogue.later _⟩
  · intro task entity loop conn lookup at_
    have current := holds.current task entity loop conn
      (fewer task entity loop conn lookup at_) at_
    rw [unchanged, observed_append, same]
    exact ⟨current.1, current.2.later _⟩
  · intro task other entity entity' loop loop' conn lookup lookup' at_ at_'
    exact holds.apart task other _ _ _ _ conn (fewer _ _ _ conn lookup at_)
      (fewer _ _ _ conn lookup' at_') at_ at_'

theorem readHttp_of_rawOf {reads : List (Except Unit (List UInt8))} {buf raw : List UInt8}
    {result : Except Unit (List UInt8)}
    (waits : readLoop (ext.http.afterRead profile) [] reads = .waiting buf)
    (whole : rawOf (readLoop (ext.http.afterRead profile) buf [result]) = some raw) :
    readHttp ext.http profile (reads ++ [result]) = .returned raw := by
  rw [readHttp, readLoop_append waits]
  cases reading : readLoop (ext.http.afterRead profile) buf [result] <;>
    rw [reading] at whole <;> cases whole <;> rfl

/-- A loop speaks on its connection. -/
theorem Conversing.say {conn : Nat} (phase : Phase)
    (holds : Conversing ext profile (Function.update loops task (some (entity, loop)))
      shared history)
    (own : loop.conn = some conn)
    (stays : after.conn = none ∨ after.conn = some conn ∧ phase = after.phase entity)
    (conns : next.conns = shared.conns)
    (follows : (serverBridge Request Response).Follows shared.bridge next.bridge
      (observed Event.bridgeOf events))
    (quiet : ∀ other, other ≠ conn → observed (Event.saidOn other) events = [])
    (spoken : Dialogue ext profile
      (observed Event.bridgeOf history ++ observed Event.bridgeOf events) phase
      (observed (Event.saidOn conn) history ++ observed (Event.saidOn conn) events)) :
    Conversing ext profile (Function.update loops task (some (entity, after))) next
      (history ++ events) := by
  have inside := (holds.current task entity loop conn
    (Function.update_self task _ loops) own).1
  apply holds.speak conn phase _ (.inl own) stays (conns ▸ inside) (Nat.le_of_eq conns.symm)
    quiet
  · rw [observed_append, observed_append]
    exact spoken
  · rw [observed_append]
    exact holds.bridge.follows follows

/-- A loop that comes to no connection says nothing. -/
theorem Conversing.rest
    (holds : Conversing ext profile (Function.update loops task (some (entity, loop)))
      shared history)
    (none : after.conn = none) :
    Conversing ext profile (Function.update loops task (some (entity, after))) shared
      (history ++ []) := by
  apply holds.quiet (by simpa using holds.bridge) rfl (fun _ => rfl)
  intro index found reached conn lookup at_
  by_cases same : index = task
  · rw [same, Function.update_self, Option.some.injEq, Prod.mk.injEq] at lookup
    rw [← lookup.2, none] at at_
    cases at_
  · rw [Function.update_of_ne same] at lookup ⊢
    exact lookup

/-- A call returns what was answered to the input it was accepted with. -/
theorem returned_to {bridge : AsyncBridge.State (Entity × Request) Response 4}
    {calls : List (AsyncBridge.Event (Entity × Request) Response)} {id : SignalId}
    {input : Entity × Request} {response : Response}
    (reached : (serverBridge Request Response).Reached bridge calls)
    (accepted : .accepted id input ∈ calls) (returned : .returned id response ∈ calls) :
    ∃ job, (returnedPath id input job response).Sublist calls := by
  have sound := AsyncBridge.sound reached
  rcases (sound.returning.returned id response returned).2 with ⟨other, job, path⟩
  have both : ∀ input, .accepted id input ∈ calls →
      (id, input) ∈ AsyncBridge.acceptedCalls calls :=
    fun input member => List.mem_filterMap.mpr ⟨_, member, rfl⟩
  have again : .accepted id other ∈ calls := by
    apply path.subset
    simp [returnedPath, AsyncBridge.answeredPath, AsyncBridge.receivedPath,
      AsyncBridge.acceptedPath]
  have equal := List.inj_on_of_nodup_map sound.flow.distinct (both _ accepted)
    (both _ again) rfl
  cases equal
  exact ⟨job, path⟩

theorem Conversing.loopStep
    (holds : Conversing ext profile (Function.update loops task (some (entity, loop)))
      shared history)
    (shape : LoopStep ext profile task entity shared loop next after events) :
    Conversing ext profile (Function.update loops task (some (entity, after))) next
      (history ++ events) := by
  have current := fun conn => holds.current task entity loop conn
    (Function.update_self task _ loops)
  cases shape with
  | configured | failed => exact holds.rest rfl
  | opened =>
      have new := holds.fresh shared.conns (Nat.le_refl _)
      apply holds.speak shared.conns (.reading entity []) _ (.inr (Nat.le_refl _))
        (.inr ⟨rfl, rfl⟩) (Nat.lt_succ_self _) (Nat.le_succ _)
      · intro other different
        simp [Event.saidOn_of_ne different]
      · have first : Dialogue ext profile (observed Event.bridgeOf history)
            (.reading entity []) (opening _ _ entity []) := .reading rfl
        simpa [new, opening] using first
      · simpa using holds.bridge
  | @kept conn buf result kept waits =>
      apply holds.say (.reading entity kept) rfl (.inr ⟨rfl, rfl⟩) rfl (.inl ⟨rfl, rfl⟩)
      · intro other different
        simp [Event.saidOn_of_ne different]
      · rcases (current conn rfl).2.of_reading with ⟨reads, said, before⟩
        rw [said]
        simpa [opening] using Dialogue.reading ((readLoop_append before _).trans waits)
  | @malformed conn buf result raw whole unparsed =>
      apply holds.say .answered rfl (.inr ⟨rfl, rfl⟩) rfl (.inl ⟨rfl, rfl⟩)
      · intro other different
        simp [Event.saidOn_of_ne different]
      · rcases (current conn rfl).2.of_reading with ⟨reads, said, before⟩
        rw [said]
        simpa [opening] using Dialogue.malformed (readHttp_of_rawOf before whole) unparsed
  | @called conn buf result raw request bridge id whole parsed stepped =>
      apply holds.say (.calling id) rfl (.inr ⟨rfl, rfl⟩) (by rfl) (.inr ⟨_, stepped⟩)
      · intro other different
        simp [Event.saidOn_of_ne different]
      · rcases (current conn rfl).2.of_reading with ⟨reads, said, before⟩
        rw [said]
        simpa [opening] using
          Dialogue.calling (readHttp_of_rawOf before whole) parsed (by simp)
  | @refused conn buf result raw request bridge id whole parsed stepped =>
      apply holds.say .answered rfl (.inr ⟨rfl, rfl⟩) (by rfl) (.inr ⟨_, stepped⟩)
      · intro other different
        simp [Event.saidOn_of_ne different]
      · rcases (current conn rfl).2.of_reading with ⟨reads, said, before⟩
        rw [said]
        simpa [opening] using
          Dialogue.refused (readHttp_of_rawOf before whole) parsed
            (List.mem_append_right _ (List.mem_cons_of_mem _ List.mem_cons_self))
  | @replied conn id response bridge bytes stepped serialized =>
      apply holds.say .answered rfl (.inr ⟨rfl, rfl⟩) (by rfl) (.inr ⟨_, stepped⟩)
      · intro other different
        simp [Event.saidOn_of_ne different]
      · rcases (current conn rfl).2.of_calling with
          ⟨entity, reads, raw, request, said, whole, parsed, accepted⟩
        rcases returned_to (holds.bridge.step stepped) (List.mem_append_left _ accepted)
          (List.mem_append_right _ List.mem_cons_self) with ⟨job, path⟩
        rw [said]
        simpa using Dialogue.replied whole parsed path serialized
  | @unserialized conn id response bridge stepped failed =>
      apply holds.say .closed rfl (.inl rfl) (by rfl) (.inr ⟨_, stepped⟩)
      · intro other different
        simp [Event.saidOn_of_ne different]
      · rcases (current conn rfl).2.of_calling with
          ⟨entity, reads, raw, request, said, whole, parsed, accepted⟩
        rcases returned_to (holds.bridge.step stepped) (List.mem_append_left _ accepted)
          (List.mem_append_right _ List.mem_cons_self) with ⟨job, path⟩
        rw [said]
        simpa using Dialogue.unserialized whole parsed path failed
  | @written conn =>
      apply holds.say .answered rfl (.inr ⟨rfl, rfl⟩) rfl (.inl ⟨rfl, rfl⟩)
      · exact fun _ _ => rfl
      · have dialogue := (current conn rfl).2
        change Dialogue _ _ _ .answered _ at dialogue
        simpa using dialogue
  | @flushed conn =>
      apply holds.say .closed rfl (.inl rfl) rfl (.inl ⟨rfl, rfl⟩)
      · intro other different
        simp [Event.saidOn_of_ne different]
      · simpa using (current conn rfl).2.closed

/-! ## Runs -/

theorem Conversing.runFrom {ios : List Io}
    (holds : Conversing ext profile (Function.update loops task (some (entity, loop)))
      shared history)
    (ran : (acceptLoop ext profile task entity).runFrom (shared, loop) ios =
      some ((next, after), events)) :
    Conversing ext profile (Function.update loops task (some (entity, after))) next
      (history ++ events) :=
  Machine.runFrom_induction (acceptLoop ext profile task entity)
    (fun state history => Conversing ext profile
      (Function.update loops task (some (entity, state.2))) state.1 history)
    (fun holds stepped => holds.loopStep (loopStep_of_step stepped)) holds ran

theorem loopAt_eq {tasks : List AcceptTask} {server : Nat}
    (found : tasks[task]? = some ⟨server, entity, some loop⟩) :
    loopAt tasks task = some (entity, loop) := by
  rw [loopAt, found]
  rfl

theorem loopAt_set {tasks : List AcceptTask} {running : AcceptTask} (server : Nat)
    (entity : Entity) (found : tasks[task]? = some running) (replacement : Option Loop) :
    loopAt (tasks.set task ⟨server, entity, replacement⟩) =
      Function.update (loopAt tasks) task (replacement.map (entity, ·)) := by
  funext other
  by_cases same : other = task
  · subst same
    have inside := (List.getElem?_eq_some_iff.mp found).1
    simp [loopAt, inside]
  · simp [loopAt, Function.update_of_ne same, List.getElem?_set_ne (Ne.symm same)]

/-- A task that was just spawned is not at a connection. -/
theorem loopAt_append {tasks : List AcceptTask} {server conn : Nat} {found entity : Entity}
    (lookup : loopAt (tasks ++ [⟨server, found, some .configuring⟩]) task =
      some (entity, loop)) (at_ : loop.conn = some conn) :
    loopAt tasks task = some (entity, loop) := by
  rw [loopAt, Option.bind_eq_some_iff] at lookup
  rcases lookup with ⟨running, lookup, runs⟩
  rw [List.getElem?_append] at lookup
  split at lookup
  case isTrue =>
    rw [loopAt, lookup]
    exact runs
  case isFalse =>
    have last := List.mem_singleton.mp (List.mem_of_getElem? lookup)
    rw [last] at runs
    cases runs
    cases at_

/-- The world takes a request or answers one. -/
theorem Conversing.bridgeStep {bridge : AsyncBridge.State (Entity × Request) Response 4}
    {action : AsyncBridge.Action (Entity × Request) Response}
    {happened : List (AsyncBridge.Event (Entity × Request) Response)}
    (holds : Conversing ext profile loops shared history)
    (stepped : (serverBridge Request Response).step shared.bridge action =
      some (bridge, happened)) :
    Conversing ext profile loops { shared with bridge }
      (history ++ happened.map .bridge) := by
  refine holds.quiet ?_ (by rfl) ?_ (fun _ _ _ _ lookup _ => lookup)
  · rw [observed_append, observed_map _ Event.bridgeOf_bridge, List.map_id']
    exact holds.bridge.step stepped
  · exact fun _ => observed_map_eq_nil _ (fun _ => rfl) happened

theorem Conversing.drop
    (holds : Conversing ext profile (Function.update loops task (some (entity, loop)))
      shared history)
    (drops : dropLoop shared loop = some (next, events)) :
    Conversing ext profile (Function.update loops task none) next (history ++ events) := by
  have fewer : ∀ index found reached conn,
      Function.update loops task none index = some (found, reached) →
      reached.conn = some conn →
      Function.update loops task (some (entity, loop)) index = some (found, reached) := by
    intro index found reached conn lookup _
    by_cases same : index = task
    · rw [same, Function.update_self] at lookup
      cases lookup
    · rw [Function.update_of_ne same] at lookup ⊢
      exact lookup
  rcases dropLoop_eq_some drops with
    ⟨rfl, rfl, -⟩ | ⟨conn, id, bridge, rfl, cancels, rfl, rfl⟩
  · exact holds.quiet (by simpa using holds.bridge) rfl (fun _ => rfl) fewer
  · refine holds.quiet ?_ (by rfl) (fun _ => rfl) fewer
    rw [observed_append]
    exact holds.bridge.step cancels

theorem conversing {state : State Request Response} {history : List (Event Request Response)}
    (reached : (httpServers ext profile).Reached state history) :
    Conversing ext profile (loopAt state.tasks) state.shared history := by
  apply Machine.Reached.induction
    (fun state history => Conversing ext profile (loopAt state.tasks) state.shared history)
    ?start ?preserved reached
  case start =>
    refine ⟨⟨[.start .drainToAsync], rfl⟩, fun _ _ => rfl, fun _ => ⟨.silent, .silent⟩,
      nofun, nofun⟩
  case preserved =>
    intro state history action next events _ holds stepped
    cases step_shape stepped with
    | published | started | unserved | ended =>
        rw [List.append_nil]
        exact holds
    | served found asks up =>
        exact holds.quiet (by simpa using holds.bridge) rfl (fun _ => rfl)
          fun _ _ _ _ => loopAt_append
    | polled found owner running ran =>
        rw [loopAt_set _ _ found]
        apply Conversing.runFrom _ ran
        rw [← loopAt_eq found, Function.update_eq_self]
        exact holds
    | stopped found owner finished ran drops =>
        rw [loopAt_set _ _ found, ← List.append_assoc]
        refine Conversing.drop (Conversing.runFrom ?_ ran) drops
        rw [← loopAt_eq found, Function.update_eq_self]
        exact holds
    | drained serves => exact holds.bridgeStep serves
    | dispatched serves => exact holds.bridgeStep serves

/-! ## Calls of their own -/

structure OwnCalls (shared : Shared Request Response)
    (history : List (Event Request Response)) : Prop where
  distinct : ((observed Event.callOf history).map Prod.snd).Nodup
  allocated : ∀ call ∈ observed Event.callOf history,
    call.2 < shared.bridge.signals.length

theorem OwnCalls.quiet {history events : List (Event Request Response)}
    (holds : OwnCalls shared history) (none : observed Event.callOf events = [])
    (grows : shared.bridge.signals.length ≤ next.bridge.signals.length) :
    OwnCalls next (history ++ events) := by
  have same : observed Event.callOf (history ++ events) = observed Event.callOf history := by
    rw [observed_append, none, List.append_nil]
  constructor
  · rw [same]
    exact holds.distinct
  · intro call member
    rw [same] at member
    exact Nat.lt_of_lt_of_le (holds.allocated call member) grows

theorem signals_grow {bridge after : AsyncBridge.State (Entity × Request) Response 4}
    {action : AsyncBridge.Action (Entity × Request) Response}
    {happened : List (AsyncBridge.Event (Entity × Request) Response)}
    (stepped : (serverBridge Request Response).step bridge action =
      some (after, happened)) : bridge.signals.length ≤ after.signals.length := by
  cases AsyncBridge.step_shape stepped <;> simp

theorem OwnCalls.loopStep (holds : OwnCalls shared history)
    (shape : LoopStep ext profile task entity shared loop next after events) :
    OwnCalls next (history ++ events) := by
  cases shape with
  | configured | failed | opened | kept | malformed | written | flushed =>
      exact holds.quiet rfl (Nat.le_refl _)
  | refused whole parsed stepped => exact holds.quiet rfl (signals_grow stepped)
  | replied stepped | unserialized stepped =>
      exact holds.quiet rfl (signals_grow stepped)
  | @called conn buf result raw request bridge id whole parsed stepped =>
      have shape := AsyncBridge.step_shape stepped
      cases shape with
      | accepted room sent =>
          constructor
          · rw [observed_append, List.map_append]
            change (_ ++ [shared.bridge.signals.length]).Nodup
            rw [← List.concat_eq_append]
            apply holds.distinct.concat
            intro earlier
            rcases List.mem_map.mp earlier with ⟨call, member, same⟩
            exact Nat.lt_irrefl _ (same ▸ holds.allocated call member)
          · intro call member
            rw [List.length_append, List.length_singleton]
            rcases List.mem_append.mp (observed_append _ history _ ▸ member) with
              earlier | now
            · exact Nat.lt_succ_of_lt (holds.allocated call earlier)
            · cases List.mem_singleton.mp now
              exact Nat.lt_succ_self _

theorem ownCalls {state : State Request Response} {history : List (Event Request Response)}
    (reached : (httpServers ext profile).Reached state history) :
    OwnCalls state.shared history := by
  apply Machine.Reached.induction (fun state history => OwnCalls state.shared history)
    ?start ?preserved reached
  case start => exact ⟨List.nodup_nil, nofun⟩
  case preserved =>
    intro state history action next events _ holds stepped
    have runs : ∀ {task entity loop ios shared after events},
        (acceptLoop ext profile task entity).runFrom (state.shared, loop) ios =
          some ((shared, after), events) → OwnCalls shared (history ++ events) :=
      fun ran => Machine.runFrom_induction (acceptLoop ext profile _ _)
        (fun state history => OwnCalls state.1 history)
        (fun holds stepped => holds.loopStep (loopStep_of_step stepped)) holds ran
    cases step_shape stepped with
    | published | started | unserved | served | ended =>
        exact holds.quiet rfl (Nat.le_refl _)
    | polled found owner running ran => exact runs ran
    | stopped found owner finished ran drops =>
        rw [← List.append_assoc]
        rcases dropLoop_eq_some drops with
          ⟨rfl, rfl, -⟩ | ⟨conn, id, bridge, rfl, cancels, rfl, rfl⟩
        · exact (runs ran).quiet rfl (Nat.le_refl _)
        · exact (runs ran).quiet rfl (signals_grow cancels)
    | drained serves | dispatched serves =>
        exact holds.quiet (observed_map_eq_nil _ (fun _ => rfl) _) (signals_grow serves)

/-- What is said on any connection is a dialogue, and no two connections share a call. -/
structure ConnectionsAnswered (ext : ServerExt Request Response) (profile : Profile)
    (history : List (Event Request Response)) : Prop where
  dialogue : ∀ conn, ∃ phase, Dialogue ext profile (observed Event.bridgeOf history) phase
    (observed (Event.saidOn conn) history)
  ownCall : ((observed Event.callOf history).map Prod.snd).Nodup

theorem connections_answered {state : State Request Response}
    {history : List (Event Request Response)}
    (reached : (httpServers ext profile).Reached state history) :
    ConnectionsAnswered ext profile history :=
  ⟨(conversing reached).dialogue, (ownCalls reached).distinct⟩

/-- Every part of two bytes is a request, and every response the bytes it writes. -/
def shortRequests : ServerExt (List UInt8) (List UInt8) where
  http := { findHeaderEnd := fun bytes => if 2 ≤ bytes.length then some 2 else none
            parseContentLength := fun _ => 0 }
  parseHttpRequest := some
  serializeHttpResponse := some

/-- The requests of two servers are dispatched out of turn. -/
theorem connections_answered_two_servers :
    ∃ (state : State (List UInt8) (List UInt8)) (history : List (Event _ _)),
      (httpServers shortRequests .dev).Reached state history ∧
      ConnectionsAnswered shortRequests .dev history ∧
      observed (Event.saidOn 0) history =
        [.opened 7, .read (.ok [1]), .read (.ok [2]), .called 1 (7, [1, 2]), .replied [3],
          .wrote [3], .closed] ∧
      observed (Event.saidOn 1) history =
        [.opened 8, .read (.ok [4, 5]), .called 0 (8, [4, 5]), .replied [6], .wrote [6]] :=
  have reached : (httpServers shortRequests .dev).Reached _ _ :=
    ⟨[.startFacet 7, .startFacet 8, .publishStack, .window 0, .window 1,
      .poll 0 [.configUp, .accepted true, .read (.ok [1])],
      .poll 1 [.configUp, .accepted true, .read (.ok [4, 5])], .poll 0 [.read (.ok [2])],
      .drain, .drain, .dispatched 2 [3], .dispatched 1 [6], .poll 1 [.replied],
      .poll 0 [.replied, .written true, .flushed true]], rfl⟩
  ⟨_, _, reached, connections_answered reached, rfl, rfl⟩

end BeetEsp.Net.HttpServer
