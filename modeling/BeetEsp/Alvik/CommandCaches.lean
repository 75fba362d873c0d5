import BeetEsp.Alvik.Transport
import BeetEsp.Foundation.Latest

/-! # The servo and LED caches

`flush_servos` and `flush_alvik_leds` remember what they sent and stay silent
while it is still current. What they remember is what the queue accepted last
exactly as long as their sends are not rejected.
-/

namespace BeetEsp.Alvik.Transport

open Foundation

variable {P : Quantities} {Value : Type} {carried : Command P → Option Value}

/-! ## A cache over the queue -/

/-- The cache claims no more than the queue accepted. -/
def Backed (carried : Command P → Option Value) (last : Option Value)
    (queued : List (Command P)) : Prop :=
  ∀ value, last = some value → latest carried queued = some value

/-- An empty cache means that nothing was sent. -/
def Unsent (carried : Command P → Option Value) (last : Option Value)
    (queued : List (Command P)) : Prop :=
  last = none → latest carried queued = none

theorem unsent_some (value : Value) (queued : List (Command P)) :
    Unsent carried (some value) queued :=
  fun empty => absurd empty (Option.some_ne_none value)

theorem latest_sendEach_of_none {queued commands : List (Command P)}
    (out : AlvikOut P) (others : ∀ command ∈ commands, carried command = none) :
    latest carried (queued ++ accepted (sendEach out commands).2) =
      latest carried queued :=
  latest_append_of_none fun command member =>
    others command (mem_of_mem_accepted_sendEach member)

/-- Advancing the cache is right exactly when the queue has room. -/
theorem backed_send_iff {last : Option Value} {queued : List (Command P)}
    {command : Command P} {value : Value} (out : AlvikOut P)
    (backed : Backed carried last queued) (unsent : Unsent carried last queued)
    (differs : last ≠ some value) (carries : carried command = some value) :
    Backed carried (some value) (queued ++ accepted (sendEach out [command]).2) ↔
      out.items.length < 16 := by
  constructor
  · intro advanced
    by_contra full
    have rejected : accepted (sendEach out [command]).2 = [] := by
      cases sent : out.trySend command with
      | ok next => exact absurd (BoundedQueue.trySend_eq_ok sent).1 full
      | error returned =>
          rw [sendEach, sent]
          rfl
    have claims := advanced value rfl
    rw [rejected, List.append_nil] at claims
    cases last with
    | none =>
        rw [unsent rfl] at claims
        cases claims
    | some previous =>
        rw [backed previous rfl] at claims
        exact differs claims
  · intro room value' equal
    rw [accepted_sendEach_of_room (by rw [List.length_singleton]; omega)]
    apply latest_append_of_some
    rw [latest, List.filterMap_cons_some carries]
    exact equal

/-! ## The two caches -/

/-- What each cache remembers is the most recent command of its kind that
`ALVIK_OUT` accepted. -/
structure CachesTruthful (state : State P) (history : List (Event P)) : Prop where
  servos : Backed Command.servosOf state.ecs.servosLast (accepted history)
  leds : Backed Command.ledsOf state.ecs.ledsLast (accepted history)

/-- Without a pending change the cache holds the current positions. -/
def ServosCurrent (ecs : Ecs P) : Prop :=
  ecs.servos.changed = false → ∀ pair,
    Ecs.servoPositions ecs.servos.value = some pair → ecs.servosLast = some pair

def LedsCurrent (ecs : Ecs P) : Prop :=
  ecs.lights.changed = false → ∀ byte,
    Ecs.ledByte ecs.lights.value = some byte → ecs.ledsLast = some byte

theorem servosCurrent_of_changed {ecs : Ecs P} (changed : ecs.servos.changed = true) :
    ServosCurrent ecs :=
  fun unchanged => absurd unchanged (Bool.not_eq_false _ ▸ changed)

theorem ledsCurrent_of_changed {ecs : Ecs P} (changed : ecs.lights.changed = true) :
    LedsCurrent ecs :=
  fun unchanged => absurd unchanged (Bool.not_eq_false _ ▸ changed)

/-- What holds whether or not a send is rejected. -/
structure CachesCurrent (state : State P) (history : List (Event P)) : Prop where
  servosUnsent : Unsent Command.servosOf state.ecs.servosLast (accepted history)
  ledsUnsent : Unsent Command.ledsOf state.ecs.ledsLast (accepted history)
  servos : ServosCurrent state.ecs
  leds : LedsCurrent state.ecs

/-- A flush that has something new to send finds room for it. -/
def CachedFlushFits (state : State P) : Action P → Prop
  | .ecs .flushServos => ∀ pair,
      Ecs.servoPositions state.ecs.servos.value = some pair →
      state.ecs.servosLast ≠ some pair → state.alvikOut.items.length < 16
  | .ecs .flushAlvikLeds => ∀ byte,
      Ecs.ledByte state.ecs.lights.value = some byte →
      state.ecs.ledsLast ≠ some byte → state.alvikOut.items.length < 16
  | _ => True

/-! ## One step -/

/-- An action that advances neither cache. -/
structure KeepsCaches (ecs : Ecs P) (result : Ecs P × List (Command P)) : Prop where
  servosLast : result.1.servosLast = ecs.servosLast
  ledsLast : result.1.ledsLast = ecs.ledsLast
  servos : ServosCurrent ecs → ServosCurrent result.1
  leds : LedsCurrent ecs → LedsCurrent result.1
  commands : ∀ command ∈ result.2, command.servosOf = none ∧ command.ledsOf = none

/-- What an action does to the caches: one of them is advanced with the one
command that is sent, or both are kept. -/
inductive CacheStep (state : State P) : Action P → Ecs P → List (Command P) → Prop
  | servosSent {a b} (positions : Ecs.servoPositions state.ecs.servos.value = some (a, b))
      (differs : state.ecs.servosLast ≠ some (a, b)) :
      CacheStep state (.ecs .flushServos) { state.ecs with
        servos := state.ecs.servos.seen
        servosLast := some (a, b) } [.setServo a b]
  | ledsSent {byte} (lit : Ecs.ledByte state.ecs.lights.value = some byte)
      (differs : state.ecs.ledsLast ≠ some byte) :
      CacheStep state (.ecs .flushAlvikLeds) { state.ecs with
        lights := state.ecs.lights.seen
        ledsLast := some byte } [.setLeds byte]
  | kept {action ecs commands} (fits : CachedFlushFits state action)
      (keeps : KeepsCaches state.ecs (ecs, commands)) :
      CacheStep state action ecs commands

theorem cacheStep_flushServos (state : State P) :
    CacheStep state (.ecs .flushServos) state.ecs.flushServos.1
      state.ecs.flushServos.2 := by
  rcases state.ecs.flushServos_cases with
    ⟨a, b, positions, differs, flushed⟩ | ⟨same, flushed⟩
  · rw [flushed]
    exact .servosSent positions differs
  · rw [flushed]
    refine .kept ?_ ⟨rfl, rfl, fun _ _ => same, id, List.forall_mem_nil _⟩
    exact fun pair equal differs => absurd (same pair equal) differs

theorem cacheStep_flushAlvikLeds (state : State P) :
    CacheStep state (.ecs .flushAlvikLeds) state.ecs.flushAlvikLeds.1
      state.ecs.flushAlvikLeds.2 := by
  rcases state.ecs.flushAlvikLeds_cases with
    ⟨byte, lit, differs, flushed⟩ | ⟨same, flushed⟩
  · rw [flushed]
    exact .ledsSent lit differs
  · rw [flushed]
    refine .kept ?_ ⟨rfl, rfl, id, fun _ _ => same, List.forall_mem_nil _⟩
    exact fun byte equal differs => absurd (same byte equal) differs

theorem cacheStep_perform (state : State P) (action : EcsAction P) :
    CacheStep state (.ecs action) (state.ecs.perform action).1
      (state.ecs.perform action).2 := by
  cases action with
  | setDrive drive => exact .kept trivial ⟨rfl, rfl, id, id, List.forall_mem_nil _⟩
  | setWheel side target =>
      exact .kept trivial ⟨rfl, rfl, id, id, List.forall_mem_nil _⟩
  | setServos servos =>
      exact .kept trivial
        ⟨rfl, rfl, fun _ => servosCurrent_of_changed rfl, id, List.forall_mem_nil _⟩
  | setLights lights =>
      exact .kept trivial
        ⟨rfl, rfl, id, fun _ => ledsCurrent_of_changed rfl, List.forall_mem_nil _⟩
  | resetScene =>
      exact .kept trivial
        ⟨rfl, rfl, id, fun _ => ledsCurrent_of_changed rfl, List.forall_mem_nil _⟩
  | flushWheels =>
      refine .kept trivial ⟨rfl, rfl, id, id, ?_⟩
      intro command member
      rcases List.mem_map.mp member with ⟨side, -, rfl⟩
      cases (state.ecs.wheel side).value <;> exact ⟨rfl, rfl⟩
  | flushDrive =>
      refine .kept trivial ?_
      simp only [Ecs.perform, Ecs.flushDrive]
      split
      case isTrue =>
        exact ⟨rfl, rfl, id, id, by simp [Command.servosOf, Command.ledsOf]⟩
      case isFalse => exact ⟨rfl, rfl, id, id, List.forall_mem_nil _⟩
  | flushServos => exact cacheStep_flushServos state
  | flushAlvikLeds => exact cacheStep_flushAlvikLeds state
  | oneShot command allowed =>
      refine .kept trivial ⟨rfl, rfl, id, id, ?_⟩
      intro other member
      rw [List.mem_singleton.mp member]
      exact (Command.kinds_of_oneShot allowed).2.2

theorem cacheStep_of_step {state next : State P} {history events : List (Event P)}
    {action : Action P}
    (stepped : (transport P).step state action = some (next, events)) :
    ∃ commands, CacheStep state action next.ecs commands ∧
      accepted (history ++ events) =
        accepted history ++ accepted (sendEach state.alvikOut commands).2 := by
  rcases step_cases stepped with
    ⟨ecsAction, rfl, ecs, -, rfl, -⟩ | ⟨driverAction, rfl, ecs, shape⟩
  · rw [ecs]
    exact ⟨_, cacheStep_perform state ecsAction, accepted_append _ _⟩
  · rw [ecs, accepted_append, accepted_of_driverStep shape]
    exact ⟨[], .kept trivial ⟨rfl, rfl, id, id, List.forall_mem_nil _⟩, rfl⟩

theorem Unsent.append_of_none {last : Option Value} {queued commands : List (Command P)}
    (out : AlvikOut P) (unsent : Unsent carried last queued)
    (others : ∀ command ∈ commands, carried command = none) :
    Unsent carried last (queued ++ accepted (sendEach out commands).2) :=
  fun empty => (latest_sendEach_of_none out others).trans (unsent empty)

theorem Backed.append_of_none {last : Option Value} {queued commands : List (Command P)}
    (out : AlvikOut P) (backed : Backed carried last queued)
    (others : ∀ command ∈ commands, carried command = none) :
    Backed carried last (queued ++ accepted (sendEach out commands).2) :=
  fun value equal => (latest_sendEach_of_none out others).trans (backed value equal)

theorem CachesCurrent.step {state next : State P} {history events : List (Event P)}
    {action : Action P} (current : CachesCurrent state history)
    (stepped : (transport P).step state action = some (next, events)) :
    CachesCurrent next (history ++ events) := by
  rcases cacheStep_of_step stepped with ⟨commands, shape, queued⟩
  rcases next with ⟨ecs, out, driver⟩
  cases shape with
  | servosSent positions differs =>
      refine ⟨unsent_some _ _, ?_, fun _ pair equal => positions.symm.trans equal,
        current.leds⟩
      rw [queued]
      exact current.ledsUnsent.append_of_none _ (by simp [Command.ledsOf])
  | ledsSent lit differs =>
      refine ⟨?_, unsent_some _ _, current.servos, fun _ byte equal => lit.symm.trans equal⟩
      rw [queued]
      exact current.servosUnsent.append_of_none _ (by simp [Command.servosOf])
  | kept _ keeps =>
      refine ⟨?_, ?_, keeps.servos current.servos, keeps.leds current.leds⟩
      · rw [queued, keeps.servosLast]
        exact current.servosUnsent.append_of_none _
          fun command member => (keeps.commands command member).1
      · rw [queued, keeps.ledsLast]
        exact current.ledsUnsent.append_of_none _
          fun command member => (keeps.commands command member).2

/-- One step keeps the caches truthful exactly when its flush fits. -/
theorem CachesTruthful.step_iff {state next : State P} {history events : List (Event P)}
    {action : Action P} (truthful : CachesTruthful state history)
    (current : CachesCurrent state history)
    (stepped : (transport P).step state action = some (next, events)) :
    CachesTruthful next (history ++ events) ↔ CachedFlushFits state action := by
  rcases cacheStep_of_step stepped with ⟨commands, shape, queued⟩
  rcases next with ⟨ecs, out, driver⟩
  cases shape with
  | @servosSent a b positions differs =>
      have advance := backed_send_iff state.alvikOut truthful.servos
        current.servosUnsent differs (rfl : (Command.setServo a b).servosOf = _)
      rw [← queued] at advance
      constructor
      · exact fun next _ _ _ => advance.mp next.servos
      · intro fits
        refine ⟨advance.mpr (fits _ positions differs), ?_⟩
        rw [queued]
        exact truthful.leds.append_of_none _ (by simp [Command.ledsOf])
  | @ledsSent byte lit differs =>
      have advance := backed_send_iff state.alvikOut truthful.leds
        current.ledsUnsent differs (rfl : (Command.setLeds byte).ledsOf = _)
      rw [← queued] at advance
      constructor
      · exact fun next _ _ _ => advance.mp next.leds
      · intro fits
        refine ⟨?_, advance.mpr (fits _ lit differs)⟩
        rw [queued]
        exact truthful.servos.append_of_none _ (by simp [Command.servosOf])
  | kept fits keeps =>
      refine ⟨fun _ => fits, fun _ => ⟨?_, ?_⟩⟩
      · rw [queued, keeps.servosLast]
        exact truthful.servos.append_of_none _
          fun command member => (keeps.commands command member).1
      · rw [queued, keeps.ledsLast]
        exact truthful.leds.append_of_none _
          fun command member => (keeps.commands command member).2

/-! ## Runs -/

theorem caches_current {state : State P} {history : List (Event P)}
    (reached : (transport P).Reached state history) : CachesCurrent state history := by
  apply Machine.Reached.induction _ ?start ?preserved reached
  case start => exact ⟨fun _ => rfl, fun _ => rfl, nofun, nofun⟩
  case preserved =>
    intro state history action next events _ current stepped
    exact current.step stepped

/-- With nothing queued or in flight, what the robot was told last is what the
components without a pending change say now. -/
def CachedConverged (state : State P) (history : List (Event P)) : Prop :=
  state.alvikOut.items = [] → state.driver.phase = .idle →
    (state.ecs.servos.changed = false → ∀ pair,
      Ecs.servoPositions state.ecs.servos.value = some pair →
      latest Command.servosOf (transmitted history) = some pair) ∧
    (state.ecs.lights.changed = false → ∀ byte,
      Ecs.ledByte state.ecs.lights.value = some byte →
      latest Command.ledsOf (transmitted history) = some byte)

theorem CachesTruthful.converged {state : State P} {history : List (Event P)}
    (reached : (transport P).Reached state history)
    (truthful : CachesTruthful state history) : CachedConverged state history := by
  intro empty idle
  have current := caches_current reached
  rw [transmitted_of_drained reached empty idle]
  constructor
  · intro unchanged pair positions
    exact latest_append_of_some
      (truthful.servos pair (current.servos unchanged pair positions))
  · intro unchanged byte lit
    exact latest_append_of_some
      (truthful.leds byte (current.leds unchanged byte lit))

/-- The caches are truthful all along a run exactly when no flush with something
new to send meets a full queue; and then the drained states have told the robot
its current servo positions and LED byte. -/
theorem caches_truthful_iff (actions : List (Action P)) {final : State P}
    {history : List (Event P)}
    (ran : (transport P).run actions = some (final, history)) :
    ((transport P).AlwaysAlong CachesTruthful actions ↔
      (transport P).Meets CachedFlushFits actions) ∧
    ((transport P).Meets CachedFlushFits actions →
      (transport P).AlwaysAlong CachedConverged actions) := by
  have start : CachesTruthful (transport P).initial [] := ⟨nofun, nofun⟩
  have exactly := (transport P).always_iff_meets start
    (fun reached truthful stepped =>
      truthful.step_iff (caches_current reached) stepped) ran
  refine ⟨exactly, ?_⟩
  intro fits
  exact (exactly.mpr fits).mono fun reached truthful => truthful.converged reached

theorem caches_truthful_iff_spawned :
    let actions : List (Action Quantities.wire) :=
      [.ecs .flushServos, .driver .handshake, .ecs .flushAlvikLeds]
    ((transport Quantities.wire).AlwaysAlong CachesTruthful actions ↔
      (transport Quantities.wire).Meets CachedFlushFits actions) ∧
    ((transport Quantities.wire).Meets CachedFlushFits actions →
      (transport Quantities.wire).AlwaysAlong CachedConverged actions) :=
  caches_truthful_iff _ rfl

/-- Sixteen drive commands while the robot has no power, then new servo positions;
then the robot is switched on and the driver drains the queue. -/
def lostServos : List (Action Quantities.wire) :=
  (List.replicate 16
    [.ecs (.setDrive ⟨0x42700000, 0⟩), .ecs .flushDrive]).flatten ++
  [.ecs (.setServos [⟨.a, 0⟩, ⟨.b, 0x43340000⟩]), .ecs .flushServos] ++
  [.driver .handshake, .driver (.written 6), .driver (.written 6),
    .driver (.written 6), .driver (.written 7)] ++
  (List.replicate 16 [.driver .receive, .driver (.written 13)]).flatten

/-- The cache remembers positions the queue rejected, and the servos stay where
bring-up put them. -/
theorem servos_are_lost :
    (∃ state history,
      (transport Quantities.wire).run lostServos = some (state, history) ∧
      state.alvikOut.items = [] ∧ state.driver.phase = .idle ∧
      state.ecs.servos.changed = false ∧
      Ecs.servoPositions state.ecs.servos.value = some (0, 180) ∧
      state.ecs.servosLast = some (0, 180) ∧
      latest Command.servosOf (accepted history) = none ∧
      latest Command.servosOf (transmitted history) = some (90, 90)) ∧
    ¬(transport Quantities.wire).AlwaysAlong CachesTruthful lostServos := by
  have runs : ∃ state history,
      (transport Quantities.wire).run lostServos = some (state, history) ∧
      state.alvikOut.items = [] ∧ state.driver.phase = .idle ∧
      state.ecs.servos.changed = false ∧
      Ecs.servoPositions state.ecs.servos.value = some (0, 180) ∧
      state.ecs.servosLast = some (0, 180) ∧
      latest Command.servosOf (accepted history) = none ∧
      latest Command.servosOf (transmitted history) = some (90, 90) :=
    ⟨_, _, rfl, rfl, rfl, rfl, rfl, rfl, rfl, rfl⟩
  refine ⟨runs, ?_⟩
  intro always
  rcases runs with ⟨state, history, ran, -, -, -, -, cached, nothing, -⟩
  have truthful := always lostServos [] (by simp) state history ran
  have claims := truthful.servos (0, 180) cached
  rw [nothing] at claims
  cases claims

end BeetEsp.Alvik.Transport
