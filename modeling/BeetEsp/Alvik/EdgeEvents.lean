import BeetEsp.Alvik.DiscreteStatus
import BeetEsp.Foundation.Edges

/-! # Edge events and the edges on the wire

The observers are told the edges between frames. An edge that a later message of
the same frame takes back is not among them.
-/

namespace BeetEsp.Alvik

open Foundation

variable {P : Quantities} {R : Readouts P}

/-- The kind of message the bit of the event is in. -/
def EdgeEvent.kind (event : EdgeEvent) : StatusPath.Discrete :=
  if event.ofTouch then .touch else .motion

/-- The levels the bit goes through along some messages. -/
def EdgeEvent.levels (event : EdgeEvent) (messages : List (Status P)) : List Bool :=
  (messages.filterMap event.kind.payload).map event.bit

/-- The level in `EdgeState::default()`. -/
def EdgeEvent.start (event : EdgeEvent) : Bool :=
  event.bit (event.select EdgeState.default.touch EdgeState.default.motion)

/-- Apart from the upright tilt, every bit starts as it is in a fresh component. -/
theorem EdgeEvent.start_eq {event : EdgeEvent} (other : event ≠ .tilted .negZ) :
    event.start = event.bit (event.select 0 0) := by
  cases event with
  | touchPressed button => cases button <;> rfl
  | shaken | lifted | dropped => rfl
  | tilted axis =>
      cases axis with
      | negZ => exact absurd rfl other
      | x | negX | y | negY | z => rfl

theorem EdgeEvent.getLast_levels (event : EdgeEvent) (messages : List (Status P)) :
    (event.levels messages).getLast? =
      (latest event.kind.payload messages).map event.bit := by
  rw [levels, List.getLast?_map, latest]

namespace StatusPath

variable {spawned : AlvikComponents R} {spawnedWheels : Wheels P}

/-- The levels of the bit, frame by frame. -/
def frameLevels (event : EdgeEvent) (history : List (Event P)) : List (List Bool) :=
  (frames history).map event.levels

/-- The upright tilt is known from the first frame on. -/
def Upright (event : EdgeEvent) (history : List (Event P)) : Prop :=
  event = .tilted .negZ → ∀ first rest,
    frameLevels event history = first :: rest → first ≠ []

theorem Upright.of_append {event : EdgeEvent} {front back : List (Event P)}
    (upright : Upright event (front ++ back)) : Upright event front := by
  intro tilt first rest split
  apply upright tilt first (rest ++ frameLevels event back)
  rw [frameLevels, frames_append, List.map_append]
  exact congrArg (· ++ frameLevels event back) split

theorem applyStatus_prev (state : State R) : state.applyStatus.prev = state.prev := by
  rw [State.applyStatus]
  cases state.alvikState <;> rfl

/-- The two bytes after a frame, for the bit of the event. -/
theorem select_applyStatus {state : State R} {touch motion : UInt8}
    (touched : state.robot.touch = some touch) (moved : state.robot.motion = some motion)
    (event : EdgeEvent) :
    ∃ nextTouch nextMotion, state.applyStatus.robot.touch = some nextTouch ∧
      state.applyStatus.robot.motion = some nextMotion ∧
      event.select nextTouch nextMotion =
        (latest event.kind.payload state.alvikEvents.items).getD
          (event.select touch motion) := by
  have touches := Discrete.touch.component_applyStatus state
  have moves := Discrete.motion.component_applyStatus state
  simp only [Discrete.component, touched, moved, Option.map_some] at touches moves
  refine ⟨_, _, touches, moves, ?_⟩
  rw [EdgeEvent.select, EdgeEvent.kind, EdgeEvent.select]
  cases event.ofTouch <;> rfl

/-- The count of an event follows the sampled bit, and `prev` remembers its level. -/
structure Tracks (event : EdgeEvent) (state : State R) (history : List (Event P)) :
    Prop where
  bytes : ∃ touch motion, state.robot.touch = some touch ∧
    state.robot.motion = some motion ∧
    ((frames history = [] ∧ state.prev = .default ∧ touch = 0 ∧ motion = 0) ∨
      (frames history ≠ [] ∧ state.prev = ⟨touch, motion⟩ ∧
        event.bit (event.select touch motion) =
          settled event.start (sampled (frameLevels event history))))
  counted : (triggered history).count event =
    edges event.level event.start (sampled (frameLevels event history))

/-- The level a frame leaves, for a byte that had the level before. -/
theorem settled_frame (event : EdgeEvent) (byte : UInt8) (messages : List (Status P)) :
    settled (event.bit byte) (event.levels messages).getLast?.toList =
      event.bit ((latest event.kind.payload messages).getD byte) := by
  rw [settled_getLast, settled, event.getLast_levels]
  cases latest event.kind.payload messages <;> rfl

/-- Before a frame the bit has a level, and after it the level the frame leaves,
for `prev` and for the component alike. In the first frame this rests on how the
bits start. -/
theorem Tracks.byte {event : EdgeEvent} {state : State R} {history : List (Event P)}
    {triggered : List EdgeEvent} (tracks : Tracks event state history)
    (upright : Upright event (history ++ [.framed state.alvikEvents.items triggered])) :
    ∃ byte nextTouch nextMotion, state.applyStatus.robot.touch = some nextTouch ∧
      state.applyStatus.robot.motion = some nextMotion ∧
      event.bit byte = settled event.start (sampled (frameLevels event history)) ∧
      event.bit (event.select state.prev.touch state.prev.motion) = event.bit byte ∧
      event.bit (event.select nextTouch nextMotion) =
        event.bit ((latest event.kind.payload state.alvikEvents.items).getD byte) := by
  rcases tracks.bytes with ⟨touch, motion, touched, moved, situation⟩
  rcases select_applyStatus touched moved event with
    ⟨nextTouch, nextMotion, nextTouched, nextMoved, selected⟩
  rcases situation with ⟨first, fresh, rfl, rfl⟩ | ⟨-, prev, level⟩
  · refine ⟨event.select EdgeState.default.touch EdgeState.default.motion, nextTouch,
      nextMotion, nextTouched, nextMoved, ?_, ?_, ?_⟩
    · rw [frameLevels, first]
      rfl
    · rw [fresh]
    · rw [selected]
      cases last : latest event.kind.payload state.alvikEvents.items with
      | some byte => rfl
      | none =>
          have other : event ≠ .tilted .negZ := by
            intro tilt
            apply upright tilt (event.levels state.alvikEvents.items) []
            · rw [frameLevels, frames_append, first]
              rfl
            · rw [← List.getLast?_eq_none_iff, event.getLast_levels, last]
              rfl
          exact (EdgeEvent.start_eq other).symm
  · refine ⟨event.select touch motion, nextTouch, nextMotion, nextTouched, nextMoved,
      level, ?_, ?_⟩
    · rw [prev]
    · rw [selected]

theorem Tracks.frame {event : EdgeEvent} {state : State R} {history : List (Event P)}
    (tracks : Tracks event state history)
    (upright : Upright event (history ++ [.framed state.alvikEvents.items
      state.applyStatus.detectEvents.2])) :
    Tracks event state.applyStatus.detectEvents.1 (history ++
      [.framed state.alvikEvents.items state.applyStatus.detectEvents.2]) := by
  rcases tracks.byte upright with
    ⟨byte, nextTouch, nextMotion, nextTouched, nextMoved, level, before, after⟩
  have detected : state.applyStatus.detectEvents =
      ({ state.applyStatus with prev := ⟨nextTouch, nextMotion⟩ },
        (Alvik.detectEvents state.prev nextTouch nextMotion).2) := by
    simp only [State.detectEvents, nextTouched, nextMoved, applyStatus_prev]
    rfl
  have sampledNext : sampled (frameLevels event (history ++
      [.framed state.alvikEvents.items state.applyStatus.detectEvents.2])) =
      sampled (frameLevels event history) ++
        (event.levels state.alvikEvents.items).getLast?.toList := by
    rw [frameLevels, frames_append, List.map_append, ← frameLevels]
    exact sampled_snoc _ _
  constructor
  · refine ⟨nextTouch, nextMotion, ?_, ?_, .inr ⟨?_, ?_, ?_⟩⟩
    · rw [detected]
      exact nextTouched
    · rw [detected]
      exact nextMoved
    · rw [frames_append]
      exact List.append_ne_nil_of_right_ne_nil _ (List.cons_ne_nil _ _)
    · rw [detected]
    · rw [sampledNext, settled_append, ← level, settled_frame, after]
  · have added : triggered [Event.framed (P := P) state.alvikEvents.items
        state.applyStatus.detectEvents.2] = state.applyStatus.detectEvents.2 :=
      List.append_nil _
    rw [triggered_append, added, List.count_append, tracks.counted, sampledNext,
      edges_append, detected, count_detectEvents, before, after, ← level, edges_getLast,
      ← settled_getLast, settled_frame]

/-! ## Along a run -/

/-- A send adds no frame and triggers nothing. -/
theorem quiet_of_sent {queue next : AlvikEvents P} {status : Status P}
    {events : List (Event P)} (sent : Sent queue status next events) :
    frames events = [] ∧ triggered events = [] := by
  cases sent <;> exact ⟨rfl, rfl⟩

/-- Between frames nothing the invariant speaks of changes. -/
theorem Tracks.quiet {event : EdgeEvent} {state next : State R}
    {history events : List (Event P)} (tracks : Tracks event state history)
    (robot : next.robot = state.robot) (prev : next.prev = state.prev)
    (nothing : frames events = [] ∧ triggered events = []) :
    Tracks event next (history ++ events) := by
  have sameFrames : frames (history ++ events) = frames history := by
    rw [frames_append, nothing.1, List.append_nil]
  have sameEvents : triggered (history ++ events) = triggered history := by
    rw [triggered_append, nothing.2, List.append_nil]
  constructor
  · rw [robot, prev, frameLevels, sameFrames]
    exact tracks.bytes
  · rw [sameEvents, frameLevels, sameFrames]
    exact tracks.counted

theorem tracks {event : EdgeEvent} {state : State R} {history : List (Event P)}
    (touch : spawned.touch = some 0) (motion : spawned.motion = some 0)
    (reached : (statusPath spawned spawnedWheels).Reached state history)
    (upright : Upright event history) : Tracks event state history := by
  revert upright
  apply Machine.Reached.induction (fun state history =>
    Upright event history → Tracks event state history) ?start ?preserved reached
  case start =>
    exact fun _ => ⟨⟨0, 0, touch, motion, .inl ⟨rfl, rfl, rfl, rfl⟩⟩, rfl⟩
  case preserved =>
    intro state history action next events _ holds stepped upright
    have before := holds upright.of_append
    cases step_shape stepped with
    | broughtUp => exact before.quiet rfl rfl ⟨rfl, rfl⟩
    | announced start sent => exact before.quiet rfl rfl (quiet_of_sent sent)
    | coalesced => exact before.quiet rfl rfl ⟨rfl, rfl⟩
    | queued running discrete sent =>
        have quiet := quiet_of_sent sent
        exact before.quiet rfl rfl ⟨quiet.1, quiet.2⟩
    | framed => exact before.frame upright

end StatusPath

end BeetEsp.Alvik
