import BeetEsp.Extra.PerceiveActBody

/-! # Every drive command is a bounded step

Whatever comes between the two accesses of a handler, the robot only moves while a
timer runs or a handler still has its timer to insert. Whether the timer belongs
to the velocity is another matter: it does as long as nothing comes between the
two accesses.
-/

namespace BeetEsp.Extra.PerceiveActBody

open Foundation
open Alvik (Quantities DifferentialDrive)

variable {P : Quantities}

/-- The command whose timer was inserted. -/
def Event.inserted : Event P → Option (DriveForDuration P)
  | .replied request (.new _) => some request
  | _ => none

/-- The drive was written, or zeroed by a reset. -/
def Event.Supersedes : Event P → Prop
  | .wrote _ | .wasReset => True
  | .replied .. | .ticked _ => False

/-- The last timer was inserted for `request`, and this is what happened since. -/
def LastInsert (history : List (Event P)) (request : DriveForDuration P)
    (since : List (Event P)) : Prop :=
  ∃ before event, history = before ++ event :: since ∧
    event.inserted = some request ∧ ∀ event ∈ since, event.inserted = none

theorem LastInsert.snoc {history since : List (Event P)}
    {request : DriveForDuration P} {event : Event P}
    (last : LastInsert history request since)
    (other : event.inserted = none) :
    LastInsert (history ++ [event]) request (since ++ [event]) := by
  rcases last with ⟨before, insert, rfl, inserts, none⟩
  refine ⟨before, insert, by simp, inserts, ?_⟩
  intro later member
  rcases List.mem_append.mp member with earlier | new
  · exact none later earlier
  · rw [List.mem_singleton.mp new]
    exact other

theorem lastInsert_of_inserts {history : List (Event P)}
    (request : DriveForDuration P) :
    LastInsert (history ++ [.replied request (.new request.duration)]) request [] :=
  ⟨history, _, rfl, rfl, nofun⟩

/-! ## No runaway -/

structure Bounded (world : World P) (history : List (Event P)) : Prop where
  moving : ∀ robot, world.robot = some robot → robot.drive ≠ .rest P →
    robot.driveStep ≠ none ∨ world.handlers ≠ []
  counting : ∀ robot timer, world.robot = some robot →
    robot.driveStep = some timer → ∃ request since, LastInsert history request since ∧
      timer = .after request.duration (frames since) ∧
      ¬ Timer.Over request.duration (frames since)

/-- Between inserts and frames the timer is left alone. -/
theorem Bounded.counting_of_other {robot : Option (Robot P)}
    {handlers : List (DriveForDuration P)} {history : List (Event P)}
    {event : Event P} (bounded : Bounded ⟨robot, handlers⟩ history)
    (other : event.inserted = none) (still : frames [event] = []) :
    ∀ before timer, robot = some before → before.driveStep = some timer →
      ∃ request since, LastInsert (history ++ [event]) request since ∧
        timer = .after request.duration (frames since) ∧
        ¬ Timer.Over request.duration (frames since) := by
  intro before timer up running
  rcases bounded.counting before timer up running with
    ⟨request, since, last, counts, notOver⟩
  refine ⟨request, since ++ [event], last.snoc other, ?_⟩
  rw [frames_append, still, List.append_nil]
  exact ⟨counts, notOver⟩

theorem Bounded.frame {robot : Robot P} {handlers : List (DriveForDuration P)}
    {history : List (Event P)} (bounded : Bounded ⟨some robot, handlers⟩ history)
    (delta : Nat) :
    Bounded ⟨some (robot.expireDriveStep delta), handlers⟩
      (history ++ [.ticked delta]) := by
  have shape := expiry robot delta
  generalize robot.expireDriveStep delta = next at shape ⊢
  cases shape with
  | idle still =>
      refine ⟨bounded.moving, ?_⟩
      intro after timer up running
      cases up
      rw [still] at running
      cases running
  | ended running finished =>
      constructor
      · intro after up moves
        cases up
        exact absurd rfl moves
      · intro after timer up counts
        cases up
        cases counts
  | ticked running unfinished =>
      rcases bounded.counting robot _ rfl running with
        ⟨request, since, last, rfl, -⟩
      constructor
      · intro after up moves
        cases up
        exact .inl nofun
      · intro after timer up counts
        cases up
        cases counts
        refine ⟨request, since ++ [.ticked delta], last.snoc rfl, ?_⟩
        rw [frames_append, frames_ticked, Timer.after_snoc]
        refine ⟨rfl, mt Timer.finished_after.mpr ?_⟩
        rw [Timer.after_snoc, unfinished]
        exact Bool.false_ne_true

theorem bounded_step {world next : World P} {action : Action P}
    {history events : List (Event P)} (bounded : Bounded world history)
    (shape : Step world action next events) : Bounded next (history ++ events) := by
  cases shape with
  | spawned =>
      constructor
      · intro robot up moves
        cases up
        exact absurd rfl moves
      · intro robot timer up running
        cases up
        cases running
  | unavailable =>
      exact ⟨nofun, nofun⟩
  | @wrote robot handlers request =>
      constructor
      · intro written up moves
        exact .inr (by simp)
      · intro written timer up running
        cases up
        exact bounded.counting_of_other rfl rfl robot timer rfl running
  | @inserted robot handlers index request pending =>
      constructor
      · intro inserted up moves
        rcases Option.map_eq_some_iff.mp up with ⟨before, -, rfl⟩
        exact .inl nofun
      · intro inserted timer up running
        rcases Option.map_eq_some_iff.mp up with ⟨before, -, rfl⟩
        cases running
        exact ⟨request, [], lastInsert_of_inserts request, rfl, Timer.not_over_nil⟩
  | @frame robot handlers delta =>
      cases robot with
      | none => exact ⟨nofun, nofun⟩
      | some robot => exact bounded.frame delta
  | @reset robot handlers =>
      constructor
      · intro after up moves
        rcases Option.map_eq_some_iff.mp up with ⟨before, -, rfl⟩
        exact absurd rfl moves
      · intro after timer up running
        rcases Option.map_eq_some_iff.mp up with ⟨before, earlier, rfl⟩
        exact bounded.counting_of_other rfl rfl before timer earlier running

theorem bounded {world : World P} {history : List (Event P)}
    (reached : (perceiveActBody P).Reached world history) : Bounded world history := by
  apply Machine.Reached.induction _ ?start ?preserved reached
  case start => exact ⟨nofun, nofun⟩
  case preserved =>
    intro world history action next events _ holds stepped
    exact bounded_step holds (step_shape stepped)

/-- Enough frame time has passed for the last inserted timer, if there is one. -/
def StepTimeOver (history : List (Event P)) : Prop :=
  ∀ request since, LastInsert history request since →
    Timer.Over request.duration (frames since)

/-- No runaway: a robot that moves has a timer running or about to be inserted, so
once every handler is done and the last timer had its time, the robot stands. -/
theorem no_runaway {world : World P} {history : List (Event P)} {robot : Robot P}
    (reached : (perceiveActBody P).Reached world history)
    (up : world.robot = some robot) :
    (robot.drive ≠ .rest P → robot.driveStep ≠ none ∨ world.handlers ≠ []) ∧
      (world.handlers = [] → StepTimeOver history → robot.drive = .rest P) := by
  have holds := bounded reached
  refine ⟨holds.moving robot up, ?_⟩
  intro done timeOver
  by_contra moves
  rcases holds.moving robot up moves with running | pending
  · rcases Option.ne_none_iff_exists'.mp running with ⟨timer, running⟩
    rcases holds.counting robot timer up running with
      ⟨request, since, last, -, notOver⟩
    exact notOver (timeOver request since last)
  · exact pending done

/-- A frame after the insert the robot drives at 60 mm/s and its timer runs. -/
theorem no_runaway_mid_step : ∃ world history robot,
    (perceiveActBody Quantities.wire).Reached world history ∧
    world.robot = some robot ∧ robot.drive.linear = (0x42700000 : F32) ∧
    (robot.driveStep ≠ none ∨ world.handlers ≠ []) := by
  have reached : ∃ world history robot,
      (perceiveActBody Quantities.wire).Reached world history ∧
      world.robot = some robot ∧ robot.drive.linear = (0x42700000 : F32) :=
    ⟨_, _, _, ⟨[.spawnAlvik, .drive ⟨⟨0x42700000, 0⟩, 10⟩, .insertDriveStep 0,
      .frame 5], rfl⟩, rfl, rfl⟩
  rcases reached with ⟨world, history, robot, reached, up, linear⟩
  refine ⟨world, history, robot, reached, up, linear, (no_runaway reached up).1 ?_⟩
  intro stands
  rw [stands] at linear
  cases linear

end BeetEsp.Extra.PerceiveActBody
