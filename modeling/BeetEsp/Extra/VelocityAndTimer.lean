import BeetEsp.Extra.DriveSteps

/-! # A velocity and its timer

The two accesses of a handler write the velocity and the timer of one command.
They belong together afterwards as long as nothing that touches either of them
came between the two.
-/

namespace BeetEsp.Extra.PerceiveActBody

open Foundation
open Alvik (Quantities DifferentialDrive)

variable {P : Quantities}

/-- From the reply to a command until the drive is written again or reset, the
robot has the velocity of that command for exactly its duration. -/
def StepsBelongTogether (world : World P) (history : List (Event P)) : Prop :=
  ∀ before request after,
    history = before ++ .replied request (.new request.duration) :: after →
    (∀ event ∈ after, ¬ event.Supersedes) →
    world.robot.map Robot.drive = some
      (if Timer.Over request.duration (frames after) then .rest P else request.drive)

/-- Nothing comes between the accesses of a handler that takes back what it wrote:
no other write, no reset and no frame that ends the step before. Stops may overlap
with each other, and with anything that stops the robot. -/
def Uninterrupted (world : World P) : Action P → Prop
  | .drive request => ∀ other ∈ world.handlers,
      other.drive = .rest P ∧ request.drive = .rest P
  | .resetScene => ∀ request ∈ world.handlers, request.drive = .rest P
  | .frame delta => ∀ request ∈ world.handlers, request.drive = .rest P ∨
      ∀ robot timer, world.robot = some robot → robot.driveStep = some timer →
        timer.elapsed + delta < timer.duration
  | .spawnAlvik | .insertDriveStep _ => True

/-! ## What a command can rely on -/

/-- What a command finds that has replied and seen these frames since. -/
inductive CarriedOut (world : World P) (request : DriveForDuration P)
    (frames : List Nat) : Prop
  | inForce (alone : world.handlers = [])
      (robot : world.robot = some
        (if Timer.Over request.duration frames then ⟨.rest P, none⟩
          else ⟨request.drive, some (.after request.duration frames)⟩))
  | standing (stop : request.drive = .rest P)
      (robot : world.robot.map Robot.drive = some (.rest P))
      (stops : ∀ other ∈ world.handlers, other.drive = .rest P)

theorem CarriedOut.drive {world : World P} {request : DriveForDuration P}
    {frames : List Nat} (carriedOut : CarriedOut world request frames) :
    world.robot.map Robot.drive = some
      (if Timer.Over request.duration frames then .rest P else request.drive) := by
  cases carriedOut with
  | inForce alone robot =>
      rw [robot]
      split <;> rfl
  | standing stop robot stops => rw [stop, ite_self, robot]

/-- What a frame does to a robot whose timer has seen these frames. -/
theorem Robot.expireDriveStep_after {robot : Robot P} {duration : Nat}
    {frames : List Nat} (delta : Nat)
    (counting : robot.driveStep = some (.after duration frames)) :
    robot.expireDriveStep delta =
      if Timer.Over duration (frames ++ [delta]) then ⟨.rest P, none⟩
      else { robot with driveStep := some (.after duration (frames ++ [delta])) } := by
  simp only [Robot.expireDriveStep, counting, ← Timer.after_snoc,
    Timer.finished_after]

/-- A frame leaves a velocity alone unless it ends the running step. -/
theorem drive_expireDriveStep {robot : Robot P} {delta : Nat}
    (running : ∀ timer, robot.driveStep = some timer →
      timer.finished = false ∧ timer.elapsed + delta < timer.duration) :
    (robot.expireDriveStep delta).drive = robot.drive := by
  have shape := expiry robot delta
  generalize robot.expireDriveStep delta = next at shape ⊢
  cases shape with
  | idle => rfl
  | ticked => rfl
  | ended step finished =>
      have lasts := running _ step
      rw [Timer.tick_of_lt lasts.1 lasts.2] at finished
      cases finished

theorem drive_expireDriveStep_of_rest {robot : Robot P} {delta : Nat}
    (stands : robot.drive = .rest P) :
    (robot.expireDriveStep delta).drive = .rest P := by
  have shape := expiry robot delta
  generalize robot.expireDriveStep delta = next at shape ⊢
  cases shape with
  | idle => exact stands
  | ticked => exact stands
  | ended => rfl

theorem CarriedOut.frame {robot : Option (Robot P)}
    {handlers : List (DriveForDuration P)} {request : DriveForDuration P}
    {frames : List Nat} (carriedOut : CarriedOut ⟨robot, handlers⟩ request frames)
    (delta : Nat) :
    CarriedOut ⟨robot.map (Robot.expireDriveStep delta), handlers⟩ request
      (frames ++ [delta]) := by
  cases carriedOut with
  | inForce alone up =>
      refine .inForce alone ?_
      rw [show robot = _ from up]
      by_cases ended : Timer.Over request.duration frames
      · rw [if_pos ended, if_pos ended.snoc]
        rfl
      · rw [if_neg ended]
        exact congrArg some (Robot.expireDriveStep_after delta rfl)
  | standing stop stands stops =>
      rcases Option.map_eq_some_iff.mp stands with ⟨before, rfl, rests⟩
      exact .standing stop (congrArg some (drive_expireDriveStep_of_rest rests)) stops

/-! ## One step -/

structure Together (world : World P) (history : List (Event P)) : Prop where
  pending : ∀ request ∈ world.handlers,
    world.robot.map Robot.drive = some request.drive ∧
      (world.handlers = [request] ∨ request.drive = .rest P)
  carriedOut : ∀ before request after,
    history = before ++ .replied request (.new request.duration) :: after →
    (∀ event ∈ after, ¬ event.Supersedes) → CarriedOut world request (frames after)

theorem Together.belong {world : World P} {history : List (Event P)}
    (together : Together world history) : StepsBelongTogether world history :=
  fun before request after split current =>
    (together.carriedOut before request after split current).drive

/-- A command that can rely on something after one more event has just replied, or
it could before. -/
theorem Together.earlier {world : World P} {history before after : List (Event P)}
    {event : Event P} {request : DriveForDuration P}
    (together : Together world history)
    (split : history ++ [event] =
      before ++ .replied request (.new request.duration) :: after)
    (current : ∀ event ∈ after, ¬ event.Supersedes) :
    (event = .replied request (.new request.duration) ∧ after = []) ∨
      ∃ rest, after = rest ++ [event] ∧ CarriedOut world request (frames rest) := by
  rcases Machine.snoc_split split with ⟨-, equal, nothing⟩ | ⟨rest, rfl, earlier⟩
  · exact .inl ⟨equal, nothing⟩
  · refine .inr ⟨rest, rfl, together.carriedOut before request rest earlier ?_⟩
    exact fun event member => current event (List.mem_append_left _ member)

/-- Once the drive is written again or reset, no command relies on anything. -/
theorem carriedOut_of_supersedes {world : World P} {history : List (Event P)}
    {event : Event P} (supersedes : event.Supersedes) :
    ∀ before request after,
      history ++ [event] =
        before ++ .replied request (.new request.duration) :: after →
      (∀ event ∈ after, ¬ event.Supersedes) →
      CarriedOut world request (frames after) := by
  intro before request after split current
  rcases Machine.snoc_split split with ⟨-, rfl, -⟩ | ⟨rest, rfl, -⟩
  · cases supersedes
  · exact absurd supersedes (current event (by simp))

/-- Before the robot is up no command has written or replied. -/
theorem Together.nothing {handlers : List (DriveForDuration P)}
    {history : List (Event P)} (together : Together ⟨none, handlers⟩ history) :
    (∀ request, request ∉ handlers) ∧
      ∀ request frames, ¬ CarriedOut ⟨none, handlers⟩ request frames := by
  constructor
  · intro request member
    exact nomatch (together.pending request member).1
  · intro request frames carriedOut
    exact nomatch carriedOut.drive

theorem Together.insert {robot : Option (Robot P)}
    {handlers : List (DriveForDuration P)} {history : List (Event P)} {index : Nat}
    {request : DriveForDuration P} (together : Together ⟨robot, handlers⟩ history)
    (pending : handlers[index]? = some request) :
    Together ⟨robot.map (Robot.insertDriveStep request), handlers.eraseIdx index⟩
      (history ++ [.replied request (.new request.duration)]) := by
  have own := together.pending request (List.mem_of_getElem? pending)
  rcases Option.map_eq_some_iff.mp own.1 with ⟨before, rfl, sameDrive⟩
  have left : ∀ other ∈ handlers.eraseIdx index, other ∈ handlers :=
    fun other member => List.mem_of_mem_eraseIdx member
  rcases own.2 with alone | stop
  · have last : handlers.eraseIdx index = [] := by
      have first : index = 0 := by
        simpa [show handlers = _ from alone] using
          (List.getElem?_eq_some_iff.mp pending).1
      rw [first, show handlers = _ from alone]
      rfl
    rw [last]
    refine ⟨List.forall_mem_nil _, ?_⟩
    intro front other after split current
    rcases together.earlier split current with ⟨equal, rfl⟩ | ⟨rest, rfl, earlier⟩
    · cases equal
      refine .inForce rfl ?_
      rw [frames_nil, if_neg Timer.not_over_nil, ← sameDrive]
      rfl
    · cases earlier with
      | inForce none => exact absurd (alone.symm.trans none) (List.cons_ne_nil _ _)
      | standing otherStop stands stops =>
          exact .standing otherStop stands (List.forall_mem_nil _)
  · constructor
    · intro other member
      have was := together.pending other (left other member)
      refine ⟨was.1, .inr ?_⟩
      rw [← Option.some.inj (own.1.symm.trans was.1)]
      exact stop
    · intro front other after split current
      have stops : ∀ other ∈ handlers.eraseIdx index, other.drive = .rest P := by
        intro other member
        have was := (together.pending other (left other member)).1
        rw [← Option.some.inj (own.1.symm.trans was)]
        exact stop
      have stands : (some before).map Robot.drive = some (.rest P) := by
        rw [show (some before).map Robot.drive = _ from own.1, stop]
      rcases together.earlier split current with ⟨equal, rfl⟩ | ⟨rest, rfl, earlier⟩
      · cases equal
        exact .standing stop stands stops
      · cases earlier with
        | inForce none =>
            have member := List.mem_of_getElem? pending
            rw [show handlers = [] from none] at member
            cases member
        | standing otherStop _ _ => exact .standing otherStop stands stops

theorem together_step {world next : World P} {action : Action P}
    {history events : List (Event P)} (bounded : Bounded world history)
    (together : Together world history) (met : Uninterrupted world action)
    (shape : Step world action next events) :
    Together next (history ++ events) := by
  cases shape with
  | spawned =>
      rw [List.append_nil]
      constructor
      · intro request member
        exact absurd member (together.nothing.1 request)
      · intro before request after split current
        exact absurd (together.carriedOut before request after split current)
          (together.nothing.2 request _)
  | unavailable =>
      refine ⟨together.pending, ?_⟩
      intro before request after split current
      rcases together.earlier split current with ⟨equal, -⟩ | ⟨rest, -, earlier⟩
      · cases equal
      · exact absurd earlier (together.nothing.2 request _)
  | @wrote robot handlers request =>
      refine ⟨?_, carriedOut_of_supersedes trivial⟩
      intro other member
      rcases List.mem_append.mp member with earlier | new
      · have stops := met other earlier
        refine ⟨congrArg some (stops.2.trans stops.1.symm), .inr stops.1⟩
      · rw [List.mem_singleton.mp new]
        refine ⟨rfl, ?_⟩
        cases handlers with
        | nil => exact .inl rfl
        | cons first rest => exact .inr (met first List.mem_cons_self).2
  | inserted pending => exact together.insert pending
  | @frame robot handlers delta =>
      constructor
      · intro request member
        rcases together.pending request member with ⟨drive, alone⟩
        rcases Option.map_eq_some_iff.mp drive with ⟨before, rfl, sameDrive⟩
        refine ⟨congrArg some (Eq.trans ?_ sameDrive), alone⟩
        rcases met request member with stop | lasts
        · rw [sameDrive, stop]
          exact drive_expireDriveStep_of_rest (sameDrive.trans stop)
        · apply drive_expireDriveStep
          intro timer running
          rcases bounded.counting before timer rfl running with
            ⟨counted, since, -, rfl, notOver⟩
          refine ⟨?_, lasts before _ rfl running⟩
          exact Bool.eq_false_iff.mpr (mt Timer.finished_after.mp notOver)
      · intro before request after split current
        rcases together.earlier split current with ⟨equal, -⟩ | ⟨rest, rfl, earlier⟩
        · cases equal
        · rw [frames_append, frames_ticked]
          exact earlier.frame delta
  | @reset robot handlers =>
      refine ⟨?_, carriedOut_of_supersedes trivial⟩
      intro request member
      rcases together.pending request member with ⟨drive, alone⟩
      rcases Option.map_eq_some_iff.mp drive with ⟨before, rfl, -⟩
      exact ⟨congrArg some (met request member).symm, alone⟩

/-! ## Runs -/

theorem together_of_uninterrupted {actions : List (Action P)} {world : World P}
    {history : List (Event P)}
    (meets : (perceiveActBody P).Meets Uninterrupted actions)
    (ran : (perceiveActBody P).run actions = some (world, history)) :
    Together world history := by
  apply Machine.Meets.induction ?start ?preserved meets ran
  case start => exact ⟨nofun, by simp⟩
  case preserved =>
    intro world history action next events reached together met stepped
    exact together_step (bounded reached) together met (step_shape stepped)

/-- In a run in which no handler is interrupted between its two accesses, velocity
and timer belong together in every state. -/
theorem steps_belong_together {actions : List (Action P)}
    (meets : (perceiveActBody P).Meets Uninterrupted actions) :
    (perceiveActBody P).AlwaysAlong StepsBelongTogether actions := by
  rintro front back rfl world history ran
  exact (together_of_uninterrupted meets.of_append ran).belong

/-- Two commands one after the other, the second while the timer of the first runs. -/
theorem steps_belong_together_two_steps :
    (perceiveActBody Quantities.wire).AlwaysAlong StepsBelongTogether
      [.spawnAlvik, .drive ⟨⟨0x42700000, 0⟩, 10⟩, .insertDriveStep 0, .frame 5,
        .drive ⟨⟨0x42F00000, 0⟩, 20⟩, .insertDriveStep 0, .frame 5] := by
  apply steps_belong_together
  refine Machine.meetsFrom_cons trivial rfl ?_
  refine Machine.meetsFrom_cons (List.forall_mem_nil _) rfl ?_
  refine Machine.meetsFrom_cons trivial rfl ?_
  refine Machine.meetsFrom_cons (List.forall_mem_nil _) rfl ?_
  refine Machine.meetsFrom_cons (List.forall_mem_nil _) rfl ?_
  refine Machine.meetsFrom_cons trivial rfl ?_
  refine Machine.meetsFrom_cons (List.forall_mem_nil _) rfl ?_
  trivial

/-- A second command of 120 mm/s arrives just before the timer of the first ends. -/
def cancelledMovement : List (Action Quantities.wire) :=
  [.spawnAlvik, .drive ⟨⟨0x42700000, 0⟩, 10⟩, .insertDriveStep 0, .frame 5,
    .drive ⟨⟨0x42F00000, 0⟩, 20⟩, .frame 5, .insertDriveStep 0]

/-- The second handler replies, with its own timer in place, for a robot that the
first timer has stopped. -/
theorem movement_is_cancelled :
    (∃ world history,
      (perceiveActBody Quantities.wire).run cancelledMovement =
        some (world, history) ∧
      world = ⟨some ⟨.rest Quantities.wire, some (.once 20)⟩, []⟩) ∧
    ¬(perceiveActBody Quantities.wire).AlwaysAlong StepsBelongTogether
      cancelledMovement := by
  refine ⟨⟨_, _, rfl, rfl⟩, ?_⟩
  intro always
  have together := always cancelledMovement [] rfl _ _ rfl
  have driven := together [.wrote ⟨⟨0x42700000, 0⟩, 10⟩,
    .replied ⟨⟨0x42700000, 0⟩, 10⟩ (.new 10), .ticked 5,
    .wrote ⟨⟨0x42F00000, 0⟩, 20⟩, .ticked 5] ⟨⟨0x42F00000, 0⟩, 20⟩ [] rfl
    (List.forall_mem_nil _)
  rw [frames_nil, if_neg Timer.not_over_nil] at driven
  cases driven

/-! ## What the condition leaves out -/

/-- From here on some run breaks the pairing. -/
def CanBreak (world : World P) (history : List (Event P)) : Prop :=
  ∃ actions final events,
    (perceiveActBody P).runFrom world actions = some (final, events) ∧
      ¬ StepsBelongTogether final (history ++ events)

theorem CanBreak.of_step {world next : World P} {history events : List (Event P)}
    {action : Action P}
    (stepped : (perceiveActBody P).step world action = some (next, events))
    (breaks : CanBreak next (history ++ events)) : CanBreak world history := by
  rcases breaks with ⟨actions, final, later, ran, broken⟩
  refine ⟨action :: actions, final, events ++ later,
    Machine.runFrom_cons_of_step stepped ran, ?_⟩
  rw [← List.append_assoc]
  exact broken

theorem step_insertDriveStep {robot : Option (Robot P)}
    {handlers : List (DriveForDuration P)} {index : Nat} {request : DriveForDuration P}
    (pending : handlers[index]? = some request) :
    (perceiveActBody P).step ⟨robot, handlers⟩ (.insertDriveStep index) = some
      (⟨robot.map (Robot.insertDriveStep request), handlers.eraseIdx index⟩,
        [.replied request (.new request.duration)]) := by
  simp only [perceiveActBody, World.step]
  simp only [pending]

/-- A handler whose velocity was taken back breaks the pairing with its own reply. -/
theorem canBreak_of_takenBack {robot : Robot P} {handlers : List (DriveForDuration P)}
    {history : List (Event P)} (request : DriveForDuration P)
    (member : request ∈ handlers) (takenBack : robot.drive ≠ request.drive) :
    CanBreak ⟨some robot, handlers⟩ history := by
  rcases List.mem_iff_getElem?.mp member with ⟨index, pending⟩
  refine CanBreak.of_step (step_insertDriveStep pending) ⟨[], _, [], rfl, ?_⟩
  rw [List.append_nil]
  intro together
  have equal := together history request [] rfl (List.forall_mem_nil _)
  rw [frames_nil, if_neg Timer.not_over_nil] at equal
  exact takenBack (Option.some.inj equal)

/-- Of two handlers that wrote the same velocity, the timer of the first stops the
robot before the other one replies. -/
theorem canBreak_of_sharedVelocity {robot : Robot P}
    {handlers : List (DriveForDuration P)} {history : List (Event P)}
    {other request : DriveForDuration P} (member : other ∈ handlers)
    (moves : request.drive ≠ .rest P) :
    CanBreak ⟨some robot, handlers ++ [request]⟩ history := by
  rcases List.mem_iff_getElem?.mp member with ⟨index, pending⟩
  have inside := (List.getElem?_eq_some_iff.mp pending).1
  have first : (handlers ++ [request])[index]? = some other := by
    rw [List.getElem?_append_left inside, pending]
  apply CanBreak.of_step (step_insertDriveStep first)
  apply CanBreak.of_step (show (perceiveActBody P).step _ (.frame other.duration) = _
    from rfl)
  apply canBreak_of_takenBack request
  · rw [List.eraseIdx_append_of_lt_length inside]
    exact List.mem_append_right _ (List.mem_singleton.mpr rfl)
  · have ends : (Timer.tick (.once other.duration) other.duration).finished = true :=
      Timer.tick_of_le (Nat.le_add_left _ _)
    rw [Robot.expireDriveStep_of_finished rfl ends]
    exact Ne.symm moves

/-- Every step the condition excludes can break the pairing. -/
theorem interrupted_breaks {world next : World P} {action : Action P}
    {history events : List (Event P)} (together : Together world history)
    (interrupted : ¬ Uninterrupted world action)
    (shape : Step world action next events) : CanBreak next (history ++ events) := by
  cases shape with
  | spawned => exact absurd trivial interrupted
  | inserted => exact absurd trivial interrupted
  | unavailable =>
      refine absurd ?_ interrupted
      exact fun other member => absurd member (together.nothing.1 other)
  | @wrote robot handlers request =>
      simp only [Uninterrupted, not_forall] at interrupted
      rcases interrupted with ⟨other, member, moves⟩
      by_cases same : request.drive = other.drive
      · apply canBreak_of_sharedVelocity member
        intro stop
        exact moves ⟨same.symm.trans stop, stop⟩
      · exact canBreak_of_takenBack other (List.mem_append_left _ member) same
  | @frame robot handlers delta =>
      simp only [Uninterrupted, not_forall, not_or, Nat.not_lt] at interrupted
      rcases interrupted with ⟨request, member, moves, before, timer, up, running, ends⟩
      cases up
      apply canBreak_of_takenBack request member
      rw [Robot.expireDriveStep_of_finished running (Timer.tick_of_le ends)]
      exact Ne.symm moves
  | @reset robot handlers =>
      simp only [Uninterrupted, not_forall] at interrupted
      rcases interrupted with ⟨request, member, moves⟩
      rcases Option.map_eq_some_iff.mp (together.pending request member).1 with
        ⟨before, rfl, -⟩
      exact canBreak_of_takenBack request member (Ne.symm moves)

end BeetEsp.Extra.PerceiveActBody
