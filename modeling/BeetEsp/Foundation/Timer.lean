import Mathlib.Algebra.BigOperators.Group.List.Basic
import Mathlib.Algebra.GroupWithZero.Nat
import Mathlib.Data.List.Induction

/-! # One-shot timers

A timer ticked once per frame by the time the frame took.
-/

namespace Foundation

structure Timer where
  duration : Nat
  elapsed : Nat
  finished : Bool
  deriving DecidableEq

namespace Timer

/-- `Timer::new(duration, TimerMode::Once)`. -/
def once (duration : Nat) : Timer where
  duration
  elapsed := 0
  finished := false

/-- A finished timer stays as it is. -/
def tick (timer : Timer) (delta : Nat) : Timer :=
  if timer.finished then timer
  else if timer.duration ≤ timer.elapsed + delta then
    { timer with elapsed := timer.duration, finished := true }
  else { timer with elapsed := timer.elapsed + delta }

/-- A new timer after these frames. -/
def after (duration : Nat) (frames : List Nat) : Timer :=
  frames.foldl tick (once duration)

/-- These frames finish a timer: even one of no duration waits for a tick. -/
def Over (duration : Nat) (frames : List Nat) : Prop :=
  frames ≠ [] ∧ duration ≤ frames.sum

instance (duration : Nat) (frames : List Nat) : Decidable (Over duration frames) :=
  inferInstanceAs (Decidable (_ ∧ _))

variable {duration delta : Nat} {frames : List Nat}

theorem not_over_nil : ¬ Over duration [] := fun ended => ended.1 rfl

theorem over_snoc : Over duration (frames ++ [delta]) ↔
    duration ≤ frames.sum + delta := by
  simp [Over]

theorem Over.snoc (ended : Over duration frames) :
    Over duration (frames ++ [delta]) :=
  over_snoc.mpr (Nat.le_add_right_of_le ended.2)

theorem after_snoc : after duration (frames ++ [delta]) =
    (after duration frames).tick delta := by
  simp [after, List.foldl_append]

theorem after_eq : after duration frames =
    if Over duration frames then ⟨duration, duration, true⟩
    else ⟨duration, frames.sum, false⟩ := by
  induction frames using List.reverseRecOn with
  | nil => rfl
  | append_singleton frames delta induction =>
      rw [after_snoc, induction]
      by_cases ended : Over duration frames
      · rw [if_pos ended, if_pos ended.snoc]
        rfl
      · rw [if_neg ended]
        by_cases reached : duration ≤ frames.sum + delta
        · rw [if_pos (over_snoc.mpr reached)]
          simp [tick, reached]
        · rw [if_neg fun now => reached (over_snoc.mp now)]
          simp [tick, reached]

theorem finished_after : (after duration frames).finished = true ↔
    Over duration frames := by
  rw [after_eq]
  split <;> simp_all

/-- A frame that leaves time on a running timer does not finish it. -/
theorem tick_of_lt {timer : Timer} (running : timer.finished = false)
    (left : timer.elapsed + delta < timer.duration) :
    (timer.tick delta).finished = false := by
  rw [tick, if_neg (by simp [running]), if_neg (Nat.not_le.mpr left)]
  exact running

/-- A frame that takes all the time that is left finishes the timer. -/
theorem tick_of_le {timer : Timer} (reached : timer.duration ≤ timer.elapsed + delta) :
    (timer.tick delta).finished = true := by
  rw [tick]
  split
  case isTrue finished => exact finished
  case isFalse => rfl

end Timer

end Foundation
