import Mathlib.Data.List.Chain

/-! # Streaks

How often in a row, up to the end of a list of readings, each reading is in a relation to
the one before it.
-/

namespace Foundation

variable {Reading : Type u} {grows : Reading → Reading → Prop} [DecidableRel grows]

/-- The streak of a list that is read from its end. -/
def streakBack (grows : Reading → Reading → Prop) [DecidableRel grows] :
    List Reading → Nat
  | last :: previous :: earlier =>
      if grows previous last then streakBack grows (previous :: earlier) + 1 else 0
  | _ => 0

def streak (grows : Reading → Reading → Prop) [DecidableRel grows]
    (readings : List Reading) : Nat :=
  streakBack grows readings.reverse

@[simp] theorem streak_singleton (reading : Reading) : streak grows [reading] = 0 := rfl

/-- One more reading, the one before being the last so far. -/
theorem streak_concat {readings : List Reading} {previous : Reading}
    (ends : readings.getLast? = some previous) (last : Reading) :
    streak grows (readings ++ [last]) =
      if grows previous last then streak grows readings + 1 else 0 := by
  rcases List.getLast?_eq_some_iff.mp ends with ⟨earlier, rfl⟩
  simp [streak, streakBack]

theorem le_streakBack_iff {last : Reading} {earlier : List Reading} {count : Nat} :
    count ≤ streakBack grows (last :: earlier) ↔
      ∃ run, run <+: last :: earlier ∧ run.length = count + 1 ∧
        run.IsChain fun later before => grows before later := by
  induction earlier generalizing last count with
  | nil =>
      constructor
      · intro within
        exact ⟨[last], List.prefix_rfl, congrArg (· + 1) (Nat.le_zero.mp within).symm,
          .singleton _⟩
      · rintro ⟨run, front, size, -⟩
        have short := front.length_le
        rw [size] at short
        exact Nat.le_of_succ_le_succ short
  | cons previous earlier induction =>
      cases count with
      | zero => exact iff_of_true (Nat.zero_le _) ⟨[last], by simp, rfl, .singleton _⟩
      | succ count =>
          rw [streakBack]
          constructor
          · intro long
            split at long
            case isTrue grown =>
              rcases induction.mp (Nat.le_of_succ_le_succ long) with ⟨run, front, size, chain⟩
              cases run with
              | nil => cases size
              | cons first run =>
                  cases (List.cons_prefix_cons.mp front).1
                  exact ⟨last :: previous :: run, List.cons_prefix_cons.mpr ⟨rfl, front⟩,
                    congrArg (· + 1) size, List.isChain_cons_cons.mpr ⟨grown, chain⟩⟩
            case isFalse => exact absurd long (Nat.not_succ_le_zero _)
          · rintro ⟨run, front, size, chain⟩
            match run with
            | [] => cases size
            | [_] => cases size
            | first :: second :: run =>
                rcases List.cons_prefix_cons.mp front with ⟨rfl, back⟩
                cases (List.cons_prefix_cons.mp back).1
                rcases List.isChain_cons_cons.mp chain with ⟨grown, chain⟩
                rw [if_pos grown]
                exact Nat.succ_le_succ (induction.mpr ⟨_, back, Nat.succ.inj size, chain⟩)

/-- A streak is at least as long as the list ends in such a run. -/
theorem le_streak_iff {readings : List Reading} (taken : readings ≠ []) {count : Nat} :
    count ≤ streak grows readings ↔
      ∃ run, run <:+ readings ∧ run.length = count + 1 ∧ run.IsChain grows := by
  rw [streak]
  cases back : readings.reverse with
  | nil => exact absurd (List.reverse_eq_nil_iff.mp back) taken
  | cons last earlier =>
      rw [le_streakBack_iff, ← back]
      constructor
      · rintro ⟨run, front, size, chain⟩
        exact ⟨run.reverse, by simpa using List.reverse_suffix.mpr front, by simpa using size,
          List.isChain_reverse.mpr chain⟩
      · rintro ⟨run, back, size, chain⟩
        exact ⟨run.reverse, List.reverse_prefix.mpr back, by simpa using size,
          List.isChain_reverse.mpr (by simpa using chain)⟩

end Foundation
