import Mathlib.Data.List.Induction

/-! # Edges of a sampled signal

A signal is a stream of levels. An observer who looks at it only once for each
frame sees the last level of the frame, and misses the edges in between.
-/

namespace Foundation

/-- How often the signal goes over to `level`. -/
def edges (level start : Bool) : List Bool → Nat
  | [] => 0
  | value :: values =>
      (if start ≠ level ∧ value = level then 1 else 0) + edges level value values

/-- The level the signal ends with. -/
def settled (start : Bool) (values : List Bool) : Bool :=
  values.getLast?.getD start

theorem settled_append (start : Bool) (front back : List Bool) :
    settled start (front ++ back) = settled (settled start front) back := by
  rw [settled, List.getLast?_append, settled, settled]
  cases back.getLast? <;> rfl

theorem edges_append (level start : Bool) (front back : List Bool) :
    edges level start (front ++ back) =
      edges level start front + edges level (settled start front) back := by
  induction front generalizing start with
  | nil => exact (Nat.zero_add _).symm
  | cons value front induction =>
      have continued : settled start (value :: front) = settled value front :=
        settled_append start [value] front
      rw [List.cons_append, edges, edges, induction, continued, Nat.add_assoc]

/-- The last level of each frame that has one. -/
def sampled (frames : List (List Bool)) : List Bool :=
  frames.filterMap List.getLast?

theorem settled_getLast (start : Bool) (frame : List Bool) :
    settled start frame.getLast?.toList = settled start frame := by
  rw [settled, settled]
  cases frame.getLast? <;> rfl

/-- The one edge a frame can show. -/
theorem edges_getLast (level start : Bool) (frame : List Bool) :
    edges level start frame.getLast?.toList =
      if start ≠ level ∧ settled start frame = level then 1 else 0 := by
  rw [settled]
  cases frame.getLast? with
  | none =>
      rw [Option.toList_none, Option.getD_none, if_neg fun both => both.1 both.2]
      rfl
  | some value => rfl

theorem sampled_cons (frame : List Bool) (frames : List (List Bool)) :
    sampled (frame :: frames) = frame.getLast?.toList ++ sampled frames := by
  rw [sampled, List.filterMap_cons]
  cases frame.getLast? <;> rfl

theorem sampled_snoc (frames : List (List Bool)) (frame : List Bool) :
    sampled (frames ++ [frame]) = sampled frames ++ frame.getLast?.toList := by
  rw [sampled, List.filterMap_append, ← sampled, ← sampled, sampled_cons]
  exact congrArg (sampled frames ++ ·) (List.append_nil _)

end Foundation
