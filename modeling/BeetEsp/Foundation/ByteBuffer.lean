import Mathlib.Data.List.Basic

/-! # Fixed buffers

A fixed-size array is a list whose length no write changes. Slicing is checked:
`none` stands for the panic of an out-of-range slice.
-/

namespace Foundation

/-- Replace the elements from `offset` on by `segment`. -/
def overwrite (buffer : List α) (offset : Nat) (segment : List α) : List α :=
  buffer.take offset ++ segment ++ buffer.drop (offset + segment.length)

theorem length_overwrite {buffer segment : List α} {offset : Nat}
    (fits : offset + segment.length ≤ buffer.length) :
    (overwrite buffer offset segment).length = buffer.length := by
  simp only [overwrite, List.length_append, List.length_take, List.length_drop]
  omega

/-- After a write, the buffer up to the end of the written segment. -/
theorem take_overwrite (buffer segment : List α) (offset : Nat)
    (fits : offset + segment.length ≤ buffer.length) :
    (overwrite buffer offset segment).take (offset + segment.length) =
      buffer.take offset ++ segment := by
  rw [overwrite, List.take_append_of_le_length, List.take_of_length_le]
  · simp only [List.length_append, List.length_take]
    omega
  · simp only [List.length_append, List.length_take]
    omega

theorem take_set_succ {buffer : List α} {index : Nat} (value : α)
    (inRange : index < buffer.length) :
    (buffer.set index value).take (index + 1) = buffer.take index ++ [value] := by
  rw [List.take_set, List.take_succ_eq_append_getElem inRange,
    List.set_append_right _ _ (List.length_take_le index buffer)]
  simp [Nat.min_eq_left (Nat.le_of_lt inRange)]

/-- The elements from `start` up to `stop`, or `none` when the range is not
inside the buffer. -/
def slice? (buffer : List α) (start stop : Nat) : Option (List α) :=
  if start ≤ stop ∧ stop ≤ buffer.length then some (buffer.extract start stop)
  else none

theorem slice?_eq_some {buffer : List α} {start stop : Nat}
    (ordered : start ≤ stop) (inRange : stop ≤ buffer.length) :
    slice? buffer start stop = some (buffer.extract start stop) :=
  if_pos ⟨ordered, inRange⟩

theorem extract_take (buffer : List α) (length : Nat) {start stop : Nat}
    (inside : stop ≤ length) :
    (buffer.take length).extract start stop = buffer.extract start stop := by
  simp only [List.extract_eq_take_drop, List.drop_take, List.take_take]
  congr 1
  omega

theorem slice?_eq_some_iff {buffer segment : List α} {start stop : Nat} :
    slice? buffer start stop = some segment ↔
      start ≤ stop ∧ stop ≤ buffer.length ∧ buffer.extract start stop = segment := by
  rw [slice?, Option.ite_none_right_eq_some, Option.some.injEq, and_assoc]

theorem extract_within (buffer : List α) (start stop : Nat) :
    buffer.extract start stop <:+: buffer := by
  rw [List.extract_eq_take_drop]
  exact (List.take_prefix _ _).isInfix.trans (List.drop_suffix _ _).isInfix

/-- Two segments that meet are one. -/
theorem extract_append_extract (buffer : List α) {start middle stop : Nat}
    (front : start ≤ middle) (back : middle ≤ stop) :
    buffer.extract start middle ++ buffer.extract middle stop =
      buffer.extract start stop := by
  have rest : buffer.drop middle = (buffer.drop start).drop (middle - start) := by
    rw [List.drop_drop, Nat.add_sub_cancel' front]
  have whole : stop - start = (middle - start) + (stop - middle) := by omega
  simp only [List.extract_eq_take_drop]
  rw [rest, whole, List.take_add]

/-- The segments of one size, from every start. -/
def windows (size : Nat) (buffer : List α) : List (List α) :=
  (List.range (buffer.length + 1 - size)).map fun start =>
    buffer.extract start (start + size)

/-- Where a window is found, the pattern stands. -/
theorem extract_of_findIdx?_windows [BEq α] [LawfulBEq α] {buffer pattern : List α}
    {index : Nat}
    (found : (windows pattern.length buffer).findIdx? (· == pattern) = some index) :
    buffer.extract index (index + pattern.length) = pattern := by
  rcases List.findIdx?_eq_some_iff_getElem.mp found with ⟨inRange, equal, -⟩
  simpa [windows] using equal

end Foundation
