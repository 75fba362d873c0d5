import BeetEsp.Foundation.ByteBuffer

/-! # Occurrences of a pattern

Where a pattern stands in a list, and where it stands first. A pattern that no part of
its own end begins again cannot stand across the start of another occurrence of it.
-/

namespace Foundation

variable {α : Type}

/-- The pattern stands in the list from this index on. -/
def OccursAt (pattern buffer : List α) (index : Nat) : Prop :=
  pattern <+: buffer.drop index

/-- It stands there, and at no index before. -/
structure FirstAt (pattern buffer : List α) (index : Nat) : Prop where
  occurs : OccursAt pattern buffer index
  first : ∀ earlier < index, ¬OccursAt pattern buffer earlier

/-- No proper end of the pattern begins it. -/
def Borderless (pattern : List α) : Prop :=
  ∀ shift < pattern.length, shift ≠ 0 → ¬pattern.drop shift <+: pattern

instance [DecidableEq α] (pattern buffer : List α) (index : Nat) :
    Decidable (OccursAt pattern buffer index) :=
  inferInstanceAs (Decidable (_ <+: _))

instance [DecidableEq α] (pattern : List α) : Decidable (Borderless pattern) :=
  inferInstanceAs (Decidable (∀ shift < pattern.length, shift ≠ 0 → ¬_ <+: _))

variable {pattern front back buffer : List α} {index : Nat}

namespace OccursAt

theorem inside (occurs : OccursAt pattern buffer index) (nonempty : pattern ≠ []) :
    index + pattern.length ≤ buffer.length := by
  have room := occurs.length_le
  rw [List.length_drop] at room
  have positive := List.length_pos_iff.mpr nonempty
  omega

theorem iff_extract (nonempty : pattern ≠ []) :
    OccursAt pattern buffer index ↔
      index + pattern.length ≤ buffer.length ∧
        buffer.extract index (index + pattern.length) = pattern := by
  have segment : buffer.extract index (index + pattern.length) =
      (buffer.drop index).take pattern.length := by
    rw [List.extract_eq_take_drop, Nat.add_sub_cancel_left]
  rw [segment]
  constructor
  · intro occurs
    exact ⟨occurs.inside nonempty, (List.prefix_iff_eq_take.mp occurs).symm⟩
  · rintro ⟨-, equal⟩
    exact List.prefix_iff_eq_take.mpr equal.symm

theorem iff_slice (nonempty : pattern ≠ []) :
    OccursAt pattern buffer index ↔
      slice? buffer index (index + pattern.length) = some pattern := by
  rw [slice?_eq_some_iff, iff_extract nonempty]
  simp only [Nat.le_add_right, true_and]

/-- What stands in the front stands in the whole. -/
theorem append (occurs : OccursAt pattern front index) (nonempty : pattern ≠ []) :
    OccursAt pattern (front ++ back) index := by
  have inside := occurs.inside nonempty
  rw [OccursAt, List.drop_append_of_le_length (by omega)]
  exact occurs.trans (List.prefix_append ..)

theorem at_length : OccursAt pattern (front ++ (pattern ++ back)) front.length := by
  rw [OccursAt, List.drop_left]
  exact List.prefix_append ..

/-- Before an occurrence of the pattern, another one is all in front of it. -/
theorem in_front (borderless : Borderless pattern)
    (occurs : OccursAt pattern (front ++ (pattern ++ back)) index)
    (before : index < front.length) : OccursAt pattern front index := by
  rw [OccursAt, List.drop_append_of_le_length (Nat.le_of_lt before)] at occurs
  by_cases inside : pattern.length ≤ (front.drop index).length
  · exact List.prefix_of_prefix_length_le occurs (List.prefix_append ..) inside
  · -- The rest of the pattern stands where the pattern itself begins.
    exfalso
    rcases occurs with ⟨rest, whole⟩
    have shift : front.length - index < pattern.length := by
      rw [List.length_drop] at inside
      omega
    have ending : pattern.drop (front.length - index) ++ rest = pattern ++ back := by
      have cut := congrArg (List.drop (front.length - index)) whole
      rw [List.drop_append_of_le_length (Nat.le_of_lt shift),
        List.drop_left' List.length_drop] at cut
      exact cut
    have tail : pattern.drop (front.length - index) <+: pattern ++ back := ⟨rest, ending⟩
    have shorter : (pattern.drop (front.length - index)).length ≤ pattern.length := by
      rw [List.length_drop]
      exact Nat.sub_le ..
    have border := List.prefix_of_prefix_length_le tail (List.prefix_append ..) shorter
    exact borderless _ shift (by omega) border

end OccursAt

/-- A pattern that stands somewhere stands somewhere first. -/
theorem OccursAt.exists_first (occurs : OccursAt pattern buffer index) :
    ∃ first, FirstAt pattern buffer first := by
  induction index using Nat.strongRecOn with
  | ind index induction =>
      by_cases earlier : ∃ before < index, OccursAt pattern buffer before
      · rcases earlier with ⟨before, less, other⟩
        exact induction before less other
      · exact ⟨index, occurs, fun before less other => earlier ⟨before, less, other⟩⟩

theorem FirstAt.unique {other : Nat} (first : FirstAt pattern buffer index)
    (same : FirstAt pattern buffer other) : index = other := by
  rcases Nat.lt_trichotomy index other with less | equal | greater
  · exact absurd first.occurs (same.first _ less)
  · exact equal
  · exact absurd same.occurs (first.first _ greater)

/-- In front of an occurrence, the first one is the first of the front, or else that one
itself. -/
theorem firstAt_before (borderless : Borderless pattern) (nonempty : pattern ≠ []) :
    FirstAt pattern (front ++ (pattern ++ back)) index ↔
      FirstAt pattern front index ∨
        (∀ earlier, ¬OccursAt pattern front earlier) ∧ index = front.length := by
  constructor
  · intro first
    rcases Nat.lt_trichotomy index front.length with before | rfl | after
    · refine .inl ⟨first.occurs.in_front borderless before, fun earlier less occurs => ?_⟩
      exact first.first earlier less (occurs.append nonempty)
    · refine .inr ⟨fun earlier occurs => ?_, rfl⟩
      have inside := occurs.inside nonempty
      have positive := List.length_pos_iff.mpr nonempty
      exact first.first earlier (by omega) (occurs.append nonempty)
    · exact absurd OccursAt.at_length (first.first _ after)
  · rintro (⟨occurs, first⟩ | ⟨absent, rfl⟩)
    · refine ⟨occurs.append nonempty, fun earlier less other => ?_⟩
      have inside := occurs.inside nonempty
      exact first earlier less (other.in_front borderless (by omega))
    · exact ⟨OccursAt.at_length, fun earlier less other =>
        absent earlier (other.in_front borderless less)⟩

/-! ## Scans over windows -/

theorem getElem_windows {size : Nat} (inRange : index < (windows size buffer).length) :
    (windows size buffer)[index] = buffer.extract index (index + size) := by
  simp [windows]

theorem getElem_windows_iff (nonempty : pattern ≠ [])
    (inRange : index < (windows pattern.length buffer).length) :
    (windows pattern.length buffer)[index] = pattern ↔ OccursAt pattern buffer index := by
  rw [getElem_windows, OccursAt.iff_extract nonempty]
  simp only [windows, List.length_map, List.length_range] at inRange
  have inside : index + pattern.length ≤ buffer.length := by omega
  simp only [inside, true_and]

theorem OccursAt.lt_windows (occurs : OccursAt pattern buffer index)
    (nonempty : pattern ≠ []) : index < (windows pattern.length buffer).length := by
  have inside := occurs.inside nonempty
  simp only [windows, List.length_map, List.length_range]
  omega

/-- The first window that is the pattern. -/
theorem findIdx?_windows_eq_some [BEq α] [LawfulBEq α] (nonempty : pattern ≠ []) :
    (windows pattern.length buffer).findIdx? (· == pattern) = some index ↔
      FirstAt pattern buffer index := by
  rw [List.findIdx?_eq_some_iff_getElem]
  simp only [beq_iff_eq]
  constructor
  · rintro ⟨inRange, equal, first⟩
    refine ⟨(getElem_windows_iff nonempty inRange).mp equal, fun earlier less occurs => ?_⟩
    have before := Nat.lt_trans less inRange
    exact first earlier less ((getElem_windows_iff nonempty before).mpr occurs)
  · rintro ⟨occurs, first⟩
    have inRange := occurs.lt_windows nonempty
    refine ⟨inRange, (getElem_windows_iff nonempty inRange).mpr occurs,
      fun earlier less equal => ?_⟩
    have before := Nat.lt_trans less inRange
    exact first earlier less ((getElem_windows_iff nonempty before).mp equal)

/-- A window that is the pattern, with its index. -/
theorem mem_zipIdx_windows (nonempty : pattern ≠ []) :
    (pattern, index) ∈ (windows pattern.length buffer).zipIdx ↔
      OccursAt pattern buffer index := by
  rw [List.mk_mem_zipIdx_iff_getElem?, List.getElem?_eq_some_iff]
  constructor
  · rintro ⟨inRange, equal⟩
    exact (getElem_windows_iff nonempty inRange).mp equal
  · intro occurs
    have inRange := occurs.lt_windows nonempty
    exact ⟨inRange, (getElem_windows_iff nonempty inRange).mpr occurs⟩

end Foundation
