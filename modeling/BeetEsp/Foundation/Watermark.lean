import Mathlib.Logic.Function.Basic
import Mathlib.Order.Basic

/-! # Watermarks

A row of cells that all hold a sentinel is written to, and the number of cells that still
hold it in front tells how far the writes have come. A write of the sentinel itself leaves
no trace: it hides the write where everything in front is a sentinel as well.
-/

namespace Foundation

variable {Value : Type} [DecidableEq Value] {sentinel : Value} {cells : Nat → Value}
  {count index : Nat}

/-- How many of the cells hold the sentinel before the first that does not. -/
def watermark (sentinel : Value) : (Nat → Value) → Nat → Nat
  | _, 0 => 0
  | cells, count + 1 =>
      if cells 0 = sentinel then watermark sentinel (fun index => cells (index + 1)) count + 1
      else 0

theorem le_watermark_iff :
    index ≤ watermark sentinel cells count ↔
      index ≤ count ∧ ∀ earlier < index, cells earlier = sentinel := by
  induction count generalizing cells index with
  | zero =>
      constructor
      · intro none
        refine ⟨none, fun earlier less => ?_⟩
        exact absurd (Nat.lt_of_lt_of_le less none) (Nat.not_lt_zero earlier)
      · exact fun within => within.1
  | succ count induction =>
      cases index with
      | zero => simp
      | succ index =>
          rw [watermark]
          split
          case isTrue first =>
            rw [Nat.add_le_add_iff_right, induction, Nat.add_le_add_iff_right]
            refine and_congr_right fun _ => ⟨fun rest => ?_, fun all earlier less => ?_⟩
            · rintro (- | earlier) less
              · exact first
              · exact rest earlier (Nat.lt_of_succ_lt_succ less)
            · exact all (earlier + 1) (Nat.succ_lt_succ less)
          case isFalse other =>
            constructor
            · exact fun none => absurd none (Nat.not_succ_le_zero index)
            · exact fun all => absurd (all.2 0 (Nat.succ_pos index)) other

/-- A write that leaves no trace: it is of the sentinel, and everything in front holds
the sentinel. -/
def Hidden (sentinel : Value) (cells : Nat → Value) (index : Nat) (value : Value) : Prop :=
  value = sentinel ∧ ∀ earlier < index, cells earlier = sentinel

section

variable {value : Value}

theorem watermark_update_le_iff (inside : index < count) :
    watermark sentinel (Function.update cells index value) count ≤ index ↔
      ¬Hidden sentinel cells index value := by
  rw [← Nat.not_lt, ← Nat.succ_le_iff, le_watermark_iff, not_iff_not]
  constructor
  · intro past
    constructor
    · have written := past.2 index (Nat.lt_succ_self index)
      rwa [Function.update_self] at written
    · intro earlier less
      have held := past.2 earlier (Nat.lt_succ_of_lt less)
      rwa [Function.update_of_ne (Nat.ne_of_lt less)] at held
  · intro hidden
    refine ⟨inside, fun earlier less => ?_⟩
    rcases Nat.lt_succ_iff_lt_or_eq.mp less with before | rfl
    · rw [Function.update_of_ne (Nat.ne_of_lt before)]
      exact hidden.2 earlier before
    · rw [Function.update_self]
      exact hidden.1

/-- A write that is not hidden never raises the watermark. -/
theorem watermark_update_le (visible : ¬Hidden sentinel cells index value) :
    watermark sentinel (Function.update cells index value) count ≤
      watermark sentinel cells count := by
  have reach := le_watermark_iff.mp
    (Nat.le_refl (watermark sentinel (Function.update cells index value) count))
  refine le_watermark_iff.mpr ⟨reach.1, fun earlier less => ?_⟩
  by_cases here : earlier = index
  · subst here
    have inside : earlier < count := Nat.lt_of_lt_of_le less reach.1
    have before := (watermark_update_le_iff inside).mpr visible
    exact absurd less (Nat.not_lt.mpr before)
  · have held := reach.2 earlier less
    rwa [Function.update_of_ne here] at held

/-- What lies behind the cells has no part in it. -/
theorem watermark_congr {other : Nat → Value} (same : ∀ index < count, cells index = other index) :
    watermark sentinel cells count = watermark sentinel other count := by
  induction count generalizing cells other with
  | zero => rfl
  | succ count induction =>
      have rest := induction fun index less => same (index + 1) (Nat.succ_lt_succ less)
      simp only [watermark, same 0 (Nat.succ_pos count), rest]

end

end Foundation
