import Mathlib.Data.List.Nodup
import Mathlib.Data.List.Perm.Subperm

/-! # Pools with a fixed number of slots

A pool hands out a slot while one is free, and slots come back in any order. It
never holds more than its capacity; what is to be shown of its users is that none
of them asks when all slots are taken.
-/

namespace Foundation

structure SlotPool (Holder : Type u) (capacity : Nat) where
  holders : List Holder
  bounded : holders.length ≤ capacity

variable {Holder : Type u} {capacity : Nat}

namespace SlotPool

/-- Take a slot, if one is free. -/
def take (pool : SlotPool Holder capacity) (holder : Holder) :
    Option (SlotPool Holder capacity) :=
  if room : pool.holders.length < capacity then
    some {
      holders := pool.holders ++ [holder]
      bounded := by
        rw [List.length_append]
        exact room }
  else
    none

/-- Free the slots of these holders. -/
def release (pool : SlotPool Holder capacity) (gone : Holder → Bool) :
    SlotPool Holder capacity where
  holders := pool.holders.filter fun holder => !gone holder
  bounded := Nat.le_trans (List.length_filter_le _ _) pool.bounded

theorem take_eq_none {pool : SlotPool Holder capacity} {holder : Holder} :
    pool.take holder = none ↔ capacity ≤ pool.holders.length := by
  rw [take]
  split
  case isTrue room => exact iff_of_false (by simp) (Nat.not_le.mpr room)
  case isFalse full => exact iff_of_true rfl (Nat.le_of_not_lt full)

theorem take_eq_some {pool next : SlotPool Holder capacity} {holder : Holder}
    (taken : pool.take holder = some next) :
    pool.holders.length < capacity ∧ next.holders = pool.holders ++ [holder] := by
  rw [take] at taken
  split at taken
  case isTrue room =>
    cases taken
    exact ⟨room, rfl⟩
  case isFalse => cases taken

theorem mem_release {pool : SlotPool Holder capacity} {gone : Holder → Bool}
    {holder : Holder} :
    holder ∈ (pool.release gone).holders ↔ holder ∈ pool.holders ∧ gone holder = false := by
  simp [release]

/-- A slot that is freed can be taken again. -/
theorem take_release {pool : SlotPool Holder capacity} {holder : Holder}
    (held : holder ∈ pool.holders) (gone : Holder → Bool) (freed : gone holder = true)
    (other : Holder) : ∃ next, (pool.release gone).take other = some next := by
  rw [← Option.ne_none_iff_exists', Ne, take_eq_none, Nat.not_le]
  apply Nat.lt_of_lt_of_le _ pool.bounded
  exact List.length_filter_lt_length_iff_exists.mpr ⟨holder, held, by simp [freed]⟩

/-! ## Populations -/

/-- How many of the slots are held by one kind of holder. -/
def population (pool : SlotPool Holder capacity) (kind : Holder → Bool) : Nat :=
  pool.holders.countP kind

theorem population_take {pool next : SlotPool Holder capacity} {holder : Holder}
    (taken : pool.take holder = some next) (kind : Holder → Bool) :
    next.population kind = pool.population kind + if kind holder then 1 else 0 := by
  rw [population, (take_eq_some taken).2, List.countP_append, List.countP_singleton,
    population]

/-- Freeing the slots of others leaves a population as it is. -/
theorem population_release {pool : SlotPool Holder capacity} {gone kind : Holder → Bool}
    (others : ∀ holder, kind holder = true → gone holder = false) :
    (pool.release gone).population kind = pool.population kind := by
  rw [population, release, List.countP_filter, population]
  apply List.countP_congr
  intro holder member
  cases counted : kind holder with
  | true => simp [others holder counted]
  | false => simp

end SlotPool

/-- Holders that each need an entry of their own are no more than the entries. -/
theorem countP_le_countP_of_map {Entry : Type v} {holders : List Holder}
    {entries : List Entry} (once : holders.Nodup) {kind : Holder → Bool}
    {entryKind : Entry → Bool} (entry : Holder → Entry)
    (own : ∀ {first second}, kind first = true → kind second = true →
      entry first = entry second → first = second)
    (needs : ∀ holder ∈ holders, kind holder = true →
      entry holder ∈ entries ∧ entryKind (entry holder) = true) :
    holders.countP kind ≤ entries.countP entryKind := by
  have apart : ((holders.filter kind).map entry).Nodup := by
    apply (once.filter kind).map_on
    intro first member second member' same
    exact own (List.mem_filter.mp member).2 (List.mem_filter.mp member').2 same
  have inside : (holders.filter kind).map entry ⊆ entries.filter entryKind := by
    intro found mapped
    rcases List.mem_map.mp mapped with ⟨holder, filtered, rfl⟩
    rcases List.mem_filter.mp filtered with ⟨member, counted⟩
    exact List.mem_filter.mpr (needs holder member counted)
  have fewer := (apart.subperm inside).length_le
  rwa [List.length_map, ← List.countP_eq_length_filter, ← List.countP_eq_length_filter] at fewer

end Foundation
