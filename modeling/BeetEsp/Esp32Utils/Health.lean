import BeetEsp.Foundation.Machine
import BeetEsp.Foundation.Watermark
import Mathlib.Algebra.Group.Nat.Defs

/-! # The stack watermark

`paint_stack` fills the free part of the stack with a sentinel once, and `stack_usage`
takes the first word from below that is not the sentinel for the deepest the stack ever
reached. In between the words of the stack are written to in any order, with any values.
-/

namespace BeetEsp.Esp32Utils

open Foundation

namespace Health

def SENTINEL : UInt32 := 0x5A5A5A5A

def GUARD_GAP : Nat := 256

def PAINT_MARGIN : Nat := 1024

/-- `& !3` -/
def align (address : Nat) : Nat := address / 4 * 4

/-- The words of the memory, by their addresses. -/
abbrev Memory := Nat → UInt32

/-- The stack as the linker places it: no sum of the code leaves the address space. -/
structure Region where
  lo : Nat
  hi : Nat
  addressable : max lo hi + GUARD_GAP + 3 < 2 ^ 32

namespace Region

/-- Where both the paint and the scan start. -/
def scanLo (region : Region) : Nat := align (region.lo + GUARD_GAP + 3)

/-- How many words there are from there to the end. -/
def words (region : Region) : Nat := (region.hi - region.scanLo + 3) / 4

end Region

def paint (mem : Memory) (p : Nat) : Nat → Memory
  | 0 => mem
  | words + 1 => paint (Function.update mem p SENTINEL) (p + 4) words

/-- With the address of a local of `paint_stack` as the stack pointer. -/
def paintStack (region : Region) (sp : Nat) (mem : Memory) : Memory :=
  let hi := align (sp - PAINT_MARGIN)
  if hi ≤ region.scanLo then mem
  else paint mem region.scanLo ((hi - region.scanLo) / 4)

/-- The bytes that are `untouched`, from `p` on. -/
def scan (mem : Memory) (p : Nat) : Nat → Nat
  | 0 => 0
  | words + 1 => if mem p ≠ SENTINEL then 0 else scan mem (p + 4) words + 4

structure StackUsage where
  total : Nat
  peakUsed : Nat
  headroom : Nat
  deriving DecidableEq

def Region.peakSp (region : Region) (mem : Memory) : Nat :=
  region.scanLo + scan mem region.scanLo region.words

def stackUsage (region : Region) (mem : Memory) : StackUsage where
  total := region.hi - region.lo
  peakUsed := region.hi - region.peakSp mem
  headroom := region.peakSp mem - region.lo

structure Write where
  address : Nat
  aligned : address % 4 = 0
  value : UInt32

/-- A word that was written, with what `stack_usage` would have told just before. -/
structure Written where
  address : Nat
  before : StackUsage

/-- The stack after it has been painted. -/
def stack (region : Region) (sp : Nat) (boot : Memory) : Machine Memory Write Written where
  initial := paintStack region sp boot
  step := fun mem write =>
    some (Function.update mem write.address write.value,
      [⟨write.address, stackUsage region mem⟩])

/-! ## The words of the scan -/

namespace Region

variable (region : Region)

theorem scanLo_aligned : region.scanLo % 4 = 0 := by
  rw [scanLo, align]
  omega

theorem lo_le_scanLo : region.lo ≤ region.scanLo := by
  rw [scanLo, align, GUARD_GAP]
  omega

/-- The word of this index, counted from where the scan starts. -/
def cell (mem : Memory) (index : Nat) : UInt32 := mem (region.scanLo + 4 * index)

end Region

theorem scan_eq_watermark (mem : Memory) (p words : Nat) :
    scan mem p words = 4 * watermark SENTINEL (fun index => mem (p + 4 * index)) words := by
  induction words generalizing p with
  | zero => rfl
  | succ words induction =>
      have shift : (fun index => mem (p + 4 * (index + 1))) =
          fun index => mem (p + 4 + 4 * index) := by
        funext index
        congr 1
        omega
      simp only [scan, watermark, shift, induction, Nat.mul_zero, Nat.add_zero, ite_not]
      by_cases untouched : mem p = SENTINEL
      · rw [if_pos untouched, if_pos untouched, Nat.mul_succ]
      · rw [if_neg untouched, if_neg untouched]

theorem peakSp_eq (region : Region) (mem : Memory) :
    region.peakSp mem =
      region.scanLo + 4 * watermark SENTINEL (region.cell mem) region.words := by
  rw [Region.peakSp, scan_eq_watermark]
  rfl

/-- An aligned address of the scan is one of its words. -/
theorem exists_cell {region : Region} {address : Nat} (aligned : address % 4 = 0)
    (above : region.scanLo ≤ address) : ∃ index, address = region.scanLo + 4 * index := by
  have start := region.scanLo_aligned
  exact ⟨(address - region.scanLo) / 4, by omega⟩

theorem lt_words_iff {region : Region} {index : Nat} :
    index < region.words ↔ region.scanLo + 4 * index < region.hi := by
  rw [Region.words]
  omega

theorem cell_update {region : Region} {mem : Memory} {index : Nat} {value : UInt32} :
    region.cell (Function.update mem (region.scanLo + 4 * index) value) =
      Function.update (region.cell mem) index value := by
  funext other
  by_cases here : other = index
  · subst here
    simp only [Region.cell, Function.update_self]
  · have apart : region.scanLo + 4 * other ≠ region.scanLo + 4 * index := by omega
    simp only [Region.cell, Function.update_of_ne here, Function.update_of_ne apart]

/-- No sum of the scan leaves the address space. -/
theorem peakSp_lt (region : Region) (mem : Memory) : region.peakSp mem < 2 ^ 32 := by
  have within := (le_watermark_iff.mp (Nat.le_refl
    (watermark SENTINEL (region.cell mem) region.words))).1
  have room := region.addressable
  rw [peakSp_eq]
  simp only [Region.words, Region.scanLo, align, GUARD_GAP] at within room ⊢
  omega

/-! ## The paint -/

theorem paint_apply (mem : Memory) (p words address : Nat) :
    paint mem p words address =
      if ∃ index < words, address = p + 4 * index then SENTINEL else mem address := by
  induction words generalizing mem p with
  | zero => simp [paint]
  | succ words induction =>
      rw [paint, induction]
      by_cases later : ∃ index < words, address = p + 4 + 4 * index
      · rcases later with ⟨index, less, rfl⟩
        rw [if_pos ⟨index, less, rfl⟩, if_pos ⟨index + 1, by omega, by omega⟩]
      · rw [if_neg later]
        by_cases first : address = p
        · subst first
          rw [Function.update_self, if_pos ⟨0, Nat.succ_pos words, rfl⟩]
        · rw [Function.update_of_ne first, if_neg]
          rintro ⟨- | index, less, equal⟩
          · exact first equal
          · exact later ⟨index, by omega, by omega⟩

/-- Straight after the paint all of it counts as free. -/
theorem paint_le_peakSp (region : Region) (boot : Memory) {sp : Nat}
    (inside : align (sp - PAINT_MARGIN) ≤ region.hi) :
    align (sp - PAINT_MARGIN) ≤ region.peakSp (paintStack region sp boot) := by
  rw [paintStack]
  by_cases none : align (sp - PAINT_MARGIN) ≤ region.scanLo
  · exact Nat.le_trans none (Nat.le_add_right _ _)
  · simp only [if_neg none]
    have start := region.scanLo_aligned
    have stop : align (sp - PAINT_MARGIN) % 4 = 0 := by
      rw [align]
      omega
    have reach : (align (sp - PAINT_MARGIN) - region.scanLo) / 4 ≤
        watermark SENTINEL (region.cell (paint boot region.scanLo
          ((align (sp - PAINT_MARGIN) - region.scanLo) / 4))) region.words := by
      refine le_watermark_iff.mpr ⟨?_, fun index less => ?_⟩
      · rw [Region.words]
        omega
      · rw [Region.cell, paint_apply, if_pos ⟨index, less, rfl⟩]
    rw [peakSp_eq]
    omega

/-! ## Writes -/

/-- A write of the sentinel to a word of the scan with nothing but sentinels below. -/
structure Hides (region : Region) (mem : Memory) (write : Write) : Prop where
  sentinel : write.value = SENTINEL
  above : region.scanLo ≤ write.address
  inside : write.address < region.hi
  below : ∀ address, region.scanLo ≤ address → address < write.address → address % 4 = 0 →
    mem address = SENTINEL

theorem hides_iff {region : Region} {mem : Memory} {write : Write} {index : Nat}
    (place : write.address = region.scanLo + 4 * index) (inside : write.address < region.hi) :
    Hides region mem write ↔ Hidden SENTINEL (region.cell mem) index write.value := by
  constructor
  · intro hides
    refine ⟨hides.sentinel, fun earlier less => ?_⟩
    have start := region.scanLo_aligned
    exact hides.below _ (Nat.le_add_right _ _) (by omega) (by omega)
  · intro hidden
    refine ⟨hidden.1, place ▸ Nat.le_add_right _ _, inside, fun address above less aligned => ?_⟩
    rcases exists_cell aligned above with ⟨earlier, rfl⟩
    exact hidden.2 earlier (by omega)

section

variable {region : Region} {mem : Memory} {write : Write}

/-- After a write to a word of the scan, the stack reaches down to it unless the write is
hidden. -/
theorem peakSp_update_le_address (above : region.scanLo ≤ write.address)
    (inside : write.address < region.hi) :
    region.peakSp (Function.update mem write.address write.value) ≤ write.address ↔
      ¬Hides region mem write := by
  rcases exists_cell write.aligned above with ⟨index, place⟩
  rw [hides_iff place inside, place, peakSp_eq, cell_update]
  have within : index < region.words := lt_words_iff.mpr (place ▸ inside)
  rw [← watermark_update_le_iff within]
  omega

/-- A write that is not hidden never takes back what the stack has reached. -/
theorem peakSp_update_le (visible : ¬Hides region mem write) :
    region.peakSp (Function.update mem write.address write.value) ≤ region.peakSp mem := by
  rw [peakSp_eq, peakSp_eq]
  apply Nat.add_le_add_left (Nat.mul_le_mul_left 4 ?_)
  by_cases above : region.scanLo ≤ write.address
  · rcases exists_cell write.aligned above with ⟨index, place⟩
    rw [place, cell_update]
    by_cases inside : write.address < region.hi
    · exact watermark_update_le ((hides_iff place inside).not.mp visible)
    · apply Nat.le_of_eq (watermark_congr fun other less => ?_)
      have before := lt_words_iff.mp less
      exact Function.update_of_ne (by omega) _ _
  · apply Nat.le_of_eq (congrArg (watermark SENTINEL · region.words) ?_)
    funext other
    exact Function.update_of_ne (by omega) _ _

end

/-! ## Runs -/

/-- The report covers every word of the scan that was written, and never told of more
before. -/
structure Sound (region : Region) (mem : Memory) (history : List Written) : Prop where
  covers : ∀ written ∈ history, region.scanLo ≤ written.address →
    written.address < region.hi →
    region.hi - written.address ≤ (stackUsage region mem).peakUsed ∧
      (stackUsage region mem).headroom ≤ written.address - region.lo
  grows : ∀ written ∈ history,
    written.before.peakUsed ≤ (stackUsage region mem).peakUsed

theorem covers_iff {region : Region} {mem : Memory} {address : Nat}
    (above : region.scanLo ≤ address) (inside : address < region.hi) :
    (region.hi - address ≤ (stackUsage region mem).peakUsed ∧
        (stackUsage region mem).headroom ≤ address - region.lo) ↔
      region.peakSp mem ≤ address := by
  have low := region.lo_le_scanLo
  simp only [stackUsage]
  omega

theorem sound_step_iff {region : Region} {mem : Memory} {history : List Written}
    (holds : Sound region mem history) (write : Write) :
    Sound region (Function.update mem write.address write.value)
        (history ++ [⟨write.address, stackUsage region mem⟩]) ↔
      ¬Hides region mem write := by
  constructor
  · intro next hides
    have last := next.covers ⟨write.address, stackUsage region mem⟩ (by simp) hides.above
      hides.inside
    rw [covers_iff hides.above hides.inside,
      peakSp_update_le_address hides.above hides.inside] at last
    exact last hides
  · intro visible
    have down := peakSp_update_le visible
    have used : (stackUsage region mem).peakUsed ≤ (stackUsage region
        (Function.update mem write.address write.value)).peakUsed :=
      Nat.sub_le_sub_left down region.hi
    constructor
    · intro written member above inside
      rw [covers_iff above inside]
      rcases List.mem_append.mp member with earlier | here
      · have covered := holds.covers written earlier above inside
        rw [covers_iff above inside] at covered
        exact Nat.le_trans down covered
      · cases List.mem_singleton.mp here
        exact (peakSp_update_le_address above inside).mpr visible
    · intro written member
      rcases List.mem_append.mp member with earlier | here
      · exact Nat.le_trans (holds.grows written earlier) used
      · cases List.mem_singleton.mp here
        exact used

theorem stack_runs (region : Region) (sp : Nat) (boot : Memory) (writes : List Write) :
    ∃ mem history, (stack region sp boot).run writes = some (mem, history) :=
  Machine.run_of_enabled (fun _ => True) (fun _ _ => ⟨_, _, rfl⟩) writes (fun _ _ => trivial)

/-- From the paint on, the report is sound all along a history of writes exactly if no
write is hidden. -/
theorem sound_iff_unhidden (region : Region) (sp : Nat) (boot : Memory)
    (writes : List Write) :
    (stack region sp boot).AlwaysAlong (Sound region) writes ↔
      (stack region sp boot).Meets (fun mem write => ¬Hides region mem write) writes := by
  rcases stack_runs region sp boot writes with ⟨mem, history, ran⟩
  refine (stack region sp boot).always_iff_meets ?start ?exact ran
  case start => exact ⟨by simp [stack], by simp [stack]⟩
  case exact =>
    intro mem history write next events _ holds stepped
    cases stepped
    exact sound_step_iff holds write

/-! ### A word that is written twice -/

/-- With sixteen words to paint. -/
def smallStack : Region := ⟨4096, 5440, by decide⟩

/-- The same word, first with another value and then with the sentinel. -/
def rewritten : List Write := [⟨4384, by decide, 1⟩, ⟨4384, by decide, SENTINEL⟩]

/-- The report falls back from 1056 to 1024 bytes. -/
theorem rewritten_is_forgotten :
    (∃ mem first second, (stack smallStack 5440 fun _ => 0).run rewritten =
        some (mem, [first, second]) ∧
      second.before.peakUsed = 1056 ∧ (stackUsage smallStack mem).peakUsed = 1024) ∧
      ¬(stack smallStack 5440 fun _ => 0).AlwaysAlong (Sound smallStack) rewritten := by
  have reported : ∃ mem first second, (stack smallStack 5440 fun _ => 0).run rewritten =
        some (mem, [first, second]) ∧
      second.before.peakUsed = 1056 ∧ (stackUsage smallStack mem).peakUsed = 1024 :=
    ⟨_, _, _, rfl, by decide +kernel, by decide +kernel⟩
  refine ⟨reported, fun always => ?_⟩
  rcases reported with ⟨mem, first, second, ran, before, after⟩
  have grown := (always rewritten [] rfl mem _ ran).grows second (by simp)
  rw [before, after] at grown
  exact absurd grown (by decide)

end Health

end BeetEsp.Esp32Utils
