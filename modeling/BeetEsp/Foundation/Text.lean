import Mathlib.Data.List.Basic

/-! # Reading numbers and separators out of a text

A text is split at the last occurrence of a separator, and an unsigned number is read from
its decimal digits.
-/

namespace Foundation

/-! ## The last separator -/

section

variable {Symbol : Type u} [DecidableEq Symbol]

/-- What is in front of the last `separator`, and what is behind it. -/
def rsplitOnce (separator : Symbol) : List Symbol → Option (List Symbol × List Symbol)
  | [] => none
  | symbol :: rest =>
      match rsplitOnce separator rest with
      | some (front, back) => some (symbol :: front, back)
      | none => if symbol = separator then some ([], rest) else none

variable {separator : Symbol}

theorem rsplitOnce_eq_none_iff {text : List Symbol} :
    rsplitOnce separator text = none ↔ separator ∉ text := by
  induction text with
  | nil => simp [rsplitOnce]
  | cons symbol rest induction =>
      rw [rsplitOnce]
      cases split : rsplitOnce separator rest with
      | some parts =>
          have present : separator ∈ rest := by
            by_contra absent
            rw [induction.mpr absent] at split
            cases split
          simp [present]
      | none =>
          have absent := induction.mp split
          by_cases same : symbol = separator
          · simp [same]
          · simp [same, Ne.symm same, absent]

theorem rsplitOnce_eq_some_iff {text front back : List Symbol} :
    rsplitOnce separator text = some (front, back) ↔
      text = front ++ separator :: back ∧ separator ∉ back := by
  induction text generalizing front back with
  | nil => simp [rsplitOnce]
  | cons symbol rest induction =>
      rw [rsplitOnce]
      cases split : rsplitOnce separator rest with
      | some parts =>
          rcases parts with ⟨front', back'⟩
          rcases induction.mp split with ⟨rfl, absent⟩
          constructor
          · intro equal
            cases equal
            exact ⟨rfl, absent⟩
          · rintro ⟨equal, absent'⟩
            cases front with
            | nil =>
                rw [List.nil_append, List.cons.injEq] at equal
                exact absurd (equal.2 ▸ by simp) absent'
            | cons first front =>
                rw [List.cons_append, List.cons.injEq] at equal
                rcases equal with ⟨rfl, tail⟩
                cases split.symm.trans (induction.mpr ⟨tail, absent'⟩)
                rfl
      | none =>
          have absent := rsplitOnce_eq_none_iff.mp split
          change (if symbol = separator then some ([], rest) else none) = some (front, back) ↔ _
          constructor
          · intro equal
            by_cases same : symbol = separator
            · rw [if_pos same] at equal
              cases equal
              exact ⟨by rw [same, List.nil_append], absent⟩
            · rw [if_neg same] at equal
              cases equal
          · rintro ⟨equal, -⟩
            cases front with
            | nil =>
                rw [List.nil_append, List.cons.injEq] at equal
                rw [if_pos equal.1, equal.2]
            | cons first front =>
                rw [List.cons_append, List.cons.injEq] at equal
                exact absurd (equal.2 ▸ by simp) absent

end

/-! ## Unsigned numbers -/

/-- The value of `value` followed by these digits, while it stays below `bound`. -/
def accumulate (bound : Nat) : Nat → List Char → Option Nat
  | value, [] => some value
  | value, digit :: digits =>
      let next := 10 * value + (digit.toNat - '0'.toNat)
      if digit.isDigit ∧ next < bound then accumulate bound next digits else none

/-- `str::parse` of an unsigned integer with `bound` values: digits after at most one
`+`. -/
def parseUnsigned (bound : Nat) : List Char → Option Nat
  | [] | ['+'] | ['-'] => none
  | '+' :: digits => accumulate bound 0 digits
  | digits => accumulate bound 0 digits

theorem le_ofDigitChars (digits : List Char) (value : Nat) :
    value ≤ Nat.ofDigitChars 10 digits value := by
  induction digits generalizing value with
  | nil => simp
  | cons digit digits induction =>
      rw [Nat.ofDigitChars_cons]
      exact Nat.le_trans (by omega) (induction _)

theorem accumulate_eq_some_iff {bound value result : Nat} {digits : List Char}
    (small : value < bound) :
    accumulate bound value digits = some result ↔
      (∀ digit ∈ digits, digit.isDigit = true) ∧
        Nat.ofDigitChars 10 digits value = result ∧ result < bound := by
  induction digits generalizing value with
  | nil =>
      simp only [accumulate, Option.some.injEq, Nat.ofDigitChars_nil]
      constructor
      · rintro rfl
        exact ⟨by simp, rfl, small⟩
      · exact fun read => read.2.1
  | cons digit digits induction =>
      simp only [accumulate, Nat.ofDigitChars_cons, List.forall_mem_cons]
      split
      case isTrue fits =>
        rw [induction fits.2]
        simp [fits.1]
      case isFalse overflows =>
        constructor
        · nofun
        · rintro ⟨⟨isDigit, -⟩, rfl, below⟩
          exact absurd ⟨isDigit, Nat.lt_of_le_of_lt (le_ofDigitChars _ _) below⟩ overflows

/-- The texts that are read, and what is read from them. -/
theorem parseUnsigned_eq_some_iff {bound result : Nat} {text : List Char}
    (positive : 0 < bound) :
    parseUnsigned bound text = some result ↔
      ∃ digits, (text = digits ∨ text = '+' :: digits) ∧ digits ≠ [] ∧
        (∀ digit ∈ digits, digit.isDigit = true) ∧
        Nat.ofDigitChars 10 digits 0 = result ∧ result < bound := by
  have plus : '+'.isDigit = false := by decide
  have minus : '-'.isDigit = false := by decide
  rw [parseUnsigned.eq_def]
  split
  · simp
  · simp [plus]
  · simp [minus]
  · rename_i digits someDigits
    rw [accumulate_eq_some_iff positive]
    constructor
    · rintro ⟨allDigits, value, below⟩
      exact ⟨digits, .inr rfl, fun none => someDigits (by rw [none]), allDigits, value, below⟩
    · rintro ⟨digits', rfl | equal, -, allDigits, value, below⟩
      · exact absurd (allDigits '+' List.mem_cons_self) (by simp [plus])
      · cases equal
        exact ⟨allDigits, value, below⟩
  · rename_i nonempty _ _ unsigned
    rw [accumulate_eq_some_iff positive]
    constructor
    · rintro ⟨allDigits, value, below⟩
      exact ⟨text, .inl rfl, nonempty, allDigits, value, below⟩
    · rintro ⟨digits, rfl | rfl, -, allDigits, value, below⟩
      · exact ⟨allDigits, value, below⟩
      · exact absurd rfl (unsigned digits)

end Foundation
