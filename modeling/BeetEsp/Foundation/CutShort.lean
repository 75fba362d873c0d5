import BeetEsp.Foundation.ByteCursor

/-! # Input that is cut short

What readers do when the buffer ends inside the bytes they read: most of them fail, and
one that does not leaves the cursor with nothing left to read.
-/

namespace Foundation

/-- `isize::MAX` of a 32-bit target: no slice has more bytes. -/
def ISIZE_MAX : Nat := 2147483647

theorem fits_of_le_isize {length : Nat} (fits : length ≤ ISIZE_MAX) : length ≤ USIZE_MAX :=
  Nat.le_trans fits (by decide)

/-- Nothing is left to read. -/
def Cursor.Exhausted (cursor : Cursor) : Prop := cursor.buf.length ≤ cursor.pos

theorem Read.u8_exhausted {cursor : Cursor} (exhausted : cursor.Exhausted) :
    Read.u8 cursor = (none, cursor) := by
  rw [Read.u8, List.getElem?_eq_none exhausted]

section

variable {Value Result : Type} {read : Read Value} {next : Value → Read Result}
  {cursor after : Cursor}

theorem Read.bind_some {value : Value} (ran : read cursor = (some value, after)) :
    (read >>= next) cursor = next value after := by
  simp only [bind, ran]

theorem Read.bind_fails (ran : read cursor = (none, after)) :
    (read >>= next) cursor = (none, after) := by
  simp only [bind, ran]

theorem Read.bind_none (failed : (read cursor).1 = none) :
    ((read >>= next) cursor).1 = none := by
  rw [Read.bind_fails (Prod.ext failed rfl)]

end

theorem Read.bind_assoc {First Second Third : Type} (read : Read First)
    (next : First → Read Second) (last : Second → Read Third) :
    read >>= next >>= last = read >>= fun value => next value >>= last := by
  funext cursor
  rcases ran : read cursor with ⟨- | value, after⟩
  · rw [Read.bind_fails ran, Read.bind_fails (Read.bind_fails ran)]
  · rw [Read.bind_some ran]
    simp only [bind, ran]

/-- The reader fails when nothing is left. -/
def Needs {Value : Type} (read : Read Value) : Prop :=
  ∀ cursor : Cursor, cursor.Exhausted → (read cursor).1 = none

namespace Needs

variable {Value Result : Type}

theorem u8 : Needs Read.u8 := by
  intro cursor exhausted
  rw [Read.u8_exhausted exhausted]

theorem bind {read : Read Value} {next : Value → Read Result} (first : Needs read) :
    Needs (read >>= next) :=
  fun cursor exhausted => Read.bind_none (first cursor exhausted)

theorem u16 : Needs Read.u16 := u8.bind

end Needs

/-- The reader fails when the buffer ends inside these bytes. -/
def Starves {Value : Type} (read : Read Value) (bytes : List UInt8) : Prop :=
  ∀ (before : List UInt8) (length : Nat), length < bytes.length →
    (before ++ bytes.take length).length ≤ ISIZE_MAX →
    (read ⟨before ++ bytes.take length, before.length⟩).1 = none

/-- The reader has nothing left when the buffer ends inside these bytes. -/
def Exhausts {Value : Type} (read : Read Value) (bytes : List UInt8) : Prop :=
  ∀ (before : List UInt8) (length : Nat), length < bytes.length →
    (before ++ bytes.take length).length ≤ ISIZE_MAX →
    (read ⟨before ++ bytes.take length, before.length⟩).2.Exhausted

/-- A reader of the front bytes, run where the bytes of the back are cut short. -/
theorem Reads.run_front {Value : Type} {read : Read Value} {value : Value}
    {front back before : List UInt8} {length : Nat} (reads : Reads read value front)
    (inside : front.length ≤ length)
    (fits : (before ++ (front ++ back).take length).length ≤ ISIZE_MAX) :
    read ⟨before ++ (front ++ back).take length, before.length⟩ =
      (some value, ⟨before ++ front ++ back.take (length - front.length),
        (before ++ front).length⟩) := by
  have split : (front ++ back).take length = front ++ back.take (length - front.length) := by
    rw [List.take_append, List.take_of_length_le inside]
  rw [split] at fits ⊢
  rw [reads before _ (fits_of_le_isize fits), List.append_assoc, List.length_append]

namespace Starves

variable {Value Result : Type}

theorem nil {read : Read Value} : Starves read [] := by
  intro before length inside
  exact absurd inside (Nat.not_lt_zero length)

theorem u8 (byte : UInt8) : Starves Read.u8 [byte] := by
  intro before length inside _
  have none : length = 0 := Nat.lt_one_iff.mp inside
  rw [none, List.take_zero, List.append_nil]
  exact Needs.u8 _ (Nat.le_refl _)

theorem skip (bytes : List UInt8) : Starves (Read.skip bytes.length) bytes := by
  intro before length inside _
  have short : (before ++ bytes.take length).length < before.length + bytes.length := by
    rw [List.length_append, List.length_take]
    omega
  rw [Read.skip]
  split
  · rfl
  · simp only [if_pos short]

/-- Where the cut is in the second part, after the first is read. -/
theorem after_front {read : Read Value} {next : Value → Read Result} {value : Value}
    {front back : List UInt8} (reads : Reads read value front)
    (second : Starves (next value) back) (before : List UInt8) {length : Nat}
    (whole : front.length ≤ length) (inside : length < (front ++ back).length)
    (fits : (before ++ (front ++ back).take length).length ≤ ISIZE_MAX) :
    ((read >>= next) ⟨before ++ (front ++ back).take length, before.length⟩).1 = none := by
  have rest : length - front.length < back.length := by
    rw [List.length_append] at inside
    omega
  rw [Read.bind_some (reads.run_front whole fits)]
  refine second (before ++ front) (length - front.length) rest ?_
  rwa [List.take_append, List.take_of_length_le whole, ← List.append_assoc] at fits

theorem bind {read : Read Value} {next : Value → Read Result} {value : Value}
    {front back : List UInt8} (reads : Reads read value front) (first : Starves read front)
    (second : Starves (next value) back) : Starves (read >>= next) (front ++ back) := by
  intro before length inside fits
  by_cases early : length < front.length
  · rw [List.take_append_of_le_length (Nat.le_of_lt early)] at fits ⊢
    exact Read.bind_none (first before length early fits)
  · exact after_front reads second before (Nat.le_of_not_lt early) inside fits

/-- The same when the first reader does not fail, but the second needs input. -/
theorem bind_of_exhausts {read : Read Value} {next : Value → Read Result} {value : Value}
    {front back : List UInt8} (reads : Reads read value front) (first : Exhausts read front)
    (needs : ∀ value, Needs (next value)) (second : Starves (next value) back) :
    Starves (read >>= next) (front ++ back) := by
  intro before length inside fits
  by_cases early : length < front.length
  · rw [List.take_append_of_le_length (Nat.le_of_lt early)] at fits ⊢
    have exhausted := first before length early fits
    cases ran : read ⟨before ++ front.take length, before.length⟩ with
    | mk result after =>
        cases result with
        | none => exact Read.bind_none (by rw [ran])
        | some other =>
            rw [ran] at exhausted
            rw [Read.bind_some ran]
            exact needs other after exhausted
  · exact after_front reads second before (Nat.le_of_not_lt early) inside fits

theorem u16 (high low : UInt8) : Starves Read.u16 [high, low] :=
  bind (Reads.u8 high) (u8 high) (bind (Reads.u8 low) (u8 low) nil)

theorem u32 (first second third fourth : UInt8) :
    Starves Read.u32 [first, second, third, fourth] :=
  bind (Reads.u8 first) (u8 first) (bind (Reads.u8 second) (u8 second)
    (bind (Reads.u8 third) (u8 third) (bind (Reads.u8 fourth) (u8 fourth) nil)))

end Starves

/-! ## Sequences of encoded items -/

/-- The items whose encodings lie within the first bytes, in sequence. -/
def complete {Item : Type} (encode : Item → List UInt8) : Nat → List Item → List Item
  | _, [] => []
  | length, item :: items =>
      if (encode item).length ≤ length then
        item :: complete encode (length - (encode item).length) items
      else []

/-- An item is complete exactly when the encodings up to its own lie within the bytes. -/
theorem complete_split_iff {Item : Type} {encode : Item → List UInt8} {length : Nat}
    {items front : List Item} {item : Item} :
    (∃ back, complete encode length items = front ++ item :: back) ↔
      (∃ back, items = front ++ item :: back) ∧
        ((front ++ [item]).flatMap encode).length ≤ length := by
  induction front generalizing length items with
  | nil =>
      cases items with
      | nil => simp [complete]
      | cons head tail =>
          rw [complete]
          split
          case isTrue fits =>
            simp only [List.nil_append, List.cons.injEq, List.flatMap_singleton]
            constructor
            · intro found
              rcases found with ⟨back, rfl, -⟩
              exact ⟨⟨tail, rfl, rfl⟩, fits⟩
            · intro found
              rcases found with ⟨⟨back, rfl, -⟩, -⟩
              exact ⟨_, rfl, rfl⟩
          case isFalse beyond =>
            simp only [List.nil_append, List.cons.injEq, List.flatMap_singleton]
            constructor
            · intro found
              rcases found with ⟨back, none⟩
              cases none
            · intro found
              rcases found with ⟨⟨back, rfl, -⟩, fits⟩
              exact absurd fits beyond
  | cons first front induction =>
      cases items with
      | nil => simp [complete]
      | cons head tail =>
          rw [complete]
          split
          case isTrue fits =>
            simp only [List.cons_append, List.cons.injEq, List.flatMap_cons,
              List.length_append]
            constructor
            · intro found
              rcases found with ⟨back, rfl, rest⟩
              rcases induction.mp ⟨back, rest⟩ with ⟨⟨after, split⟩, inside⟩
              exact ⟨⟨after, rfl, split⟩, by omega⟩
            · intro found
              rcases found with ⟨⟨back, rfl, rest⟩, inside⟩
              have within : ((front ++ [item]).flatMap encode).length ≤
                  length - (encode head).length := by omega
              rcases induction.mpr ⟨⟨back, rest⟩, within⟩ with ⟨after, split⟩
              exact ⟨after, rfl, split⟩
          case isFalse beyond =>
            simp only [List.cons_append, List.cons.injEq, List.flatMap_cons,
              List.length_append]
            constructor
            · intro found
              rcases found with ⟨back, none⟩
              cases none
            · intro found
              rcases found with ⟨⟨back, rfl, rest⟩, inside⟩
              omega

/-- In a packet that may end anywhere after some front part, the complete items are those
up to which the packet has everything. -/
theorem complete_prefix_iff {Item : Type} {encode : Item → List UInt8}
    {packet front rest : List UInt8} {items before : List Item} {item : Item}
    (cut : packet <+: front ++ (items.flatMap encode ++ rest))
    (fronted : front.length ≤ packet.length) :
    (∃ back, complete encode (packet.length - front.length) items =
        before ++ item :: back) ↔
      (∃ back, items = before ++ item :: back) ∧
        front ++ (before ++ [item]).flatMap encode <+: packet := by
  rw [complete_split_iff]
  refine and_congr_right ?_
  intro split
  rcases split with ⟨back, rfl⟩
  have inWhole : front ++ (before ++ [item]).flatMap encode <+:
      front ++ ((before ++ item :: back).flatMap encode ++ rest) := by
    refine ⟨back.flatMap encode ++ rest, ?_⟩
    simp
  constructor
  · intro within
    refine List.prefix_of_prefix_length_le inWhole cut ?_
    rw [List.length_append]
    omega
  · intro present
    have length := present.length_le
    rw [List.length_append] at length
    omega

theorem mem_take_iff {Item : Type} {items : List Item} {item : Item} {count : Nat} :
    item ∈ items.take count ↔
      ∃ before back, items = before ++ item :: back ∧ before.length < count := by
  constructor
  · intro member
    rcases List.append_of_mem member with ⟨before, back, split⟩
    refine ⟨before, back ++ items.drop count, ?_, ?_⟩
    · rw [← List.cons_append, ← List.append_assoc, ← split, List.take_append_drop]
    · have length := congrArg List.length split
      rw [List.length_append, List.length_cons, List.length_take] at length
      omega
  · intro found
    rcases found with ⟨before, back, rfl, early⟩
    have split : count = before.length + (count - before.length - 1 + 1) := by omega
    rw [split, List.take_length_add_append, List.take_succ_cons]
    exact List.mem_append_right _ List.mem_cons_self

end Foundation
