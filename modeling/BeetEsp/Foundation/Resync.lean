import Mathlib.Data.List.Basic

/-! # Resynchronising scanners

A recognizer looks at the front of a stream and either accepts an item of some
size there, rejects the first symbol, or is starved: it cannot tell before more
symbols arrive. Scanning drops one symbol at each rejection and a whole item at
each acceptance. A verdict other than starvation is final, so a scanner that
buffers what it has not consumed yet emits the same items however its stream is
cut into chunks.
-/

namespace Foundation

inductive Verdict (Item : Type v)
  | starved
  | reject
  | accept (item : Item) (size : Nat)

structure Recognizer (Symbol : Type u) (Item : Type v) where
  judge : List Symbol → Verdict Item
  judge_nil : judge [] = .starved
  accepted_size : ∀ {input item size}, judge input = .accept item size →
    0 < size ∧ size ≤ input.length
  settled : ∀ {input}, judge input ≠ .starved →
    ∀ more, judge (input ++ more) = judge input

namespace Recognizer

variable {Symbol : Type u} {Item : Type v}

theorem pos_of_reject (recognizer : Recognizer Symbol Item) {input : List Symbol}
    (rejected : recognizer.judge input = .reject) : 0 < input.length := by
  cases input with
  | nil => simp [recognizer.judge_nil] at rejected
  | cons _ _ => simp

/-- Consume a buffer greedily from its front: the items found, and the symbols
left when the recognizer starves. -/
def drain (recognizer : Recognizer Symbol Item) (input : List Symbol) :
    List Item × List Symbol :=
  match _verdict : recognizer.judge input with
  | .starved => ([], input)
  | .reject => recognizer.drain (input.drop 1)
  | .accept item size =>
      let rest := recognizer.drain (input.drop size)
      (item :: rest.1, rest.2)
termination_by input.length
decreasing_by
  · have := recognizer.pos_of_reject _verdict
    simp only [List.length_drop]
    omega
  · have := recognizer.accepted_size _verdict
    simp only [List.length_drop]
    omega

/-- Scan a whole stream from a position: each item with the position it starts
at, and the position where the scan stops. -/
def scanFrom (recognizer : Recognizer Symbol Item) (stream : List Symbol)
    (position : Nat) : List (Nat × Item) × Nat :=
  match verdict : recognizer.judge (stream.drop position) with
  | .starved => ([], position)
  | .reject => recognizer.scanFrom stream (position + 1)
  | .accept item size =>
      let rest := recognizer.scanFrom stream (position + size)
      ((position, item) :: rest.1, rest.2)
termination_by stream.length - position
decreasing_by
  · have := recognizer.pos_of_reject verdict
    simp only [List.length_drop] at this
    omega
  · have := recognizer.accepted_size verdict
    simp only [List.length_drop] at this
    omega

/-- Take a stream chunk by chunk, draining the buffer after each chunk. -/
def feed (recognizer : Recognizer Symbol Item) :
    List Symbol → List (List Symbol) → List Item × List Symbol
  | buffer, [] => ([], buffer)
  | buffer, chunk :: chunks =>
      let first := recognizer.drain (buffer ++ chunk)
      let rest := recognizer.feed first.2 chunks
      (first.1 ++ rest.1, rest.2)

variable (recognizer : Recognizer Symbol Item)

theorem drain_of_starved {input : List Symbol}
    (starved : recognizer.judge input = .starved) :
    recognizer.drain input = ([], input) := by
  rw [drain]
  split <;> simp_all

theorem drain_of_reject {input : List Symbol}
    (rejected : recognizer.judge input = .reject) :
    recognizer.drain input = recognizer.drain (input.drop 1) := by
  rw [drain]
  split <;> simp_all

theorem drain_of_accept {input : List Symbol} {item : Item} {size : Nat}
    (accepted : recognizer.judge input = .accept item size) :
    recognizer.drain input =
      (item :: (recognizer.drain (input.drop size)).1,
        (recognizer.drain (input.drop size)).2) := by
  rw [drain]
  split <;> simp_all

@[simp] theorem drain_nil : recognizer.drain [] = ([], []) :=
  recognizer.drain_of_starved recognizer.judge_nil

/-- What a drained buffer holds is starved, so draining it again changes
nothing. -/
theorem judge_drain (input : List Symbol) :
    recognizer.judge (recognizer.drain input).2 = .starved := by
  induction input using drain.induct recognizer with
  | case1 input verdict => rwa [recognizer.drain_of_starved verdict]
  | case2 input verdict induction => rwa [recognizer.drain_of_reject verdict]
  | case3 input item size verdict induction =>
      rwa [recognizer.drain_of_accept verdict]

/-- Symbols that arrive later are consumed as if they had been there from the
start. -/
theorem drain_append (front back : List Symbol) :
    recognizer.drain (front ++ back) =
      ((recognizer.drain front).1 ++
          (recognizer.drain ((recognizer.drain front).2 ++ back)).1,
        (recognizer.drain ((recognizer.drain front).2 ++ back)).2) := by
  induction front using drain.induct recognizer with
  | case1 front verdict => simp [recognizer.drain_of_starved verdict]
  | case2 front verdict induction =>
      have settled : recognizer.judge (front ++ back) = .reject := by
        rw [recognizer.settled (by simp [verdict]), verdict]
      have bound := recognizer.pos_of_reject verdict
      rw [recognizer.drain_of_reject settled, recognizer.drain_of_reject verdict,
        List.drop_append_of_le_length bound]
      exact induction
  | case3 front item size verdict induction =>
      have settled : recognizer.judge (front ++ back) = .accept item size := by
        rw [recognizer.settled (by simp [verdict]), verdict]
      have bound := (recognizer.accepted_size verdict).2
      rw [recognizer.drain_of_accept settled, recognizer.drain_of_accept verdict,
        List.drop_append_of_le_length bound, induction]
      simp

/-- However a stream is cut into chunks, the same items come out and the same
symbols stay buffered. -/
theorem feed_eq_drain (buffer : List Symbol) (chunks : List (List Symbol))
    (starved : recognizer.judge buffer = .starved) :
    recognizer.feed buffer chunks = recognizer.drain (buffer ++ chunks.flatten) := by
  induction chunks generalizing buffer with
  | nil => simp [feed, recognizer.drain_of_starved starved]
  | cons chunk chunks induction =>
      rw [feed, induction _ (recognizer.judge_drain _), List.flatten_cons,
        ← List.append_assoc, recognizer.drain_append (buffer ++ chunk)]

theorem scanFrom_of_starved {stream : List Symbol} {position : Nat}
    (starved : recognizer.judge (stream.drop position) = .starved) :
    recognizer.scanFrom stream position = ([], position) := by
  rw [scanFrom]
  split <;> simp_all

theorem scanFrom_of_reject {stream : List Symbol} {position : Nat}
    (rejected : recognizer.judge (stream.drop position) = .reject) :
    recognizer.scanFrom stream position =
      recognizer.scanFrom stream (position + 1) := by
  rw [scanFrom]
  split <;> simp_all

theorem scanFrom_of_accept {stream : List Symbol} {position size : Nat}
    {item : Item}
    (accepted : recognizer.judge (stream.drop position) = .accept item size) :
    recognizer.scanFrom stream position =
      ((position, item) :: (recognizer.scanFrom stream (position + size)).1,
        (recognizer.scanFrom stream (position + size)).2) := by
  rw [scanFrom]
  split <;> simp_all

/-- The scan by positions and the drain of the remaining stream agree. -/
theorem drain_drop_eq_scanFrom (stream : List Symbol) (position : Nat) :
    recognizer.drain (stream.drop position) =
      ((recognizer.scanFrom stream position).1.map Prod.snd,
        stream.drop (recognizer.scanFrom stream position).2) := by
  induction position using scanFrom.induct recognizer stream with
  | case1 position verdict =>
      rw [recognizer.drain_of_starved verdict,
        recognizer.scanFrom_of_starved verdict, List.map_nil]
  | case2 position verdict induction =>
      rw [recognizer.drain_of_reject verdict, List.drop_drop, induction,
        recognizer.scanFrom_of_reject verdict]
  | case3 position item size verdict induction =>
      rw [recognizer.drain_of_accept verdict, List.drop_drop, induction,
        recognizer.scanFrom_of_accept verdict, List.map_cons]

theorem scanFrom_stop_le {stream : List Symbol} {position : Nat}
    (inside : position ≤ stream.length) :
    (recognizer.scanFrom stream position).2 ≤ stream.length := by
  induction position using scanFrom.induct recognizer stream with
  | case1 position verdict => rwa [recognizer.scanFrom_of_starved verdict]
  | case2 position verdict induction =>
      have left := recognizer.pos_of_reject verdict
      rw [List.length_drop] at left
      rw [recognizer.scanFrom_of_reject verdict]
      exact induction (by omega)
  | case3 position item size verdict induction =>
      have left := recognizer.accepted_size verdict
      rw [List.length_drop] at left
      rw [recognizer.scanFrom_of_accept verdict]
      exact induction (by omega)

/-- A scan stops where the recognizer starves. -/
theorem judge_scanFrom (stream : List Symbol) (position : Nat) :
    recognizer.judge (stream.drop (recognizer.scanFrom stream position).2) = .starved := by
  have left := recognizer.judge_drain (stream.drop position)
  rwa [recognizer.drain_drop_eq_scanFrom] at left

/-- A scan goes on where it starved when more of the stream is there. -/
theorem scanFrom_append (front back : List Symbol) (position : Nat) :
    recognizer.scanFrom (front ++ back) position =
      ((recognizer.scanFrom front position).1 ++
          (recognizer.scanFrom (front ++ back) (recognizer.scanFrom front position).2).1,
        (recognizer.scanFrom (front ++ back) (recognizer.scanFrom front position).2).2) := by
  have settled : ∀ position, recognizer.judge (front.drop position) ≠ .starved →
      recognizer.judge ((front ++ back).drop position) =
        recognizer.judge (front.drop position) := by
    intro position decided
    have inside : position ≤ front.length := by
      by_contra beyond
      rw [List.drop_eq_nil_of_le (by omega), recognizer.judge_nil] at decided
      exact decided rfl
    rw [List.drop_append_of_le_length inside, recognizer.settled decided]
  induction position using scanFrom.induct recognizer front with
  | case1 position verdict => simp [recognizer.scanFrom_of_starved verdict]
  | case2 position verdict induction =>
      have stays := settled position (by simp [verdict])
      rw [recognizer.scanFrom_of_reject (stays.trans verdict),
        recognizer.scanFrom_of_reject verdict]
      exact induction
  | case3 position item size verdict induction =>
      have stays := settled position (by simp [verdict])
      rw [recognizer.scanFrom_of_accept (stays.trans verdict),
        recognizer.scanFrom_of_accept verdict, induction]
      simp

/-- What stands at a position of the stream is found there, or lies under an item
found before, once so much has arrived that nothing before it can starve. -/
theorem scanFrom_covers {stream : List Symbol} {bound position size : Nat} {item : Item}
    (starving : ∀ {input}, recognizer.judge input = .starved → input.length < bound)
    (stands : recognizer.judge (stream.drop position) = .accept item size)
    (arrived : position + bound ≤ stream.length + 1) {first : Nat} (before : first ≤ position) :
    (position, item) ∈ (recognizer.scanFrom stream first).1 ∨
      ∃ start other width, (start, other) ∈ (recognizer.scanFrom stream first).1 ∧
        recognizer.judge (stream.drop start) = .accept other width ∧
        start < position ∧ position < start + width := by
  induction first using scanFrom.induct recognizer stream with
  | case1 first verdict =>
      have short := starving verdict
      rw [List.length_drop] at short
      have here : first = position := by omega
      rw [here, stands] at verdict
      cases verdict
  | case2 first verdict induction =>
      have apart : first ≠ position := by
        intro here
        rw [here, stands] at verdict
        cases verdict
      rw [recognizer.scanFrom_of_reject verdict]
      exact induction (by omega)
  | case3 first other width verdict induction =>
      rw [recognizer.scanFrom_of_accept verdict]
      by_cases here : first = position
      · rw [here, stands, Verdict.accept.injEq] at verdict
        rw [here, verdict.1]
        exact .inl List.mem_cons_self
      · by_cases overlaps : position < first + width
        · exact .inr ⟨first, other, width, List.mem_cons_self, verdict, by omega, overlaps⟩
        · rcases induction (by omega) with found | ⟨start, under, long, found, rest⟩
          · exact .inl (List.mem_cons_of_mem _ found)
          · exact .inr ⟨start, under, long, List.mem_cons_of_mem _ found, rest⟩

/-- A stream of encodings, each recognized whatever follows it, is consumed one
encoding at a time. -/
theorem drain_flatten_map {Value : Type w} (encode : Value → List Symbol)
    (item : Value → Item)
    (recognized : ∀ value more, recognizer.judge (encode value ++ more) =
      .accept (item value) (encode value).length)
    (values : List Value) (more : List Symbol) :
    recognizer.drain ((values.map encode).flatten ++ more) =
      (values.map item ++ (recognizer.drain more).1,
        (recognizer.drain more).2) := by
  induction values with
  | nil => simp
  | cons value values induction =>
      rw [List.map_cons, List.flatten_cons, List.append_assoc,
        recognizer.drain_of_accept (recognized value _), List.drop_left, induction]
      simp

end Recognizer

end Foundation
