import Mathlib.Data.List.Basic

/-! # Loops of reads

A loop that appends what it reads to a buffer, until a read is empty or fails or a check
of the buffer stops it. The results of the reads are given as a list. Where it is used up
the loop waits for another read, and what follows the read that stopped it is not read.
-/

namespace Foundation

/-- What the check of a buffer tells the loop. -/
inductive Check
  | more
  | done
  | panic
  deriving DecidableEq

inductive Reading (Error Byte : Type)
  | waiting (buf : List Byte)
  | complete (buf : List Byte)
  | ended (buf : List Byte)
  | failed (buf : List Byte) (error : Error)
  | panicked
  deriving DecidableEq

section

variable {Error Byte : Type} (check : List Byte → Check)

def readLoop : List Byte → List (Except Error (List Byte)) → Reading Error Byte
  | buf, [] => .waiting buf
  | buf, .error error :: _ => .failed buf error
  | buf, .ok chunk :: results =>
      if chunk = [] then .ended buf
      else
        match check (buf ++ chunk) with
        | .more => readLoop (buf ++ chunk) results
        | .done => .complete (buf ++ chunk)
        | .panic => .panicked

/-- The buffers that the loop checks, one for each read that is neither empty nor
failed. -/
def checkedBuffers : List Byte → List (Except Error (List Byte)) → List (List Byte)
  | _, [] => []
  | _, .error _ :: _ => []
  | buf, .ok chunk :: results =>
      if chunk = [] then []
      else (buf ++ chunk) ::
        if check (buf ++ chunk) = .more then checkedBuffers (buf ++ chunk) results else []

/-- None of the chunks stops the loop. -/
def Passes : List Byte → List (List Byte) → Prop
  | _, [] => True
  | buf, chunk :: chunks =>
      chunk ≠ [] ∧ check (buf ++ chunk) = .more ∧ Passes (buf ++ chunk) chunks

/-- Where the loop stops at the next read, or waits for it. -/
inductive Stops (buf : List Byte) :
    List (Except Error (List Byte)) → Reading Error Byte → Prop
  | waiting : Stops buf [] (.waiting buf)
  | failed {error : Error} {rest : List (Except Error (List Byte))} :
      Stops buf (.error error :: rest) (.failed buf error)
  | ended {rest : List (Except Error (List Byte))} : Stops buf (.ok [] :: rest) (.ended buf)
  | complete {chunk : List Byte} {rest : List (Except Error (List Byte))}
      (nonempty : chunk ≠ []) (done : check (buf ++ chunk) = .done) :
      Stops buf (.ok chunk :: rest) (.complete (buf ++ chunk))
  | panicked {chunk : List Byte} {rest : List (Except Error (List Byte))}
      (nonempty : chunk ≠ []) (panic : check (buf ++ chunk) = .panic) :
      Stops buf (.ok chunk :: rest) .panicked

end

variable {Error Byte : Type} {check : List Byte → Check} {buf : List Byte}

namespace Passes

theorem nonempty {chunks : List (List Byte)} (passes : Passes check buf chunks) :
    ∀ chunk ∈ chunks, chunk ≠ [] := by
  induction chunks generalizing buf with
  | nil => simp
  | cons chunk chunks induction =>
      rcases passes with ⟨present, -, rest⟩
      intro other member
      rcases List.mem_cons.mp member with rfl | member
      · exact present
      · exact induction rest other member

theorem append {front back : List (List Byte)} :
    Passes check buf (front ++ back) ↔
      Passes check buf front ∧ Passes check (buf ++ front.flatten) back := by
  induction front generalizing buf with
  | nil => simp [Passes]
  | cons chunk front induction =>
      simp only [List.cons_append, Passes, induction, List.flatten_cons,
        List.append_assoc, and_assoc]

/-- Of chunks that are not empty, those pass that leave every buffer unfinished. -/
theorem iff_more {chunks : List (List Byte)} (nonempty : ∀ chunk ∈ chunks, chunk ≠ []) :
    Passes check buf chunks ↔
      ∀ front chunk, front ++ [chunk] <+: chunks →
        check (buf ++ (front ++ [chunk]).flatten) = .more := by
  constructor
  · rintro passes front chunk ⟨rest, rfl⟩
    rw [append, append] at passes
    rcases passes with ⟨⟨-, -, more, -⟩, -⟩
    simpa using more
  · intro more
    induction chunks generalizing buf with
    | nil => trivial
    | cons chunk chunks induction =>
        refine ⟨nonempty chunk List.mem_cons_self, ?_, ?_⟩
        · simpa using more [] chunk ⟨chunks, rfl⟩
        · apply induction fun other member => nonempty other (List.mem_cons_of_mem _ member)
          rintro front last ⟨rest, rfl⟩
          simpa using more (chunk :: front) last ⟨rest, rfl⟩

/-- Chunks that do not all pass have a first one that stops the loop. -/
theorem exists_stop {chunks : List (List Byte)} (nonempty : ∀ chunk ∈ chunks, chunk ≠ [])
    (stops : ¬Passes check buf chunks) :
    ∃ front chunk, front ++ [chunk] <+: chunks ∧ Passes check buf front ∧
      check (buf ++ (front ++ [chunk]).flatten) ≠ .more := by
  induction chunks generalizing buf with
  | nil => exact absurd trivial stops
  | cons chunk chunks induction =>
      have present := nonempty chunk List.mem_cons_self
      by_cases more : check (buf ++ chunk) = .more
      · have later : ¬Passes check (buf ++ chunk) chunks :=
          fun passes => stops ⟨present, more, passes⟩
        rcases induction (fun other member => nonempty other (List.mem_cons_of_mem _ member))
          later with ⟨front, last, ⟨rest, rfl⟩, passes, stop⟩
        refine ⟨chunk :: front, last, ⟨rest, rfl⟩, ⟨present, more, passes⟩, ?_⟩
        simpa using stop
      · exact ⟨[], chunk, ⟨chunks, rfl⟩, trivial, by simpa using more⟩

end Passes

/-- Chunks that pass end up in the buffer. -/
theorem readLoop_passes {chunks : List (List Byte)} (passes : Passes check buf chunks)
    (results : List (Except Error (List Byte))) :
    readLoop check buf (chunks.map .ok ++ results) =
      readLoop check (buf ++ chunks.flatten) results := by
  induction chunks generalizing buf with
  | nil => simp
  | cons chunk chunks induction =>
      rcases passes with ⟨present, more, rest⟩
      simp only [List.map_cons, List.cons_append, readLoop, if_neg present, more]
      rw [induction rest, List.append_assoc, List.flatten_cons]

/-- A loop that waits goes on with the next results. -/
theorem readLoop_append {front : List (Except Error (List Byte))} {kept : List Byte}
    (waits : readLoop check buf front = .waiting kept)
    (back : List (Except Error (List Byte))) :
    readLoop check buf (front ++ back) = readLoop check kept back := by
  induction front generalizing buf with
  | nil =>
      cases waits
      rfl
  | cons result front induction =>
      cases result with
      | error error => cases waits
      | ok chunk =>
          by_cases empty : chunk = []
          · simp only [readLoop, if_pos empty, reduceCtorEq] at waits
          · cases checks : check (buf ++ chunk) with
            | more =>
                simp only [readLoop, if_neg empty, checks] at waits
                simp only [List.cons_append, readLoop, if_neg empty, checks]
                exact induction waits
            | done | panic =>
                simp only [readLoop, if_neg empty, checks, reduceCtorEq] at waits

theorem Stops.readLoop {results : List (Except Error (List Byte))}
    {reading : Reading Error Byte} (stops : Stops check buf results reading) :
    readLoop check buf results = reading := by
  cases stops with
  | waiting | failed => rfl
  | ended => exact if_pos rfl
  | complete present done => simp only [Foundation.readLoop, if_neg present, done]
  | panicked present panic => simp only [Foundation.readLoop, if_neg present, panic]

/-- The loop goes through the chunks that pass, and stops after them. -/
theorem readLoop_stops (check : List Byte → Check) (buf : List Byte)
    (results : List (Except Error (List Byte))) :
    ∃ chunks rest, results = chunks.map .ok ++ rest ∧ Passes check buf chunks ∧
      Stops check (buf ++ chunks.flatten) rest (readLoop check buf results) := by
  induction results generalizing buf with
  | nil => exact ⟨[], [], rfl, trivial, by simpa using .waiting⟩
  | cons result results induction =>
      cases result with
      | error error => exact ⟨[], _, rfl, trivial, by simpa using .failed⟩
      | ok chunk =>
          by_cases empty : chunk = []
          · subst empty
            exact ⟨[], _, rfl, trivial, by simpa [readLoop] using .ended⟩
          · cases checks : check (buf ++ chunk) with
            | more =>
                rcases induction (buf ++ chunk) with ⟨chunks, rest, rfl, passes, stops⟩
                refine ⟨chunk :: chunks, rest, rfl, ⟨empty, checks, passes⟩, ?_⟩
                simpa [readLoop, empty, checks] using stops
            | done =>
                refine ⟨[], _, rfl, trivial, ?_⟩
                simpa [readLoop, empty, checks] using Stops.complete empty checks
            | panic =>
                refine ⟨[], _, rfl, trivial, ?_⟩
                simpa [readLoop, empty, checks] using Stops.panicked empty checks

theorem mem_checkedBuffers {results : List (Except Error (List Byte))} {seen : List Byte} :
    seen ∈ checkedBuffers check buf results ↔
      ∃ front chunk rest, results = front.map .ok ++ .ok chunk :: rest ∧
        Passes check buf front ∧ chunk ≠ [] ∧ seen = buf ++ front.flatten ++ chunk := by
  induction results generalizing buf with
  | nil => simp [checkedBuffers]
  | cons result results induction =>
      constructor
      · intro member
        cases result with
        | error error => cases member
        | ok chunk =>
            simp only [checkedBuffers] at member
            by_cases empty : chunk = []
            · simp [empty] at member
            · rw [if_neg empty, List.mem_cons] at member
              rcases member with rfl | later
              · exact ⟨[], chunk, results, rfl, trivial, empty, by simp⟩
              · split at later
                case isTrue more =>
                  rcases induction.mp later with ⟨front, last, rest, rfl, passes, present, rfl⟩
                  exact ⟨chunk :: front, last, rest, rfl, ⟨empty, more, passes⟩, present,
                    by simp⟩
                case isFalse => cases later
      · rintro ⟨front, last, rest, shape, passes, present, rfl⟩
        cases front with
        | nil =>
            cases shape
            simp [checkedBuffers, present]
        | cons chunk front =>
            cases shape
            rcases passes with ⟨first, more, passes⟩
            simp only [checkedBuffers, if_neg first, if_pos more, List.mem_cons]
            exact .inr (induction.mpr ⟨front, last, rest, rfl, passes, present, by simp⟩)

/-- Checks that agree on the buffers they come to make the same loop. -/
theorem readLoop_congr {other : List Byte → Check}
    {results : List (Except Error (List Byte))}
    (same : ∀ seen ∈ checkedBuffers check buf results, check seen = other seen) :
    readLoop check buf results = readLoop other buf results := by
  induction results generalizing buf with
  | nil => rfl
  | cons result results induction =>
      cases result with
      | error error => rfl
      | ok chunk =>
          by_cases empty : chunk = []
          · simp only [readLoop, if_pos empty]
          · simp only [checkedBuffers, if_neg empty, List.forall_mem_cons] at same
            simp only [readLoop, if_neg empty, ← same.1]
            cases checks : check (buf ++ chunk) with
            | more =>
                rw [if_pos checks] at same
                exact induction same.2
            | done | panic => rfl

end Foundation
