import Mathlib.Data.List.Basic

/-! # Frames cut out of a byte stream

A frame parser looks at the front of a buffer and finds a whole frame there, or
none yet, or a malformed one. Draining a buffer takes frames off its front until
none is whole, one is malformed, or one of them ends the stream. When a verdict
other than "not yet" stands whatever follows, the frames of a stream do not depend
on how it is cut into reads.
-/

namespace Foundation

structure FrameParser (Symbol : Type u) (Frame : Type v) (Error : Type w) where
  parse : List Symbol → Except Error (Option (Frame × Nat))
  /-- A frame takes something, and no more than there is. -/
  consumed : ∀ {input frame size}, parse input = .ok (some (frame, size)) →
    0 < size ∧ size ≤ input.length

/-- How the draining of a buffer ends. -/
inductive Drained (Symbol : Type u) (Error : Type w)
  /-- No whole frame is left in front of these. -/
  | waiting (rest : List Symbol)
  /-- The last frame ended the stream. -/
  | ended
  | malformed (error : Error)

namespace FrameParser

variable {Symbol : Type u} {Frame : Type v} {Error : Type w}

/-- The frames in front of a buffer, up to the first that ends the stream. -/
def drain (parser : FrameParser Symbol Frame Error) (ends : Frame → Bool)
    (input : List Symbol) : List Frame × Drained Symbol Error :=
  match _found : parser.parse input with
  | .error error => ([], .malformed error)
  | .ok none => ([], .waiting input)
  | .ok (some (frame, size)) =>
      if ends frame then ([frame], .ended)
      else
        let rest := parser.drain ends (input.drop size)
        (frame :: rest.1, rest.2)
termination_by input.length
decreasing_by
  have := parser.consumed _found
  rw [List.length_drop]
  omega

/-- What the parser finds stays found when more arrives. -/
structure Streaming (parser : FrameParser Symbol Frame Error) : Prop where
  complete : ∀ {input frame size}, parser.parse input = .ok (some (frame, size)) →
    ∀ more, parser.parse (input ++ more) = .ok (some (frame, size))
  malformed : ∀ {input error}, parser.parse input = .error error →
    ∀ more, ∃ error, parser.parse (input ++ more) = .error error

variable {parser : FrameParser Symbol Frame Error} {ends : Frame → Bool}

theorem drain_of_malformed {input : List Symbol} {error : Error}
    (found : parser.parse input = .error error) :
    parser.drain ends input = ([], .malformed error) := by
  rw [drain]
  split <;> simp_all

theorem drain_of_none {input : List Symbol} (found : parser.parse input = .ok none) :
    parser.drain ends input = ([], .waiting input) := by
  rw [drain]
  split <;> simp_all

theorem drain_of_end {input : List Symbol} {frame : Frame} {size : Nat}
    (found : parser.parse input = .ok (some (frame, size))) (last : ends frame = true) :
    parser.drain ends input = ([frame], .ended) := by
  rw [drain]
  split <;> simp_all

theorem drain_of_frame {input : List Symbol} {frame : Frame} {size : Nat}
    (found : parser.parse input = .ok (some (frame, size))) (more : ends frame = false) :
    parser.drain ends input =
      (frame :: (parser.drain ends (input.drop size)).1,
        (parser.drain ends (input.drop size)).2) := by
  rw [drain]
  split <;> simp_all

/-- What is left waiting is drained. -/
theorem drain_waiting {input rest : List Symbol}
    (left : (parser.drain ends input).2 = .waiting rest) :
    parser.drain ends rest = ([], .waiting rest) := by
  induction input using drain.induct parser ends with
  | case1 input error found =>
      rw [drain_of_malformed found] at left
      cases left
  | case2 input found =>
      rw [drain_of_none found] at left
      cases left
      exact drain_of_none found
  | case3 input frame size found last =>
      rw [drain_of_end found last] at left
      cases left
  | case4 input frame size found goesOn induction =>
      rw [drain_of_frame found (Bool.eq_false_iff.mpr goesOn)] at left
      exact induction left

/-! ## Tilings -/

/-- The input is whole frames one after the other, each beside the symbols it takes, with
the rest behind them. A frame that ends the stream is the last of them. -/
structure Tiling (parser : FrameParser Symbol Frame Error) (ends : Frame → Bool)
    (input : List Symbol) (tiles : List (Frame × List Symbol)) (rest : List Symbol) :
    Prop where
  whole : input = (tiles.map Prod.snd).flatten ++ rest
  parsed : ∀ front frame symbols back, tiles = front ++ (frame, symbols) :: back →
    parser.parse (symbols ++ ((back.map Prod.snd).flatten ++ rest)) =
      .ok (some (frame, symbols.length))
  last : ∀ front frame symbols back, tiles = front ++ (frame, symbols) :: back →
    ends frame = true → back = []

/-- Why no frame of the rest belongs to the tiling. -/
inductive Stops (parser : FrameParser Symbol Frame Error) (ends : Frame → Bool)
    (tiles : List (Frame × List Symbol)) (rest : List Symbol) :
    Drained Symbol Error → Prop
  | waiting (unended : ∀ tile ∈ tiles, ends tile.1 = false)
      (found : parser.parse rest = .ok none) : Stops parser ends tiles rest (.waiting rest)
  | malformed {error} (unended : ∀ tile ∈ tiles, ends tile.1 = false)
      (found : parser.parse rest = .error error) :
      Stops parser ends tiles rest (.malformed error)
  | ended {tile} (member : tile ∈ tiles) (last : ends tile.1 = true) :
      Stops parser ends tiles rest .ended

theorem tiling_nil {input rest : List Symbol} :
    Tiling parser ends input [] rest ↔ input = rest := by
  constructor
  · exact fun tiling => tiling.whole
  · rintro rfl
    exact ⟨rfl, by simp, by simp⟩

theorem tiling_cons {input symbols rest : List Symbol} {frame : Frame}
    {tiles : List (Frame × List Symbol)} :
    Tiling parser ends input ((frame, symbols) :: tiles) rest ↔
      ∃ behind, input = symbols ++ behind ∧
        parser.parse input = .ok (some (frame, symbols.length)) ∧
        (ends frame = true → tiles = []) ∧ Tiling parser ends behind tiles rest := by
  constructor
  · intro tiling
    have split : input = symbols ++ ((tiles.map Prod.snd).flatten ++ rest) := by
      rw [tiling.whole, List.map_cons, List.flatten_cons, List.append_assoc]
    refine ⟨_, split, ?_, tiling.last [] frame symbols tiles rfl, rfl, ?_, ?_⟩
    · rw [split]
      exact tiling.parsed [] frame symbols tiles rfl
    · rintro front next more back rfl
      exact tiling.parsed ((frame, symbols) :: front) next more back rfl
    · rintro front next more back rfl
      exact tiling.last ((frame, symbols) :: front) next more back rfl
  · rintro ⟨behind, rfl, found, only, tiling⟩
    constructor
    · rw [tiling.whole, List.map_cons, List.flatten_cons, List.append_assoc]
    · intro front next more back split
      cases front with
      | nil =>
          cases split
          rwa [← tiling.whole]
      | cons first front =>
          cases split
          exact tiling.parsed front next more back rfl
    · intro front next more back split ending
      cases front with
      | nil =>
          cases split
          exact only ending
      | cons first front =>
          cases split
          exact tiling.last front next more back rfl ending

theorem Stops.cons {tiles : List (Frame × List Symbol)} {rest : List Symbol}
    {left : Drained Symbol Error} (stops : Stops parser ends tiles rest left)
    {tile : Frame × List Symbol} (more : ends tile.1 = false) :
    Stops parser ends (tile :: tiles) rest left := by
  cases stops with
  | waiting unended found => exact .waiting (List.forall_mem_cons.mpr ⟨more, unended⟩) found
  | malformed unended found =>
      exact .malformed (List.forall_mem_cons.mpr ⟨more, unended⟩) found
  | ended member last => exact .ended (List.mem_cons_of_mem _ member) last

theorem Stops.tail {tiles : List (Frame × List Symbol)} {rest : List Symbol}
    {left : Drained Symbol Error} {tile : Frame × List Symbol}
    (stops : Stops parser ends (tile :: tiles) rest left) (more : ends tile.1 = false) :
    Stops parser ends tiles rest left := by
  cases stops with
  | waiting unended found => exact .waiting (List.forall_mem_cons.mp unended).2 found
  | malformed unended found => exact .malformed (List.forall_mem_cons.mp unended).2 found
  | @ended other member last =>
      rcases List.mem_cons.mp member with rfl | inside
      · rw [more] at last
        cases last
      · exact .ended inside last

theorem exists_tiling (parser : FrameParser Symbol Frame Error) (ends : Frame → Bool)
    (input : List Symbol) :
    ∃ tiles rest, Tiling parser ends input tiles rest ∧
      Stops parser ends tiles rest (parser.drain ends input).2 ∧
      tiles.map Prod.fst = (parser.drain ends input).1 := by
  induction input using drain.induct parser ends with
  | case1 input error found =>
      rw [drain_of_malformed found]
      exact ⟨[], input, tiling_nil.mpr rfl, .malformed nofun found, rfl⟩
  | case2 input found =>
      rw [drain_of_none found]
      exact ⟨[], input, tiling_nil.mpr rfl, .waiting nofun found, rfl⟩
  | case3 input frame size found ending =>
      have sized := List.length_take_of_le (parser.consumed found).2
      rw [drain_of_end found ending]
      refine ⟨[(frame, input.take size)], input.drop size, ?_, ?_, rfl⟩
      · rw [← sized] at found
        exact tiling_cons.mpr ⟨input.drop size, (List.take_append_drop size input).symm, found,
          fun _ => rfl, tiling_nil.mpr rfl⟩
      · exact .ended List.mem_cons_self ending
  | case4 input frame size found goesOn induction =>
      have sized := List.length_take_of_le (parser.consumed found).2
      have going : ends frame = false := Bool.eq_false_iff.mpr goesOn
      rcases induction with ⟨tiles, rest, tiling, stops, same⟩
      rw [drain_of_frame found going]
      refine ⟨(frame, input.take size) :: tiles, rest, ?_, stops.cons going, ?_⟩
      · rw [← sized] at found
        exact tiling_cons.mpr ⟨input.drop size, (List.take_append_drop size input).symm, found,
          fun ending => absurd ending goesOn, tiling⟩
      · rw [List.map_cons, same]

theorem Tiling.drain_eq {tiles : List (Frame × List Symbol)} {input rest : List Symbol}
    {left : Drained Symbol Error} (tiling : Tiling parser ends input tiles rest)
    (stops : Stops parser ends tiles rest left) :
    parser.drain ends input = (tiles.map Prod.fst, left) := by
  induction tiles generalizing input with
  | nil =>
      cases tiling_nil.mp tiling
      cases stops with
      | waiting _ found => exact drain_of_none found
      | malformed _ found => exact drain_of_malformed found
      | ended member => cases member
  | cons tile tiles induction =>
      rcases tiling_cons.mp tiling with ⟨behind, rfl, found, only, tail⟩
      cases ending : ends tile.1 with
      | true =>
          cases only ending
          rw [drain_of_end found ending]
          cases stops with
          | waiting unended | malformed unended =>
              rw [unended tile List.mem_cons_self] at ending
              cases ending
          | ended => rfl
      | false =>
          rw [drain_of_frame found ending, List.drop_left, induction tail (stops.tail ending)]
          rfl

/-- The drained frames are those that tile the input, up to the first that ends the stream
or to where no whole one follows. -/
theorem drain_iff {input : List Symbol} {frames : List Frame}
    {left : Drained Symbol Error} :
    parser.drain ends input = (frames, left) ↔
      ∃ tiles rest, Tiling parser ends input tiles rest ∧ Stops parser ends tiles rest left ∧
        tiles.map Prod.fst = frames := by
  constructor
  · intro drained
    have tiled := exists_tiling parser ends input
    rwa [drained] at tiled
  · rintro ⟨tiles, rest, tiling, stops, rfl⟩
    exact tiling.drain_eq stops

/-! ## Later symbols -/

/-- What later symbols do to a drained buffer. -/
inductive Continues (parser : FrameParser Symbol Frame Error) (ends : Frame → Bool)
    (more : List Symbol) :
    List Frame × Drained Symbol Error → List Frame × Drained Symbol Error → Prop
  | waiting {frames rest} : Continues parser ends more (frames, .waiting rest)
      (frames ++ (parser.drain ends (rest ++ more)).1, (parser.drain ends (rest ++ more)).2)
  | ended {frames} : Continues parser ends more (frames, .ended) (frames, .ended)
  | malformed {frames error error'} :
      Continues parser ends more (frames, .malformed error) (frames, .malformed error')

theorem Continues.cons {more : List Symbol} {frame : Frame}
    {first second : List Frame × Drained Symbol Error}
    (continues : Continues parser ends more first second) :
    Continues parser ends more (frame :: first.1, first.2) (frame :: second.1, second.2) := by
  cases continues with
  | waiting => exact .waiting
  | ended => exact .ended
  | malformed => exact .malformed

/-- A stream is drained as its parts are: what was found stays, and draining goes
on from what was left. -/
theorem drain_append (streaming : parser.Streaming) (input more : List Symbol) :
    Continues parser ends more (parser.drain ends input)
      (parser.drain ends (input ++ more)) := by
  induction input using drain.induct parser ends with
  | case1 input error found =>
      rcases streaming.malformed found more with ⟨later, stays⟩
      rw [drain_of_malformed found, drain_of_malformed stays]
      exact .malformed
  | case2 input found =>
      rw [drain_of_none found]
      exact .waiting
  | case3 input frame size found last =>
      have stays := streaming.complete found more
      rw [drain_of_end found last, drain_of_end stays last]
      exact .ended
  | case4 input frame size found goesOn induction =>
      have stays := streaming.complete found more
      have inside := (parser.consumed found).2
      have going : ends frame = false := Bool.eq_false_iff.mpr goesOn
      rw [drain_of_frame found going, drain_of_frame stays going,
        List.drop_append_of_le_length inside]
      exact induction.cons

end FrameParser

end Foundation
