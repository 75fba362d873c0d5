import BeetEsp.Foundation.ByteBuffer
import BeetEsp.Foundation.ReadLoop
import BeetEsp.Net.SocketInbound
import Mathlib.Algebra.Group.Nat.Defs

/-! # Reading a request

`read_http` reads a request off the socket in pieces. After each piece it looks for the
end of the headers and, once that is there, for as many bytes after it as they declare. It
also stops at a cap, or where a read is empty or fails.
-/

namespace BeetEsp.Net

open Foundation

namespace HttpServer

open SocketClient (HeaderEnds headerEnds_unique findTerminator findTerminator_eq_some utf8)

/-- What `read_http` uses of the HTTP functions of the framework. A `usize` of the target
has 32 bits. -/
structure HttpExt where
  findHeaderEnd : List UInt8 → Option Nat
  parseContentLength : List UInt8 → UInt32

/-- The length of the request, by what its headers declare. -/
def HttpExt.declaredLength (http : HttpExt) (buf : List UInt8) (headerEnd : Nat) : Nat :=
  headerEnd + (http.parseContentLength (buf.take headerEnd)).toNat

/-- How a sum of the code overflows. -/
inductive Profile
  | dev
  | release
  deriving DecidableEq

/-- The value of a sum in the code, or none where it panics. -/
def Profile.usize (profile : Profile) (sum : Nat) : Option Nat :=
  if sum < 2 ^ 32 then some sum
  else
    match profile with
    | dev => none
    | release => some (sum % 2 ^ 32)

def CAP : Nat := 8192

/-- The checks after a read. -/
def HttpExt.afterRead (http : HttpExt) (profile : Profile) (buf : List UInt8) : Check :=
  match http.findHeaderEnd buf with
  | some headerEnd =>
      match profile.usize (http.declaredLength buf headerEnd) with
      | some length =>
          if length ≤ buf.length then .done
          else if CAP ≤ buf.length then .done
          else .more
      | none => .panic
  | none => if CAP ≤ buf.length then .done else .more

inductive ReadHttp
  | reading
  | returned (raw : List UInt8)
  | panicked
  deriving DecidableEq

section

variable {Error : Type} (http : HttpExt) (profile : Profile)
  (reads : List (Except Error (List UInt8)))

def readHttp : ReadHttp :=
  match readLoop (http.afterRead profile) [] reads with
  | .waiting _ => .reading
  | .complete buf => .returned buf
  | .ended buf => .returned buf
  | .failed buf _ => .returned buf
  | .panicked => .panicked

/-- The sums `header_end + content_length` it comes to, as numbers without bound. -/
def sums : List Nat :=
  (checkedBuffers (http.afterRead profile) [] reads).filterMap fun buf =>
    (http.findHeaderEnd buf).map (http.declaredLength buf)

end

/-- What the documentation of `find_header_end` promises. -/
structure HttpExt.Documented (http : HttpExt) : Prop where
  headerEnd : ∀ bytes stop, http.findHeaderEnd bytes = some stop ↔ HeaderEnds bytes stop

/-! ### Plain headers

The functions of the framework on headers that write `Content-Length: ` as it stands here. -/

def CONTENT_LENGTH : List UInt8 := utf8 "Content-Length: "

/-- The number these decimal digits write. -/
def decimal (digits : List UInt8) : Nat :=
  digits.foldl (fun number digit => 10 * number + (digit.toNat - 0x30)) 0

/-- The declared length, or 0 where there is none or it is no `usize`. -/
def contentLength (headers : List UInt8) : UInt32 :=
  match (windows CONTENT_LENGTH.length headers).findIdx? (· == CONTENT_LENGTH) with
  | some index =>
      let value := headers.drop (index + CONTENT_LENGTH.length)
      let number := decimal (value.takeWhile fun byte => 0x30 ≤ byte && byte ≤ 0x39)
      if number < 2 ^ 32 then UInt32.ofNat number else 0
  | none => 0

def plainHttp : HttpExt := ⟨findTerminator, contentLength⟩

theorem plainHttp_documented : plainHttp.Documented := ⟨findTerminator_eq_some⟩

variable {http : HttpExt}

/-- What is declared stands in the headers, so more bytes do not change it. -/
theorem declaredLength_append (http : HttpExt) {buf : List UInt8} {stop : Nat}
    (inside : stop ≤ buf.length) (more : List UInt8) :
    http.declaredLength (buf ++ more) stop = http.declaredLength buf stop := by
  rw [HttpExt.declaredLength, HttpExt.declaredLength, List.take_append_of_le_length inside]

/-! ## A request in pieces -/

/-- A request: its headers and exactly the body they declare. -/
def HttpExt.IsMessage (http : HttpExt) (message : List UInt8) : Prop :=
  ∃ stop, HeaderEnds message stop ∧ http.declaredLength message stop = message.length

/-- The checks on a part of the request, and on the request as a whole. -/
theorem afterRead_front (documented : http.Documented) (profile : Profile)
    {message buf rest : List UInt8} (isMessage : http.IsMessage message)
    (small : message.length < 2 ^ 32) (split : message = buf ++ rest) :
    http.afterRead profile buf =
      if buf = message ∨ CAP ≤ buf.length then .done else .more := by
  rcases isMessage with ⟨stop, ends, declared⟩
  rw [HttpExt.afterRead]
  cases found : http.findHeaderEnd buf with
  | none =>
      have unfinished : buf ≠ message := by
        rintro rfl
        rw [(documented.headerEnd _ stop).mpr ends] at found
        cases found
      simp only [unfinished, false_or]
  | some headerEnd =>
      have front := (documented.headerEnd _ _).mp found
      have same := headerEnds_unique (split ▸ front.append rest) ends
      subst same
      have length : http.declaredLength buf headerEnd = message.length := by
        rw [← declared, split, declaredLength_append http front.1]
      have whole : message.length ≤ buf.length ↔ buf = message := by
        rw [split, List.length_append]
        constructor
        · intro short
          rw [List.length_eq_zero_iff.mp (by omega : rest.length = 0), List.append_nil]
        · intro equal
          have lengths := congrArg List.length equal
          rw [List.length_append] at lengths
          omega
      simp only [length, Profile.usize, if_pos small, whole, ite_or]

theorem HttpExt.IsMessage.ne_nil {message : List UInt8} (isMessage : http.IsMessage message) :
    message ≠ [] := by
  rintro rfl
  rcases isMessage with ⟨stop, ⟨-, terminated, -⟩, -⟩
  rw [List.take_nil] at terminated
  cases List.suffix_nil.mp terminated

/-- `read_http` returns the request and, of the pieces alone, nothing before it is whole. -/
structure ReadsWhole (Error : Type) (http : HttpExt) (profile : Profile)
    (message : List UInt8) (pieces : List (List UInt8)) : Prop where
  whole : readHttp http profile (pieces.map (@Except.ok Error _)) = .returned message
  never : ∀ front, front <+: pieces → ∀ raw,
    readHttp http profile (front.map (@Except.ok Error _)) = .returned raw → raw = message

section

variable {profile : Profile} {message : List UInt8} {front : List (List UInt8)}
  {last : List UInt8} {Error : Type}

/-- Before the last piece the loop goes on as long as it is below the cap. -/
theorem passes_front_iff (profile : Profile) (documented : http.Documented)
    (isMessage : http.IsMessage message) (small : message.length < 2 ^ 32)
    (nonempty : ∀ piece ∈ front, piece ≠ [])
    (present : last ≠ []) (split : message = front.flatten ++ last) :
    Passes (http.afterRead profile) [] front ↔ front.flatten.length < CAP := by
  -- Every part of the front is shorter than the request.
  have check : ∀ part rest, front = part ++ rest →
      (http.afterRead profile part.flatten = .more ↔ part.flatten.length < CAP) := by
    rintro part rest rfl
    have splits : message = part.flatten ++ (rest.flatten ++ last) := by
      rw [split, List.flatten_append, List.append_assoc]
    have shorter : part.flatten ≠ message := by
      intro equal
      have lengths := congrArg List.length (equal.trans splits)
      have positive := List.length_pos_iff.mpr present
      simp only [List.length_append] at lengths
      omega
    rw [afterRead_front documented profile isMessage small splits]
    simp [shorter]
  rw [Passes.iff_more nonempty]
  constructor
  · intro more
    rcases List.eq_nil_or_concat front with rfl | ⟨init, piece, rfl⟩
    · decide
    · rw [List.concat_eq_append] at more check ⊢
      exact (check _ [] (List.append_nil _).symm).mp (more init piece (List.prefix_refl _))
  · rintro below init piece ⟨rest, rfl⟩
    refine (check _ rest rfl).mpr (Nat.lt_of_le_of_lt ?_ below)
    simp only [List.flatten_append, List.length_append]
    omega

theorem readHttp_passes (passes : Passes (http.afterRead profile) [] front) :
    readHttp http profile (front.map (@Except.ok Error _)) = .reading := by
  have loop := readLoop_passes passes ([] : List (Except Error (List UInt8)))
  rw [List.append_nil] at loop
  simp only [readHttp, loop, readLoop]

/-- After pieces that all pass, one that the checks stop at is the last. -/
theorem readHttp_done (passes : Passes (http.afterRead profile) [] front) (present : last ≠ [])
    (done : http.afterRead profile (front.flatten ++ last) = .done) :
    readHttp http profile ((front ++ [last]).map (@Except.ok Error _)) =
      .returned (front.flatten ++ last) := by
  have stops : Stops (http.afterRead profile) front.flatten [@Except.ok Error _ last] _ :=
    .complete present done
  rw [List.map_append, readHttp, readLoop_passes passes, List.nil_append]
  simp only [List.map_cons, List.map_nil, stops.readLoop]

theorem ReadsWhole.below_cap (reads : ReadsWhole Error http profile message (front ++ [last]))
    (documented : http.Documented) (isMessage : http.IsMessage message)
    (small : message.length < 2 ^ 32)
    (nonempty : ∀ piece ∈ front, piece ≠ [])
    (present : last ≠ []) (split : message = front.flatten ++ last) :
    front.flatten.length < CAP := by
  rw [← passes_front_iff profile documented isMessage small nonempty present split]
  by_contra stopped
  rcases Passes.exists_stop nonempty stopped with ⟨init, piece, ⟨rest, rfl⟩, passes, stop⟩
  rw [List.nil_append, List.flatten_append, List.flatten_singleton] at stop
  have splits : message = (init.flatten ++ piece) ++ (rest.flatten ++ last) := by
    rw [split]
    simp
  have front_eq := afterRead_front documented profile isMessage small splits
  have done : http.afterRead profile (init.flatten ++ piece) = .done := by
    split_ifs at front_eq
    · exact front_eq
    · exact absurd front_eq stop
  have returned : readHttp http profile ((init ++ [piece]).map (@Except.ok Error _)) = _ :=
    readHttp_done passes (nonempty piece (by simp)) done
  have early := reads.never (init ++ [piece]) (by simp) _ returned
  have lengths := congrArg List.length (early.trans splits)
  have positive := List.length_pos_iff.mpr present
  simp only [List.length_append] at lengths
  omega

theorem ReadsWhole.of_below_cap (documented : http.Documented)
    (isMessage : http.IsMessage message) (small : message.length < 2 ^ 32)
    (nonempty : ∀ piece ∈ front, piece ≠ []) (present : last ≠ [])
    (split : message = front.flatten ++ last) (below : front.flatten.length < CAP) :
    ReadsWhole Error http profile message (front ++ [last]) := by
  have passes :=
    (passes_front_iff profile documented isMessage small nonempty present split).mpr below
  have done : http.afterRead profile (front.flatten ++ last) = .done := by
    have check := afterRead_front documented profile isMessage small
      (List.append_nil message).symm
    rw [if_pos (.inl rfl), split] at check
    exact check
  have returned : readHttp http profile
      ((front ++ [last]).map (@Except.ok Error _)) = .returned message := by
    rw [split]
    exact readHttp_done passes present done
  refine ⟨returned, fun part inside raw early => ?_⟩
  rcases List.prefix_concat_iff.mp inside with rfl | ⟨rest, rfl⟩
  · rw [returned] at early
    exact (ReadHttp.returned.inj early).symm
  · rw [readHttp_passes (Passes.append.mp passes).1] at early
    cases early

end

/-- `read_http` reads a request in pieces as a whole exactly if it is below the cap before
the last piece. -/
theorem readsWhole_iff (Error : Type) (documented : http.Documented) (profile : Profile)
    {message : List UInt8} (isMessage : http.IsMessage message)
    (small : message.length < 2 ^ 32) {pieces : List (List UInt8)}
    (nonempty : ∀ piece ∈ pieces, piece ≠ []) (split : pieces.flatten = message) :
    ReadsWhole Error http profile message pieces ↔ pieces.dropLast.flatten.length < CAP := by
  rcases List.eq_nil_or_concat pieces with rfl | ⟨front, last, rfl⟩
  · exact absurd split.symm isMessage.ne_nil
  · rw [List.concat_eq_append] at nonempty split ⊢
    rw [List.dropLast_concat]
    have present := nonempty last (by simp)
    have pieces : ∀ piece ∈ front, piece ≠ [] :=
      fun piece member => nonempty piece (List.mem_append_left _ member)
    have whole : message = front.flatten ++ last := by
      rw [← split]
      simp
    constructor
    · exact fun reads => reads.below_cap documented isMessage small pieces present whole
    · exact .of_below_cap documented isMessage small pieces present whole

/-- A request of three pieces, cut inside of its terminator and inside of its body. -/
theorem readsWhole_three_pieces :
    ReadsWhole Unit plainHttp .dev (utf8 "POST / HTTP/1.1\r\nContent-Length: 5\r\n\r\nhello")
      [utf8 "POST / HTTP/1.1\r\nContent-Length: 5\r\n\r", utf8 "\nhe", utf8 "llo"] :=
  (readsWhole_iff Unit plainHttp_documented .dev
    ⟨38, (findTerminator_eq_some _ _).mp (by decide +kernel), by decide +kernel⟩
    (by decide +kernel) (by decide +kernel) (by decide +kernel)).mpr (by decide +kernel)

/-! ### A request of more than the cap -/

def letters (size : Nat) : List UInt8 := List.replicate size 0x61

/-- Reads that fill the buffer of the loop. -/
def fullReads (count : Nat) : List (List UInt8) := List.replicate count (letters 512)

@[simp] theorem length_letters (size : Nat) : (letters size).length = size :=
  List.length_replicate

@[simp] theorem flatten_fullReads (count : Nat) :
    (fullReads count).flatten = letters (count * 512) := by
  rw [fullReads, letters, List.flatten_replicate_replicate, letters]

theorem letters_append (left right : Nat) :
    letters left ++ letters right = letters (left + right) := List.replicate_append_replicate ..

theorem letters_ne_nil {size : Nat} (positive : 0 < size) : letters size ≠ [] := by
  rw [← List.length_pos_iff, length_letters]
  exact positive

theorem fullReads_nonempty (count : Nat) : ∀ piece ∈ fullReads count, piece ≠ [] := by
  intro piece member
  rw [List.eq_of_mem_replicate member]
  exact letters_ne_nil (by decide)

def postHeaders : List UInt8 := utf8 "POST / HTTP/1.1\r\nContent-Length: 8258\r\n\r\n"

/-- A request of 8299 bytes. -/
def post : List UInt8 := postHeaders ++ letters 8258

theorem length_postHeaders : postHeaders.length = 41 := by decide +kernel

theorem length_post : post.length = 8299 := by
  rw [post, List.length_append, length_postHeaders, length_letters]

theorem post_isMessage : plainHttp.IsMessage post := by
  have ends : HeaderEnds postHeaders 41 := (findTerminator_eq_some _ _).mp (by decide +kernel)
  have declared : plainHttp.declaredLength postHeaders 41 = 8299 := by decide +kernel
  refine ⟨41, ends.append _, ?_⟩
  rw [length_post, post, declaredLength_append plainHttp ends.1, declared]

/-- The same request is read whole or cut at the cap, by how it comes in pieces: the read
that is not full is the second one or the last. -/
theorem post_depends_on_pieces :
    ReadsWhole Unit plainHttp .dev post
        ((postHeaders :: letters 66 :: fullReads 15) ++ [letters 512]) ∧
      ¬ReadsWhole Unit plainHttp .dev post
        ((postHeaders :: fullReads 16) ++ [letters 66]) := by
  have nonempty : postHeaders ≠ [] := by decide +kernel
  have small : post.length < 2 ^ 32 := by
    rw [length_post]
    decide
  constructor
  · apply ReadsWhole.of_below_cap plainHttp_documented post_isMessage small
    · simp only [List.forall_mem_cons]
      exact ⟨nonempty, letters_ne_nil (by decide), fullReads_nonempty 15⟩
    · exact letters_ne_nil (by decide)
    · simp only [post, List.flatten_cons, flatten_fullReads, List.append_assoc,
        letters_append]
    · simp only [List.flatten_cons, flatten_fullReads, List.length_append, length_letters,
        length_postHeaders, CAP]
      decide
  · intro reads
    have below : (postHeaders :: fullReads 16).flatten.length < CAP := by
      apply reads.below_cap plainHttp_documented post_isMessage small
      · simp only [List.forall_mem_cons]
        exact ⟨nonempty, fullReads_nonempty 16⟩
      · exact letters_ne_nil (by decide)
      · simp only [post, List.flatten_cons, flatten_fullReads, List.append_assoc,
          letters_append]
    simp only [List.flatten_cons, flatten_fullReads, List.length_append, length_letters,
      length_postHeaders, CAP] at below
    exact absurd below (by decide)

/-! ## The sum of the lengths -/

theorem afterRead_more {profile : Profile} {buf : List UInt8}
    (more : http.afterRead profile buf = .more) : buf.length < CAP := by
  by_contra full
  rw [Nat.not_lt] at full
  rw [HttpExt.afterRead] at more
  split at more
  case h_1 =>
    split at more
    case h_1 => simp [full] at more
    case h_2 => cases more
  case h_2 => simp [full] at more

section

variable {Error : Type} {profile : Profile} {reads : List (Except Error (List UInt8))}

theorem passes_below_cap {front : List (List UInt8)}
    (passes : Passes (http.afterRead profile) [] front) : front.flatten.length < CAP := by
  rcases List.eq_nil_or_concat front with rfl | ⟨init, piece, rfl⟩
  · decide
  · rw [List.concat_eq_append] at passes ⊢
    have more := (Passes.iff_more passes.nonempty).mp passes init piece (List.prefix_refl _)
    exact afterRead_more more

theorem mem_sums {sum : Nat} :
    sum ∈ sums http profile reads ↔
      ∃ front chunk rest stop, reads = front.map .ok ++ .ok chunk :: rest ∧
        Passes (http.afterRead profile) [] front ∧ chunk ≠ [] ∧
        http.findHeaderEnd (front.flatten ++ chunk) = some stop ∧
        http.declaredLength (front.flatten ++ chunk) stop = sum := by
  simp only [sums, List.mem_filterMap, mem_checkedBuffers, Option.map_eq_some_iff,
    List.nil_append]
  constructor
  · rintro ⟨_, ⟨front, chunk, rest, shape, passes, present, rfl⟩, stop, found, declared⟩
    exact ⟨front, chunk, rest, stop, shape, passes, present, found, declared⟩
  · rintro ⟨front, chunk, rest, stop, shape, passes, present, found, declared⟩
    exact ⟨_, ⟨front, chunk, rest, shape, passes, present, rfl⟩, stop, found, declared⟩

/-- Where the loop stops and the cap does not stop it, it has come to a sum. -/
theorem findHeaderEnd_of_stops {buf : List UInt8} (below : buf.length < CAP)
    (stops : http.afterRead profile buf ≠ .more) : ∃ stop, http.findHeaderEnd buf = some stop := by
  rw [HttpExt.afterRead] at stops
  cases found : http.findHeaderEnd buf with
  | some stop => exact ⟨stop, rfl⟩
  | none =>
      rw [found] at stops
      simp [Nat.not_le.mpr below] at stops

/-- Once the headers are there, the sum of their length and the length they declare is a
`usize`. Headers that are still not there when the buffer reaches the cap do not count. -/
def HeadersFit (http : HttpExt) (reads : List (Except Error (List UInt8))) : Prop :=
  ∀ (front : List (List UInt8)) (chunk : List UInt8) (rest : List (Except Error (List UInt8))),
    reads = front.map .ok ++ .ok chunk :: rest →
    (∀ piece ∈ front, piece ≠ []) → chunk ≠ [] → front.flatten.length < CAP →
    ∀ stop, HeaderEnds (front.flatten ++ chunk) stop →
      http.declaredLength (front.flatten ++ chunk) stop < 2 ^ 32

/-- Where the headers end and what they declare in a buffer holds of a longer one. -/
theorem declaredLength_of_front (documented : http.Documented) {buf more : List UInt8}
    {stop other : Nat} (found : http.findHeaderEnd buf = some other)
    (ends : HeaderEnds (buf ++ more) stop) :
    http.declaredLength (buf ++ more) stop = http.declaredLength buf other := by
  have front := (documented.headerEnd _ _).mp found
  have same := headerEnds_unique ends (front.append more)
  subst same
  exact declaredLength_append http front.1 more

/-- A sum overflows exactly if headers that are there before the cap declare a length that
is no `usize` together with their own. -/
theorem sums_fit_iff (documented : http.Documented) (profile : Profile)
    (reads : List (Except Error (List UInt8))) :
    (∀ sum ∈ sums http profile reads, sum < 2 ^ 32) ↔ HeadersFit http reads := by
  constructor
  · intro fit front chunk rest shape nonempty present below stop ends
    by_cases passes : Passes (http.afterRead profile) [] front
    · have found := (documented.headerEnd _ _).mpr ends
      exact fit _ (mem_sums.mpr ⟨front, chunk, rest, stop, shape, passes, present, found, rfl⟩)
    · -- The loop has stopped before, at headers that were there already.
      rcases Passes.exists_stop nonempty passes with ⟨init, piece, ⟨others, rfl⟩, passes, stops⟩
      have buffer : (init ++ [piece]).flatten = init.flatten ++ piece := by simp
      rw [List.nil_append, buffer] at stops
      have early : (init.flatten ++ piece).length < CAP := by
        refine Nat.lt_of_le_of_lt ?_ below
        simp only [List.flatten_append, List.flatten_singleton, List.length_append]
        omega
      rcases findHeaderEnd_of_stops early stops with ⟨other, found⟩
      have sum := fit _ (mem_sums.mpr ⟨init, piece, others.map .ok ++ .ok chunk :: rest, other,
        by simp [shape], passes, nonempty piece (by simp), found, rfl⟩)
      have longer : (init ++ [piece] ++ others).flatten ++ chunk =
          (init.flatten ++ piece) ++ (others.flatten ++ chunk) := by simp
      rw [longer] at ends ⊢
      rwa [declaredLength_of_front documented found ends]
  · intro fits sum member
    rcases mem_sums.mp member with ⟨front, chunk, rest, stop, shape, passes, present, found, rfl⟩
    exact fits front chunk rest shape passes.nonempty present (passes_below_cap passes) stop
      ((documented.headerEnd _ _).mp found)

/-- A request with a body of five bytes, in two pieces. -/
theorem headersFit_hello :
    let reads : List (Except Unit (List UInt8)) :=
      [.ok (utf8 "POST / HTTP/1.1\r\nContent-Length: 5\r\n\r\nhel"), .ok (utf8 "lo")]
    sums plainHttp .dev reads = [43, 43] ∧ HeadersFit plainHttp reads :=
  ⟨by decide +kernel, (sums_fit_iff plainHttp_documented .dev _).mp (by decide +kernel)⟩

/-- The largest `usize` as the declared length: a dev build panics, and a release build
returns the headers without a body. -/
theorem largest_length_overflows :
    let reads : List (Except Unit (List UInt8)) :=
      [.ok (utf8 "POST / HTTP/1.1\r\nContent-Length: 4294967295\r\n\r\n")]
    readHttp plainHttp .dev reads = .panicked ∧
      readHttp plainHttp .release reads =
        .returned (utf8 "POST / HTTP/1.1\r\nContent-Length: 4294967295\r\n\r\n") ∧
      ¬(∀ sum ∈ sums plainHttp .dev reads, sum < 2 ^ 32) := by
  decide +kernel

/-- Without an overflow the profile makes no difference. -/
theorem readHttp_eq_release (fits : ∀ sum ∈ sums http profile reads, sum < 2 ^ 32) :
    readHttp http profile reads = readHttp http .release reads := by
  have same : ∀ buf ∈ checkedBuffers (http.afterRead profile) [] reads,
      http.afterRead profile buf = http.afterRead .release buf := by
    intro buf member
    cases found : http.findHeaderEnd buf with
    | none => simp only [HttpExt.afterRead, found]
    | some stop =>
        have sum : http.declaredLength buf stop < 2 ^ 32 := by
          apply fits
          rw [sums, List.mem_filterMap]
          exact ⟨buf, member, by rw [found, Option.map_some]⟩
        simp only [HttpExt.afterRead, found, Profile.usize, if_pos sum]
  rw [readHttp, readHttp, readLoop_congr same]

theorem afterRead_release (http : HttpExt) (buf : List UInt8) :
    http.afterRead .release buf ≠ .panic := by
  have value : ∀ sum, Profile.release.usize sum ≠ none := by
    intro sum
    rw [Profile.usize]
    split <;> simp
  rw [HttpExt.afterRead]
  split
  case h_1 headerEnd _ =>
    split
    case h_1 => split_ifs <;> simp
    case h_2 overflow => exact absurd overflow (value _)
  case h_2 => split_ifs <;> simp

/-- A release build never panics here. -/
theorem readHttp_release (http : HttpExt) (reads : List (Except Error (List UInt8))) :
    readHttp http .release reads ≠ .panicked := by
  rcases readLoop_stops (http.afterRead .release) [] reads with ⟨front, rest, -, -, stops⟩
  rw [readHttp]
  generalize readLoop (http.afterRead .release) [] reads = reading at stops ⊢
  cases stops with
  | waiting | failed | ended | complete => simp
  | panicked _ panic => exact absurd panic (afterRead_release http _)

end

end HttpServer

end BeetEsp.Net
