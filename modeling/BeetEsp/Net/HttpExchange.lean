import BeetEsp.Foundation.ReadLoop
import BeetEsp.Net.SocketClient

/-! # One exchange of the HTTP client

`send_request` writes the encoded request and reads until the server closes the stream,
over a plain socket or a TLS session. What the transport answers is given, and so is the
parse of the bytes that were read.
-/

namespace BeetEsp.Net.HttpClient

open Foundation
open SocketClient (BevyError findTerminator utf8)

variable {Error Response : Type}

/-- What the transport answers, the reads in their order. -/
structure Transport (Error : Type) where
  writeAll : List UInt8 → Except Error Unit
  flush : Except Error Unit
  reads : List (Except Error (List UInt8))

/-- Nothing but the end of the stream or a failed read ends the loop. -/
def toEndOfStream (_raw : List UInt8) : Check := .more

section

variable (debug : Error → String) (parseResponse : List UInt8 → Except BevyError Response)

/-- `none` while a read is awaited. -/
def sendRequest (socket : Transport Error) (bytes : List UInt8) :
    Option (Except BevyError Response) :=
  match socket.writeAll bytes with
  | .error err => some (.error ("write failed: " ++ debug err))
  | .ok () =>
      match socket.flush with
      | .error err => some (.error ("flush failed: " ++ debug err))
      | .ok () =>
          match readLoop toEndOfStream [] socket.reads with
          | .ended raw => some (parseResponse raw)
          -- Only a warning is logged, and the parse goes ahead.
          | .failed raw _ => some (parseResponse raw)
          | _ => none

end

/-! ## The stream behind the reads -/

/-- The stream was read to its end, in these chunks. -/
def ReadToEnd (reads : List (Except Error (List UInt8))) (chunks : List (List UInt8)) : Prop :=
  (∀ chunk ∈ chunks, chunk ≠ []) ∧ ∃ rest, reads = chunks.map .ok ++ .ok [] :: rest

/-- A read failed after these chunks, with the stream not at its end. -/
def FailedAfter (reads : List (Except Error (List UInt8))) (chunks : List (List UInt8)) :
    Prop :=
  (∀ chunk ∈ chunks, chunk ≠ []) ∧
    ∃ error rest, reads = chunks.map .ok ++ .error error :: rest

theorem passes_toEndOfStream {chunks : List (List UInt8)} {buf : List UInt8} :
    Passes toEndOfStream buf chunks ↔ ∀ chunk ∈ chunks, chunk ≠ [] :=
  ⟨Passes.nonempty, fun nonempty => (Passes.iff_more nonempty).mpr fun _ _ _ => rfl⟩

section

variable {reads : List (Except Error (List UInt8))} {chunks : List (List UInt8)}

theorem ReadToEnd.readLoop (read : ReadToEnd reads chunks) :
    readLoop toEndOfStream [] reads = .ended chunks.flatten := by
  rcases read with ⟨nonempty, rest, rfl⟩
  rw [readLoop_passes (passes_toEndOfStream.mpr nonempty), List.nil_append]
  exact Stops.ended.readLoop

theorem FailedAfter.readLoop (failed : FailedAfter reads chunks) :
    ∃ error, readLoop toEndOfStream [] reads = .failed chunks.flatten error := by
  rcases failed with ⟨nonempty, error, rest, rfl⟩
  rw [readLoop_passes (passes_toEndOfStream.mpr nonempty), List.nil_append]
  exact ⟨error, Stops.failed.readLoop⟩

/-- The loop reads to the end of the stream or to a failed read, or still waits. -/
theorem readLoop_toEndOfStream (reads : List (Except Error (List UInt8))) :
    (∃ chunks, ReadToEnd reads chunks) ∨ (∃ chunks, FailedAfter reads chunks) ∨
      ∃ raw, readLoop toEndOfStream [] reads = .waiting raw := by
  rcases readLoop_stops toEndOfStream [] reads with ⟨chunks, rest, shape, passes, stops⟩
  generalize outcome : readLoop toEndOfStream [] reads = reading at stops ⊢
  cases stops with
  | waiting => exact .inr (.inr ⟨_, rfl⟩)
  | failed => exact .inr (.inl ⟨chunks, passes.nonempty, _, _, shape⟩)
  | ended => exact .inl ⟨chunks, passes.nonempty, _, shape⟩
  | complete _ done => cases done
  | panicked _ panic => cases panic

end

/-! ## What becomes of a failed read -/

section

variable (debug : Error → String) (parseResponse : List UInt8 → Except BevyError Response)
  (socket : Transport Error) (bytes : List UInt8)

/-- A response is the parse of a stream that was read to its end, and a failed read is an
error. -/
structure ReadsWholeResponse : Prop where
  whole : ∀ response,
    sendRequest debug parseResponse socket bytes = some (.ok response) →
      socket.writeAll bytes = .ok () ∧ socket.flush = .ok () ∧
        ∃ chunks, ReadToEnd socket.reads chunks
  failed : ∀ chunks, FailedAfter socket.reads chunks →
    ∃ err, sendRequest debug parseResponse socket bytes = some (.error err)

variable {debug parseResponse socket bytes}

theorem sendRequest_failed {chunks : List (List UInt8)}
    (written : socket.writeAll bytes = .ok ()) (flushed : socket.flush = .ok ())
    (failed : FailedAfter socket.reads chunks) :
    sendRequest debug parseResponse socket bytes = some (parseResponse chunks.flatten) := by
  rcases failed.readLoop with ⟨error, loop⟩
  simp only [sendRequest, written, flushed, loop]

/-- Whatever the reads, the request is an error if it cannot be written. -/
theorem sendRequest_unwritten
    (unwritten : ¬(socket.writeAll bytes = .ok () ∧ socket.flush = .ok ())) :
    ∃ err, sendRequest debug parseResponse socket bytes = some (.error err) := by
  cases written : socket.writeAll bytes with
  | error err => exact ⟨_, by simp only [sendRequest, written]; rfl⟩
  | ok =>
      cases flushed : socket.flush with
      | error err => exact ⟨_, by simp only [sendRequest, written, flushed]; rfl⟩
      | ok => exact absurd ⟨written, flushed⟩ unwritten

end

/-- The bytes read before a failed read are parsed as the whole response. So a failed read
is an error when the request was not written, and otherwise where the parse of those bytes
fails. -/
theorem readsWholeResponse_iff (debug : Error → String)
    (parseResponse : List UInt8 → Except BevyError Response) (socket : Transport Error)
    (bytes : List UInt8) :
    ReadsWholeResponse debug parseResponse socket bytes ↔
      ∀ chunks, socket.writeAll bytes = .ok () → socket.flush = .ok () →
        FailedAfter socket.reads chunks →
        ∃ err, parseResponse chunks.flatten = .error err := by
  constructor
  · intro reads chunks written flushed failed
    rcases reads.failed chunks failed with ⟨err, result⟩
    rw [sendRequest_failed written flushed failed, Option.some.injEq] at result
    exact ⟨err, result⟩
  · intro rejects
    constructor
    · intro response result
      by_cases sent : socket.writeAll bytes = .ok () ∧ socket.flush = .ok ()
      · rcases sent with ⟨written, flushed⟩
        refine ⟨written, flushed, ?_⟩
        rcases readLoop_toEndOfStream socket.reads with
          whole | ⟨chunks, failed⟩ | ⟨raw, waits⟩
        · exact whole
        · rcases rejects chunks written flushed failed with ⟨err, rejected⟩
          rw [sendRequest_failed written flushed failed, rejected] at result
          cases result
        · simp only [sendRequest, written, flushed, waits] at result
          cases result
      · rcases sendRequest_unwritten sent with ⟨err, error⟩
        rw [error] at result
        cases result
    · intro chunks failed
      by_cases sent : socket.writeAll bytes = .ok () ∧ socket.flush = .ok ()
      · rcases sent with ⟨written, flushed⟩
        rcases rejects chunks written flushed failed with ⟨err, rejected⟩
        exact ⟨err, by rw [sendRequest_failed written flushed failed, rejected]⟩
      · exact sendRequest_unwritten sent

/-- The body of a response that goes up to the end of its stream. -/
def bodyToEnd (raw : List UInt8) : Except BevyError (List UInt8) :=
  match findTerminator raw with
  | some stop => .ok (raw.drop stop)
  | none => .error "no header terminator"

def resetInBody : Transport String where
  writeAll _ := .ok ()
  flush := .ok ()
  reads := [.ok (utf8 "HTTP/1.1 200 OK\r\n\r\nhel"), .error "ConnectionReset"]

/-- The connection is reset inside of the body, and what was read of it is delivered. -/
theorem reset_in_body_is_response :
    sendRequest id bodyToEnd resetInBody (utf8 "GET / HTTP/1.0\r\n\r\n") =
        some (.ok (utf8 "hel")) ∧
      ¬ReadsWholeResponse id bodyToEnd resetInBody (utf8 "GET / HTTP/1.0\r\n\r\n") := by
  have result : sendRequest id bodyToEnd resetInBody (utf8 "GET / HTTP/1.0\r\n\r\n") =
      some (.ok (utf8 "hel")) := by
    decide +kernel
  refine ⟨result, fun reads => ?_⟩
  have failed : FailedAfter resetInBody.reads [utf8 "HTTP/1.1 200 OK\r\n\r\nhel"] :=
    ⟨by decide +kernel, "ConnectionReset", [], rfl⟩
  rcases reads.failed _ failed with ⟨err, error⟩
  cases result.symm.trans error

end BeetEsp.Net.HttpClient
