import BeetEsp.Foundation.Text
import BeetEsp.Net.HttpClient
import BeetEsp.Net.SocketClient

/-! # Requests before they are queued

What `esp_send` makes of a request before it calls the bridge of `client_driver`: a job
with the host and port of its authority and its bytes on the wire, or an error.
-/

namespace BeetEsp.Net.HttpClient

open Foundation
open SocketClient (BevyError)

/-- `str::parse::<u16>` -/
def parseU16 (text : List Char) : Option UInt16 :=
  (parseUnsigned UInt16.size text).map UInt16.ofNat

def splitAuthority (authority : String) (defaultPort : UInt16) : String × UInt16 :=
  match rsplitOnce ':' authority.toList with
  | some (host, port) => (String.ofList host, (parseU16 port).getD defaultPort)
  | none => (authority, defaultPort)

/-- The features of a build that the client depends on. -/
structure Features where
  secure : Bool
  mdns : Bool

/-- What `esp_send` reads of a request, without its body. -/
structure Request (Parts : Type) where
  /-- Its scheme is `https`. -/
  secure : Bool
  authority : String
  uri : String
  parts : Parts

/-- The HTTP functions of the framework. -/
structure ClientExt (Parts Response : Type) where
  encodeRequest : Parts → List UInt8 → Except BevyError (List UInt8)
  parseResponse : List UInt8 → Except BevyError Response

def defaultPort (secure : Bool) : UInt16 := if secure then 443 else 80

def HTTPS_REFUSED : BevyError :=
  "https requires this firmware to be built with the `secure` feature"

/-- `esp_send` up to its call of the bridge. The body is what collecting it returns. -/
def clientJob {Parts Response : Type} (features : Features)
    (ext : ClientExt Parts Response) (request : Request Parts)
    (body : Except BevyError (List UInt8)) : Except BevyError ClientJob :=
  if request.secure && !features.secure then
    .error HTTPS_REFUSED
  else if request.authority.isEmpty then
    .error ("request URL has no host: " ++ request.uri)
  else
    let (host, port) := splitAuthority request.authority (defaultPort request.secure)
    body.bind fun body =>
      (ext.encodeRequest request.parts body).map fun bytes =>
        { host, port, secure := request.secure, bytes }

/-- What is in a job, and which requests get one. -/
theorem clientJob_eq_ok {Parts Response : Type} {features : Features}
    {ext : ClientExt Parts Response} {request : Request Parts}
    {body : Except BevyError (List UInt8)} {job : ClientJob}
    (made : clientJob features ext request body = .ok job) :
    job.secure = request.secure ∧ (request.secure = true → features.secure = true) ∧
      request.authority.isEmpty = false ∧
      (job.host, job.port) =
        splitAuthority request.authority (defaultPort request.secure) ∧
      ∃ whole, body = .ok whole ∧
        ext.encodeRequest request.parts whole = .ok job.bytes := by
  rw [clientJob] at made
  split at made
  case isTrue => cases made
  case isFalse allowed =>
    split at made
    case isTrue => cases made
    case isFalse present =>
      cases body with
      | error err => cases made
      | ok whole =>
          cases encoded : ext.encodeRequest request.parts whole with
          | error err =>
              simp only [Except.bind, encoded] at made
              cases made
          | ok bytes =>
              simp only [Except.bind, encoded] at made
              cases made
              refine ⟨rfl, fun secure => ?_, by simpa using present, rfl, whole, rfl, encoded⟩
              simpa [secure] using allowed

/-! ## Ports -/

/-- The text is this port in decimal, perhaps with leading zeros and a `+`. -/
def WritesPort (text : List Char) (port : UInt16) : Prop :=
  ∃ digits, (text = digits ∨ text = '+' :: digits) ∧ digits ≠ [] ∧
    (∀ digit ∈ digits, digit.isDigit = true) ∧ Nat.ofDigitChars 10 digits 0 = port.toNat

theorem parseU16_eq_some_iff {text : List Char} {port : UInt16} :
    parseU16 text = some port ↔ WritesPort text port := by
  rw [parseU16, Option.map_eq_some_iff]
  constructor
  · rintro ⟨number, read, rfl⟩
    rcases (parseUnsigned_eq_some_iff (by decide)).mp read with
      ⟨digits, shape, nonempty, allDigits, value, small⟩
    exact ⟨digits, shape, nonempty, allDigits, by
      rw [value, UInt16.toNat_ofNat_of_lt' small]⟩
  · rintro ⟨digits, shape, nonempty, allDigits, value⟩
    refine ⟨port.toNat, (parseUnsigned_eq_some_iff (by decide)).mpr
      ⟨digits, shape, nonempty, allDigits, value, port.toNat_lt⟩, UInt16.ofNat_toNat⟩

theorem writesPort_repr (port : UInt16) : WritesPort port.toNat.repr.toList port := by
  rw [Nat.toList_repr]
  exact ⟨_, .inl rfl, Nat.toDigits_ne_nil,
    fun _ member => Nat.isDigit_of_mem_toDigits (by decide) (by decide) member,
    Nat.ofDigitChars_ten_toDigits⟩

/-- A port has no colon in it. -/
theorem WritesPort.no_colon {text : List Char} {port : UInt16}
    (writes : WritesPort text port) : ':' ∉ text := by
  rcases writes with ⟨digits, shape, -, allDigits, -⟩
  have absent : ':' ∉ digits := fun member => by
    have isDigit := allDigits ':' member
    revert isDigit
    decide
  rcases shape with rfl | rfl
  · exact absent
  · simp [absent]

/-! ## Authorities -/

theorem splitAuthority_colon {host tail : String} (noColon : ':' ∉ tail.toList)
    (default : UInt16) :
    splitAuthority (host ++ ":" ++ tail) default =
      (host, (parseU16 tail.toList).getD default) := by
  have split : rsplitOnce ':' (host ++ ":" ++ tail).toList =
      some (host.toList, tail.toList) :=
    rsplitOnce_eq_some_iff.mpr ⟨by simp, noColon⟩
  simp only [splitAuthority, split, String.ofList_toList]

theorem splitAuthority_no_colon {authority : String} (noColon : ':' ∉ authority.toList)
    (default : UInt16) : splitAuthority authority default = (authority, default) := by
  rw [splitAuthority, rsplitOnce_eq_none_iff.mpr noColon]

theorem splitAuthority_port {host tail : String} {port : UInt16}
    (writes : WritesPort tail.toList port) (default : UInt16) :
    splitAuthority (host ++ ":" ++ tail) default = (host, port) := by
  rw [splitAuthority_colon writes.no_colon, parseU16_eq_some_iff.mpr writes,
    Option.getD_some]

/-- What an authority is split into: the last colon ends the host, and what is behind it
is the port, or else the default port is taken. -/
structure AuthoritySplit (authority : String) (default : UInt16) : Prop where
  plain : ':' ∉ authority.toList → splitAuthority authority default = (authority, default)
  port : ∀ host tail port, authority = host ++ ":" ++ tail → WritesPort tail.toList port →
    splitAuthority authority default = (host, port)
  noPort : ∀ host tail, authority = host ++ ":" ++ tail → ':' ∉ tail.toList →
    (∀ port, ¬WritesPort tail.toList port) →
    splitAuthority authority default = (host, default)
  roundTrip : ∀ host (port : UInt16), authority = host ++ ":" ++ port.toNat.repr →
    splitAuthority authority default = (host, port)

theorem authority_split (authority : String) (default : UInt16) :
    AuthoritySplit authority default := by
  constructor
  · exact fun noColon => splitAuthority_no_colon noColon default
  · rintro host tail port rfl writes
    exact splitAuthority_port writes default
  · rintro host tail rfl noColon noPort
    have unread : parseU16 tail.toList = none :=
      Option.eq_none_iff_forall_ne_some.mpr fun port read =>
        noPort port (parseU16_eq_some_iff.mp read)
    rw [splitAuthority_colon noColon, unread, Option.getD_none]
  · rintro host port rfl
    exact splitAuthority_port (writesPort_repr port) default

end BeetEsp.Net.HttpClient
