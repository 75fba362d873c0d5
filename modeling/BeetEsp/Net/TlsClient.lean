import BeetEsp.Foundation.ByteBuffer
import BeetEsp.Foundation.Tokens
import Mathlib.Data.List.Forall2

/-! # The pinned TLS verifier

The TLS session calls the verifier with what the peer sends: a certificate message with
the transcript up to it, and a `CertificateVerify` with a signature. An accepted
certificate leaves its transcript behind for the next signature. The calls may come in
any order, any number of times.
-/

namespace BeetEsp.Net

open Foundation

namespace TlsClient

inductive CertificateEntryRef
  | x509 (der : List UInt8)
  | rawPublicKey (key : List UInt8)

structure CertificateRef where
  entries : List CertificateEntryRef

inductive SignatureScheme
  | ecdsaSecp256r1Sha256
  /-- Any other scheme, by its number on the wire. -/
  | other (number : UInt16)
  deriving DecidableEq

structure CertificateVerifyRef where
  signatureScheme : SignatureScheme
  signature : List UInt8

/-- The errors the verifier returns. -/
inductive TlsError
  | invalidCertificate
  | invalidSignatureScheme
  | decodeError
  | invalidSignature
  deriving DecidableEq

/-- What the verifier uses of the hash and the signature crate. -/
structure Crypto (Sha256 VerifyingKey Signature : Type) where
  finalize : Sha256 → List UInt8
  fromSec1Bytes : List UInt8 → Option VerifyingKey
  fromDer : List UInt8 → Option Signature
  verify : VerifyingKey → List UInt8 → Signature → Bool

structure PinnedVerifier (Sha256 : Type) where
  transcript : Option Sha256

/-- `PinnedVerifier::default` -/
def PinnedVerifier.default : PinnedVerifier Sha256 where
  transcript := none

/-- `BIT STRING`, its length, no unused bits, and the first byte of the point. -/
def MARKER : List UInt8 := [0x03, 0x42, 0x00, 0x04]

/-- The uncompressed P-256 point in a certificate, without its parse. -/
def pinnedPoint (der : List UInt8) : Option (List UInt8) :=
  ((windows MARKER.length der).findIdx? (· == MARKER)).bind fun index =>
    slice? der (index + 3) (index + 3 + 65)

/-- `"TLS 1.3, server CertificateVerify"` -/
def CONTEXT : List UInt8 :=
  [0x54, 0x4c, 0x53, 0x20, 0x31, 0x2e, 0x33, 0x2c, 0x20, 0x73, 0x65, 0x72, 0x76, 0x65,
    0x72, 0x20, 0x43, 0x65, 0x72, 0x74, 0x69, 0x66, 0x69, 0x63, 0x61, 0x74, 0x65, 0x56,
    0x65, 0x72, 0x69, 0x66, 0x79]

section

variable {Sha256 VerifyingKey Signature : Type}
  (crypto : Crypto Sha256 VerifyingKey Signature) (PINNED_CERT_PUBKEY : List UInt8)

def PinnedVerifier.verifyCertificate (verifier : PinnedVerifier Sha256)
    (transcript : Sha256) (cert : CertificateRef) :
    Except TlsError Unit × PinnedVerifier Sha256 :=
  match cert.entries.head? with
  | some (.x509 leaf) =>
      if pinnedPoint leaf ≠ some PINNED_CERT_PUBKEY then
        (.error .invalidCertificate, verifier)
      else (.ok (), { transcript := some transcript })
  | _ => (.error .invalidCertificate, verifier)

/-- The check of a signature, once the transcript is taken. -/
def checkSignature (transcript : Sha256) (verify : CertificateVerifyRef) :
    Except TlsError Unit :=
  if verify.signatureScheme ≠ .ecdsaSecp256r1Sha256 then .error .invalidSignatureScheme
  else
    let message :=
      List.replicate 64 0x20 ++ (CONTEXT ++ [0x00]) ++ crypto.finalize transcript
    match crypto.fromSec1Bytes PINNED_CERT_PUBKEY with
    | none => .error .decodeError
    | some key =>
        match crypto.fromDer verify.signature with
        | none => .error .invalidSignature
        | some signature =>
            if crypto.verify key message signature then .ok () else .error .invalidSignature

def PinnedVerifier.verifySignature (verifier : PinnedVerifier Sha256)
    (verify : CertificateVerifyRef) : Except TlsError Unit × PinnedVerifier Sha256 :=
  match verifier.transcript with
  | none => (.error .invalidCertificate, verifier)
  | some transcript =>
      (checkSignature crypto PINNED_CERT_PUBKEY transcript verify, { transcript := none })

inductive Call (Sha256 : Type)
  | setHostnameVerification (hostname : String)
  | verifyCertificate (transcript : Sha256) (cert : CertificateRef)
  | verifySignature (verify : CertificateVerifyRef)

/-- A call that has returned. -/
inductive Event (Sha256 : Type)
  | hostname (hostname : String) (result : Except TlsError Unit)
  | certificate (transcript : Sha256) (cert : CertificateRef) (result : Except TlsError Unit)
  | signature (verify : CertificateVerifyRef) (result : Except TlsError Unit)

def Event.result : Event Sha256 → Except TlsError Unit
  | hostname _ result => result
  | certificate _ _ result => result
  | signature _ result => result

def PinnedVerifier.step (verifier : PinnedVerifier Sha256) :
    Call Sha256 → PinnedVerifier Sha256 × Event Sha256
  | .setHostnameVerification hostname => (verifier, .hostname hostname (.ok ()))
  | .verifyCertificate transcript cert =>
      let (result, next) := verifier.verifyCertificate PINNED_CERT_PUBKEY transcript cert
      (next, .certificate transcript cert result)
  | .verifySignature verify =>
      let (result, next) := verifier.verifySignature crypto PINNED_CERT_PUBKEY verify
      (next, .signature verify result)

def pinnedVerifier : Machine (PinnedVerifier Sha256) (Call Sha256) (Event Sha256) where
  initial := .default
  step := fun verifier call =>
    let (next, event) := verifier.step crypto PINNED_CERT_PUBKEY call
    some (next, [event])

theorem pinnedVerifier_step (verifier : PinnedVerifier Sha256) (call : Call Sha256) :
    (pinnedVerifier crypto PINNED_CERT_PUBKEY).step verifier call =
      some ((verifier.step crypto PINNED_CERT_PUBKEY call).1,
        [(verifier.step crypto PINNED_CERT_PUBKEY call).2]) := rfl

end

/-! ## Certificates -/

/-- Where a point is found, it is one of a P-256 key: 65 bytes that follow the head of
their bit string. -/
theorem pinnedPoint_within {der point : List UInt8} (found : pinnedPoint der = some point) :
    [0x03, 0x42, 0x00] ++ point <:+: der ∧ point.length = 65 := by
  rcases Option.bind_eq_some_iff.mp found with ⟨index, marked, sliced⟩
  rcases slice?_eq_some_iff.mp sliced with ⟨ordered, inside, rfl⟩
  have marker : der.extract index (index + 4) = MARKER := extract_of_findIdx?_windows marked
  have head : der.extract index (index + 3) = [0x03, 0x42, 0x00] := by
    have cut := congrArg (List.take 3) marker
    simpa [List.take_take, MARKER] using cut
  constructor
  · rw [← head, extract_append_extract der (by omega) ordered]
    exact extract_within der _ _
  · simp only [List.extract_eq_take_drop, List.length_take, List.length_drop]
    omega

/-- What the verifier looks at in a certificate message: the point in its leaf. -/
def CertificateRef.scannedPoint (cert : CertificateRef) : Option (List UInt8) :=
  match cert.entries.head? with
  | some (.x509 leaf) => pinnedPoint leaf
  | _ => none

/-- The leaf is an X.509 entry with this point as the public key. -/
def CertificateRef.Carries (cert : CertificateRef) (point : List UInt8) : Prop :=
  ∃ leaf rest, cert.entries = .x509 leaf :: rest ∧ [0x03, 0x42, 0x00] ++ point <:+: leaf

theorem carries_of_scannedPoint {cert : CertificateRef} {point : List UInt8}
    (scanned : cert.scannedPoint = some point) : cert.Carries point := by
  rw [CertificateRef.scannedPoint] at scanned
  split at scanned
  case h_1 leaf first =>
    rcases List.head?_eq_some_iff.mp first with ⟨rest, entries⟩
    exact ⟨leaf, rest, entries, (pinnedPoint_within scanned).1⟩
  case h_2 => cases scanned

section

variable {Sha256 VerifyingKey Signature : Type}
  (crypto : Crypto Sha256 VerifyingKey Signature) (PINNED_CERT_PUBKEY : List UInt8)

theorem PinnedVerifier.verifyCertificate_eq (verifier : PinnedVerifier Sha256)
    (transcript : Sha256) (cert : CertificateRef) :
    verifier.verifyCertificate PINNED_CERT_PUBKEY transcript cert =
      if cert.scannedPoint = some PINNED_CERT_PUBKEY then
        (.ok (), { transcript := some transcript })
      else (.error .invalidCertificate, verifier) := by
  rw [verifyCertificate, CertificateRef.scannedPoint]
  split
  case h_1 => rw [ite_not]
  case h_2 => rw [if_neg (by simp)]

/-! ## Signatures -/

/-- The content a server signs: 64 spaces, the context string, a NUL and the hash of the
transcript. -/
def signedContent (hash : List UInt8) : List UInt8 :=
  List.replicate 64 0x20 ++ CONTEXT ++ 0x00 :: hash

/-- The signature is one of the pinned key, of the pinned kind, over a transcript. -/
structure Genuine (transcript : Sha256) (verify : CertificateVerifyRef) : Prop where
  scheme : verify.signatureScheme = .ecdsaSecp256r1Sha256
  verifies : ∃ key signature, crypto.fromSec1Bytes PINNED_CERT_PUBKEY = some key ∧
    crypto.fromDer verify.signature = some signature ∧
    crypto.verify key (signedContent (crypto.finalize transcript)) signature = true

theorem checkSignature_eq_ok {transcript : Sha256} {verify : CertificateVerifyRef} :
    checkSignature crypto PINNED_CERT_PUBKEY transcript verify = .ok () ↔
      Genuine crypto PINNED_CERT_PUBKEY transcript verify := by
  have content (hash : List UInt8) :
      List.replicate 64 0x20 ++ (CONTEXT ++ [0x00]) ++ hash = signedContent hash := by
    simp [signedContent]
  constructor
  · intro accepted
    simp only [checkSignature, content] at accepted
    split at accepted
    case isTrue => cases accepted
    case isFalse scheme =>
      split at accepted
      case h_1 => cases accepted
      case h_2 key decoded =>
        split at accepted
        case h_1 => cases accepted
        case h_2 signature parsed =>
          split at accepted
          case isTrue valid =>
            exact ⟨Decidable.not_not.mp scheme, key, signature, decoded, parsed, valid⟩
          case isFalse => cases accepted
  · intro genuine
    rcases genuine with ⟨scheme, key, signature, decoded, parsed, valid⟩
    rw [checkSignature, if_neg (Decidable.not_not.mpr scheme), decoded, parsed]
    simp only [content]
    rw [if_pos valid]

/-- A signature is accepted over a transcript that is held, which is then gone. -/
theorem PinnedVerifier.verifySignature_eq_ok {verifier next : PinnedVerifier Sha256}
    {verify : CertificateVerifyRef}
    (accepted : verifier.verifySignature crypto PINNED_CERT_PUBKEY verify = (.ok (), next)) :
    ∃ transcript, verifier.transcript = some transcript ∧
      Genuine crypto PINNED_CERT_PUBKEY transcript verify := by
  rw [verifySignature] at accepted
  split at accepted
  case h_1 => cases accepted
  case h_2 transcript held =>
    simp only [Prod.mk.injEq] at accepted
    exact ⟨transcript, held, (checkSignature_eq_ok crypto _).mp accepted.1⟩

theorem PinnedVerifier.verifySignature_transcript (verifier : PinnedVerifier Sha256)
    (verify : CertificateVerifyRef) :
    (verifier.verifySignature crypto PINNED_CERT_PUBKEY verify).2.transcript = none := by
  rw [verifySignature]
  split
  case h_1 empty => exact empty
  case h_2 => rfl

/-! ## Transcripts as tokens -/

/-- The transcript of an accepted certificate with the pinned key. -/
def Event.Issues (event : Event Sha256) (transcript : Sha256) : Prop :=
  ∃ cert, event = .certificate transcript cert (.ok ()) ∧ cert.Carries PINNED_CERT_PUBKEY

/-- Accepting a certificate replaces the transcript, and any signature takes it. -/
def Event.Marked : Event Sha256 → Prop
  | certificate _ _ (.ok ()) => True
  | signature _ _ => True
  | _ => False

theorem pinnedVerifier_tokens {verifier next : PinnedVerifier Sha256}
    {call : Call Sha256} {events : List (Event Sha256)}
    (stepped : (pinnedVerifier crypto PINNED_CERT_PUBKEY).step verifier call =
      some (next, events)) :
    (next.transcript = verifier.transcript ∧ ∀ event ∈ events, ¬event.Marked) ∨
      next.transcript = none ∨
      ∃ event token, events = [event] ∧ event.Issues PINNED_CERT_PUBKEY token ∧
        next.transcript = some token := by
  cases call with
  | setHostnameVerification hostname =>
      cases stepped
      exact .inl ⟨rfl, by simp [Event.Marked]⟩
  | verifyCertificate transcript cert =>
      simp only [pinnedVerifier, PinnedVerifier.step,
        PinnedVerifier.verifyCertificate_eq] at stepped
      split at stepped
      case isTrue pinned =>
        cases stepped
        exact .inr (.inr ⟨_, transcript, rfl, ⟨cert, rfl, carries_of_scannedPoint pinned⟩, rfl⟩)
      case isFalse =>
        cases stepped
        exact .inl ⟨rfl, by simp [Event.Marked]⟩
  | verifySignature verify =>
      cases stepped
      exact .inr (.inl (verifier.verifySignature_transcript crypto _ verify))

/-- The signature accepted at one position rests on the certificate accepted at another,
with nothing accepted and no signature in between. -/
structure RestsOn (history : List (Event Sha256)) (signature certificate : Nat) :
    Prop where
  accepted : ∃ verify, history[signature]? = some (.signature verify (.ok ()))
  recorded : ∃ transcript cert,
    history[certificate]? = some (.certificate transcript cert (.ok ()))
  last : LastBefore Event.Marked history certificate signature

theorem RestsOn.injective {history : List (Event Sha256)} {certificate first second : Nat}
    (one : RestsOn history first certificate) (other : RestsOn history second certificate) :
    first = second := by
  rcases one.accepted with ⟨verify, atFirst⟩
  rcases other.accepted with ⟨verify', atSecond⟩
  exact one.last.injective other.last atFirst trivial atSecond trivial

/-- A call makes one event, and one that accepts a signature takes a transcript for which
it is genuine. -/
theorem step_accepted {verifier next : PinnedVerifier Sha256} {call : Call Sha256}
    {front back : List (Event Sha256)} {verify : CertificateVerifyRef}
    (stepped : (pinnedVerifier crypto PINNED_CERT_PUBKEY).step verifier call =
      some (next, front ++ .signature verify (.ok ()) :: back)) :
    front = [] ∧ ∃ transcript, verifier.transcript = some transcript ∧
      Genuine crypto PINNED_CERT_PUBKEY transcript verify := by
  simp only [pinnedVerifier, Option.some.injEq, Prod.mk.injEq] at stepped
  have single := stepped.2
  rw [eq_comm, List.append_eq_singleton_iff] at single
  rcases single with ⟨rfl, only⟩ | ⟨-, none⟩
  case inr => cases none
  case inl =>
    refine ⟨rfl, ?_⟩
    cases call with
    | setHostnameVerification hostname => cases only
    | verifyCertificate transcript cert => cases only
    | verifySignature other =>
        simp only [PinnedVerifier.step, List.cons.injEq, Event.signature.injEq] at only
        rcases only with ⟨⟨rfl, accepted⟩, -⟩
        exact PinnedVerifier.verifySignature_eq_ok crypto _ (Prod.ext accepted.symm rfl)

/-- An accepted signature is genuine for the transcript of the certificate it rests
on. -/
theorem accepted_restsOn {verifier : PinnedVerifier Sha256} {history : List (Event Sha256)}
    (reached : (pinnedVerifier crypto PINNED_CERT_PUBKEY).Reached verifier history)
    {signature : Nat} {verify : CertificateVerifyRef}
    (accepted : history[signature]? = some (.signature verify (.ok ()))) :
    ∃ certificate transcript cert, RestsOn history signature certificate ∧
      history[certificate]? = some (.certificate transcript cert (.ok ())) ∧
      cert.Carries PINNED_CERT_PUBKEY ∧
      Genuine crypto PINNED_CERT_PUBKEY transcript verify := by
  have split := split_of_getElem? accepted
  rcases reached.emitted split with
    ⟨source, prior, call, next, front, back, before, stepped, prefixed⟩
  rcases step_accepted crypto _ stepped with ⟨rfl, transcript, held, genuine⟩
  rcases held_issued PinnedVerifier.transcript rfl
    (pinnedVerifier_tokens crypto PINNED_CERT_PUBKEY) before held with
    ⟨earlier, event, between, rfl, ⟨cert, rfl, carries⟩, clear⟩
  rw [List.append_nil] at prefixed
  have position : signature = earlier.length + 1 + between.length := by
    have inside := (List.getElem?_eq_some_iff.mp accepted).1
    have lengths := congrArg List.length prefixed
    rw [List.length_take, Nat.min_eq_left (Nat.le_of_lt inside)] at lengths
    rw [lengths, List.length_append, List.length_cons]
    omega
  rw [prefixed] at split
  have recorded : history[earlier.length]? =
      some (.certificate transcript cert (.ok ())) := by
    rw [split]
    simp
  have marks : Event.Marked (.certificate transcript cert (.ok ())) := trivial
  have last : LastBefore Event.Marked history earlier.length signature := by
    rw [position]
    exact lastBefore_of_split marks clear split
  exact ⟨earlier.length, transcript, cert,
    ⟨⟨verify, accepted⟩, ⟨transcript, cert, recorded⟩, last⟩, recorded, carries, genuine⟩

/-! ## Two sessions -/

/-- Calls that differ only in the hostname, or in certificates that both have the pinned
point as their scanned one, or neither. -/
inductive Alike : Call Sha256 → Call Sha256 → Prop
  | hostname (left right : String) :
      Alike (.setHostnameVerification left) (.setHostnameVerification right)
  | certificate (transcript : Sha256) {left right : CertificateRef}
      (same : left.scannedPoint = some PINNED_CERT_PUBKEY ↔
        right.scannedPoint = some PINNED_CERT_PUBKEY) :
      Alike (.verifyCertificate transcript left) (.verifyCertificate transcript right)
  | signature (verify : CertificateVerifyRef) :
      Alike (.verifySignature verify) (.verifySignature verify)

/-- Alike calls have the same verdict and leave the verifier in the same state. -/
theorem PinnedVerifier.step_alike (verifier : PinnedVerifier Sha256)
    {left right : Call Sha256} (alike : Alike PINNED_CERT_PUBKEY left right) :
    (verifier.step crypto PINNED_CERT_PUBKEY left).1 =
        (verifier.step crypto PINNED_CERT_PUBKEY right).1 ∧
      (verifier.step crypto PINNED_CERT_PUBKEY left).2.result =
        (verifier.step crypto PINNED_CERT_PUBKEY right).2.result := by
  cases alike with
  | hostname left right => exact ⟨rfl, rfl⟩
  | certificate transcript same =>
      rw [step, step, verifyCertificate_eq, verifyCertificate_eq]
      constructor <;> simp only [same, Event.result]
  | signature verify => exact ⟨rfl, rfl⟩

/-- Each call returns. -/
theorem runFrom_alike {left right : List (Call Sha256)}
    (alike : List.Forall₂ (Alike PINNED_CERT_PUBKEY) left right)
    (verifier : PinnedVerifier Sha256) :
    ∃ final history history',
      (pinnedVerifier crypto PINNED_CERT_PUBKEY).runFrom verifier left =
        some (final, history) ∧
      (pinnedVerifier crypto PINNED_CERT_PUBKEY).runFrom verifier right =
        some (final, history') ∧
      history'.map Event.result = history.map Event.result := by
  induction alike generalizing verifier with
  | nil => exact ⟨verifier, [], [], rfl, rfl, rfl⟩
  | @cons left right lefts rights alike _ induction =>
      rcases verifier.step_alike crypto _ alike with ⟨states, results⟩
      rcases induction (verifier.step crypto PINNED_CERT_PUBKEY left).1 with
        ⟨final, history, history', ranLeft, ranRight, same⟩
      rw [states] at ranRight
      refine ⟨final, _, _,
        Machine.runFrom_cons_of_step (pinnedVerifier_step crypto _ verifier left) ranLeft,
        Machine.runFrom_cons_of_step (pinnedVerifier_step crypto _ verifier right) ranRight,
        ?_⟩
      rw [List.map_append, List.map_append, same, List.map_singleton, List.map_singleton,
        results]

/-- Over any sequence of calls to a fresh verifier: each accepted signature rests on a
certificate of its own, accepted before it and the last one to be, which carries the
pinned point; it is a signature of the pinned key and of no other kind, over the
transcript of that certificate. And of the certificates, the verdicts depend on nothing
but whether the scanned point is the pinned one. -/
theorem verdicts_are_pinned (calls : List (Call Sha256)) :
    ∃ verifier history,
      (pinnedVerifier crypto PINNED_CERT_PUBKEY).run calls = some (verifier, history) ∧
      (∀ signature verify, history[signature]? = some (.signature verify (.ok ())) →
        ∃ certificate transcript cert, RestsOn history signature certificate ∧
          history[certificate]? = some (.certificate transcript cert (.ok ())) ∧
          cert.Carries PINNED_CERT_PUBKEY ∧
          Genuine crypto PINNED_CERT_PUBKEY transcript verify) ∧
      (∀ certificate first second, RestsOn history first certificate →
        RestsOn history second certificate → first = second) ∧
      ∀ calls', List.Forall₂ (Alike PINNED_CERT_PUBKEY) calls calls' →
        ∃ verifier' history',
          (pinnedVerifier crypto PINNED_CERT_PUBKEY).run calls' =
            some (verifier', history') ∧
          history'.map Event.result = history.map Event.result := by
  have itself : List.Forall₂ (Alike PINNED_CERT_PUBKEY) calls calls := by
    refine List.forall₂_same.mpr ?_
    intro call _
    cases call with
    | setHostnameVerification hostname => exact .hostname hostname hostname
    | verifyCertificate transcript cert => exact .certificate transcript Iff.rfl
    | verifySignature verify => exact .signature verify
  rcases runFrom_alike crypto _ itself .default with ⟨verifier, history, -, ran, -, -⟩
  refine ⟨verifier, history, ran, ?_, ?_, ?_⟩
  · exact fun _ _ accepted => accepted_restsOn crypto _ ⟨calls, ran⟩ accepted
  · exact fun _ _ _ one other => one.injective other
  · intro calls' alike
    rcases runFrom_alike crypto _ alike .default with
      ⟨final, itself, other, ran', ranOther, same⟩
    cases Option.some.inj (ran.symm.trans ran')
    exact ⟨verifier, other, ranOther, same⟩

end

/-- A signature that is accepted is refused the second time. -/
example :
    let crypto : Crypto (List UInt8) (List UInt8) (List UInt8) :=
      ⟨id, some, some, fun key message signature => signature == key ++ message⟩
    let pin := 0x04 :: List.replicate 64 0x01
    let leaf := [0x30, 0x59, 0x03, 0x42, 0x00] ++ pin ++ [0x30]
    let verify : CertificateVerifyRef :=
      ⟨.ecdsaSecp256r1Sha256, pin ++ signedContent [0xAA]⟩
    ((pinnedVerifier crypto pin).run [.verifyCertificate [0xAA] ⟨[.x509 leaf]⟩,
        .verifySignature verify, .verifySignature verify]).map
      (fun ran => ran.2.map Event.result) =
    some [.ok (), .ok (), .error .invalidCertificate] := by
  decide +kernel

end TlsClient

end BeetEsp.Net
