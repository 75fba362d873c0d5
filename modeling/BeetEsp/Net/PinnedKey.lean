import BeetEsp.Foundation.Occurrence
import BeetEsp.Net.TlsClient

/-! # The pinned key and its certificates

The build script embeds the public key of the dev certificate, which it finds by a scan
that must have exactly one hit. The device finds the key of a peer by the first hit of
the same scan. Certificates that carry the same key may differ in all bytes around it.
-/

namespace BeetEsp.Net

open Foundation

namespace TlsClient

/-! ## The build script -/

/-- Where the marker starts in a certificate. -/
def markerHits (der : List UInt8) : List Nat :=
  ((windows MARKER.length der).zipIdx.filter fun (window, _) => window == MARKER).map
    fun (_, index) => index

/-- The key that `embed_dev_cert` writes out for the firmware. It panics unless the scan
has exactly one hit, and where the certificate ends inside the key. -/
def embedDevCert (der : List UInt8) : Option (List UInt8) :=
  match markerHits der with
  | [hit] => slice? der (hit + 3) (hit + 3 + 65)
  | _ => none

theorem MARKER_ne_nil : MARKER ≠ [] := by decide

theorem MARKER_borderless : Borderless MARKER := by decide

theorem mem_markerHits {der : List UInt8} {index : Nat} :
    index ∈ markerHits der ↔ OccursAt MARKER der index := by
  rw [markerHits, ← mem_zipIdx_windows MARKER_ne_nil]
  simp

/-- The embedded key is 65 bytes that start with the last byte of the marker. -/
theorem embedDevCert_shape {der pin : List UInt8} (embedded : embedDevCert der = some pin) :
    ∃ coordinates, pin = 0x04 :: coordinates ∧ coordinates.length = 64 := by
  rw [embedDevCert] at embedded
  split at embedded
  case h_1 hit only =>
    have marked : OccursAt MARKER der hit :=
      mem_markerHits.mp (only ▸ List.mem_singleton_self hit)
    rcases marked with ⟨after, whole⟩
    rcases slice?_eq_some_iff.mp embedded with ⟨-, inside, segment⟩
    have key : der.drop (hit + 3) = 0x04 :: after := by
      rw [← List.drop_drop, ← whole]
      rfl
    rw [List.extract_eq_take_drop, Nat.add_sub_cancel_left, key] at segment
    refine ⟨after.take 64, segment.symm, ?_⟩
    have length := congrArg List.length key
    rw [List.length_drop, List.length_cons] at length
    rw [List.length_take]
    omega
  case h_2 => cases embedded

/-! ## The device -/

theorem pinnedPoint_eq_some {der point : List UInt8} (length : point.length = 65) :
    pinnedPoint der = some point ↔
      ∃ index, FirstAt MARKER der index ∧ OccursAt point der (index + 3) := by
  have nonempty : point ≠ [] := by
    rintro rfl
    cases length
  rw [pinnedPoint, Option.bind_eq_some_iff]
  simp only [findIdx?_windows_eq_some MARKER_ne_nil, OccursAt.iff_slice nonempty, length]

/-- A certificate with this key, its bit string between any other bytes. -/
def reissue (pre pin rest : List UInt8) : List UInt8 :=
  pre ++ [0x03, 0x42, 0x00] ++ pin ++ rest

/-- The first marker in front of the key, if there is one, is followed by the key as
well. -/
def FirstMarkerHasKey (pre pin rest : List UInt8) : Prop :=
  ∀ index, FirstAt MARKER pre index → OccursAt pin (reissue pre pin rest) (index + 3)

section

variable {pin pre rest coordinates : List UInt8}

theorem reissue_cons (shape : pin = 0x04 :: coordinates) :
    reissue pre pin rest = pre ++ (MARKER ++ (coordinates ++ rest)) := by
  rw [reissue, shape]
  simp [MARKER]

/-- The key itself stands where the certificate carries it. -/
theorem occursAt_reissue : OccursAt pin (reissue pre pin rest) (pre.length + 3) := by
  have front : (pre ++ [0x03, 0x42, 0x00]).length = pre.length + 3 := by
    rw [List.length_append]
    rfl
  rw [reissue, List.append_assoc _ pin, ← front]
  exact OccursAt.at_length

/-- The device finds the key unless the marker stands before it with another key. -/
theorem pinnedPoint_reissue_iff (shape : pin = 0x04 :: coordinates)
    (length : coordinates.length = 64) :
    pinnedPoint (reissue pre pin rest) = some pin ↔ FirstMarkerHasKey pre pin rest := by
  have size : pin.length = 65 := by rw [shape, List.length_cons, length]
  have first_iff : ∀ index, FirstAt MARKER (reissue pre pin rest) index ↔
      FirstAt MARKER pre index ∨
        (∀ earlier, ¬OccursAt MARKER pre earlier) ∧ index = pre.length := by
    intro index
    rw [reissue_cons shape, firstAt_before MARKER_borderless MARKER_ne_nil]
  rw [pinnedPoint_eq_some size]
  constructor
  · rintro ⟨index, first, key⟩ other inFront
    have same := first.unique ((first_iff other).mpr (.inl inFront))
    exact same ▸ key
  · intro hasKey
    by_cases marked : ∃ earlier, OccursAt MARKER pre earlier
    · rcases marked with ⟨_, occurs⟩
      rcases occurs.exists_first with ⟨index, first⟩
      exact ⟨index, (first_iff index).mpr (.inl first), hasKey index first⟩
    · have absent : ∀ earlier, ¬OccursAt MARKER pre earlier := not_exists.mp marked
      exact ⟨pre.length, (first_iff _).mpr (.inr ⟨absent, rfl⟩), occursAt_reissue⟩

end

/-- The verifier accepts a leaf exactly for the pinned point. -/
theorem PinnedVerifier.verifyCertificate_x509 {Sha256 : Type}
    (verifier : PinnedVerifier Sha256) (transcript : Sha256) (pin leaf : List UInt8)
    (chain : List CertificateEntryRef) :
    (verifier.verifyCertificate pin transcript ⟨.x509 leaf :: chain⟩).1 = .ok () ↔
      pinnedPoint leaf = some pin := by
  rw [verifyCertificate_eq]
  change (if pinnedPoint leaf = some pin then _ else _ : _ × _).1 = _ ↔ _
  split
  case isTrue found => simp [found]
  case isFalse other => simp [other]

/-- The device accepts a certificate with the embedded key unless the marker stands before
the key and another key, or none, follows it. -/
theorem reissue_accepted_iff {buildDer pin : List UInt8}
    (embedded : embedDevCert buildDer = some pin) (pre rest : List UInt8)
    {Sha256 : Type} (verifier : PinnedVerifier Sha256) (transcript : Sha256)
    (chain : List CertificateEntryRef) :
    (pinnedPoint (reissue pre pin rest) = some pin ∧
        (verifier.verifyCertificate pin transcript
          ⟨.x509 (reissue pre pin rest) :: chain⟩).1 = .ok ()) ↔
      FirstMarkerHasKey pre pin rest := by
  rcases embedDevCert_shape embedded with ⟨coordinates, shape, length⟩
  rw [verifier.verifyCertificate_x509, and_self, pinnedPoint_reissue_iff shape length]

/-- Other bytes before and behind the key of the certificate of the build. -/
theorem reissue_accepted_other :
    embedDevCert (reissue [0x02, 0x01, 0x05] (0x04 :: List.replicate 64 0xAA) [0x30]) =
        some (0x04 :: List.replicate 64 0xAA) ∧
      pinnedPoint (reissue [0x02, 0x01, 0x06, 0x03, 0x42] (0x04 :: List.replicate 64 0xAA)
        [0x31, 0x17]) = some (0x04 :: List.replicate 64 0xAA) ∧
      ((PinnedVerifier.mk none).verifyCertificate (0x04 :: List.replicate 64 0xAA) ()
        ⟨[.x509 (reissue [0x02, 0x01, 0x06, 0x03, 0x42] (0x04 :: List.replicate 64 0xAA)
          [0x31, 0x17])]⟩).1 = .ok () := by
  have embedded : embedDevCert (reissue [0x02, 0x01, 0x05] (0x04 :: List.replicate 64 0xAA)
      [0x30]) = some (0x04 :: List.replicate 64 0xAA) := by
    decide +kernel
  have unmarked : FirstMarkerHasKey [0x02, 0x01, 0x06, 0x03, 0x42]
      (0x04 :: List.replicate 64 0xAA) [0x31, 0x17] := by
    intro index first
    have none : ∀ earlier < 2, ¬OccursAt MARKER [0x02, 0x01, 0x06, 0x03, 0x42] earlier := by
      decide
    have inside : index + 4 ≤ 5 := first.occurs.inside MARKER_ne_nil
    exact absurd first.occurs (none index (by omega))
  exact ⟨embedded, (reissue_accepted_iff embedded [0x02, 0x01, 0x06, 0x03, 0x42] [0x31, 0x17]
    (.mk none) () []).mpr unmarked⟩

/-- A re-issue whose serial number is the four bytes of the marker: the build script
embeds the key of the first certificate, and the device refuses the second. -/
theorem reissue_refused_for_serial_number :
    embedDevCert (reissue [0x02, 0x01, 0x05] (0x04 :: List.replicate 64 0xAA) [0x30]) =
        some (0x04 :: List.replicate 64 0xAA) ∧
      pinnedPoint (reissue [0x02, 0x04, 0x03, 0x42, 0x00, 0x04]
        (0x04 :: List.replicate 64 0xAA) [0x30]) ≠ some (0x04 :: List.replicate 64 0xAA) := by
  decide +kernel

end TlsClient

end BeetEsp.Net
