import Fcp.Rust.Fallible
import Fcp.Core.Types

/-!
# Endpoint identities and dual-signature authentication

The signature algorithms and the BLAKE3 digest are supplied from outside the
repository, so they appear here as the fields of one record.  The core only
maps their outcomes to errors.
-/

namespace Fcp
namespace Core

open Rust

/-- External cryptographic operations used by the core. -/
structure Primitives where
  /-- `VerifyingKey::from_bytes` accepts these Ed25519 key bytes. -/
  classicalKeyParses : Vector UInt8 32 → Bool
  /-- `VerifyingKey::verify_strict` accepts a signature over a message. -/
  verifyStrict : Vector UInt8 32 → List UInt8 → Vector UInt8 64 → Bool
  /-- `EncodedVerifyingKey::try_from` accepts these ML-DSA-65 key bytes. -/
  postQuantumKeyParses : Vector UInt8 mlDsa65PublicKeyBytes → Bool
  /-- `Signature::try_from` accepts these ML-DSA-65 signature bytes. -/
  postQuantumSignatureParses : Vector UInt8 mlDsa65SignatureBytes → Bool
  /-- `Verifier::verify` accepts an ML-DSA-65 signature over a message. -/
  verifyMlDsa :
    Vector UInt8 mlDsa65PublicKeyBytes → List UInt8 →
      Vector UInt8 mlDsa65SignatureBytes → Bool
  /-- The BLAKE3 digest of a byte string. -/
  blake3 : List UInt8 → Vector UInt8 32

/-- The atomic binding of the classical and post-quantum verification keys. -/
structure EndpointIdentity where
  classical : EndpointKey
  postQuantum : Vector UInt8 mlDsa65PublicKeyBytes
  deriving DecidableEq, Ord

/-! ## The order of identities -/

theorem EndpointKey.compare_eq :
    (compare : EndpointKey → EndpointKey → Ordering) =
      compareOn EndpointKey.bytes := by
  funext left right
  exact Ordering.then_eq

instance : Std.TransOrd EndpointKey := by
  have lifted : Std.TransCmp (compareOn EndpointKey.bytes) := inferInstance
  rw [← EndpointKey.compare_eq] at lifted
  exact lifted

instance : Std.LawfulEqOrd EndpointKey where
  eq_of_compare := by
    intro left right equal
    rw [EndpointKey.compare_eq] at equal
    cases left
    cases right
    exact congrArg EndpointKey.mk (Std.LawfulEqOrd.eq_of_compare equal)

/-- Identities are ordered by their classical key, then by the other one. -/
theorem EndpointIdentity.compare_eq :
    (compare : EndpointIdentity → EndpointIdentity → Ordering) =
      compareLex (compareOn EndpointIdentity.classical)
        (compareOn EndpointIdentity.postQuantum) := by
  funext left right
  exact congrArg (Ordering.then _) Ordering.then_eq

instance : Std.TransOrd EndpointIdentity := by
  have lifted : Std.TransCmp (compareLex (compareOn EndpointIdentity.classical)
      (compareOn EndpointIdentity.postQuantum)) := inferInstance
  rw [← EndpointIdentity.compare_eq] at lifted
  exact lifted

instance : Std.LawfulEqOrd EndpointIdentity where
  eq_of_compare := by
    intro left right equal
    rw [EndpointIdentity.compare_eq, compareLex, Ordering.then_eq_eq] at equal
    cases left
    cases right
    rw [EndpointIdentity.mk.injEq]
    exact ⟨Std.LawfulEqOrd.eq_of_compare equal.1,
      Std.LawfulEqOrd.eq_of_compare equal.2⟩

/-! ## Authentication -/

/-- The spelling of an identity. -/
def identityBytes (identity : EndpointIdentity) : List UInt8 :=
  identity.classical.bytes.toList ++ identity.postQuantum.toList

@[simp] theorem length_identityBytes (identity : EndpointIdentity) :
    (identityBytes identity).length = 32 + mlDsa65PublicKeyBytes := by
  simp [identityBytes]

/-- An endpoint capable of producing both mandatory signatures. -/
structure EndpointSigner where
  /-- The complete identity used to address and authenticate envelopes. -/
  endpoint : EndpointIdentity
  /-- The Ed25519 signature over a transcript. -/
  signClassical : List UInt8 → Vector UInt8 64
  /-- The ML-DSA-65 signature over a transcript. -/
  signPostQuantum : List UInt8 → Vector UInt8 mlDsa65SignatureBytes

namespace EndpointIdentity

/-- Verify the mandatory Ed25519 signature over a message. -/
def verifyClassical
    (primitives : Primitives)
    (identity : EndpointIdentity)
    (message : List UInt8)
    (signature : Vector UInt8 64) : Except Error Unit := do
  rejectIf (primitives.classicalKeyParses identity.classical.bytes = false)
    .badSenderKey
  rejectIf
    (primitives.verifyStrict identity.classical.bytes message signature = false)
    .badSignature

/-- Verify the mandatory ML-DSA-65 signature over a message. -/
def verifyPostQuantum
    (primitives : Primitives)
    (identity : EndpointIdentity)
    (message : List UInt8)
    (signature : Vector UInt8 mlDsa65SignatureBytes) : Except Error Unit := do
  rejectIf (primitives.postQuantumKeyParses identity.postQuantum = false)
    .badPostQuantumKey
  rejectIf (primitives.postQuantumSignatureParses signature = false)
    .badPostQuantumSignatureEncoding
  rejectIf
    (primitives.verifyMlDsa identity.postQuantum message signature = false)
    .badPostQuantumSignature

/-- Both mandatory signatures over a message are accepted under an identity. -/
def Authenticates
    (primitives : Primitives)
    (identity : EndpointIdentity)
    (message : List UInt8)
    (classicalSignature : Vector UInt8 64)
    (postQuantumSignature : Vector UInt8 mlDsa65SignatureBytes) : Prop :=
  identity.verifyClassical primitives message classicalSignature = .ok () ∧
    identity.verifyPostQuantum primitives message postQuantumSignature = .ok ()

end EndpointIdentity

/-- Signatures made by a signer are accepted under the identity it reports. -/
def EndpointSigner.Honest
    (primitives : Primitives)
    (signer : EndpointSigner) : Prop :=
  ∀ message, signer.endpoint.Authenticates primitives message
    (signer.signClassical message) (signer.signPostQuantum message)

/-! ## Sample values -/

/-- Primitives that accept every key and signature and tell byte strings apart
by their length. -/
def Primitives.sample : Primitives where
  classicalKeyParses _ := true
  verifyStrict _ _ _ := true
  postQuantumKeyParses _ := true
  postQuantumSignatureParses _ := true
  verifyMlDsa _ _ _ := true
  blake3 bytes := Vector.replicate 32 (UInt8.ofNat bytes.length)

/-- An identity whose keys repeat one byte. -/
def EndpointIdentity.sample (byte : UInt8) : EndpointIdentity where
  classical := ⟨Vector.replicate 32 byte⟩
  postQuantum := Vector.replicate mlDsa65PublicKeyBytes byte

/-- A signer of a sample identity. -/
def EndpointSigner.sample (byte : UInt8) : EndpointSigner where
  endpoint := .sample byte
  signClassical _ := Vector.replicate 64 byte
  signPostQuantum _ := Vector.replicate mlDsa65SignatureBytes byte

theorem EndpointIdentity.sample_ne
    {left right : UInt8}
    (different : left ≠ right) :
    EndpointIdentity.sample left ≠ .sample right := by
  intro equal
  have bytes_eq : Vector.replicate 32 left = Vector.replicate 32 right :=
    congrArg (fun identity => identity.classical.bytes) equal
  have first_eq := congrArg (fun bytes : Vector UInt8 32 => bytes[0]) bytes_eq
  simp only [Vector.getElem_replicate] at first_eq
  exact different first_eq

theorem EndpointSigner.sample_honest (byte : UInt8) :
    (EndpointSigner.sample byte).Honest .sample :=
  fun _ => ⟨rfl, rfl⟩

end Core
end Fcp
