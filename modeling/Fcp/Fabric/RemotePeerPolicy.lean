import Fcp.Core.Identity
import Fcp.Fabric.Policy
import Fcp.Fabric.FederationDelivery

/-!
# Remote peer policy

Deliveries signed by a source authority and the locally approved policy that
admits them.
-/

namespace Fcp
namespace Fabric

open Rust
open Core (EndpointIdentity EndpointSigner)

/-- Maximum seconds between the clocks of two authorities. -/
def maxClockSkewSeconds : Int := 60

/-- A complete authority-signed federation delivery record. -/
structure SignedFederationDelivery where
  delivery : FederationDelivery
  authorityIdentity : EndpointIdentity
  classicalSignature : Vector UInt8 64
  postQuantumSignature : Vector UInt8 Core.mlDsa65SignatureBytes

namespace SignedFederationDelivery

/-- Sign one canonical delivery with a complete authority identity. -/
def sign (signer : EndpointSigner) (delivery : FederationDelivery) :
    Except FederationError SignedFederationDelivery := do
  let transcript ← delivery.transcript
  return {
    delivery := delivery
    authorityIdentity := signer.endpoint
    classicalSignature := signer.signClassical transcript
    postQuantumSignature := signer.signPostQuantum transcript }

/-- A digest of the exact canonical transcript. -/
def canonicalBodyDigest
    (sha256 : List UInt8 → Vector UInt8 32)
    (signed : SignedFederationDelivery) :
    Except FederationError (Vector UInt8 32) := do
  return sha256 (← signed.delivery.transcript)

/-- Verify both mandatory signatures against a pinned identity. -/
def verify
    (primitives : Core.Primitives)
    (signed : SignedFederationDelivery)
    (expected : EndpointIdentity) : Except FederationError Unit := do
  rejectIf (signed.authorityIdentity ≠ expected) .unexpectedAuthorityIdentity
  let transcript ← signed.delivery.transcript
  (expected.verifyClassical primitives transcript
    signed.classicalSignature).mapError .core
  (expected.verifyPostQuantum primitives transcript
    signed.postQuantumSignature).mapError .core

theorem verify_eq_ok_iff
    {primitives : Core.Primitives}
    {signed : SignedFederationDelivery}
    {expected : EndpointIdentity}
    {result : Unit} :
    signed.verify primitives expected = .ok result ↔
      signed.authorityIdentity = expected ∧
        ∃ transcript, signed.delivery.transcript = .ok transcript ∧
          expected.Authenticates primitives transcript
            signed.classicalSignature signed.postQuantumSignature := by
  simp only [verify, bind_eq_ok_iff, rejectIf_eq_ok_iff, Decidable.not_not,
    mapError_eq_ok_iff, EndpointIdentity.Authenticates]
  constructor
  · rintro ⟨_, same, transcript, made, _, classical, post_quantum⟩
    exact ⟨same, transcript, made, classical, post_quantum⟩
  · rintro ⟨same, transcript, made, classical, post_quantum⟩
    exact ⟨(), same, transcript, made, (), classical, post_quantum⟩

end SignedFederationDelivery

/-- Persisted local policy for admitting requests of one remote authority. -/
structure RemotePeerPolicy where
  localDomain : DomainName
  remoteDomain : DomainName
  trustState : FederationTrustState
  activeAuthorityIdentity : EndpointIdentity

namespace RemotePeerPolicy

/-- Check a signed delivery before its request identifier is recorded. -/
def admitSigned
    (primitives : Core.Primitives)
    (policy : RemotePeerPolicy)
    (now : OffsetDateTime)
    (signed : SignedFederationDelivery) : Except FederationError Unit := do
  rejectIf (policy.trustState.acceptsRequests = false) .peerNotActive
  rejectIf (signed.delivery.destinationDomain ≠ policy.localDomain)
    .wrongDestination
  rejectIf (signed.delivery.sourceDomain ≠ policy.remoteDomain) .wrongSource
  let nowSeconds := now.unixTimestamp
  let issuedSeconds := signed.delivery.issuedAt.unixTimestamp
  let expiresSeconds := signed.delivery.expiresAt.unixTimestamp
  rejectIf
    (issuedSeconds > nowSeconds + maxClockSkewSeconds ∨
      expiresSeconds < nowSeconds - maxClockSkewSeconds)
    .expiredOrNotYetValid
  signed.verify primitives policy.activeAuthorityIdentity

/-- Everything that an admitted delivery meets. -/
structure Admits
    (primitives : Core.Primitives)
    (policy : RemotePeerPolicy)
    (now : OffsetDateTime)
    (signed : SignedFederationDelivery) : Prop where
  active : policy.trustState = .active
  destination : signed.delivery.destinationDomain = policy.localDomain
  source : signed.delivery.sourceDomain = policy.remoteDomain
  issued : signed.delivery.issuedAt.unixTimestamp ≤
    now.unixTimestamp + maxClockSkewSeconds
  unexpired : now.unixTimestamp - maxClockSkewSeconds ≤
    signed.delivery.expiresAt.unixTimestamp
  identity : signed.authorityIdentity = policy.activeAuthorityIdentity
  authenticated : ∃ transcript, signed.delivery.transcript = .ok transcript ∧
    policy.activeAuthorityIdentity.Authenticates primitives transcript
      signed.classicalSignature signed.postQuantumSignature

theorem admit_eq_ok_iff
    {primitives : Core.Primitives}
    {policy : RemotePeerPolicy}
    {now : OffsetDateTime}
    {signed : SignedFederationDelivery}
    {result : Unit} :
    policy.admitSigned primitives now signed = .ok result ↔
      policy.Admits primitives now signed := by
  simp only [admitSigned, bind_eq_ok_iff, rejectIf_eq_ok_iff, Decidable.not_not,
    Bool.not_eq_false, FederationTrustState.acceptsRequests_eq_true_iff, not_or,
    Int.not_lt, SignedFederationDelivery.verify_eq_ok_iff]
  constructor
  · rintro ⟨_, active, _, destination, _, source, _, ⟨issued, unexpired⟩,
      identity, authenticated⟩
    exact ⟨active, destination, source, issued, unexpired, identity,
      authenticated⟩
  · rintro ⟨active, destination, source, issued, unexpired, identity,
      authenticated⟩
    exact ⟨(), active, (), destination, (), source, (), ⟨issued, unexpired⟩,
      identity, authenticated⟩

end RemotePeerPolicy

end Fabric
end Fcp
