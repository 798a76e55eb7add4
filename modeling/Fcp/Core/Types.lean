import Mathlib.Data.List.Basic

/-!
# Stable identifiers, bounds and errors

Fixed-width identifiers of the connection-control core, the bounds on its
variable fields, and the errors its operations return.
-/

namespace Fcp
namespace Core

/-- Stable wire marker `FCP`. -/
def fcpWireMarker : List UInt8 := [70, 67, 80]

/-- Current wire version. -/
def fcpWireVersion : UInt8 := 1

/-- Maximum opaque offer or answer description length. -/
def maxDescriptionBytes : Nat := 96 * 1024

/-- Maximum opaque ICE-candidate length. -/
def maxCandidateBytes : Nat := 4 * 1024

/-- Maximum carried CFR control payload length. -/
def maxCfrControlBytes : Nat := 4 * 1024 * 1024

/-- Maximum complete envelope length. -/
def maxEnvelopeBytes : Nat := maxCfrControlBytes + 8 * 1024

/-- Maximum deduplicated accepted envelopes retained per connection attempt. -/
def maxSeenEnvelopes : Nat := 1024

/-- FIPS 204 ML-DSA-65 encoded public-key width. -/
def mlDsa65PublicKeyBytes : Nat := 1952

/-- FIPS 204 ML-DSA-65 encoded signature width. -/
def mlDsa65SignatureBytes : Nat := 3309

/-- A federation routing namespace. -/
structure FederationId where
  bytes : Vector UInt8 32
  deriving DecidableEq

/-- A fresh application-provided connection-attempt identifier. -/
structure AttemptId where
  bytes : Vector UInt8 16
  deriving DecidableEq

/-- An Ed25519 endpoint key. -/
structure EndpointKey where
  bytes : Vector UInt8 32
  deriving DecidableEq, Ord

/-- A digest binding an engine description and its DTLS fingerprint. -/
structure WebRtcBinding where
  bytes : Vector UInt8 32
  deriving DecidableEq

/-- An envelope id derived from the complete canonical signed bytes. -/
structure EnvelopeId where
  bytes : Vector UInt8 32
  deriving DecidableEq

/-- An application close code carried in a signed close envelope. -/
structure CloseCode where
  value : UInt16
  deriving DecidableEq

/-- Parse, validation and state-machine failures. -/
inductive Error
  | tooLarge
  | fieldTooLarge
  | truncated
  | trailingBytes
  | badMarker
  | unsupportedVersion
  | unknownKind
  | badSenderKey
  | badSignature
  | nonCanonical
  | wrongFederation
  | wrongAttempt
  | wrongSender
  | wrongRecipient
  | sameEndpoint
  | wrongLocalSigner
  | invalidState
  | glare
  | wrongCandidateParent
  | badConfigurationMarker
  | unsupportedConfigurationVersion
  | badConfigurationAuthority
  | wrongConfigurationAuthority
  | badConfigurationSignature
  | tooManyFederationMembers
  | duplicateFederationMember
  | badPostQuantumKey
  | badPostQuantumSignatureEncoding
  | badPostQuantumSignature
  deriving DecidableEq

end Core
end Fcp
