import Fcp.Parsing.BigEndian
import Fcp.Core.Identity

/-!
# Signed federation configuration

The bounded member set, its canonical transcript, and the wire decoder, which
works with computed offsets and direct slice indexing.
-/

namespace Fcp
namespace Core

open Rust
open Parsing

/-- Stable marker `FCFG` of a signed configuration. -/
def federationConfigMarker : List UInt8 := [70, 67, 70, 71]

/-- Current signed configuration format version. -/
def federationConfigVersion : UInt8 := 1

/-- Maximum members in one configuration snapshot. -/
def maxFederationMembers : Nat := 1024

/-- Width of a complete identity. -/
def identityWidth : Nat := 32 + mlDsa65PublicKeyBytes

/-- Width of one member record. -/
def memberWidth : Nat := 32 + identityWidth

/-- Width of everything before the member records. -/
def fixedHeaderBytes : Nat := 4 + 1 + 32 + identityWidth + 8 + 2

/-- Width of both signatures. -/
def signatureBytes : Nat := 64 + mlDsa65SignatureBytes

/-- Association between a CFR participant identity and an endpoint identity. -/
structure FederationMember where
  cfrIdentity : Vector UInt8 32
  endpoint : EndpointIdentity
  deriving DecidableEq

/-- Immutable federation policy snapshot. -/
structure FederationConfiguration where
  federation : FederationId
  authority : EndpointIdentity
  epoch : UInt64
  members : List FederationMember
  deriving DecidableEq

/-- Insert members one by one into the sets of known identities and endpoints,
stopping at the first one that is already known. -/
def insertMembers
    (identities : List (Vector UInt8 32))
    (endpoints : List EndpointIdentity) :
    List FederationMember → Except Error Unit
  | [] => .ok ()
  | member :: members => do
      rejectIf (member.cfrIdentity ∈ identities ∨ member.endpoint ∈ endpoints)
        .duplicateFederationMember
      insertMembers (member.cfrIdentity :: identities)
        (member.endpoint :: endpoints) members

/-- Write both verification keys of an identity behind the bytes so far. -/
def Configuration.writeIdentity
    (bytes : List UInt8)
    (identity : EndpointIdentity) : List UInt8 :=
  bytes ++ identity.classical.bytes.toList ++ identity.postQuantum.toList

namespace FederationConfiguration

/-- Check the member bound and the uniqueness of both member keys. -/
def validate (configuration : FederationConfiguration) : Except Error Unit := do
  rejectIf (configuration.members.length > maxFederationMembers)
    .tooManyFederationMembers
  insertMembers [] [] configuration.members

/-- Create a configuration after checking its member set. -/
def new
    (federation : FederationId)
    (authority : EndpointIdentity)
    (epoch : UInt64)
    (members : List FederationMember) :
    Except Error FederationConfiguration := do
  let configuration : FederationConfiguration :=
    { federation := federation
      authority := authority
      epoch := epoch
      members := members }
  configuration.validate
  return configuration

/-- The canonical transcript covered by both signatures. -/
def signedBytes (configuration : FederationConfiguration) :
    Except Error (List UInt8) := do
  configuration.validate
  rejectIf (¬configuration.members.length < 2 ^ 16)
    .tooManyFederationMembers
  let memberCount := configuration.members.length
  let bytes := federationConfigMarker
  let bytes := bytes ++ [federationConfigVersion]
  let bytes := bytes ++ configuration.federation.bytes.toList
  let bytes := Configuration.writeIdentity bytes configuration.authority
  let bytes := bytes ++ toBigEndian 8 configuration.epoch.toNat
  let bytes := bytes ++ toBigEndian 2 memberCount
  return configuration.members.foldl
    (fun bytes member =>
      Configuration.writeIdentity (bytes ++ member.cfrIdentity.toList)
        member.endpoint)
    bytes

end FederationConfiguration

/-- A configuration signed by its configured authority identity. -/
structure SignedFederationConfiguration where
  configuration : FederationConfiguration
  classicalSignature : Vector UInt8 64
  postQuantumSignature : Vector UInt8 mlDsa65SignatureBytes
  deriving DecidableEq

/-- Rename classical verification errors for configurations. -/
def mapConfigurationClassicalError : Error → Error
  | .badSenderKey => .badConfigurationAuthority
  | .badSignature => .badConfigurationSignature
  | other => other

/-- Rename post-quantum verification errors for configurations. -/
def mapConfigurationPqError : Error → Error
  | .badPostQuantumKey => .badConfigurationAuthority
  | .badPostQuantumSignature => .badConfigurationSignature
  | .badPostQuantumSignatureEncoding => .badConfigurationSignature
  | other => other

namespace Configuration

/-- Read an identity from exactly its own bytes. -/
def readIdentity (bytes : List UInt8) :
    Except (Fault Error) EndpointIdentity := do
  rejectIf (bytes.length ≠ identityWidth) (.error .truncated)
  let classical ← slice bytes 0 32
  let classical ← okOr (tryInto 32 classical) (.error .truncated)
  let postQuantum ← slice bytes 32 bytes.length
  let postQuantum ← okOr (tryInto mlDsa65PublicKeyBytes postQuantum)
    (.error .truncated)
  return ⟨⟨classical⟩, postQuantum⟩

/-- Read a member from exactly its own bytes. -/
def parseMember (bytes : List UInt8) :
    Except (Fault Error) FederationMember := do
  rejectIf (bytes.length ≠ memberWidth) (.error .truncated)
  let cfrIdentity ← slice bytes 0 32
  let cfrIdentity ← okOr (tryInto 32 cfrIdentity) (.error .truncated)
  let endpoint ← slice bytes 32 bytes.length
  let endpoint ← readIdentity endpoint
  return ⟨cfrIdentity, endpoint⟩

/-- The parsed header of a configuration wire and its member block. -/
structure ParsedConfiguration where
  federation : FederationId
  authority : EndpointIdentity
  epoch : UInt64
  memberBytes : List UInt8
  signatureOffset : Nat
  deriving DecidableEq

/-- Parse the header and locate the member block and the signatures. -/
def parseWire (wire : List UInt8) :
    Except (Fault Error) ParsedConfiguration := do
  rejectIf (wire.length < fixedHeaderBytes + signatureBytes)
    (.error .truncated)
  let marker ← slice wire 0 4
  rejectIf (marker ≠ federationConfigMarker) (.error .badConfigurationMarker)
  let version ← index wire 4
  rejectIf (version ≠ federationConfigVersion)
    (.error .unsupportedConfigurationVersion)
  let federation ← slice wire 5 37
  let federation ← okOr (tryInto 32 federation) (.error .truncated)
  let authority ← slice wire 37 (37 + identityWidth)
  let authority ← readIdentity authority
  let epochStart := 37 + identityWidth
  let epoch ← slice wire epochStart (epochStart + 8)
  let epoch ← okOr (tryInto 8 epoch) (.error .truncated)
  let countStart := epochStart + 8
  let count ← slice wire countStart (countStart + 2)
  let count ← okOr (tryInto 2 count) (.error .truncated)
  let count := ofBigEndian count.toList
  rejectIf (count > maxFederationMembers) (.error .tooManyFederationMembers)
  let memberBytesLen ← okOr (checkedMul count memberWidth)
    (.error .tooManyFederationMembers)
  let signatureOffset ← okOr (checkedAdd fixedHeaderBytes memberBytesLen)
    (.error .tooManyFederationMembers)
  let expected ← okOr (checkedAdd signatureOffset signatureBytes)
    (.error .tooManyFederationMembers)
  rejectIf (wire.length < expected) (.error .truncated)
  rejectIf (wire.length > expected) (.error .trailingBytes)
  let memberBytes ← slice wire fixedHeaderBytes signatureOffset
  return {
    federation := ⟨federation⟩
    authority := authority
    epoch := UInt64.ofNat (ofBigEndian epoch.toList)
    memberBytes := memberBytes
    signatureOffset := signatureOffset }

end Configuration

namespace SignedFederationConfiguration

open Fcp.Core.Configuration

/-- Sign a configuration with exactly its pinned authority identity. -/
def sign
    (configuration : FederationConfiguration)
    (signer : EndpointSigner) :
    Except Error SignedFederationConfiguration := do
  rejectIf (configuration.authority ≠ signer.endpoint)
    .wrongConfigurationAuthority
  let transcript ← configuration.signedBytes
  return {
    configuration := configuration
    classicalSignature := signer.signClassical transcript
    postQuantumSignature := signer.signPostQuantum transcript }

/-- Verify both snapshot signatures against the embedded authority. -/
def verify
    (primitives : Primitives)
    (signed : SignedFederationConfiguration) : Except Error Unit := do
  let transcript ← signed.configuration.signedBytes
  (signed.configuration.authority.verifyClassical primitives transcript
    signed.classicalSignature).mapError mapConfigurationClassicalError
  (signed.configuration.authority.verifyPostQuantum primitives transcript
    signed.postQuantumSignature).mapError mapConfigurationPqError

/-- Encode the canonical signed configuration. -/
def encode (signed : SignedFederationConfiguration) :
    Except Error (List UInt8) := do
  let transcript ← signed.configuration.signedBytes
  return transcript ++ signed.classicalSignature.toList ++
    signed.postQuantumSignature.toList

/-- Verify a bounded wire snapshot before building its member records. -/
def decodeVerified (primitives : Primitives) (wire : List UInt8) :
    Except (Fault Error) SignedFederationConfiguration := do
  let parsed ← parseWire wire
  let authority := parsed.authority
  let classicalSignature ←
    slice wire parsed.signatureOffset (parsed.signatureOffset + 64)
  let classicalSignature ← okOr (tryInto 64 classicalSignature)
    (.error .truncated)
  let postQuantumSignature ←
    slice wire (parsed.signatureOffset + 64) wire.length
  let postQuantumSignature ←
    okOr (tryInto mlDsa65SignatureBytes postQuantumSignature)
      (.error .truncated)
  let signed ← slice wire 0 parsed.signatureOffset
  orFault ((authority.verifyClassical primitives signed
    classicalSignature).mapError mapConfigurationClassicalError)
  let signed ← slice wire 0 parsed.signatureOffset
  orFault ((authority.verifyPostQuantum primitives signed
    postQuantumSignature).mapError mapConfigurationPqError)
  let members ← (chunksExact memberWidth parsed.memberBytes).mapM parseMember
  let configuration ← orFault (FederationConfiguration.new parsed.federation
    authority parsed.epoch members)
  return {
    configuration := configuration
    classicalSignature := classicalSignature
    postQuantumSignature := postQuantumSignature }

end SignedFederationConfiguration

end Core
end Fcp
