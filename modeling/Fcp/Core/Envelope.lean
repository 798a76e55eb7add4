import Fcp.Parsing.Cursor
import Fcp.Parsing.BigEndian
import Fcp.Core.Identity

/-!
# Canonical envelopes and bounded wire parsing

Envelopes, their body kinds, the writer that produces the signed transcript,
and the two wire parsers: the owning parser that rebuilds an envelope and the
borrowed parser that only locates the transcript and its signatures.
-/

namespace Fcp
namespace Core

open Rust
open Parsing

/-! ## Kinds and bodies -/

/-- Envelope kinds. -/
inductive Kind
  | offer
  | answer
  | candidate
  | close
  | cfrControl
  deriving DecidableEq

namespace Kind

/-- The wire discriminant of a kind. -/
def toU8 : Kind → UInt8
  | .offer => 1
  | .answer => 2
  | .candidate => 3
  | .close => 4
  | .cfrControl => 5

/-- Read a kind from its wire discriminant. -/
def tryFrom (value : UInt8) : Except Error Kind :=
  if value = 1 then .ok .offer
  else if value = 2 then .ok .answer
  else if value = 3 then .ok .candidate
  else if value = 4 then .ok .close
  else if value = 5 then .ok .cfrControl
  else .error .unknownKind

end Kind

/-- Reject a variable field beyond its bound. -/
def validateLen (length maximum : Nat) : Except Error Unit :=
  rejectIf (length > maximum ∨ length > 2 ^ 32 - 1) .fieldTooLarge

/-- The kind-specific canonical body. -/
inductive Body
  | offer (binding : WebRtcBinding) (description : List UInt8)
  | answer
      (offerId : EnvelopeId)
      (binding : WebRtcBinding)
      (description : List UInt8)
  | candidate
      (parentId : EnvelopeId)
      (sequence : UInt32)
      (candidate : List UInt8)
  | close (reason : CloseCode)
  | cfrControl (payload : List UInt8)
  deriving DecidableEq

namespace Body

/-- The kind carried by a body. -/
def kind : Body → Kind
  | .offer _ _ => .offer
  | .answer _ _ _ => .answer
  | .candidate _ _ _ => .candidate
  | .close _ => .close
  | .cfrControl _ => .cfrControl

/-- Check the variable field of a body against its kind-specific bound. -/
def validate : Body → Except Error Unit
  | .offer _ description => validateLen description.length maxDescriptionBytes
  | .answer _ _ description => validateLen description.length maxDescriptionBytes
  | .candidate _ _ fragment => validateLen fragment.length maxCandidateBytes
  | .close _ => .ok ()
  | .cfrControl payload => validateLen payload.length maxCfrControlBytes

end Body

/-- A verified or to-be-signed envelope. -/
structure Envelope where
  federation : FederationId
  attempt : AttemptId
  sender : EndpointIdentity
  recipient : EndpointIdentity
  body : Body
  classicalSignature : Vector UInt8 64
  postQuantumSignature : Vector UInt8 mlDsa65SignatureBytes
  deriving DecidableEq

/-! ## Writer -/

/-- A writer appends to the bytes produced so far. -/
abbrev Writer (α : Type) : Type :=
  StateT (List UInt8) (Except Error) α

namespace Writer

def fixed (value : List UInt8) : Writer Unit :=
  modify (· ++ value)

def u8 (value : UInt8) : Writer Unit :=
  modify (· ++ [value])

def u16 (value : UInt16) : Writer Unit :=
  fixed (toBigEndian 2 value.toNat)

def u32 (value : UInt32) : Writer Unit :=
  fixed (toBigEndian 4 value.toNat)

/-- Write a length prefix and the field behind it. -/
def bytes (value : List UInt8) : Writer Unit := do
  validateLen value.length maxCfrControlBytes
  rejectIf (¬value.length < 2 ^ 32) Error.fieldTooLarge
  u32 (UInt32.ofNat value.length)
  fixed value

/-- The bytes produced by a writer that starts empty. -/
def finish (writer : Writer Unit) : Except Error (List UInt8) :=
  (writer.run []).map Prod.snd

end Writer

/-- Write both verification keys of an identity. -/
def writeIdentity (identity : EndpointIdentity) : Writer Unit := do
  Writer.fixed identity.classical.bytes.toList
  Writer.fixed identity.postQuantum.toList

namespace Envelope

/-- The kind carried by an envelope. -/
def kind (envelope : Envelope) : Kind :=
  envelope.body.kind

/-- Write the kind-specific fields of a body. -/
def writeBody : Body → Writer Unit
  | .offer binding description => do
      Writer.fixed binding.bytes.toList
      Writer.bytes description
  | .answer offerId binding description => do
      Writer.fixed offerId.bytes.toList
      Writer.fixed binding.bytes.toList
      Writer.bytes description
  | .candidate parentId sequence candidate => do
      Writer.fixed parentId.bytes.toList
      Writer.u32 sequence
      Writer.bytes candidate
  | .close reason => Writer.u16 reason.value
  | .cfrControl payload => Writer.bytes payload

/-- The canonical transcript covered by both signatures. -/
def signedBytes (envelope : Envelope) : Except Error (List UInt8) := do
  envelope.body.validate
  Writer.finish do
    Writer.fixed fcpWireMarker
    Writer.u8 fcpWireVersion
    Writer.u8 envelope.kind.toU8
    Writer.fixed envelope.federation.bytes.toList
    Writer.fixed envelope.attempt.bytes.toList
    writeIdentity envelope.sender
    writeIdentity envelope.recipient
    writeBody envelope.body

/-- The full canonical signed wire encoding. -/
def encode (envelope : Envelope) : Except Error (List UInt8) := do
  let transcript ← envelope.signedBytes
  let bytes := transcript ++ envelope.classicalSignature.toList ++
    envelope.postQuantumSignature.toList
  rejectIf (bytes.length > maxEnvelopeBytes) .tooLarge
  return bytes

/-- The stable envelope id. -/
def id (primitives : Primitives) (envelope : Envelope) :
    Except Error EnvelopeId := do
  let bytes ← envelope.encode
  return ⟨primitives.blake3 bytes⟩

/-- Create and sign a canonical envelope with both required algorithms. -/
def sign
    (signer : EndpointSigner)
    (federation : FederationId)
    (attempt : AttemptId)
    (recipient : EndpointIdentity)
    (body : Body) : Except Error Envelope := do
  body.validate
  let envelope : Envelope :=
    { federation := federation
      attempt := attempt
      sender := signer.endpoint
      recipient := recipient
      body := body
      classicalSignature := Vector.replicate 64 0
      postQuantumSignature := Vector.replicate mlDsa65SignatureBytes 0 }
  let transcript ← envelope.signedBytes
  return { envelope with
    classicalSignature := signer.signClassical transcript
    postQuantumSignature := signer.signPostQuantum transcript }

/-- Verify both mandatory signatures under the embedded sender identity. -/
def verify (primitives : Primitives) (envelope : Envelope) :
    Except Error Unit := do
  let transcript ← envelope.signedBytes
  envelope.sender.verifyClassical primitives transcript
    envelope.classicalSignature
  envelope.sender.verifyPostQuantum primitives transcript
    envelope.postQuantumSignature

end Envelope

/-! ## Reader -/

/-- The wire being parsed and the position inside it. -/
abbrev Reader : Type := Cursor UInt8

/-- A parsing step of a reader. -/
abbrev ReaderM (α : Type) : Type := Parser UInt8 Error α

namespace Reader

/-- Read a fixed-width array. -/
def fixed (width : Nat) : ReaderM (Vector UInt8 width) := fun reader => do
  let stop ← okOr (checkedAdd reader.offset width) .truncated
  let (bytes, reader) ← okOr (reader.readTo? stop) .truncated
  let array ← okOr (tryInto width bytes) .truncated
  return (array, reader)

def u8 : ReaderM UInt8 := do
  let array ← fixed 1
  return array[0]

def u16 : ReaderM UInt16 := do
  let array ← fixed 2
  return UInt16.ofNat (ofBigEndian array.toList)

def u32 : ReaderM UInt32 := do
  let array ← fixed 4
  return UInt32.ofNat (ofBigEndian array.toList)

/-- Read a length-prefixed field without copying it. -/
def bytesRef (maximum : Nat) : ReaderM (List UInt8) := do
  let length ← u32
  validateLen length.toNat maximum
  fun reader => do
    let stop ← okOr (checkedAdd reader.offset length.toNat) .truncated
    okOr (reader.readTo? stop) .truncated

/-- Read a length-prefixed field into an owned vector. -/
def bytes (maximum : Nat) : ReaderM (List UInt8) :=
  bytesRef maximum

/-- Require that the whole wire has been read. -/
def finish (reader : Reader) : Except Error Unit :=
  rejectIf (reader.offset ≠ reader.wire.length) .trailingBytes

end Reader

/-- Read both verification keys of an identity. -/
def readIdentity : ReaderM EndpointIdentity := do
  let classical ← Reader.fixed 32
  let postQuantum ← Reader.fixed mlDsa65PublicKeyBytes
  return ⟨⟨classical⟩, postQuantum⟩

/-- Read marker, version and kind. -/
def readKind : ReaderM Kind := do
  let marker ← Reader.fixed 3
  rejectIf (marker.toList ≠ fcpWireMarker) Error.badMarker
  let version ← Reader.u8
  rejectIf (version ≠ fcpWireVersion) Error.unsupportedVersion
  let kind ← Reader.u8
  Kind.tryFrom kind

namespace Envelope

/-- Read the body of a given kind. -/
def readBody : Kind → ReaderM Body
  | .offer => do
      let binding ← Reader.fixed 32
      let description ← Reader.bytes maxDescriptionBytes
      return .offer ⟨binding⟩ description
  | .answer => do
      let offerId ← Reader.fixed 32
      let binding ← Reader.fixed 32
      let description ← Reader.bytes maxDescriptionBytes
      return .answer ⟨offerId⟩ ⟨binding⟩ description
  | .candidate => do
      let parentId ← Reader.fixed 32
      let sequence ← Reader.u32
      let candidate ← Reader.bytes maxCandidateBytes
      return .candidate ⟨parentId⟩ sequence candidate
  | .close => do
      let reason ← Reader.u16
      return .close ⟨reason⟩
  | .cfrControl => do
      let payload ← Reader.bytes maxCfrControlBytes
      return .cfrControl payload

/-- Read every field of an envelope, up to the end-of-wire check. -/
def readFields : ReaderM Envelope := do
  let kind ← readKind
  let federation ← Reader.fixed 32
  let attempt ← Reader.fixed 16
  let sender ← readIdentity
  let recipient ← readIdentity
  let body ← readBody kind
  body.validate
  let classicalSignature ← Reader.fixed 64
  let postQuantumSignature ← Reader.fixed mlDsa65SignatureBytes
  return {
    federation := ⟨federation⟩
    attempt := ⟨attempt⟩
    sender := sender
    recipient := recipient
    body := body
    classicalSignature := classicalSignature
    postQuantumSignature := postQuantumSignature }

/-- Parse one complete canonical envelope without trusting its sender. -/
def decode (wire : List UInt8) : Except Error Envelope := do
  rejectIf (wire.length > maxEnvelopeBytes) .tooLarge
  let (result, reader) ← readFields.run (Cursor.start wire)
  Reader.finish reader
  let canonical ← result.encode
  rejectIf (canonical ≠ wire) .nonCanonical
  return result

/-- Skip over the body of a given kind. -/
def skipBody : Kind → ReaderM Unit
  | .offer => do
      let _binding ← Reader.fixed 32
      let _description ← Reader.bytesRef maxDescriptionBytes
      return ()
  | .answer => do
      let _offer ← Reader.fixed 32
      let _binding ← Reader.fixed 32
      let _description ← Reader.bytesRef maxDescriptionBytes
      return ()
  | .candidate => do
      let _parent ← Reader.fixed 32
      let _sequence ← Reader.u32
      let _candidate ← Reader.bytesRef maxCandidateBytes
      return ()
  | .close => do
      let _reason ← Reader.u16
      return ()
  | .cfrControl => do
      let _payload ← Reader.bytesRef maxCfrControlBytes
      return ()

/-- Skip over the signed part of a wire and return its sender. -/
def skipSigned : ReaderM EndpointIdentity := do
  let kind ← readKind
  let _federation ← Reader.fixed 32
  let _attempt ← Reader.fixed 16
  let sender ← readIdentity
  let _recipient ← readIdentity
  skipBody kind
  return sender

/-- Read both signatures behind the signed part. -/
def readSignatures :
    ReaderM (Vector UInt8 64 × Vector UInt8 mlDsa65SignatureBytes) := do
  let classicalSignature ← Reader.fixed 64
  let postQuantumSignature ← Reader.fixed mlDsa65SignatureBytes
  return (classicalSignature, postQuantumSignature)

/-- Verify both signatures over the signed slice of a wire. -/
def verifyWire (primitives : Primitives) (wire : List UInt8) :
    Except Error Unit := do
  rejectIf (wire.length > maxEnvelopeBytes) .tooLarge
  let (sender, reader) ← skipSigned.run (Cursor.start wire)
  let signedEnd := reader.offset
  let ((classicalSignature, postQuantumSignature), reader) ←
    readSignatures.run reader
  Reader.finish reader
  sender.verifyClassical primitives (wire.take signedEnd) classicalSignature
  sender.verifyPostQuantum primitives (wire.take signedEnd)
    postQuantumSignature

/-- Parse and verify one canonical envelope before returning it. -/
def decodeVerified (primitives : Primitives) (wire : List UInt8) :
    Except Error Envelope := do
  verifyWire primitives wire
  decode wire

end Envelope

end Core
end Fcp
